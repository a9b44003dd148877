import EventHeader.Proofs.EnumLabels
import EventHeader.Proofs.ParallelRuns
import EventHeader.Proofs.RewordedOptions

/- Lax generations of schemas whose options are worded differently, side by side. Options
   share a label in the one schema just where they share it in the other
   (`Node.Reworded.declaration`), so the two stop over the same enum or do not stop. What
   they register differs in the texts that the cases of enums stand for, and a lax registry
   takes it in either way: it may report an overwritten declaration in the one run and not
   in the other, but its names are the same (`parallel_register`). So the classes of the
   components are the same but for these texts (`parallel_generate`).

   A strict registry compares whole declarations, texts included, and may refuse the one
   and take the other; of strict generations none of this holds. -/
namespace EventHeader
open Payload

/-! ## Declarations -/

/-- Errors of one kind, over the same place. -/
inductive GenerationError.SameKind : GenerationError → GenerationError → Prop
  | invalidType (kind : Json) : SameKind (.invalidType kind) (.invalidType kind)
  | nameCollision (name : String) : SameKind (.nameCollision name) (.nameCollision name)
  | caseCollision (enum label : String) (options options' : List String) :
      SameKind (.caseCollision enum label options) (.caseCollision enum label options')

/-- Declarations that are the same, or enums of one name whose cases have the same labels and
stand for related options. -/
inductive Declaration.Reworded (C : String → String → String → Prop) :
    Declaration → Declaration → Prop
  | struct (name : String) (fields : List Declaration.Field) :
      Reworded C (.struct name fields) (.struct name fields)
  | enum {path options options' : List String} (labels : SameLabels options options')
      (related : List.Forall₂ (C (Identifier.ofPath path)) options options') :
      Reworded C (.enum (Identifier.ofPath path) (enumCases options))
        (.enum (Identifier.ofPath path) (enumCases options'))

section
variable {C : String → String → String → Prop}

theorem labels_eq_of_sameLabels {options options' : List String} (h : SameLabels options options') :
    labels options = labels options' := by
  induction h with
  | nil => rfl
  | cons first _ ih => exact congrArg₂ List.cons first ih

/-- Whether options share a label, and which, depends on the labels alone. -/
theorem Payload.Node.Reworded.declaration {n n' : Node} (h : n.Reworded C n') :
    Action.Alike GenerationError.SameKind (Declaration.Reworded C) n.declaration n'.declaration := by
  cases h with
  | object below =>
    simp only [Node.declaration, fieldsAt_reworded below]
    exact .ok (.struct _ _)
  | @stringEnum path options options' same related =>
    have hrepeated : (repeatedCase? (enumCases options)).map Declaration.Case.label =
        (repeatedCase? (enumCases options')).map Declaration.Case.label := by
      rw [label_repeatedCase?, label_repeatedCase?, labels_eq_of_sameLabels same]
    simp only [Node.declaration]
    cases hc : repeatedCase? (enumCases options) <;>
      cases hc' : repeatedCase? (enumCases options') <;> rw [hc, hc'] at hrepeated
    · exact .ok (.enum same related)
    · cases hrepeated
    · cases hrepeated
    · simp only [Option.some.inj hrepeated]
      exact .error (.caseCollision _ _ _ _)
  | foreign path kind => exact .error (.invalidType kind)

theorem Declaration.Reworded.name {d d' : Declaration} (h : d.Reworded C d') : d.name = d'.name := by
  cases h <;> rfl

/-! ## Lax registries -/

/-- Two lax registries that hold the same names with reworded declarations. -/
structure Registry.Reworded (C : String → String → String → Prop) (r r' : Registry) : Prop where
  lax : r.strict = false
  lax' : r'.strict = false
  declarations : List.Forall₂ (Declaration.Reworded C) r.declarations r'.declarations

theorem reworded_placed {d d' : Declaration} (hd : d.Reworded C d') {ds ds' : List Declaration}
    (h : List.Forall₂ (Declaration.Reworded C) ds ds') :
    List.Forall₂ (Declaration.Reworded C) (Registry.placed d ds) (Registry.placed d' ds') := by
  induction h with
  | nil => exact .cons hd .nil
  | cons first rest ih =>
    simp only [Registry.placed, ← hd.name, ← first.name]
    split
    · exact .cons hd rest
    · exact .cons first ih

theorem run_register_lax {r : Registry} (h : r.strict = false) (d : Declaration) :
    ((Registry.register d).run r).result = .ok () ∧
      ((Registry.register d).run r).state = r.place d := by
  cases hc : r.clashes d with
  | false =>
    rw [Registry.run_register_unopposed hc]
    exact ⟨rfl, rfl⟩
  | true =>
    rw [Registry.run_register_overwriting hc h]
    exact ⟨rfl, rfl⟩

theorem parallel_register {d d' : Declaration} (hd : d.Reworded C d') :
    Action.Parallel (Registry.Reworded C) GenerationError.SameKind Eq (Registry.register d)
      (Registry.register d') := by
  intro r r' h
  obtain ⟨hresult, hstate⟩ := run_register_lax h.lax d
  obtain ⟨hresult', hstate'⟩ := run_register_lax h.lax' d'
  rw [hresult, hstate, hresult', hstate']
  exact ⟨.ok rfl, h.lax, h.lax', reworded_placed hd h.declarations⟩

theorem parallel_settle (component : String) {n n' : Node} (h : n.Reworded C n') :
    Action.Parallel (Registry.Reworded C) GenerationError.SameKind Eq (n.settle component)
      (n'.settle component) := by
  have hdeclaration := h.declaration
  generalize hd : n.declaration = x, hd' : n'.declaration = x' at hdeclaration
  cases hdeclaration with
  | ok hreworded =>
    rw [Node.settle_of_ok component hd, Node.settle_of_ok component hd']
    exact parallel_register hreworded
  | error hkind =>
    obtain ⟨report, hs⟩ := Node.settle_of_error component hd
    obtain ⟨report', hs'⟩ := Node.settle_of_error component hd'
    rw [hs, hs']
    exact (Action.Parallel.write' _ _ _ _ _ _).bind' fun _ _ _ => .fail' hkind

theorem parallel_settleAll (component : String) {ns ns' : List Node}
    (h : List.Forall₂ (Node.Reworded C) ns ns') :
    Action.Parallel (Registry.Reworded C) GenerationError.SameKind Eq (settleAll component ns)
      (settleAll component ns') := by
  induction h with
  | nil => exact .pure' rfl
  | cons first _ ih => exact (parallel_settle component first).bind' fun _ _ _ => ih

/-! ## Components -/

/-- Classes that are the same but for the options that the cases of their enums stand for. -/
structure EmitterClass.Reworded (C : String → String → String → Prop) (c c' : EmitterClass) :
    Prop where
  component : c.component = c'.component
  methods : c.methods = c'.methods
  declarations : List.Forall₂ (Declaration.Reworded C) c.declarations c'.declarations

variable {σ τ : Type} {R : σ → τ → Prop}

theorem parallel_payloadDeclarations (component : String) {c c' : Component} (h : c.Alike C c') :
    Action.Parallel (Registry.Reworded C) GenerationError.SameKind
      (List.Forall₂ (Declaration.Reworded C)) (EmitterClass.payloadDeclarations component c.events)
      (EmitterClass.payloadDeclarations component c'.events) := by
  unfold EmitterClass.payloadDeclarations
  rw [registerPayloads_eq, registerPayloads_eq]
  refine (parallel_settleAll component h.nodes).bind' fun _ _ _ => ?_
  intro r r' hr
  exact ⟨.ok hr.declarations, hr⟩

theorem parallel_ofComponent (component : String) {c c' : Component} (h : c.Alike C c') :
    Action.Parallel R GenerationError.SameKind (EmitterClass.Reworded C)
      (EmitterClass.ofComponent component c false) (EmitterClass.ofComponent component c' false) := by
  unfold EmitterClass.ofComponent
  refine ((parallel_payloadDeclarations component h).onOwnState' ⟨rfl, rfl, .nil⟩).bind' ?_
  intro ds ds' hds
  exact (Action.Parallel.write' _ _ _ _ _ _).bind' fun _ _ _ => .pure' ⟨rfl, h.methods, hds⟩

theorem parallel_classesOf {components components' : Entries Component}
    (h : Entries.Related (Component.Alike C) components components') :
    Action.Parallel R GenerationError.SameKind
      (fun found found' => List.Forall₂ (EmitterClass.Reworded C) found.1 found'.1 ∧
        found.2 = found'.2)
      (Header.classesOf false components) (Header.classesOf false components') := by
  induction h with
  | nil => exact .pure' ⟨.nil, rfl⟩
  | @cons entry entry' rest rest' first _ ih =>
    obtain ⟨name, c⟩ := entry
    obtain ⟨name', c'⟩ := entry'
    obtain ⟨rfl, hc⟩ : name = name' ∧ c.Alike C c' := first
    have hincludes : Action.Alike GenerationError.SameKind Eq (Include.ofEvents c.events)
        (Include.ofEvents c'.events) := by
      rw [← hc.includes]
      cases Include.ofEvents c.events with
      | ok directives => exact .ok rfl
      | error e => exact .error (by cases e <;> constructor)
    unfold Header.classesOf
    -- Step by step as in the definition: the directives, this class, and the rest.
    refine (Action.Parallel.ofExcept' hincludes).bind' fun here _ hhere => ?_
    refine (parallel_ofComponent name hc).bind' fun cls cls' hcls => ?_
    refine ih.bind' fun found found' hfound => .pure' ⟨.cons hcls hfound.1, ?_⟩
    exact congrArg₂ Include.union hhere hfound.2

/-! ## Schemas -/

section
variable {V : Component → Component → Prop}

theorem Entries.Related.put {es fs : Entries Component} (h : Entries.Related V es fs) (key : String)
    {c c' : Component} (hc : V c c') :
    Entries.Related V (Keyed.put es key c) (Keyed.put fs key c') := by
  induction h with
  | nil => exact .cons ⟨rfl, hc⟩ .nil
  | @cons e f _ _ first rest ih =>
    simp only [Keyed.put, ← first.1]
    split
    · exact .cons ⟨rfl, hc⟩ rest
    · exact .cons ⟨rfl, first.2⟩ ih

theorem Entries.Related.merge {es fs es' fs' : Entries Component} (h : Entries.Related V es fs)
    (h' : Entries.Related V es' fs') : Entries.Related V (es.merge es') (fs.merge fs') := by
  induction h' generalizing es fs with
  | nil => exact h
  | @cons e f _ _ first _ ih =>
    obtain ⟨hkey, hvalue⟩ := first
    simp only [Keyed.merge, List.foldl_cons]
    rw [← hkey]
    exact ih (h.put e.1 hvalue)

theorem parallel_mergeComponents {modules modules' : Entries Module}
    (h : Entries.Related (Module.Related V) modules modules') {found found' : Entries Component}
    (hfound : Entries.Related V found found') :
    Action.Parallel R GenerationError.SameKind (Entries.Related V)
      (mergeComponents found modules) (mergeComponents found' modules') := by
  induction h generalizing found found' with
  | nil => exact .pure' hfound
  | @cons m m' _ _ first _ ih =>
    obtain ⟨-, hm⟩ := first
    have hcomponents := hm.components
    have hsort : m.2.isComponent = m'.2.isComponent := by rw [Module.isComponent, hm.type]; rfl
    unfold mergeComponents
    rw [hsort]
    split
    · generalize m.2.components = components, m'.2.components = components' at hcomponents ⊢
      cases hcomponents with
      | none => exact (Action.Parallel.write' _ _ _ _ _ _).bind' fun _ _ _ => ih hfound
      | some below => exact ih (hfound.merge below)
    · exact ih hfound

/-- Lax generations of reworded schemas fail alike or give the text of reworded classes. -/
theorem parallel_generate (o : GenerationOptions) (lax : o.strict = false) {s s' : Schema}
    (h : s.Reworded s') :
    Action.Parallel R GenerationError.SameKind
      (fun files files' => ∃ classes classes' includes,
        List.Forall₂ (EmitterClass.Reworded (Corresponding s s')) classes classes' ∧
        files = [(Header.fileName, Header.assemble classes includes)] ∧
        files' = [(Header.fileName, Header.assemble classes' includes)])
      (Header.generate o s) (Header.generate o s') := by
  unfold Header.generate
  rw [lax]
  refine (Action.Parallel.write' _ _ _ _ _ _).bind' fun _ _ _ => ?_
  refine (parallel_mergeComponents h.alike .nil).bind' fun components components' hsame => ?_
  refine (parallel_classesOf hsame).bind' fun found found' hfound => ?_
  obtain ⟨hclasses, hincludes⟩ := hfound
  refine (Action.Parallel.write' _ _ _ _ _ _).bind' fun _ _ _ => .pure' ?_
  exact ⟨_, _, _, hclasses, rfl, by rw [hincludes]⟩

end

end

end EventHeader
