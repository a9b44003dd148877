import EventHeader.Proofs.GenerationFaults
import EventHeader.Proofs.IncludeSets
import EventHeader.Proofs.KeyedEntries

/- What a generated header is made of. The modules of a schema only add up to a sequence of
   definitions, of which those of one name are merged (`components_result`). Each of the
   components that come of it is settled on its own, from an empty registry on, so its class
   is a function of its name and its events (`classOf`); the include directives are the set
   of what all payloads need. A generation that succeeds puts these together and nothing
   else (`generate_ok`), and whether it succeeds can be told component by component
   (`generate_succeeds_iff`). -/
namespace EventHeader

/-- The definitions that a module adds to the components of a schema. -/
def Module.definitions (m : Module) : Entries Component :=
  if m.isComponent then m.components.getD [] else []

/-- The definitions of components in schema order, names repeated or not. -/
def Schema.definitions (s : Schema) : Entries Component :=
  s.modules.flatMap fun m => m.2.definitions

section
variable {σ ε : Type}

theorem mergeComponents_result : ∀ (modules : Entries Module) (found : Entries Component)
    (state : σ), ((mergeComponents found modules : Action σ ε _).run state).result =
      .ok (found.merge (modules.flatMap fun m => m.2.definitions))
  | [], _, _ => rfl
  | (name, m) :: rest, found, state => by
    rw [List.flatMap_cons, Keyed.merge_append]
    unfold mergeComponents Module.definitions
    split
    · cases m.components with
      | none =>
        simp only [Action.run_bind, Action.run_write]
        exact mergeComponents_result rest found state
      | some components => exact mergeComponents_result rest _ state
    · exact mergeComponents_result rest found state

/-- The components of a schema are its definitions, the last of each name in the place of
the first. -/
theorem components_result (s : Schema) (state : σ) :
    ((s.components : Action σ ε _).run state).result = .ok (Keyed.ofList s.definitions) :=
  mergeComponents_result s.modules [] state

end

namespace Header
open Payload

/-- The class of a component, or why it has none. -/
def classOf (strict : Bool) (entry : String × Component) :
    Except GenerationError EmitterClass :=
  ((EmitterClass.ofComponent entry.1 entry.2 strict).run ()).result

/-- The class of a component that has one, and an empty class in place of another. -/
def emitter (strict : Bool) (entry : String × Component) : EmitterClass :=
  match classOf strict entry with
  | .ok cls => cls
  | .error _ => ⟨entry.1, [], []⟩

/-- A directive that the payload of an event of some component needs. -/
def NeededIn (components : Entries Component) (d : String) : Prop :=
  ∃ entry ∈ components, Include.NeededBy entry.2.events d

variable {σ : Type} {strict : Bool}

theorem ofComponent_result (entry : String × Component) (state : σ) :
    ((EmitterClass.ofComponent entry.1 entry.2 strict).run state).result =
      classOf strict entry := by
  unfold classOf EmitterClass.ofComponent
  simp only [Action.run_bind, Action.run_onOwnState]
  cases ((EmitterClass.payloadDeclarations entry.1 entry.2.events).run
    (Registry.empty strict)).result <;> rfl

theorem emitter_eq {entry : String × Component} {cls : EmitterClass}
    (h : classOf strict entry = .ok cls) : emitter strict entry = cls := by
  rw [emitter, h]

/-- Classes that have been settled are those of the components, and the directives are the
set of those that these need. -/
theorem classesOf_ok : ∀ {components : Entries Component} {state : σ}
    {classes : List EmitterClass} {includes : List String},
    ((classesOf strict components).run state).result = .ok (classes, includes) →
      (∀ entry ∈ components, classOf strict entry = .ok (emitter strict entry)) ∧
        classes = components.map (emitter strict) ∧
        Include.IsSetOf includes (NeededIn components)
  | [], _, _, _, h => by
    cases h
    refine ⟨fun _ hentry => absurd hentry List.not_mem_nil, rfl, ?_⟩
    apply Include.isSetOf_nil.congr
    simp [NeededIn]
  | entry :: rest, state, _, _, h => by
    -- First the directives, then the class, then all other components.
    obtain ⟨here, hhere, h, _⟩ := Action.bind_ok h
    obtain ⟨cls, hcls, h, _⟩ := Action.bind_ok h
    obtain ⟨⟨others, more⟩, hrest, h, _⟩ := Action.bind_ok h
    cases h
    rw [Action.run_ofExcept] at hhere
    rw [ofComponent_result entry] at hcls
    obtain ⟨hclasses, rfl, hmore⟩ := classesOf_ok hrest
    have hemitter := emitter_eq hcls
    refine ⟨List.forall_mem_cons.mpr ⟨hemitter ▸ hcls, hclasses⟩, ?_, ?_⟩
    · rw [List.map_cons, hemitter]
    · apply ((Include.isSetOf_ofEvents hhere).union hmore).congr
      intro d
      simp only [NeededIn, List.exists_mem_cons_iff]

/-- A generation that succeeds writes one file: the classes of the components in order, below
the directives that these need. -/
theorem generate_ok {o : GenerationOptions} {s : Schema} {state : σ} {files : Entries String}
    (h : ((generate o s).run state).result = .ok files) :
    (∀ entry ∈ Keyed.ofList s.definitions,
      classOf o.strict entry = .ok (emitter o.strict entry)) ∧
    ∃ includes, Include.IsSetOf includes (NeededIn (Keyed.ofList s.definitions)) ∧
      files = [(fileName,
        assemble ((Keyed.ofList s.definitions).map (emitter o.strict)) includes)] := by
  obtain ⟨_, _, h, _⟩ := Action.bind_ok h
  obtain ⟨components, hcomponents, h, _⟩ := Action.bind_ok h
  obtain ⟨⟨classes, includes⟩, hclasses, h, _⟩ := Action.bind_ok h
  obtain ⟨_, _, h, _⟩ := Action.bind_ok h
  rw [components_result] at hcomponents
  cases hcomponents
  cases h
  obtain ⟨hok, rfl, hincludes⟩ := classesOf_ok hclasses
  exact ⟨hok, includes, hincludes, rfl⟩

/-- A generation succeeds exactly if no component is faulty. -/
theorem generate_succeeds_iff {o : GenerationOptions} {s : Schema} {state : σ} :
    (∃ files, ((generate o s).run state).result = .ok files) ↔
      ∀ entry ∈ Keyed.ofList s.definitions, ¬ Faulty o.strict (componentNodes entry.2) := by
  have herror : (∃ e, ((generate o s).run state).result = .error e) ↔
      ∃ entry ∈ Keyed.ofList s.definitions, Faulty o.strict (componentNodes entry.2) := by
    rw [← exists_firstStopped_iff]
    exact exists_congr fun e => generate_error (components_result s state)
  constructor
  · intro ⟨files, hfiles⟩ entry hentry hfaulty
    obtain ⟨e, he⟩ := herror.mpr ⟨entry, hentry, hfaulty⟩
    rw [hfiles] at he
    cases he
  · intro h
    cases hres : ((generate o s).run state).result with
    | ok files => exact ⟨files, rfl⟩
    | error e =>
      obtain ⟨entry, hentry, hfaulty⟩ := herror.mp ⟨e, hres⟩
      exact absurd hfaulty (h entry hentry)

/-- What is generated depends on a schema through its components and on the options through the
naming mode, and not on what was done before. -/
theorem generate_congr {σ τ : Type} {o o' : GenerationOptions} {s s' : Schema} {state : σ}
    {state' : τ} (hstrict : o.strict = o'.strict)
    (h : Keyed.ofList s.definitions = Keyed.ofList s'.definitions) :
    ((generate o s).run state).result = ((generate o' s').run state').result := by
  cases hres : ((generate o' s').run state').result with
  | error e =>
    -- The error is that of the first faulty component, whatever the schema is.
    apply (generate_error (components_result s state)).mpr
    rw [h, hstrict]
    exact (generate_error (components_result s' state')).mp hres
  | ok files =>
    have hsucceeds : ∃ files, ((generate o s).run state).result = .ok files := by
      rw [generate_succeeds_iff, h, hstrict]
      exact generate_succeeds_iff.mp ⟨files, hres⟩
    obtain ⟨files', hres'⟩ := hsucceeds
    obtain ⟨-, includes, hincludes, rfl⟩ := generate_ok hres
    obtain ⟨-, includes', hincludes', rfl⟩ := generate_ok hres'
    rw [h] at hincludes' hres'
    rw [hres', hincludes'.unique hincludes, hstrict]

end Header
end EventHeader
