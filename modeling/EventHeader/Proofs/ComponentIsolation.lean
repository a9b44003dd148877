import EventHeader.Proofs.HeaderContents
import Mathlib.Logic.Relation

/- How far the parts of a schema reach. A module that adds no components may be inserted,
   deleted or changed, and a definition that a later module replaces may be changed, without
   a change of what is generated: neither reaches the components (`FutileEdit`). What a
   component holds reaches its own class and the include directives and nothing else. So of
   two headers that differ in one component, everything above its class is the same but for
   the one directive there can be, and everything below it is the same
   (`components_do_not_interfere`). -/
namespace EventHeader

/-- Whether a module adds no components, since it is of another type or declares none. -/
def Module.Idle (m : Module) : Prop := m.isComponent = false ∨ m.components = none

/-- One edit of a schema that should make no difference. -/
inductive Schema.FutileEdit : Schema → Schema → Prop where
  | insert {before after : Entries Module} {name : String} {m : Module} (idle : m.Idle) :
      FutileEdit ⟨before ++ after⟩ ⟨before ++ (name, m) :: after⟩
  | delete {before after : Entries Module} {name : String} {m : Module} (idle : m.Idle) :
      FutileEdit ⟨before ++ (name, m) :: after⟩ ⟨before ++ after⟩
  | change {before after : Entries Module} {name name' : String} {m m' : Module} (idle : m.Idle)
      (still : m'.Idle) :
      FutileEdit ⟨before ++ (name, m) :: after⟩ ⟨before ++ (name', m') :: after⟩
  | redefine {before after : Entries Module} {name type component later : String}
      {defs rest components : Entries Component} (c c' : Component) {m : Module}
      (mem : (later, m) ∈ after) (contributes : m.isComponent = true)
      (declares : m.components = some components) (again : component ∈ components.map Prod.fst) :
      FutileEdit ⟨before ++ (name, ⟨type, some (defs ++ (component, c) :: rest)⟩) :: after⟩
        ⟨before ++ (name, ⟨type, some (defs ++ (component, c') :: rest)⟩) :: after⟩

/-! ## What does not reach the components -/

theorem Module.Idle.definitions_eq {m : Module} (h : m.Idle) : m.definitions = [] := by
  unfold Module.definitions
  rcases h with h | h
  · rw [h]
    rfl
  · rw [h]
    split <;> rfl

theorem Schema.definitions_around (before after : Entries Module) (name : String) (m : Module) :
    Schema.definitions ⟨before ++ (name, m) :: after⟩ =
      Schema.definitions ⟨before⟩ ++ (m.definitions ++ Schema.definitions ⟨after⟩) := by
  simp only [Schema.definitions, List.flatMap_append, List.flatMap_cons]

theorem Schema.definitions_append (before after : Entries Module) :
    Schema.definitions ⟨before ++ after⟩ =
      Schema.definitions ⟨before⟩ ++ Schema.definitions ⟨after⟩ :=
  List.flatMap_append

theorem Schema.mem_names_definitions {modules : Entries Module} {name later : String} {m : Module}
    {components : Entries Component} (hm : (later, m) ∈ modules) (hcomponent : m.isComponent = true)
    (hdeclares : m.components = some components) (hname : name ∈ components.map Prod.fst) :
    name ∈ (Schema.definitions ⟨modules⟩).map Prod.fst := by
  have hdefinitions : m.definitions = components := by
    rw [Module.definitions, if_pos hcomponent, hdeclares]
    rfl
  obtain ⟨entry, hentry, rfl⟩ := List.mem_map.mp hname
  apply List.mem_map_of_mem
  exact List.mem_flatMap.mpr ⟨(later, m), hm, hdefinitions ▸ hentry⟩

/-- An edit that should make no difference leaves the components as they are. -/
theorem Schema.FutileEdit.components_eq {s s' : Schema} (h : s.FutileEdit s') :
    Keyed.ofList s.definitions = Keyed.ofList s'.definitions := by
  cases h with
  | insert idle =>
    rw [definitions_around, definitions_append, idle.definitions_eq, List.nil_append]
  | delete idle =>
    rw [definitions_around, definitions_append, idle.definitions_eq, List.nil_append]
  | change idle still =>
    rw [definitions_around, definitions_around, idle.definitions_eq, still.definitions_eq]
  | @redefine before after name type component later defs rest components c c' m mem contributes
      declares again =>
    rw [definitions_around, definitions_around]
    by_cases htype : (type == "Component") = true
    · -- The name comes up again further on, so its value here is replaced.
      have hagain : component ∈ (rest ++ Schema.definitions ⟨after⟩).map Prod.fst := by
        rw [List.map_append]
        apply List.mem_append_right
        exact mem_names_definitions mem contributes declares again
      have hmodule : ∀ c : Component,
          Module.definitions ⟨type, some (defs ++ (component, c) :: rest)⟩ =
            defs ++ (component, c) :: rest := fun _ => if_pos htype
      have hshadowed := Keyed.ofList_shadowed hagain (Schema.definitions ⟨before⟩ ++ defs) c c'
      rw [hmodule, hmodule]
      simpa only [List.append_assoc, List.cons_append] using hshadowed
    · have hidle : ∀ components : Entries Component,
          Module.Idle ⟨type, some components⟩ := fun _ => Or.inl (Bool.eq_false_iff.mpr htype)
      rw [(hidle _).definitions_eq, (hidle _).definitions_eq]

theorem generate_futileEdits {σ : Type} {o : GenerationOptions} {s s' : Schema} {state : σ}
    (h : Relation.ReflTransGen Schema.FutileEdit s s') :
    ((Header.generate o s).run state).result = ((Header.generate o s').run state).result := by
  induction h with
  | refl => rfl
  | tail _ hedit ih => exact ih.trans (Header.generate_congr rfl hedit.components_eq)

/-! ## The text of a header around a class -/

namespace Header

theorem intercalate_around (sep : String) (xs zs : List String) (y : String) :
    sep.intercalate (xs ++ y :: zs) =
      String.join (xs.map (· ++ sep)) ++ y ++ String.join (zs.map (sep ++ ·)) := by
  induction xs with
  | nil =>
    induction zs generalizing y with
    | nil => simp
    | cons z rest ih =>
      rw [List.nil_append, String.intercalate_cons_cons, ← List.nil_append (z :: rest), ih z]
      simp [String.append_assoc]
  | cons x xs ih =>
    rw [List.cons_append, String.intercalate_cons_of_ne_nil (by simp), ih]
    simp [String.append_assoc]

/-- The lines of include directives below the one that every header has. -/
def includeLines (includes : List String) : String := String.join (includes.map ("\n" ++ ·))

/-- The text between the include directives and a class, with the classes before it. -/
def textBefore (classes : List EmitterClass) : String :=
  "\n\n" ++ namespaceOpen ++ "\n\n" ++ String.join (classes.map (fun c => c.render ++ "\n\n"))

/-- The text below a class, with the classes after it. -/
def textAfter (classes : List EmitterClass) : String :=
  String.join (classes.map (fun c => "\n\n" ++ c.render)) ++ "\n\n" ++ namespaceClose ++ "\n"

theorem assemble_around (before after : List EmitterClass) (cls : EmitterClass)
    (includes : List String) : assemble (before ++ cls :: after) includes =
      banner ++ "\n\n" ++ baseInclude ++ includeLines includes ++ textBefore before ++
        cls.render ++ textAfter after := by
  have hincludes : Text.unlines (baseInclude :: includes) = baseInclude ++ includeLines includes := by
    have h := intercalate_around "\n" [] includes baseInclude
    simpa [Text.unlines, includeLines] using h
  have hparts : [banner, Text.unlines (baseInclude :: includes), namespaceOpen] ++
        (before ++ cls :: after).map EmitterClass.render ++ [namespaceClose] =
      ([banner, Text.unlines (baseInclude :: includes), namespaceOpen] ++
        before.map EmitterClass.render) ++ cls.render ::
          (after.map EmitterClass.render ++ [namespaceClose]) := by
    simp
  rw [assemble, hparts, intercalate_around, hincludes]
  simp [textBefore, textAfter, String.append_assoc, Function.comp_def]

/-! ## Directives -/

/-- The only directive that payloads need. -/
theorem eq_of_neededIn {components : Entries Component} {d : String}
    (h : NeededIn components d) : d = "#include <folly/dynamic.h>" := by
  obtain ⟨_, _, _, _, _, _, _, _, _, k, _, hk⟩ := h
  cases k with
  | mixed => exact (Option.some.inj hk).symm
  | _ => cases hk

theorem includes_of_set {components : Entries Component} {includes : List String}
    (h : Include.IsSetOf includes (NeededIn components)) :
    includes = [] ∨ includes = ["#include <folly/dynamic.h>"] := by
  have hall : ∀ d ∈ includes, d = "#include <folly/dynamic.h>" :=
    fun d hd => eq_of_neededIn ((h.mem_iff d).mp hd)
  cases includes with
  | nil => exact Or.inl rfl
  | cons d rest =>
    right
    obtain ⟨hd, hrest⟩ := List.forall_mem_cons.mp hall
    cases rest with
    | nil => rw [hd]
    | cons d' rest =>
      have hlt := (List.pairwise_cons.mp h.sorted).1 d' List.mem_cons_self
      rw [hd, hrest d' List.mem_cons_self] at hlt
      exact absurd hlt (String.lt_irrefl _)

end Header

/-- Two headers that are one text around a class, the same above and below it but for the include
directive that there may be. -/
def Header.SameAround (before after : List EmitterClass) (cls cls' : EmitterClass)
    (files files' : Entries String) : Prop :=
  ∃ includes includes' : List String,
    (includes = [] ∨ includes = ["#include <folly/dynamic.h>"]) ∧
    (includes' = [] ∨ includes' = ["#include <folly/dynamic.h>"]) ∧
    files = [(fileName, banner ++ "\n\n" ++ baseInclude ++ includeLines includes ++
      textBefore before ++ cls.render ++ textAfter after)] ∧
    files' = [(fileName, banner ++ "\n\n" ++ baseInclude ++ includeLines includes' ++
      textBefore before ++ cls'.render ++ textAfter after)]

open Header in
/-- Edits that do not reach the components of a schema leave what is generated as it is, be it a
header or an error. Where two schemas differ in one component and both have a header, each header
is the same text around the class of that component but for the directive of the includes. -/
theorem components_do_not_interfere {σ : Type} :
    (∀ (o : GenerationOptions) (s s' : Schema) (state : σ),
      Relation.ReflTransGen Schema.FutileEdit s s' →
      ((generate o s').run state).result = ((generate o s).run state).result) ∧
    ∀ (o : GenerationOptions) (s s' : Schema) (state : σ) (first last : Entries Component)
      (name : String) (c c' : Component) (files files' : Entries String),
      ((s.components : Action σ GenerationError _).run state).result =
        .ok (first ++ (name, c) :: last) →
      ((s'.components : Action σ GenerationError _).run state).result =
        .ok (first ++ (name, c') :: last) →
      ((generate o s).run state).result = .ok files →
      ((generate o s').run state).result = .ok files' →
      ∃ (before after : List EmitterClass) (cls cls' : EmitterClass),
        first.map (classOf o.strict) = before.map .ok ∧
        last.map (classOf o.strict) = after.map .ok ∧
        classOf o.strict (name, c) = .ok cls ∧ classOf o.strict (name, c') = .ok cls' ∧
        SameAround before after cls cls' files files' := by
  constructor
  · intro o s s' state hedits
    exact (generate_futileEdits hedits).symm
  · intro o s s' state first last name c c' files files' hc hc' h h'
    rw [components_result] at hc hc'
    obtain ⟨hclasses, includes, hincludes, rfl⟩ := generate_ok h
    obtain ⟨hclasses', includes', hincludes', rfl⟩ := generate_ok h'
    rw [Except.ok.inj hc] at hclasses hincludes ⊢
    rw [Except.ok.inj hc'] at hclasses' hincludes' ⊢
    -- A class depends on its component alone, so the others are the same in both headers.
    have hothers : ∀ entries : Entries Component,
        (∀ entry ∈ entries, entry ∈ first ++ (name, c) :: last) →
        entries.map (classOf o.strict) = (entries.map (emitter o.strict)).map .ok := by
      intro entries hentries
      rw [List.map_map]
      apply List.map_congr_left
      intro entry hentry
      exact hclasses entry (hentries entry hentry)
    refine ⟨first.map (emitter o.strict), last.map (emitter o.strict), emitter o.strict (name, c),
      emitter o.strict (name, c'), hothers first ?_, hothers last ?_, hclasses (name, c) ?_,
      hclasses' (name, c') ?_, includes, includes', includes_of_set hincludes,
      includes_of_set hincludes', ?_, ?_⟩
    · exact fun entry hentry => List.mem_append_left _ hentry
    · exact fun entry hentry => List.mem_append_right _ (List.mem_cons_of_mem _ hentry)
    · exact List.mem_append_right _ List.mem_cons_self
    · exact List.mem_append_right _ List.mem_cons_self
    · rw [List.map_append, List.map_cons, assemble_around]
    · rw [List.map_append, List.map_cons, assemble_around]

def tapComponent (type : PropertyType) : Component :=
  ⟨[⟨"onTap", false, .direct, some [⟨"at", false, type⟩]⟩]⟩

/-- A schema in which two modules define one component and another adds none. -/
def tapSchema (first last : PropertyType) : Schema :=
  ⟨[("Old", ⟨"Component", some [("Pad", tapComponent first)]⟩), ("Types", ⟨"NativeModule", none⟩),
    ("Views", ⟨"Component", some [("Pad", tapComponent last), ("Plain", ⟨[]⟩)]⟩)]⟩

/-- The first definition of `Pad` may even be of a foreign kind, since a later one replaces it. -/
theorem components_do_not_interfere_tap :
    Relation.ReflTransGen Schema.FutileEdit (tapSchema (.primitive .int32) (.primitive .mixed))
      (tapSchema (.foreign .null) (.primitive .mixed)) ∧
    ∃ files files',
      ((Header.generate ⟨"lib", none, false, false⟩
        (tapSchema (.foreign .null) (.primitive .mixed))).run ()).result = .ok files ∧
      ((Header.generate ⟨"lib", none, false, false⟩
        (tapSchema (.foreign .null) (.primitive .string))).run ()).result = .ok files' ∧
      ∃ before after cls cls', Header.SameAround before after cls cls' files files' := by
  obtain ⟨hedits, hcomponent⟩ := components_do_not_interfere (σ := Unit)
  have hedit : Schema.FutileEdit (tapSchema (.primitive .int32) (.primitive .mixed))
      (tapSchema (.foreign .null) (.primitive .mixed)) :=
    @Schema.FutileEdit.redefine [] _ "Old" "Component" "Pad" "Views" [] [] _ _ _ _
      (.tail _ (.head _)) rfl rfl (.head _)
  have hsame := hedits ⟨"lib", none, false, false⟩ _ _ () (.single hedit)
  obtain ⟨before, after, cls, cls', -, -, -, -, haround⟩ := hcomponent ⟨"lib", none, false, false⟩
    (tapSchema (.foreign .null) (.primitive .mixed))
    (tapSchema (.foreign .null) (.primitive .string)) () [] [("Plain", ⟨[]⟩)] "Pad"
    (tapComponent (.primitive .mixed)) (tapComponent (.primitive .string)) _ _ rfl rfl
    (hsame.trans rfl) rfl
  exact ⟨.single hedit, _, _, hsame.trans rfl, rfl, before, after, cls, cls', haround⟩

end EventHeader
