import EventHeader.Proofs.DeclarationLines
import EventHeader.Proofs.ComponentIsolation

/- Carriage returns in a header. A text that is put together has one exactly if one of its parts
   has one, and so has a text that is moved to the right (`hasReturn_indent`). Identifiers and
   literals have none, whatever they are made of. What is left are the names that stand in a
   class as they are: that of its component, those of the events and those of the fields of its
   structs. So a header has a carriage return exactly if one of these names has
   (`hasReturn_assemble`). -/
namespace EventHeader

namespace Text

def HasReturn (s : String) : Prop := '\r' ∈ s.toList

instance (s : String) : Decidable (HasReturn s) := inferInstanceAs (Decidable ('\r' ∈ s.toList))

variable {s t sep : String} {ls : List String} {n : Nat}

@[simp] theorem hasReturn_append : HasReturn (s ++ t) ↔ HasReturn s ∨ HasReturn t := by
  simp [HasReturn]

theorem hasReturn_intercalate (h : ¬ HasReturn sep) :
    HasReturn (sep.intercalate ls) ↔ ∃ l ∈ ls, HasReturn l := by
  induction ls with
  | nil => simp [HasReturn]
  | cons l rest ih =>
    cases rest with
    | nil => simp
    | cons m rest =>
      rw [String.intercalate_cons_cons, hasReturn_append, hasReturn_append, ih]
      simp [h]

theorem hasReturn_unlines : HasReturn (unlines ls) ↔ ∃ l ∈ ls, HasReturn l :=
  hasReturn_intercalate (by decide)

theorem hasReturn_indentLine : HasReturn (indentLine n s) ↔ HasReturn s := by
  unfold indentLine
  split
  · rfl
  · have hspaces : ¬ HasReturn (spaces n) := not_mem_spaces (by decide) n
    simp [hspaces]

theorem hasReturn_indent : HasReturn (indent n s) ↔ HasReturn s := by
  have hlines : HasReturn s ↔ ∃ l ∈ lines s, HasReturn l := by
    rw [← hasReturn_unlines, unlines_lines]
  rw [hlines, indent, hasReturn_unlines]
  cases lines s with
  | nil => rfl
  | cons first rest => simp [indentLines, hasReturn_indentLine]

theorem not_hasReturn_literal (s : String) : ¬ HasReturn (literal s) :=
  not_mem_literal (by decide) s

end Text

open Text

theorem exists_mem_flatMap {α β : Type} {P : β → Prop} {f : α → List β} {xs : List α} :
    (∃ b ∈ xs.flatMap f, P b) ↔ ∃ a ∈ xs, ∃ b ∈ f a, P b := by
  simp only [List.mem_flatMap, ← exists_and_right, ← exists_and_left, and_assoc]
  exact exists_comm

theorem Identifier.not_hasReturn {s : String} (h : ∀ c ∈ s.toList, isWordChar c = true) :
    ¬ HasReturn s := by
  intro hreturn
  exact absurd (h '\r' hreturn) (by decide)

/-! ## Declarations -/

namespace Declaration

def fieldNames : Declaration → List String
  | .struct _ fields => fields.map Field.name
  | .enum _ _ => []

/-- Whether a declaration has, but for the names of its fields, only names without carriage
returns. -/
structure Plain (d : Declaration) : Prop where
  name : ¬ HasReturn d.name
  types : ∀ t ∈ d.referencedTypes, ¬ HasReturn t
  labels : ∀ c ∈ d.cases, ¬ HasReturn c.label

/-- The text of a declaration has a carriage return only if a field's name has. -/
theorem Plain.hasReturn_render {d : Declaration} (h : d.Plain) :
    HasReturn d.render ↔ ∃ name ∈ d.fieldNames, HasReturn name := by
  cases d with
  | struct n fields =>
    have hn : ¬ HasReturn n := h.name
    have htypes : ∀ f ∈ fields, ¬ HasReturn f.type := fun f hf =>
      h.types f.type (List.mem_map_of_mem hf)
    have hline : ∀ f ∈ fields, (HasReturn f.line ↔ HasReturn f.name) := by
      intro f hf
      simp +decide [Field.line, htypes f hf]
    rw [render, hasReturn_unlines]
    simpa +decide [hn, fieldNames, or_and_right, exists_or] using
      exists_congr fun f => and_congr_right (hline f)
  | enum n cs =>
    have hn : ¬ HasReturn n := h.name
    have hline : ∀ c ∈ cs, ¬ HasReturn c.line := by
      intro c hc
      simp +decide [Case.line, h.labels c hc]
    have hbranch : ∀ c ∈ cs, ¬ HasReturn (c.branch n) := by
      intro c hc
      simp +decide [Case.branch, hn, h.labels c hc, not_hasReturn_literal]
    -- The texts of the options are the only ones that are not identifiers, and are literals.
    have hblock : ∀ l ∈ caseBlock cs, ¬ HasReturn l := by
      intro l hl
      cases cs with
      | nil => exact absurd hl List.not_mem_nil
      | cons c rest =>
        rw [caseBlock.eq_2 _ (by simp), List.mem_singleton] at hl
        rw [hl, hasReturn_intercalate (by decide)]
        simpa using ⟨hline c List.mem_cons_self, fun d hd => hline d (List.mem_cons_of_mem c hd)⟩
    rw [render, hasReturn_unlines]
    simpa +decide [hn, fieldNames, or_and_right, exists_or] using ⟨hblock, hbranch⟩

end Declaration

namespace Payload

/-- What a node declares is named by identifiers, and so are the types and cases in it. -/
theorem plain_of_declaration {n : Node} {d : Declaration} (h : n.declaration = .ok d) :
    d.Plain := by
  have hpath : ∀ path, ¬ HasReturn (Identifier.ofPath path) := fun path =>
    Identifier.not_hasReturn (Identifier.isWordChar_of_mem_ofPath path)
  cases n with
  | object path properties =>
    cases h
    refine ⟨hpath path, ?_, nofun⟩
    intro t ht
    obtain ⟨f, hf, rfl⟩ := List.mem_map.mp ht
    obtain ⟨p, -, rfl⟩ := List.mem_map.mp hf
    show ¬ HasReturn (typeNameAt (path ++ [p.name]) p.type)
    -- The type of a field is one of C++, or the name of the path to the property.
    cases p.type with
    | primitive k =>
      show ¬ HasReturn k.typeName
      cases k <;> decide
    | _ => exact hpath _
  | stringEnum path options =>
    obtain ⟨-, rfl⟩ := Node.declaration_stringEnum h
    refine ⟨hpath path, nofun, ?_⟩
    intro c hc
    obtain ⟨o, -, rfl⟩ := List.mem_map.mp hc
    exact Identifier.not_hasReturn (Identifier.isIdentifier_ofText o).wordChars
  | foreign path kind => cases h

theorem Settled.plain {strict : Bool} {ns : List Node} {ds : List Declaration}
    (h : Settled strict ns ds) : ∀ d ∈ ds, d.Plain := by
  intro d hd
  obtain ⟨n, -, hdecl⟩ := mem_declarations.mp (h.mem hd)
  exact plain_of_declaration hdecl

end Payload

/-! ## Classes -/

theorem Event.hasReturn_method (e : Event) : HasReturn e.method ↔ HasReturn e.name := by
  have htype : ¬ HasReturn (Identifier.ofText e.name) :=
    Identifier.not_hasReturn (Identifier.isIdentifier_ofText e.name).wordChars
  unfold Event.method
  split <;> simp +decide [Identifier.ofPath_singleton, htype]

namespace EmitterClass

theorem hasReturn_bodySection {s : String} :
    (∃ l ∈ bodySection s, HasReturn l) ↔ HasReturn s := by
  unfold bodySection
  split
  · rename_i hs
    have hs : s = "" := by simpa using hs
    rw [hs]
    simp +decide
  · simp +decide [hasReturn_indent]

/-- The text of a class has a carriage return exactly if its name or a part of it has. -/
theorem hasReturn_render (c : EmitterClass) : HasReturn c.render ↔ HasReturn c.component ∨
    (∃ d ∈ c.declarations, HasReturn d.render) ∨ ∃ m ∈ c.methods, HasReturn m := by
  have hblank : ¬ HasReturn "\n\n" := by decide
  have hdeclarations := hasReturn_bodySection
    (s := "\n\n".intercalate (c.declarations.map Declaration.render))
  have hmethods := hasReturn_bodySection (s := "\n\n".intercalate c.methods)
  rw [hasReturn_intercalate hblank] at hdeclarations hmethods
  rw [render, hasReturn_unlines]
  simp only [List.mem_append, or_and_right, exists_or, hdeclarations, hmethods]
  simp +decide [name, or_assoc]

end EmitterClass

/-! ## Headers -/

namespace Header
variable {strict : Bool}

/-- The names that stand in the class of a component as they are: its own, those of the fields
of its structs and those of its events. -/
def verbatimNames (strict : Bool) (entry : String × Component) : List String :=
  entry.1 :: ((emitter strict entry).declarations.flatMap Declaration.fieldNames ++
    entry.2.events.map Event.name)

theorem hasReturn_class {entry : String × Component}
    (h : classOf strict entry = .ok (emitter strict entry)) :
    HasReturn (emitter strict entry).render ↔
      ∃ name ∈ verbatimNames strict entry, HasReturn name := by
  obtain ⟨hsettled, hcomponent, hmethods⟩ := Payload.ofComponent_ok h
  have hfields : (∃ d ∈ (emitter strict entry).declarations, HasReturn d.render) ↔
      ∃ name ∈ (emitter strict entry).declarations.flatMap Declaration.fieldNames,
        HasReturn name := by
    rw [exists_mem_flatMap]
    exact exists_congr fun d => and_congr_right fun hd => (hsettled.plain d hd).hasReturn_render
  have hevents : (∃ m ∈ entry.2.events.map Event.method, HasReturn m) ↔
      ∃ name ∈ entry.2.events.map Event.name, HasReturn name := by
    simp [Event.hasReturn_method]
  rw [EmitterClass.hasReturn_render, hcomponent, hmethods, hfields, hevents, verbatimNames]
  simp only [List.mem_cons, List.mem_append, or_and_right, exists_or, exists_eq_left]

/-- A header has a carriage return exactly if a name that stands in it as it is has one. -/
theorem hasReturn_assemble {components : Entries Component} {includes : List String}
    (h : ∀ entry ∈ components, classOf strict entry = .ok (emitter strict entry))
    (hincludes : Include.IsSetOf includes (NeededIn components)) :
    HasReturn (assemble (components.map (emitter strict)) includes) ↔
      ∃ entry ∈ components, ∃ name ∈ verbatimNames strict entry, HasReturn name := by
  have hbanner : ¬ HasReturn banner := by
    rw [banner, hasReturn_unlines]
    simp [HasReturn, programName]
  have hopen : ¬ HasReturn namespaceOpen := by simp [HasReturn, namespaceOpen]
  have hclose : ¬ HasReturn namespaceClose := by simp [HasReturn, namespaceClose]
  have hlines : ¬ HasReturn (unlines (baseInclude :: includes)) := by
    rw [hasReturn_unlines]
    obtain rfl | rfl := includes_of_set hincludes
    · simp [HasReturn, baseInclude]
    · simp [HasReturn, baseInclude]
  have hclasses : (∃ entry ∈ components, HasReturn (emitter strict entry).render) ↔
      ∃ entry ∈ components, ∃ name ∈ verbatimNames strict entry, HasReturn name :=
    exists_congr fun entry => and_congr_right fun hentry => hasReturn_class (h entry hentry)
  have hend : ¬ HasReturn "\n" := by decide
  rw [assemble, hasReturn_append, hasReturn_intercalate (by decide), ← hclasses]
  simp [hbanner, hopen, hclose, hlines, hend, or_and_right, exists_or]

end Header
end EventHeader
