import EventHeader.EmitterClass
import EventHeader.Proofs.IdentifierShape
import EventHeader.Proofs.LiteralReading
import EventHeader.Proofs.TextLines

/- The lines of declarations. An enum has one line for each enumerator and one for each
   case of its lookup (`lines_render_enum`), whatever texts the cases stand for. In the
   class of a component the lines of every declaration stand together, moved to the
   right as one block (`lines_render_of_mem`). -/
namespace EventHeader

namespace Declaration
open Identifier (IsIdentifier)

/-- The lines of enumerators: a comma follows all of them but the last. -/
def enumeratorLines : List String → List String
  | [] => []
  | [l] => ["  " ++ l]
  | l :: m :: rest => ("  " ++ l ++ ",") :: enumeratorLines (m :: rest)

def enumLines (n : String) (cs : List Case) : List String :=
  ("enum class " ++ n ++ " \x7b") :: enumeratorLines (cs.map Case.label) ++
    ["\x7d;", "", "static char const *toString(const " ++ n ++ " value) \x7b",
      "  switch (value) \x7b"] ++
    cs.map (Case.branch n) ++ ["  \x7d", "\x7d"]

variable {n : String} {cs : List Case}

theorem newline_not_mem_line {c : Case} (h : IsIdentifier c.label) : '\n' ∉ c.line.toList := by
  have hlabel := Identifier.newline_not_mem h.wordChars
  simp [Case.line, hlabel]

theorem newline_not_mem_branch (hn : '\n' ∉ n.toList) {c : Case} (h : IsIdentifier c.label) :
    '\n' ∉ (c.branch n).toList := by
  have hlabel := Identifier.newline_not_mem h.wordChars
  have hliteral : '\n' ∉ (Text.literal c.literal).toList := Text.not_mem_literal (by decide) _
  simp [Case.branch, hn, hlabel, hliteral]

theorem lines_caseBlock (h : ∀ c ∈ cs, IsIdentifier c.label) :
    (caseBlock cs).flatMap Text.lines = enumeratorLines (cs.map Case.label) := by
  -- An enum without cases has no such text at all, so the induction begins with one case.
  suffices hlines : ∀ c cs, (∀ d ∈ c :: cs, IsIdentifier d.label) →
      Text.lines (",\n".intercalate ((c :: cs).map Case.line)) =
        enumeratorLines ((c :: cs).map Case.label) by
    cases cs with
    | nil => rfl
    | cons c cs => rw [caseBlock.eq_2 _ (by simp), List.flatMap_singleton, hlines c cs h]
  intro c cs h
  induction cs generalizing c with
  | nil =>
    rw [List.map_singleton, String.intercalate_singleton,
      Text.lines_eq_singleton (newline_not_mem_line (h c List.mem_cons_self))]
    rfl
  | cons d cs ih =>
    obtain ⟨hc, hbelow⟩ := List.forall_mem_cons.mp h
    have hcomma : '\n' ∉ (c.line ++ ",").toList := by simp [newline_not_mem_line hc]
    have hseparator : ",\n" = "," ++ "\n" := rfl
    rw [List.map_cons, List.map_cons, String.intercalate_cons_cons, hseparator,
      ← String.append_assoc, ← hseparator, Text.lines_newline,
      Text.lines_eq_singleton hcomma, ← List.map_cons, ih d hbelow]
    rfl

/-- The lines of an enum are those of its parts, whatever its cases stand for. -/
theorem lines_render_enum (hn : '\n' ∉ n.toList) (h : ∀ c ∈ cs, IsIdentifier c.label) :
    Text.lines (Declaration.enum n cs).render = enumLines n cs := by
  have hhead : ∀ l ∈ ["enum class " ++ n ++ " \x7b"], '\n' ∉ l.toList := by simp [hn]
  have hmiddle : ∀ l ∈ ["\x7d;", "", "static char const *toString(const " ++ n ++ " value) \x7b",
      "  switch (value) \x7b"], '\n' ∉ l.toList := by simp [hn]
  have hbranches : ∀ l ∈ cs.map (Case.branch n), '\n' ∉ l.toList := by
    intro l hl
    obtain ⟨c, hc, rfl⟩ := List.mem_map.mp hl
    exact newline_not_mem_branch hn (h c hc)
  have hend : ∀ l ∈ ["  \x7d", "\x7d"], '\n' ∉ l.toList := by decide
  have hhead := Text.flatMap_lines hhead
  rw [List.flatMap_singleton] at hhead
  unfold render enumLines
  rw [Text.lines_unlines (by simp), List.cons_append, List.cons_append, List.cons_append,
    List.flatMap_cons, List.flatMap_append, List.flatMap_append, List.flatMap_append, hhead,
    lines_caseBlock h, Text.flatMap_lines hmiddle, Text.flatMap_lines hbranches,
    Text.flatMap_lines hend]
  rfl

theorem firstLineFull_render (d : Declaration) : Text.FirstLineFull d.render := by
  cases d with
  | struct n fields =>
    refine Text.firstLineFull_unlines ?_ _
    rw [String.append_assoc]
    exact Text.firstLineFull_append (by decide) (by decide) _
  | enum n cs =>
    refine Text.firstLineFull_unlines ?_ _
    rw [String.append_assoc]
    exact Text.firstLineFull_append (by decide) (by decide) _

end Declaration

namespace EmitterClass
open Text (indentLine)
variable {c : EmitterClass} {d : Declaration} {ds : List Declaration}

theorem lines_declarations_of_mem (h : d ∈ ds) :
    Text.lines d.render <:+: Text.lines ("\n\n".intercalate (ds.map Declaration.render)) := by
  have hd : d.render ∈ ds.map Declaration.render := List.mem_map_of_mem h
  rw [Text.lines_intercalate_blank (List.ne_nil_of_mem hd)]
  exact List.infix_flatMap_of_mem (Text.mem_intersperse hd) Text.lines

theorem firstLineFull_declarations (h : ds ≠ []) :
    Text.FirstLineFull ("\n\n".intercalate (ds.map Declaration.render)) := by
  obtain ⟨d, ds, rfl⟩ := List.exists_cons_of_ne_nil h
  rw [Text.intercalate_blank]
  cases ds with
  | nil => exact Text.firstLineFull_unlines (Declaration.firstLineFull_render d) _
  | cons e ds => exact Text.firstLineFull_unlines (Declaration.firstLineFull_render d) _

theorem lines_bodySection {s : String} (h : Text.FirstLineFull s) :
    (bodySection s).flatMap Text.lines = "" :: (Text.lines s).map (indentLine 2) := by
  have hspaces : "  " = Text.spaces 2 := rfl
  rw [bodySection, if_neg (by simpa using h.ne_empty), hspaces, List.flatMap_cons,
    List.flatMap_singleton, Text.lines_indent_whole h]
  rfl

/-- In the text of a class the lines of a declaration are one block, moved to the right. -/
theorem lines_render_of_mem (h : d ∈ c.declarations) :
    (Text.lines d.render).map (indentLine 2) <:+: Text.lines c.render := by
  have hsection := lines_bodySection (firstLineFull_declarations (List.ne_nil_of_mem h))
  have hblock := (lines_declarations_of_mem h).map (indentLine 2)
  have hbody := hblock.trans (List.suffix_cons "" _).isInfix
  unfold render
  rw [Text.lines_unlines (by simp), List.flatMap_append, List.flatMap_append, List.flatMap_append,
    hsection]
  -- Before the section stands the head of the class, behind it the methods and the end.
  exact ((hbody.trans List.infix_append_right).trans List.infix_append_left).trans
    List.infix_append_left

end EmitterClass
end EventHeader
