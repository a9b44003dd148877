import EventHeader.Proofs.TextLines

/- Texts moved to the right, and back. Each line but the first is moved on its own, and an
   empty one not at all, so that a text moved twice is moved once by both distances
   (`indent_indent`) and has the lines it had, the first as it was and the same ones empty.
   Nothing is lost on the way: taking the spaces from every line that is not empty, which
   fails where they are missing, gives the text back (`outdent_indent`), and texts that look
   the same when moved are the same. -/
namespace EventHeader.Text
variable {n : Nat} {line : String} {ls : List String}

/-! ## Back to the left -/

def outdentLine (n : Nat) (line : String) : Option String :=
  if line.isEmpty then some line
  else (line.toList.dropPrefix? (spaces n).toList).map String.ofList

/-- Takes `n` spaces from the front of every line but the first. -/
def outdentLines (n : Nat) : List String → Option (List String)
  | [] => some []
  | first :: rest => (rest.mapM (outdentLine n)).map (first :: ·)

/-- Moves a text back to the left from its second line on; there is none if a line that is
not empty has fewer spaces in front. -/
def outdent (n : Nat) (s : String) : Option String := (outdentLines n (lines s)).map unlines

/-! ## One line -/

theorem indentLine_eq_empty : indentLine n line = "" ↔ line = "" := by
  constructor
  · intro h
    by_contra hline
    rw [indentLine_of_ne hline, String.append_eq_empty_iff] at h
    exact hline h.2
  · intro h
    rw [h, indentLine_empty]

theorem indentLine_indentLine (a b : Nat) (line : String) :
    indentLine b (indentLine a line) = indentLine (a + b) line := by
  by_cases h : line = ""
  · rw [h]
    rfl
  · have hmoved : indentLine a line ≠ "" := fun he => h (indentLine_eq_empty.mp he)
    calc indentLine b (indentLine a line)
        = spaces b ++ (spaces a ++ line) := by rw [indentLine_of_ne hmoved, indentLine_of_ne h]
      _ = spaces (a + b) ++ line := by rw [Nat.add_comm, spaces_add, String.append_assoc]
      _ = indentLine (a + b) line := (indentLine_of_ne h).symm

theorem outdentLine_indentLine (n : Nat) (line : String) :
    outdentLine n (indentLine n line) = some line := by
  by_cases h : line = ""
  · rw [h]
    rfl
  · have hmoved : ¬ (indentLine n line).isEmpty = true := by simpa [indentLine_eq_empty] using h
    rw [outdentLine, if_neg hmoved, indentLine_of_ne h, String.toList_append,
      List.dropPrefix?_append_of_beq _ (beq_self_eq_true _), Option.map_some, String.ofList_toList]

/-! ## Many lines -/

theorem indentLines_indentLines (a b : Nat) (ls : List String) :
    indentLines b (indentLines a ls) = indentLines (a + b) ls := by
  cases ls with
  | nil => rfl
  | cons first rest =>
    have hrest : (indentLine b ∘ indentLine a) = indentLine (a + b) :=
      funext (indentLine_indentLine a b)
    rw [indentLines, indentLines, indentLines, List.map_map, hrest]

theorem length_indentLines : (indentLines n ls).length = ls.length := by
  cases ls with
  | nil => rfl
  | cons first rest => rw [indentLines, List.length_cons, List.length_map, List.length_cons]

theorem head?_indentLines : (indentLines n ls).head? = ls.head? := by
  cases ls <;> rfl

theorem getElem?_indentLines_eq_empty (i : Nat) :
    (indentLines n ls)[i]? = some "" ↔ ls[i]? = some "" := by
  cases ls with
  | nil => rfl
  | cons first rest =>
    cases i with
    | zero => rfl
    | succ i => simp [indentLines, indentLine_eq_empty]

theorem outdentLines_indentLines (n : Nat) (ls : List String) :
    outdentLines n (indentLines n ls) = some ls := by
  cases ls with
  | nil => rfl
  | cons first rest =>
    have hrest : (rest.map (indentLine n)).mapM (outdentLine n) = some rest := by
      induction rest with
      | nil => rfl
      | cons line rest ih => simp [outdentLine_indentLine, ih]
    rw [indentLines, outdentLines, hrest, Option.map_some]

/-! ## Texts -/

theorem indent_indent (a b : Nat) (t : String) : indent b (indent a t) = indent (a + b) t :=
  calc indent b (indent a t)
      = unlines (indentLines b (lines (indent a t))) := rfl
    _ = unlines (indentLines b (indentLines a (lines t))) := by rw [lines_indent]
    _ = unlines (indentLines (a + b) (lines t)) := by rw [indentLines_indentLines]
    _ = indent (a + b) t := rfl

theorem outdent_indent (n : Nat) (t : String) : outdent n (indent n t) = some t := by
  rw [outdent, lines_indent, outdentLines_indentLines, Option.map_some, unlines_lines]

/-- A text moved to the right twice is moved once by both distances. It has as many lines as
before, its first line is the same and the same lines are empty; moved back to the left it is
what it was, so no two texts are moved to the same one. -/
theorem indent_composes (t : String) (a b : Nat) :
    indent b (indent a t) = indent (a + b) t ∧
    (lines (indent a t)).length = (lines t).length ∧
    (lines (indent a t)).head? = (lines t).head? ∧
    (∀ i : Nat, (lines (indent a t))[i]? = some "" ↔ (lines t)[i]? = some "") ∧
    outdent a (indent a t) = some t ∧
    ∀ u, indent a u = indent a t ↔ u = t := by
  have hback := outdent_indent a t
  refine ⟨indent_indent a b t, ?_, ?_, ?_, hback, fun u => ⟨?_, congrArg (indent a)⟩⟩
  · rw [lines_indent, length_indentLines]
  · rw [lines_indent, head?_indentLines]
  · intro i
    rw [lines_indent, getElem?_indentLines_eq_empty]
  · intro h
    rw [← h, outdent_indent] at hback
    exact Option.some.inj hback

/-- The first line, empty lines and the spaces that lines begin with already are kept. -/
example : indent 2 "a\n\n b\n" = "a\n\n   b\n" := by decide

end EventHeader.Text
