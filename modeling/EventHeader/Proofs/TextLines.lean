import EventHeader.Text.Line
import Mathlib.Data.List.Basic

/- The lines of texts that are put together. A text is its lines written below one
   another (`unlines_lines`). Texts written below one another are read as the lines of
   each in turn (`lines_unlines`), also where empty lines set them apart
   (`lines_intercalate_blank`), and a text put in front of another one extends its first
   line (`lines_append`). Indenting works line by line (`lines_indent`): since no line
   has a line feed in it, none is ever cut where the spaces are put. -/
namespace EventHeader.Text
variable {n : Nat} {s t : String} {ls : List String}

theorem lines_ne_nil (s : String) : lines s ≠ [] := by
  simp [lines, List.splitOn_ne_nil]

theorem lines_eq_singleton (h : '\n' ∉ s.toList) : lines s = [s] := by
  simp [lines, List.splitOn_eq_singleton h]

theorem not_mem_of_mem_splitOn : ∀ {cs l : List Char}, l ∈ cs.splitOn '\n' → '\n' ∉ l
  | [], l, h => by
    rw [List.splitOn_nil, List.mem_singleton] at h
    rw [h]
    exact List.not_mem_nil
  | c :: cs, l, h => by
    rw [List.splitOn_cons_eq_if_modifyHead] at h
    split at h
    · rcases List.mem_cons.mp h with rfl | h
      · exact List.not_mem_nil
      · exact not_mem_of_mem_splitOn h
    · rename_i hc
      -- The character goes in front of the first line of the rest.
      obtain ⟨first, rest, hsplit⟩ := List.exists_cons_of_ne_nil (List.splitOn_ne_nil '\n' cs)
      rw [hsplit, List.modifyHead_cons] at h
      have hbelow : ∀ l ∈ first :: rest, '\n' ∉ l := by
        intro l hl
        rw [← hsplit] at hl
        exact not_mem_of_mem_splitOn hl
      rcases List.mem_cons.mp h with rfl | h
      · rw [List.mem_cons, not_or]
        exact ⟨fun he => hc (by simp [← he]), hbelow first List.mem_cons_self⟩
      · exact hbelow l (List.mem_cons_of_mem first h)

theorem not_mem_of_mem_lines {l : String} (h : l ∈ lines s) : '\n' ∉ l.toList := by
  obtain ⟨cs, hcs, rfl⟩ := List.mem_map.mp h
  rw [String.toList_ofList]
  exact not_mem_of_mem_splitOn hcs

theorem lines_newline (s t : String) : lines (s ++ "\n" ++ t) = lines s ++ lines t := by
  have hchars : (s ++ "\n" ++ t).toList = s.toList ++ '\n' :: t.toList := by simp
  unfold lines
  rw [hchars, List.splitOn_append_cons_self, List.map_append]

theorem unlines_cons {l : String} (h : ls ≠ []) : unlines (l :: ls) = l ++ "\n" ++ unlines ls := by
  obtain ⟨m, rest, rfl⟩ := List.exists_cons_of_ne_nil h
  simp [unlines]

theorem lines_unlines (h : ls ≠ []) : lines (unlines ls) = ls.flatMap lines := by
  induction ls with
  | nil => exact absurd rfl h
  | cons l rest ih =>
    cases rest with
    | nil => simp [unlines]
    | cons m rest =>
      have hm : m :: rest ≠ [] := List.cons_ne_nil m rest
      rw [unlines_cons hm, lines_newline, ih hm, ← List.flatMap_cons]

theorem flatMap_lines (h : ∀ l ∈ ls, '\n' ∉ l.toList) : ls.flatMap lines = ls := by
  have hsingle : ∀ l ∈ ls, lines l = [l] := fun l hl => lines_eq_singleton (h l hl)
  rw [List.flatMap_congr hsingle, List.flatMap_singleton']

theorem lines_unlines_of_lines (h : ls ≠ []) (hl : ∀ l ∈ ls, '\n' ∉ l.toList) :
    lines (unlines ls) = ls := by
  rw [lines_unlines h, flatMap_lines hl]

theorem unlines_lines (s : String) : unlines (lines s) = s := by
  have hchars : ((s.toList.splitOn '\n').map String.ofList).map String.toList =
      s.toList.splitOn '\n' := by simp [Function.comp_def]
  rw [← String.toList_inj, unlines, lines, String.toList_intercalate, hchars]
  exact List.intercalate_splitOn '\n'

/-- What is put in front of a text, without a line feed, extends its first line. -/
theorem lines_append (h : '\n' ∉ s.toList) (t : String) :
    lines (s ++ t) = (lines t).modifyHead (s ++ ·) := by
  have hchars : ∀ cs ds : List Char, '\n' ∉ cs →
      (cs ++ ds).splitOn '\n' = (ds.splitOn '\n').modifyHead (cs ++ ·) := by
    intro cs ds hcs
    induction cs with
    | nil =>
      rw [List.nil_append]
      cases ds.splitOn '\n' <;> rfl
    | cons c cs ih =>
      obtain ⟨hc, hcs⟩ := List.ne_and_not_mem_of_not_mem_cons hcs
      have hc : ¬ (c == '\n') = true := by simpa using Ne.symm hc
      rw [List.cons_append, List.splitOn_cons_eq_if_modifyHead, if_neg hc, ih hcs]
      cases ds.splitOn '\n' <;> rfl
  unfold lines
  rw [String.toList_append, hchars _ _ h]
  cases t.toList.splitOn '\n' with
  | nil => rfl
  | cons first rest => simp

/-! ## Texts set apart by empty lines -/

theorem intersperse_ne_nil {α : Type} {x : α} {xs : List α} (h : xs ≠ []) :
    xs.intersperse x ≠ [] := by
  cases xs with
  | nil => exact absurd rfl h
  | cons y ys => cases ys <;> simp

theorem mem_intersperse {α : Type} {x y : α} : ∀ {xs : List α}, y ∈ xs → y ∈ xs.intersperse x
  | [_], h => h
  | z :: w :: rest, h => by
    rw [List.intersperse_cons_cons]
    rcases List.mem_cons.mp h with rfl | h
    · exact List.mem_cons_self
    · exact List.mem_cons_of_mem _ (List.mem_cons_of_mem _ (mem_intersperse h))

theorem intercalate_blank (ls : List String) :
    "\n\n".intercalate ls = unlines (ls.intersperse "") := by
  induction ls with
  | nil => rfl
  | cons l rest ih =>
    cases rest with
    | nil => simp [unlines]
    | cons m rest =>
      have hbelow : (m :: rest).intersperse "" ≠ [] := intersperse_ne_nil (List.cons_ne_nil m rest)
      have htwo (t : String) : "\n\n" ++ t = "\n" ++ ("\n" ++ t) := by
        rw [← String.append_assoc]
        rfl
      rw [String.intercalate_cons_cons, ih, List.intersperse_cons_cons,
        unlines_cons (List.cons_ne_nil _ _), unlines_cons hbelow]
      simp only [String.append_assoc, String.empty_append, htwo]

theorem lines_intercalate_blank (h : ls ≠ []) :
    lines ("\n\n".intercalate ls) = (ls.intersperse "").flatMap lines := by
  rw [intercalate_blank, lines_unlines (intersperse_ne_nil h)]

/-! ## Texts that begin with more than an empty line -/

def FirstLineFull (s : String) : Prop := ∃ first rest, lines s = first :: rest ∧ first ≠ ""

theorem firstLineFull_append (h : '\n' ∉ s.toList) (hs : s ≠ "") (t : String) :
    FirstLineFull (s ++ t) := by
  obtain ⟨first, rest, ht⟩ := List.exists_cons_of_ne_nil (lines_ne_nil t)
  refine ⟨s ++ first, rest, ?_, ?_⟩
  · rw [lines_append h, ht, List.modifyHead_cons]
  · simp [hs]

theorem firstLineFull_unlines {l : String} (h : FirstLineFull l) (ls : List String) :
    FirstLineFull (unlines (l :: ls)) := by
  obtain ⟨first, rest, hl, hfirst⟩ := h
  refine ⟨first, rest ++ ls.flatMap lines, ?_, hfirst⟩
  rw [lines_unlines (List.cons_ne_nil l ls), List.flatMap_cons, hl, List.cons_append]

theorem FirstLineFull.ne_empty (h : FirstLineFull s) : s ≠ "" := by
  rintro rfl
  obtain ⟨first, rest, hs, hfirst⟩ := h
  exact hfirst (List.cons.inj hs).1.symm

/-! ## Indented lines -/

theorem toList_spaces (n : Nat) : (spaces n).toList = List.replicate n ' ' := by
  simp [spaces]

theorem spaces_add (m n : Nat) : spaces (m + n) = spaces m ++ spaces n := by
  rw [spaces, spaces, spaces, ← String.ofList_append, List.replicate_append_replicate]

theorem not_mem_spaces {c : Char} (h : c ≠ ' ') (n : Nat) : c ∉ (spaces n).toList := by
  rw [toList_spaces]
  exact fun hc => h (List.eq_of_mem_replicate hc)

theorem indentLine_empty (n : Nat) : indentLine n "" = "" := rfl

theorem indentLine_of_ne (h : s ≠ "") : indentLine n s = spaces n ++ s := by
  rw [indentLine, if_neg (by simpa using h)]

theorem not_mem_indentLine (h : '\n' ∉ s.toList) : '\n' ∉ (indentLine n s).toList := by
  unfold indentLine
  split
  · exact h
  · rw [String.toList_append, List.mem_append, not_or]
    exact ⟨not_mem_spaces (by decide) n, h⟩

theorem mem_indentLines {l : String} (h : l ∈ indentLines n ls) :
    l ∈ ls ∨ ∃ m ∈ ls, l = indentLine n m := by
  cases ls with
  | nil => exact absurd h List.not_mem_nil
  | cons first rest =>
    rcases List.mem_cons.mp h with rfl | h
    · exact Or.inl List.mem_cons_self
    · obtain ⟨m, hm, rfl⟩ := List.mem_map.mp h
      exact Or.inr ⟨m, List.mem_cons_of_mem first hm, rfl⟩

theorem indentLines_ne_nil (h : ls ≠ []) : indentLines n ls ≠ [] := by
  cases ls with
  | nil => exact absurd rfl h
  | cons first rest => exact List.cons_ne_nil _ _

theorem lines_indent (n : Nat) (s : String) : lines (indent n s) = indentLines n (lines s) := by
  unfold indent
  refine lines_unlines_of_lines (indentLines_ne_nil (lines_ne_nil s)) fun l hl => ?_
  rcases mem_indentLines hl with hl | ⟨m, hm, rfl⟩
  · exact not_mem_of_mem_lines hl
  · exact not_mem_indentLine (not_mem_of_mem_lines hm)

/-- A text that begins with more than an empty line, indented as a whole. -/
theorem lines_indent_whole (h : FirstLineFull s) :
    lines (spaces n ++ indent n s) = (lines s).map (indentLine n) := by
  obtain ⟨first, rest, hs, hfirst⟩ := h
  rw [lines_append (not_mem_spaces (by decide) n), lines_indent, hs]
  simp [indentLines, indentLine, hfirst]

end EventHeader.Text
