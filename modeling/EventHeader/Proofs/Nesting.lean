import EventHeader.Json.Reader
import Mathlib.Data.List.Infix

/- How deep the brackets of a text are nested. A scan goes through the text character by
   character and counts the brackets that are open, leaving out those in strings, so it has to
   know where strings begin and end (`Scan.step`). The text is nested as deep as the most
   brackets that are open at once (`nesting`). What a reader passes over takes a scan from one
   state to another (`Scan.Passes`), and what is left is nested no deeper than the whole
   (`Scan.Passes.deepest_le`). Outside of strings it is the characters that neither open nor
   close nor quote anything that leave a scan as it is (`Skips.passes`). -/
namespace EventHeader.Json
variable {cs rest more : List Char} {depth : Nat}

/-- Where a scan is: outside of strings, in one, or right behind a backslash in one. -/
inductive Zone where
  | outside
  | string
  | escape

/-- The state of a scan: where it is, and how many brackets are open there. -/
structure Scan where
  zone : Zone
  depth : Nat

namespace Scan
variable {s t u : Scan}

def step : Scan → Char → Scan
  | ⟨.outside, depth⟩, c =>
    if c = '"' then ⟨.string, depth⟩
    else if c = '[' ∨ c = '\x7b' then ⟨.outside, depth + 1⟩
    else if c = ']' ∨ c = '\x7d' then ⟨.outside, depth - 1⟩
    else ⟨.outside, depth⟩
  | ⟨.string, depth⟩, c =>
    if c = '"' then ⟨.outside, depth⟩
    else if c = '\\' then ⟨.escape, depth⟩
    else ⟨.string, depth⟩
  -- An escape of several characters goes on with some that stand for nothing else.
  | ⟨.escape, depth⟩, _ => ⟨.string, depth⟩

/-- The most brackets that are open at once in a text that the scan goes on with. -/
def deepest (s : Scan) : List Char → Nat
  | [] => s.depth
  | c :: cs => max s.depth ((s.step c).deepest cs)

theorem depth_le_deepest (s : Scan) (cs : List Char) : s.depth ≤ s.deepest cs := by
  cases cs with
  | nil => exact Nat.le_refl _
  | cons c cs => exact Nat.le_max_left _ _

/-! ## Passing over a part of a text -/

/-- The scan goes from one state to another on the way from a text to what is left of it. -/
def Passes (s : Scan) (cs : List Char) (t : Scan) (rest : List Char) : Prop :=
  ∃ front, front ++ rest = cs ∧ front.foldl step s = t

namespace Passes

theorem refl (s : Scan) (cs : List Char) : s.Passes cs s cs := ⟨[], rfl, rfl⟩

theorem trans (h : s.Passes cs t rest) (h' : t.Passes rest u more) : s.Passes cs u more := by
  obtain ⟨front, rfl, rfl⟩ := h
  obtain ⟨middle, rfl, rfl⟩ := h'
  exact ⟨front ++ middle, List.append_assoc _ _ _, List.foldl_append⟩

theorem of_take (n : Nat) (hrest : cs.drop n = rest) (hstate : (cs.take n).foldl step s = t) :
    s.Passes cs t rest :=
  ⟨cs.take n, hrest ▸ List.take_append_drop n cs, hstate⟩

theorem suffix (h : s.Passes cs t rest) : rest <:+ cs := by
  obtain ⟨front, rfl, -⟩ := h
  exact List.suffix_append front rest

theorem deepest_le (h : s.Passes cs t rest) : t.deepest rest ≤ s.deepest cs := by
  obtain ⟨front, rfl, rfl⟩ := h
  -- On the characters that were passed over, from whatever state the scan is in at the first.
  induction front generalizing s with
  | nil => exact Nat.le_refl _
  | cons c front ih => exact ih.trans (Nat.le_max_right _ _)

end Passes
end Scan

/-- How deep the brackets of a text are nested, those in strings not counted. -/
def nesting (cs : List Char) : Nat := (⟨.outside, 0⟩ : Scan).deepest cs

example : nesting ['[', '\x7b', '"', ']', '\\', '"', '[', '"', ':', '[', ']'] = 3 := by decide

/-! ## Characters that open, close and quote nothing -/

/-- Whether a character outside of strings leaves a scan as it is. -/
def isPlain (c : Char) : Bool := !(['"', '[', ']', '\x7b', '\x7d'].contains c)

theorem Scan.step_plain {c : Char} (h : isPlain c = true) :
    (⟨.outside, depth⟩ : Scan).step c = ⟨.outside, depth⟩ := by
  simp only [isPlain, List.contains_eq_mem, List.mem_cons, List.not_mem_nil, or_false, not_or,
    Bool.not_eq_true', decide_eq_false_iff_not] at h
  simp [Scan.step, h]

/-- What is left of a text behind plain characters. -/
def Skips (cs rest : List Char) : Prop :=
  ∃ front, front ++ rest = cs ∧ ∀ c ∈ front, isPlain c = true

namespace Skips

theorem refl (cs : List Char) : Skips cs cs := ⟨[], rfl, List.forall_mem_nil _⟩

theorem trans (h : Skips cs rest) (h' : Skips rest more) : Skips cs more := by
  obtain ⟨front, rfl, hfront⟩ := h
  obtain ⟨middle, rfl, hmiddle⟩ := h'
  exact ⟨front ++ middle, List.append_assoc _ _ _, List.forall_mem_append.mpr ⟨hfront, hmiddle⟩⟩

theorem of_take (n : Nat) (hrest : cs.drop n = rest) (hplain : (cs.take n).all isPlain = true) :
    Skips cs rest :=
  ⟨cs.take n, hrest ▸ List.take_append_drop n cs, List.all_eq_true.mp hplain⟩

theorem cons {c : Char} (hc : isPlain c = true) (h : Skips cs rest) : Skips (c :: cs) rest := by
  obtain ⟨front, rfl, hfront⟩ := h
  exact ⟨c :: front, rfl, List.forall_mem_cons.mpr ⟨hc, hfront⟩⟩

theorem dropWhile {p : Char → Bool} (hp : ∀ c, p c = true → isPlain c = true) (cs : List Char) :
    Skips cs (cs.dropWhile p) :=
  ⟨cs.takeWhile p, List.takeWhile_append_dropWhile,
    fun c hc => hp c (List.all_eq_true.mp List.all_takeWhile c hc)⟩

theorem passes (h : Skips cs rest) :
    (⟨.outside, depth⟩ : Scan).Passes cs ⟨.outside, depth⟩ rest := by
  obtain ⟨front, rfl, hfront⟩ := h
  refine ⟨front, rfl, ?_⟩
  induction front with
  | nil => rfl
  | cons c front ih =>
    obtain ⟨hc, hrest⟩ := List.forall_mem_cons.mp hfront
    rw [List.foldl_cons, Scan.step_plain hc]
    exact ih hrest

end Skips

theorem isPlain_of_isDigit {c : Char} (h : isDigit c = true) : isPlain c = true := by
  by_contra hplain
  simp only [isPlain, List.contains_eq_mem, List.mem_cons, List.not_mem_nil, or_false,
    Bool.not_eq_true, Bool.not_eq_false', decide_eq_true_eq] at hplain
  rcases hplain with rfl | rfl | rfl | rfl | rfl <;> exact absurd h (by decide)

theorem isPlain_of_isSpace {c : Char} (h : isSpace c = true) : isPlain c = true := by
  simp only [isSpace, Bool.or_eq_true, beq_iff_eq, or_assoc] at h
  rcases h with rfl | rfl | rfl | rfl <;> decide

theorem skipSpace_skips (cs : List Char) : Skips cs (skipSpace cs) :=
  .dropWhile (fun _ => isPlain_of_isSpace) cs

end EventHeader.Json
