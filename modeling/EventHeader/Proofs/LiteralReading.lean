import EventHeader.Text.Literal
import Mathlib.Data.List.Basic

/- String literals read back. A reader knows nothing of how literals are written: it
   goes from the opening quote to the first quote that is no part of an escape,
   undoes the escapes and refuses a raw line ending. What it reads from a written
   literal is the text that was written, and what stands behind the literal is left
   over (`readLiteral_literal`), so no text ends its literal early or runs past it. Nor
   does one leave its line, since what ends a line is never written as it is
   (`not_mem_literal`). -/
namespace EventHeader.Text

/-- What an escape stands for, by the character after its backslash. -/
def escaped? : Char → Option Char
  | '\\' => some '\\'
  | '"' => some '"'
  | 'n' => some '\n'
  | 'r' => some '\r'
  | 't' => some '\t'
  | _ => none

/-- Reads the characters of a literal up to its closing quote, and what stands behind. -/
def readBody : List Char → Option (List Char × List Char)
  | [] => none
  | '\\' :: e :: rest => (escaped? e).bind fun c => (readBody rest).map fun r => (c :: r.1, r.2)
  | c :: rest =>
    if c = '"' then some ([], rest)
    else if c = '\\' ∨ c = '\n' ∨ c = '\r' then none
    else (readBody rest).map fun r => (c :: r.1, r.2)

/-- Reads a literal at the start of a text, and what stands behind it. -/
def readLiteral : List Char → Option (String × List Char)
  | [] => none
  | c :: rest =>
    if c = '"' then (readBody rest).map fun r => (String.ofList r.1, r.2) else none

theorem readBody_literalChar (c : Char) (rest : List Char) :
    readBody (literalChar c ++ rest) = (readBody rest).map fun r => (c :: r.1, r.2) := by
  unfold literalChar
  split
  case h_6 hbackslash hquote hfeed hreturn _ =>
    -- A character that is written as it is means nothing else to the reader.
    have hplain : ¬ (c = '\\' ∨ c = '\n' ∨ c = '\r') := by
      rintro (h | h | h)
      · exact hbackslash h
      · exact hfeed h
      · exact hreturn h
    rw [List.singleton_append, readBody.eq_3 _ _ fun _ _ he => absurd he hbackslash,
      if_neg hquote, if_neg hplain]
  all_goals rfl

theorem readBody_flatMap (cs rest : List Char) :
    readBody (cs.flatMap literalChar ++ '"' :: rest) = some (cs, rest) := by
  induction cs with
  | nil => rfl
  | cons c cs ih =>
    rw [List.flatMap_cons, List.append_assoc, readBody_literalChar, ih, Option.map_some]

/-- A written literal is read as the text it was written for. -/
theorem readLiteral_literal (s : String) (rest : List Char) :
    readLiteral ((literal s).toList ++ rest) = some (s, rest) := by
  have hchars : (literal s).toList ++ rest =
      '"' :: (s.toList.flatMap literalChar ++ '"' :: rest) := by simp [literal]
  rw [hchars, readLiteral, if_pos rfl, readBody_flatMap, Option.map_some, String.ofList_toList]

/-! ## What is never written as it is -/

def controls : List Char := ['\n', '\r', '\t']

variable {d : Char}

theorem not_mem_literalChar (h : d ∈ controls) (c : Char) : d ∉ literalChar c := by
  simp only [controls, List.mem_cons, List.not_mem_nil, or_false] at h
  unfold literalChar
  split
  case h_6 hfeed hreturn htab =>
    -- A character that is written as it is is none of the three.
    intro hd
    rw [List.mem_singleton.mp hd] at h
    rcases h with h | h | h
    · exact hfeed h
    · exact hreturn h
    · exact htab h
  all_goals rcases h with rfl | rfl | rfl <;> decide

theorem not_mem_flatMap_literalChar (h : d ∈ controls) (cs : List Char) :
    d ∉ cs.flatMap literalChar := by
  intro hd
  obtain ⟨c, -, hc⟩ := List.mem_flatMap.mp hd
  exact not_mem_literalChar h c hc

/-- A literal stands on one line, whatever its text. -/
theorem not_mem_literal (h : d ∈ controls) (s : String) : d ∉ (literal s).toList := by
  have hquote : d ≠ '"' := fun hd => absurd (hd ▸ h) (by decide)
  have hbody := not_mem_flatMap_literalChar h s.toList
  rw [literal, String.toList_ofList]
  simp [hquote, hbody]

end EventHeader.Text
