import EventHeader.Identifier

/- Where identifiers made from texts begin. Every identifier of a text begins with a
   capital of ASCII or an underscore (`ofText_initial`), since words are joined each
   with a capital and a digit in front is protected. A name made of a path is put
   together from the names of its parts (`ofPath_append`) and has at least one such
   character for every text of the path (`length_le_initials`), so it gets longer with
   each (`length_ofPath_lt`). -/
namespace EventHeader.Identifier

/-- Whether a character may begin the identifier of a text. -/
def isInitial (c : Char) : Bool := c.isUpper || c == '_'

theorem forall_ascii {P : Char → Prop} (h : ∀ n < 128, P (Char.ofNat n)) {c : Char}
    (hc : c.toNat < 128) : P c := by
  have := h c.toNat hc
  rwa [Char.ofNat_toNat] at this

theorem ascii_of_isWordChar {c : Char} (h : isWordChar c = true) : c.toNat < 128 := by
  have hbelow (d : Char) (hd : d.toNat < 128) (hc : c.val ≤ d.val) : c.toNat < 128 :=
    Nat.lt_of_le_of_lt (UInt32.le_iff_toNat_le.mp hc) hd
  have h : (((c.isUpper || c.isLower) || c.isDigit) || c == '_') = true := h
  simp only [Bool.or_eq_true] at h
  rcases h with ((hupper | hlower) | hdigit) | hscore
  · have hc : c.val ≥ 'A'.val ∧ c.val ≤ 'Z'.val := of_decide_eq_true hupper
    exact hbelow 'Z' (by decide) hc.2
  · have hc : decide (c.val ≤ 'z'.val) = true := (Bool.and_eq_true_iff.mp hlower).2
    exact hbelow 'z' (by decide) (of_decide_eq_true hc)
  · have hc : decide (c.val ≤ '9'.val) = true := (Bool.and_eq_true_iff.mp hdigit).2
    exact hbelow '9' (by decide) (of_decide_eq_true hc)
  · rw [eq_of_beq hscore]
    decide

/-! ## Upper case within ASCII -/

theorem upperRuns_beyond_ascii : ∀ run ∈ Text.upperRuns.tail, 128 ≤ run.1 := by decide +kernel

theorem upperSequences_beyond_ascii : ∀ e ∈ Text.upperSequences, 128 ≤ e.1 := by decide +kernel

/-- Of the characters of ASCII only the small letters have another upper case. -/
theorem upperChar_of_ascii {c : Char} (h : c.toNat < 128) : Text.upperChar c = [c.toUpper] := by
  -- The first run of the table is that of the small letters; all else lies beyond ASCII.
  have hruns : Text.upperRuns = (97, 122, 1, 65) :: Text.upperRuns.tail := rfl
  have hrest : Text.upperRuns.tail.find? (Text.inCaseRun c.toNat) = none := by
    rw [List.find?_eq_none]
    intro run hrun
    have := upperRuns_beyond_ascii run hrun
    simp only [Text.inCaseRun, Bool.and_eq_true, decide_eq_true_eq, not_and]
    omega
  have hsequences : Text.upperSequences.find? (fun e => e.1 == c.toNat) = none := by
    rw [List.find?_eq_none]
    intro e he
    have := upperSequences_beyond_ascii e he
    simp only [beq_iff_eq]
    omega
  have hsmall : (if Text.inCaseRun c.toNat (97, 122, 1, 65) then
      [Char.ofNat (65 + (c.toNat - 97))] else [c]) = [c.toUpper] :=
    forall_ascii (P := fun c => (if Text.inCaseRun c.toNat (97, 122, 1, 65) then
      [Char.ofNat (65 + (c.toNat - 97))] else [c]) = [c.toUpper]) (by decide +kernel) h
  unfold Text.upperChar
  rw [hruns, List.find?_cons, ← hsmall]
  cases Text.inCaseRun c.toNat (97, 122, 1, 65) with
  | true => rfl
  | false => simp [hrest, hsequences]

theorem toUpper_of_isWordChar {c : Char} (h : isWordChar c = true) :
    isInitial c.toUpper = true ∨ c.toUpper.isDigit = true :=
  forall_ascii (P := fun c => isWordChar c = true →
    isInitial c.toUpper = true ∨ c.toUpper.isDigit = true) (by decide +kernel)
    (ascii_of_isWordChar h) h

/-! ## The first character -/

theorem joinWords_head {c : Char} {rest : List Char} :
    ∀ {cs : List Char}, joinWords true cs = c :: rest → isInitial c = true ∨ c.isDigit = true
  | [], h => by cases h
  | d :: ds, h => by
    simp only [joinWords] at h
    split at h
    · rename_i hd
      rw [if_pos trivial, upperChar_of_ascii (ascii_of_isWordChar hd)] at h
      rw [← (List.cons.inj h).1]
      exact toUpper_of_isWordChar hd
    · exact joinWords_head h

theorem protect_head (cs : List Char) :
    ∃ c rest, protect (joinWords true cs) = c :: rest ∧ isInitial c = true := by
  cases h : joinWords true cs with
  | nil => exact ⟨'_', [], rfl, by decide⟩
  | cons c rest =>
    simp only [protect]
    split
    · exact ⟨'_', c :: rest, rfl, by decide⟩
    · rename_i hc
      exact ⟨c, rest, rfl, (joinWords_head h).resolve_right hc⟩

theorem ofText_initial (s : String) :
    ∃ c rest, (ofText s).toList = c :: rest ∧ isInitial c = true := by
  unfold ofText
  rw [String.toList_ofList]
  exact protect_head s.toList

/-! ## Names of paths -/

theorem ofPath_cons (s : String) (path : List String) :
    ofPath (s :: path) = ofText s ++ ofPath path := by
  simp [ofPath]

@[simp] theorem ofPath_singleton (s : String) : ofPath [s] = ofText s := by
  simp [ofPath]

theorem ofPath_append (path more : List String) :
    ofPath (path ++ more) = ofPath path ++ ofPath more := by
  induction path with
  | nil => simp [ofPath]
  | cons s path ih => rw [List.cons_append, ofPath_cons, ofPath_cons, ih, String.append_assoc]

theorem ofText_length_pos (s : String) : 0 < (ofText s).length := by
  obtain ⟨c, rest, hs, -⟩ := ofText_initial s
  rw [← String.length_toList, hs]
  exact Nat.succ_pos _

theorem length_ofPath_lt {path more : List String} (h : more ≠ []) :
    (ofPath path).length < (ofPath (path ++ more)).length := by
  obtain ⟨s, rest, rfl⟩ := List.exists_cons_of_ne_nil h
  have hpos := ofText_length_pos s
  rw [ofPath_append, ofPath_cons, String.length_append, String.length_append]
  omega

/-- Each text of a path leaves a capital or an underscore in its name. -/
theorem length_le_initials (path : List String) :
    path.length ≤ (ofPath path).toList.countP isInitial := by
  induction path with
  | nil => exact Nat.zero_le _
  | cons s path ih =>
    obtain ⟨c, rest, hs, hc⟩ := ofText_initial s
    rw [ofPath_cons, String.toList_append, List.countP_append, hs, List.countP_cons_of_pos hc,
      List.length_cons]
    omega

end EventHeader.Identifier
