import EventHeader.Proofs.IdentifierShape

/- What an identifier keeps of its text. Making an identifier drops what separates words and
   puts capitals where words begin, so the letters, digits and underscores of the text stand in
   it in their order, whatever their case (`lowered_joinWords`). An underscore comes in front of
   them only where they could begin no identifier (`unfit_joinWords`). What is an identifier
   already is left alone (`ofText_of_isIdentifier`), so making one a second time changes
   nothing (`ofText_keeps_characters`). -/
namespace EventHeader.Identifier

def lowered (cs : List Char) : List Char := cs.map Char.toLower

/-- The letters, digits and underscores of a text, in order. -/
def kept (s : String) : List Char := s.toList.filter isWordChar

/-- Whether characters can begin no identifier: there are none, or a digit comes first. -/
def unfit : List Char → Bool
  | [] => true
  | c :: _ => c.isDigit

variable {c : Char} {cs ds : List Char} {s : String}

/-! ## What is an identifier already -/

theorem toUpper_of_isInitial (hc : isWordChar c = true) (h : isInitial c = true) : c.toUpper = c :=
  forall_ascii (P := fun c => isInitial c = true → c.toUpper = c) (by decide +kernel)
    (ascii_of_isWordChar hc) h

theorem not_isDigit_of_isInitial (hc : isWordChar c = true) (h : isInitial c = true) :
    c.isDigit = false :=
  forall_ascii (P := fun c => isInitial c = true → c.isDigit = false) (by decide +kernel)
    (ascii_of_isWordChar hc) h

theorem joinWords_of_wordChars (h : ∀ c ∈ cs, isWordChar c = true) : joinWords false cs = cs := by
  induction cs with
  | nil => rfl
  | cons c cs ih =>
    obtain ⟨hc, hcs⟩ := List.forall_mem_cons.mp h
    rw [joinWords, if_pos hc, ih hcs]
    rfl

/-- An identifier that begins like one made of a text is the identifier of itself. -/
theorem ofText_of_isIdentifier (h : IsIdentifier s) : ofText s = s := by
  obtain ⟨c, rest, hs, hinitial⟩ := h.initial
  have hchars := h.wordChars
  rw [hs] at hchars
  obtain ⟨hc, hrest⟩ := List.forall_mem_cons.mp hchars
  have hjoined : joinWords true (c :: rest) = c :: rest := by
    rw [joinWords, if_pos hc, joinWords_of_wordChars hrest, if_pos rfl,
      upperChar_of_ascii (ascii_of_isWordChar hc), toUpper_of_isInitial hc hinitial]
    rfl
  have hprotected : protect (c :: rest) = c :: rest := by
    rw [protect, not_isDigit_of_isInitial hc hinitial]
    rfl
  rw [ofText, hs, hjoined, hprotected, ← hs, String.ofList_toList]

/-! ## What is kept of a text -/

theorem toLower_toUpper (h : isWordChar c = true) : c.toUpper.toLower = c.toLower :=
  forall_ascii (P := fun c => c.toUpper.toLower = c.toLower) (by decide +kernel)
    (ascii_of_isWordChar h)

theorem isDigit_toLower (h : isWordChar c = true) : c.toLower.isDigit = c.isDigit :=
  forall_ascii (P := fun c => c.toLower.isDigit = c.isDigit) (by decide +kernel)
    (ascii_of_isWordChar h)

/-- Joining words keeps their characters in order, whatever their case. -/
theorem lowered_joinWords (fresh : Bool) (cs : List Char) :
    lowered (joinWords fresh cs) = lowered (cs.filter isWordChar) := by
  induction cs generalizing fresh with
  | nil => rfl
  | cons c cs ih =>
    rw [joinWords]
    cases hc : isWordChar c with
    | false =>
      rw [List.filter_cons_of_neg (by simp [hc])]
      exact ih true
    | true =>
      -- A character that begins a word is made a capital, any other stays as it is.
      have hfirst : lowered (if fresh = true then Text.upperChar c else [c]) = [c.toLower] := by
        cases fresh with
        | true =>
          rw [if_pos rfl, upperChar_of_ascii (ascii_of_isWordChar hc), ← toLower_toUpper hc]
          rfl
        | false => rfl
      rw [List.filter_cons_of_pos hc, if_pos rfl]
      unfold lowered at ih hfirst ⊢
      rw [List.map_append, hfirst, ih false]
      rfl

theorem unfit_congr (hcs : ∀ c ∈ cs, isWordChar c = true) (hds : ∀ c ∈ ds, isWordChar c = true)
    (h : lowered cs = lowered ds) : unfit cs = unfit ds := by
  cases cs with
  | nil =>
    rw [List.map_eq_nil_iff.mp h.symm]
  | cons c cs =>
    cases ds with
    | nil => cases h
    | cons d ds =>
      have hlower : c.toLower = d.toLower := (List.cons.inj h).1
      have hc := isDigit_toLower (hcs c List.mem_cons_self)
      have hd := isDigit_toLower (hds d List.mem_cons_self)
      rw [unfit, unfit, ← hc, hlower, hd]

theorem unfit_joinWords (s : String) : unfit (joinWords true s.toList) = unfit (kept s) :=
  unfit_congr (fun _ hc => isWordChar_of_mem_joinWords hc)
    (fun _ hc => (List.mem_filter.mp hc).2) (lowered_joinWords true s.toList)

theorem protect_eq (cs : List Char) : protect cs = if unfit cs then '_' :: cs else cs := by
  cases cs with
  | nil => rfl
  | cons c cs => rfl

/-- An identifier has the characters that are kept of its text, behind an underscore where these
could begin none. -/
theorem lowered_ofText (s : String) :
    lowered (ofText s).toList = lowered (if unfit (kept s) then '_' :: kept s else kept s) := by
  have hjoined : lowered (joinWords true s.toList) = lowered (kept s) :=
    lowered_joinWords true s.toList
  rw [ofText, String.toList_ofList, protect_eq, unfit_joinWords]
  cases unfit (kept s) with
  | false => exact hjoined
  | true => exact congrArg ('_'.toLower :: ·) hjoined

/-- Every text is made an identifier that begins with a capital or an underscore, so it is no
word that begins with a small letter, as all keywords do. It is the identifier of itself, and
whatever their case its characters are the letters, digits and underscores of the text in order,
with one underscore more in front exactly if there are none or a digit comes first. -/
theorem ofText_keeps_characters (s : String) :
    IsIdentifier (ofText s) ∧
    (∀ keyword : String, (∃ c rest, keyword.toList = c :: rest ∧ c.isLower = true) →
      ofText s ≠ keyword) ∧
    ofText (ofText s) = ofText s ∧
    lowered (ofText s).toList = lowered (if unfit (kept s) then '_' :: kept s else kept s) := by
  have hidentifier := isIdentifier_ofText s
  refine ⟨hidentifier, ?_, ofText_of_isIdentifier hidentifier, lowered_ofText s⟩
  rintro keyword ⟨c, rest, hkeyword, hlower⟩ rfl
  obtain ⟨d, others, hd, hinitial⟩ := hidentifier.initial
  obtain ⟨rfl, -⟩ := List.cons.inj (hkeyword.symm.trans hd)
  have hword := hidentifier.wordChars c (by rw [hd]; exact List.mem_cons_self)
  have hsmall := forall_ascii (P := fun c => isInitial c = true → c.isLower = false)
    (by decide +kernel) (ascii_of_isWordChar hword) hinitial
  rw [hlower] at hsmall
  cases hsmall

/-- Letters beyond ASCII separate words like everything else that is not kept. -/
example : ofText "2 größe_n" = "_2GrE_n" := by decide

end EventHeader.Identifier
