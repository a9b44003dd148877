import EventHeader.Proofs.IdentifierCapitals

/- The shape of identifiers. What is made of a text is an identifier of C++ that begins
   with a capital or an underscore (`isIdentifier_ofText`), and so is the name of a path
   that is not empty (`isIdentifier_ofPath`). Every character of them is a letter, a
   digit or an underscore of ASCII, so they stay on one line and end where something
   else begins. -/
namespace EventHeader.Identifier

/-- Letters, digits and underscores of ASCII, with a capital or an underscore in front. -/
structure IsIdentifier (s : String) : Prop where
  initial : ∃ c rest, s.toList = c :: rest ∧ isInitial c = true
  wordChars : ∀ c ∈ s.toList, isWordChar c = true

variable {c : Char} {cs : List Char} {path : List String}

theorem isWordChar_toUpper (h : isWordChar c = true) : isWordChar c.toUpper = true :=
  forall_ascii (P := fun c => isWordChar c = true → isWordChar c.toUpper = true)
    (by decide +kernel) (ascii_of_isWordChar h) h

theorem isWordChar_of_mem_joinWords :
    ∀ {fresh : Bool} {cs : List Char}, c ∈ joinWords fresh cs → isWordChar c = true
  | _, [], h => absurd h List.not_mem_nil
  | fresh, d :: ds, h => by
    simp only [joinWords] at h
    split at h
    · rename_i hd
      rcases List.mem_append.mp h with h | h
      · rw [upperChar_of_ascii (ascii_of_isWordChar hd)] at h
        cases fresh with
        | true => rw [List.mem_singleton.mp h]; exact isWordChar_toUpper hd
        | false => rw [List.mem_singleton.mp h]; exact hd
      · exact isWordChar_of_mem_joinWords h
    · exact isWordChar_of_mem_joinWords h

theorem isWordChar_of_mem_protect (h : ∀ c ∈ cs, isWordChar c = true) :
    ∀ c ∈ protect cs, isWordChar c = true := by
  have hscore : isWordChar '_' = true := by decide
  cases cs with
  | nil => simpa [protect] using hscore
  | cons d ds =>
    simp only [protect]
    split
    · exact List.forall_mem_cons.mpr ⟨hscore, h⟩
    · exact h

theorem isIdentifier_ofText (s : String) : IsIdentifier (ofText s) where
  initial := ofText_initial s
  wordChars := by
    unfold ofText
    rw [String.toList_ofList]
    exact isWordChar_of_mem_protect fun c hc => isWordChar_of_mem_joinWords hc

theorem isWordChar_of_mem_ofPath (path : List String) :
    ∀ c ∈ (ofPath path).toList, isWordChar c = true := by
  induction path with
  | nil => simp [ofPath]
  | cons s path ih =>
    rw [ofPath_cons, String.toList_append]
    exact List.forall_mem_append.mpr ⟨(isIdentifier_ofText s).wordChars, ih⟩

theorem isIdentifier_ofPath (h : path ≠ []) : IsIdentifier (ofPath path) where
  initial := by
    obtain ⟨s, path, rfl⟩ := List.exists_cons_of_ne_nil h
    obtain ⟨c, rest, hs, hc⟩ := ofText_initial s
    exact ⟨c, rest ++ (ofPath path).toList, by rw [ofPath_cons, String.toList_append, hs]; rfl, hc⟩
  wordChars := isWordChar_of_mem_ofPath path

theorem newline_not_mem {s : String} (h : ∀ c ∈ s.toList, isWordChar c = true) :
    '\n' ∉ s.toList := by
  intro hn
  exact absurd (h '\n' hn) (by decide)

end EventHeader.Identifier
