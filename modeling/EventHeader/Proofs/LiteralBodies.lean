import EventHeader.Proofs.LiteralReading

/- What stands between the quotes of a literal. The five characters that cannot stand there
   as they are may be escaped one after another, each throughout the text that the
   replacements before it have left. In general this is not the same as escaping each
   character once, since a later pass can find its character in what an earlier one has put
   in; where no pass does so, it is (`inPasses_eq`). The passes of literals are of this kind
   because the backslash comes first.

   The reader of bodies knows the five escapes and nothing of how literals are written. It
   refuses all that is no body: the five characters as they are, and a backslash before
   anything else. So it is stricter than the reader of a whole literal, and of all bodies
   it reads a text from the one that is written for it only (`readEscapes_eq_some_iff`). -/
namespace EventHeader.Text
variable {c e : Char} {cs text word : List Char} {passes : List (Char × List Char)}

/-! ## One pass after another -/

/-- The characters with `word` in place of every `c`. -/
def replaceAll (c : Char) (word : List Char) : List Char → List Char
  | [] => []
  | d :: ds => if d = c then word ++ replaceAll c word ds else d :: replaceAll c word ds

/-- What is left when each pass replaces its character in what the passes before it have left. -/
def inPasses : List (Char × List Char) → List Char → List Char
  | [], cs => cs
  | (c, word) :: rest, cs => inPasses rest (replaceAll c word cs)

/-- What the first pass for a character puts in its place. -/
def atOnce : List (Char × List Char) → Char → List Char
  | [], c => [c]
  | (d, word) :: rest, c => if c = d then word else atOnce rest c

/-- The passes that escape a text. -/
def literalPasses : List (Char × List Char) :=
  [('\\', ['\\', '\\']), ('"', ['\\', '"']), ('\n', ['\\', 'n']), ('\r', ['\\', 'r']),
    ('\t', ['\\', 't'])]

theorem replaceAll_eq (c : Char) (word cs : List Char) :
    replaceAll c word cs = cs.flatMap fun d => if d = c then word else [d] := by
  induction cs with
  | nil => rfl
  | cons d ds ih =>
    rw [replaceAll, List.flatMap_cons, ih]
    split <;> rfl

theorem atOnce_of_not_mem (h : ∀ p ∈ passes, p.1 ≠ c) : atOnce passes c = [c] := by
  induction passes with
  | nil => rfl
  | cons p rest ih =>
    obtain ⟨hp, hrest⟩ := List.forall_mem_cons.mp h
    rw [atOnce, if_neg (Ne.symm hp), ih hrest]

theorem flatMap_atOnce (h : ∀ p ∈ passes, p.1 ∉ cs) : cs.flatMap (atOnce passes) = cs := by
  have hsingle : ∀ c ∈ cs, atOnce passes c = [c] := by
    intro c hc
    apply atOnce_of_not_mem
    intro p hp heq
    rw [← heq] at hc
    exact h p hp hc
  rw [List.flatMap_congr hsingle, List.flatMap_singleton']

/-- Passes of which none finds its character in what those before it have put in do the same,
one after another, as a single pass that replaces each character once. -/
theorem inPasses_eq (h : passes.Pairwise fun p q => q.1 ∉ p.2) (cs : List Char) :
    inPasses passes cs = cs.flatMap (atOnce passes) := by
  induction passes generalizing cs with
  | nil => exact (List.flatMap_singleton' cs).symm
  | cons p rest ih =>
    obtain ⟨c, word⟩ := p
    obtain ⟨hword, hrest⟩ := List.pairwise_cons.mp h
    -- What this pass puts in is left alone by the later ones.
    have hlater : word.flatMap (atOnce rest) = word := flatMap_atOnce hword
    have hchar : ∀ d, (if d = c then word else [d]).flatMap (atOnce rest) =
        atOnce ((c, word) :: rest) d := by
      intro d
      rw [atOnce]
      split
      · exact hlater
      · exact List.flatMap_singleton (atOnce rest) d
    calc inPasses rest (replaceAll c word cs)
        = (replaceAll c word cs).flatMap (atOnce rest) := ih hrest _
      _ = cs.flatMap fun d => (if d = c then word else [d]).flatMap (atOnce rest) := by
          rw [replaceAll_eq, List.flatMap_assoc]
      _ = cs.flatMap (atOnce ((c, word) :: rest)) := List.flatMap_congr fun d _ => hchar d

theorem atOnce_literalPasses (c : Char) : atOnce literalPasses c = literalChar c := by
  unfold literalChar
  split
  case h_6 hbackslash hquote hfeed hreturn htab =>
    apply atOnce_of_not_mem
    simp [literalPasses, Ne.symm hbackslash, Ne.symm hquote, Ne.symm hfeed, Ne.symm hreturn,
      Ne.symm htab]
  all_goals rfl

theorem inPasses_literalPasses (cs : List Char) :
    inPasses literalPasses cs = cs.flatMap literalChar := by
  have horder : literalPasses.Pairwise fun p q => q.1 ∉ p.2 := by decide
  rw [inPasses_eq horder, funext atOnce_literalPasses]

/-- With the backslash last, its pass finds those that the others have put in. -/
example : inPasses [('"', ['\\', '"']), ('\\', ['\\', '\\'])] ['"'] = ['\\', '\\', '"'] := by decide

/-! ## Bodies -/

/-- Whether a character stands for itself in a body. -/
def IsPlain (c : Char) : Prop := c ∉ ['\\', '"', '\n', '\r', '\t']

instance : DecidablePred IsPlain := fun c =>
  inferInstanceAs (Decidable (c ∉ ['\\', '"', '\n', '\r', '\t']))

/-- Characters that stand for themselves, and escapes. -/
inductive IsBody : List Char → Prop
  | nil : IsBody []
  | plain {c : Char} {cs : List Char} : IsPlain c → IsBody cs → IsBody (c :: cs)
  | escape {e c : Char} {cs : List Char} : escaped? e = some c → IsBody cs →
      IsBody ('\\' :: e :: cs)

/-- Reads a body to its end and undoes the escapes. -/
def readEscapes : List Char → Option (List Char)
  | [] => some []
  | '\\' :: e :: cs => (escaped? e).bind fun c => (readEscapes cs).map (c :: ·)
  | c :: cs => if IsPlain c then (readEscapes cs).map (c :: ·) else none

theorem literalChar_of_plain (h : IsPlain c) : literalChar c = [c] := by
  unfold literalChar
  split
  case h_6 => rfl
  all_goals exact absurd h (by decide)

theorem literalChar_of_escaped (h : escaped? e = some c) : literalChar c = ['\\', e] := by
  unfold escaped? at h
  split at h
  case h_6 => cases h
  all_goals
    cases h
    rfl

theorem literalChar_cases (c : Char) :
    (IsPlain c ∧ literalChar c = [c]) ∨ ∃ e, escaped? e = some c ∧ literalChar c = ['\\', e] := by
  by_cases h : IsPlain c
  · exact Or.inl ⟨h, literalChar_of_plain h⟩
  · right
    rw [IsPlain, not_not] at h
    simp only [List.mem_cons, List.not_mem_nil, or_false] at h
    rcases h with rfl | rfl | rfl | rfl | rfl
    all_goals exact ⟨_, rfl, rfl⟩

theorem readEscapes_plain (h : IsPlain c) (cs : List Char) :
    readEscapes (c :: cs) = (readEscapes cs).map (c :: ·) := by
  have hbackslash : c ≠ '\\' := fun hc => absurd h (hc ▸ by decide)
  rw [readEscapes.eq_3 _ _ fun _ _ hc => absurd hc hbackslash, if_pos h]

theorem readEscapes_escape (h : escaped? e = some c) (cs : List Char) :
    readEscapes ('\\' :: e :: cs) = (readEscapes cs).map (c :: ·) := by
  rw [readEscapes, h, Option.bind_some]

theorem isBody_flatMap (text : List Char) : IsBody (text.flatMap literalChar) := by
  induction text with
  | nil => exact .nil
  | cons c cs ih =>
    rw [List.flatMap_cons]
    obtain ⟨hc, hwritten⟩ | ⟨e, he, hwritten⟩ := literalChar_cases c
    · rw [hwritten]
      exact .plain hc ih
    · rw [hwritten]
      exact .escape he ih

theorem readEscapes_flatMap (text : List Char) :
    readEscapes (text.flatMap literalChar) = some text := by
  induction text with
  | nil => rfl
  | cons c cs ih =>
    rw [List.flatMap_cons]
    obtain ⟨hc, hwritten⟩ | ⟨e, he, hwritten⟩ := literalChar_cases c
    · rw [hwritten, List.singleton_append, readEscapes_plain hc, ih, Option.map_some]
    · rw [hwritten, List.cons_append, List.singleton_append, readEscapes_escape he, ih,
        Option.map_some]

/-- What is read from a body is written as this body. -/
theorem eq_flatMap_of_readEscapes {body : List Char} (h : readEscapes body = some text) :
    body = text.flatMap literalChar := by
  -- By the cases of the reader: the end, an escape, a character that is plain, one that is not.
  fun_induction readEscapes body generalizing text with
  | case1 =>
    cases h
    rfl
  | case2 e cs ih =>
    obtain ⟨c, hc, hrest⟩ := Option.bind_eq_some_iff.mp h
    obtain ⟨rest, hread, rfl⟩ := Option.map_eq_some_iff.mp hrest
    rw [List.flatMap_cons, literalChar_of_escaped hc, ← ih hread]
    rfl
  | case3 c cs _ hplain ih =>
    obtain ⟨rest, hread, rfl⟩ := Option.map_eq_some_iff.mp h
    rw [List.flatMap_cons, literalChar_of_plain hplain, ← ih hread]
    rfl
  | case4 c cs _ hplain => cases h

/-- A text is read from the body that is written for it, and from no other. -/
theorem readEscapes_eq_some_iff {body : List Char} :
    readEscapes body = some text ↔ body = text.flatMap literalChar :=
  ⟨eq_flatMap_of_readEscapes, fun h => h ▸ readEscapes_flatMap text⟩

/-! ## Literals -/

theorem toList_literal (s : String) :
    (literal s).toList = '"' :: s.toList.flatMap literalChar ++ ['"'] := String.toList_ofList

theorem literal_inj {s t : String} : literal t = literal s ↔ t = s := by
  constructor
  · intro h
    have hread := readLiteral_literal t []
    rw [h, readLiteral_literal] at hread
    exact (Prod.mk.inj (Option.some.inj hread)).1.symm
  · exact congrArg literal

/-- Between its two quotes a literal has a body, without a line feed, a carriage return or a tab
in it, from which the text is read again by undoing the escapes, and from no other. It is what
five passes over the text make of it, and what escaping each character once makes of it; and
literals of two texts differ. -/
theorem literal_body_reads_back (s : String) :
    (∃ body, (literal s).toList = '"' :: body ++ ['"'] ∧
      (∀ c ∈ controls, c ∉ body) ∧ IsBody body ∧
      (∀ other, readEscapes other = some s.toList ↔ other = body) ∧
      body = inPasses literalPasses s.toList ∧ body = s.toList.flatMap literalChar) ∧
    ∀ t, literal t = literal s ↔ t = s := by
  refine ⟨⟨_, toList_literal s, ?_, isBody_flatMap s.toList, ?_, ?_, rfl⟩, fun t => literal_inj⟩
  · intro c hc
    exact not_mem_flatMap_literalChar hc s.toList
  · intro other
    exact readEscapes_eq_some_iff
  · exact (inPasses_literalPasses s.toList).symm

/-- A backslash before a letter, one before a quote, and a line feed. -/
def escapedLooking : String := "\\n\\\"\n"

theorem literal_body_reads_back_escaped :
    ∃ body, (literal escapedLooking).toList = '"' :: body ++ ['"'] ∧
      body = ['\\', '\\', 'n', '\\', '\\', '\\', '"', '\\', 'n'] ∧
      readEscapes body = some escapedLooking.toList ∧
      body = inPasses literalPasses escapedLooking.toList ∧
      '\n' ∈ controls ∧ '\n' ∉ body := by
  obtain ⟨⟨body, hliteral, hraw, -, hread, hpasses, hwritten⟩, -⟩ :=
    literal_body_reads_back escapedLooking
  have hfeed : '\n' ∈ controls := by decide
  refine ⟨body, hliteral, ?_, (hread body).mpr rfl, hpasses, hfeed, hraw '\n' hfeed⟩
  rw [hwritten]
  decide

end EventHeader.Text
