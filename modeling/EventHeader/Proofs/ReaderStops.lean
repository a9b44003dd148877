import EventHeader.Proofs.Nesting

/- Why a JSON reader stops over something that is no fault of the text. Every reader takes what
   it reads off the front of its text and leaves the brackets balanced; a number stops it only
   if that many digits stand there one after another, and calls nested too deep only if brackets
   are (`ReadsFrom`). This holds of a sequence of readers if it holds of its parts
   (`ReadsFrom.bind`), so it is shown for strings and numbers and then, by induction on the
   fuel, for values, items and members at once (`read_readsFrom`). A whole text without such a
   run of digits is therefore never refused for a number (`longNumber_of_parse`), and one that
   leaves room for telling of a fault even where it is nested deepest is never refused for its
   nesting (`nesting_of_parse`). One nested deeper than the room is (`parse_brackets`). -/
namespace EventHeader.Json
variable {α β : Type} {cs front rest : List Char} {e : NumberTooLong} {room depth : Nat}
  {s t u : Scan}

/-- The digits of a number that is too long stand in a text one after another. -/
def LongNumber (cs : List Char) (e : NumberTooLong) : Prop :=
  ∃ ds, ds <:+: cs ∧ (∀ c ∈ ds, isDigit c = true) ∧ ds.length = e.digits ∧ maxDigits < e.digits

/-- What a reader gives for a text where a scan is in the state `s` comes off its front, up to
where the scan is in the state `t`. It is stopped only by a number whose digits are there, or
where too many brackets are open. -/
structure ReadsFrom (room : Nat) (s t : Scan) (cs : List Char)
    (x : Except Stop (α × List Char)) : Prop where
  rest : ∀ a rest, x = .ok (a, rest) → s.Passes cs t rest
  number : ∀ e, x = .error (.numberTooLong e) → LongNumber cs e
  deep : ∀ e, x = .error (.tooDeep e) → s.depth + room < s.deepest cs + faultCalls

namespace ReadsFrom

theorem ok {a : α} (h : s.Passes cs t rest) : ReadsFrom room s t cs (.ok (a, rest)) where
  rest := by
    rintro _ _ ⟨⟩
    exact h
  number := nofun
  deep := nofun

theorem stop (cause : SyntaxCause) (at_ : List Char) :
    ReadsFrom room s t cs (Json.stop cause at_ : Except Stop (α × List Char)) where
  rest := nofun
  number := nofun
  deep := nofun

theorem tooDeep (hroom : room < faultCalls) (e : TooDeep) :
    ReadsFrom room s t cs (.error (.tooDeep e) : Except Stop (α × List Char)) where
  rest := nofun
  number := nofun
  deep := by
    intro _ _
    have hdepth := s.depth_le_deepest cs
    omega

/-- A fault is told of, unless too few calls are left. -/
theorem within (cause : SyntaxCause) (at_ : List Char) :
    ReadsFrom room s t cs
      (.error (.within room (.fault cause at_)) : Except Stop (α × List Char)) :=
  match room with
  | 0 => .tooDeep (by decide) _
  | 1 => .tooDeep (by decide) _
  | 2 => .tooDeep (by decide) _
  | _ + 3 => .stop cause at_

theorem mapError_within {x : Except Stop (α × List Char)} (hx : ReadsFrom room s t cs x) :
    ReadsFrom room s t cs (x.mapError (.within room)) := by
  cases x with
  | ok p => exact .ok (hx.rest p.1 p.2 rfl)
  | error stop =>
    cases stop with
    | fault cause at_ => exact .within cause at_
    | numberTooLong e => exact ⟨nofun, fun e' he => hx.number e' (by cases he; rfl), nofun⟩
    | tooDeep e => exact ⟨nofun, nofun, fun _ _ => hx.deep e rfl⟩

/-- Reading goes on behind a part that was passed over, with as much room as before. -/
theorem of_passes {room' : Nat} {x : Except Stop (α × List Char)} (hx : ReadsFrom room' t u rest x)
    (h : s.Passes cs t rest) (hroom : s.depth + room ≤ t.depth + room') :
    ReadsFrom room s u cs x where
  rest := fun a more hmore => h.trans (hx.rest a more hmore)
  number := by
    intro e he
    obtain ⟨ds, hds, hdigits, hlength⟩ := hx.number e he
    exact ⟨ds, hds.trans h.suffix.isInfix, hdigits, hlength⟩
  deep := by
    intro e he
    have hdeep := hx.deep e he
    -- What is left is nested no deeper than the whole, counted from the same bracket on.
    have hle := h.deepest_le
    omega

theorem of_skips {x : Except Stop (α × List Char)}
    (hx : ReadsFrom room ⟨.outside, depth⟩ t rest x) (h : Skips cs rest) :
    ReadsFrom room ⟨.outside, depth⟩ t cs x :=
  hx.of_passes h.passes (Nat.le_refl _)

theorem bind {x : Except Stop (α × List Char)} {f : α × List Char → Except Stop (β × List Char)}
    (hx : ReadsFrom room s t cs x) (hdepth : s.depth ≤ t.depth)
    (hf : ∀ a rest, ReadsFrom room t u rest (f (a, rest))) : ReadsFrom room s u cs (x >>= f) := by
  cases x with
  | ok p => exact (hf p.1 p.2).of_passes (hx.rest p.1 p.2 rfl) (Nat.add_le_add_right hdepth _)
  | error stop =>
    refine ⟨nofun, fun e he => hx.number e ?_, fun e he => hx.deep e ?_⟩
    · cases he
      rfl
    · cases he
      rfl

end ReadsFrom

/-! ## Strings -/

theorem step_of_hexValue {c : Char} {n : Nat} (h : Text.hexValue? c = some n) :
    (⟨.string, depth⟩ : Scan).step c = ⟨.string, depth⟩ := by
  have hquote : c ≠ '"' := by
    rintro rfl
    cases h
  have hbackslash : c ≠ '\\' := by
    rintro rfl
    cases h
  simp [Scan.step, hquote, hbackslash]

theorem step_of_codeUnit {a b c d : Char} {n : Nat} (h : codeUnit? a b c d = some n) :
    ['\\', 'u', a, b, c, d].foldl Scan.step ⟨.string, depth⟩ = ⟨.string, depth⟩ := by
  simp only [codeUnit?, Option.bind_eq_bind, Option.bind_eq_some_iff] at h
  obtain ⟨_, ha, _, hb, _, hc, _, hd, -⟩ := h
  have hescape : (⟨.string, depth⟩ : Scan).step '\\' = ⟨.escape, depth⟩ := rfl
  have hunit : (⟨.escape, depth⟩ : Scan).step 'u' = ⟨.string, depth⟩ := rfl
  simp only [List.foldl_cons, List.foldl_nil, hescape, hunit, step_of_hexValue ha,
    step_of_hexValue hb, step_of_hexValue hc, step_of_hexValue hd]

theorem readString_readsFrom (opening : List Char) (done : List Text.Piece) (cs : List Char) :
    ReadsFrom room ⟨.string, depth⟩ ⟨.outside, depth⟩ cs (readString opening done cs) := by
  fun_induction readString opening done cs with
  | case2 done rest => exact .ok (.of_take 1 rfl rfl)
  -- A pair of code units, a unit before another one, and a unit alone.
  | case6 done a b c d e f g h i rest high hhigh _ low hlow _ ih =>
    have hsecond : (⟨.string, depth⟩ : Scan).Passes ('\\' :: 'u' :: e :: f :: g :: h :: i :: rest)
        ⟨.string, depth⟩ (i :: rest) := .of_take 6 rfl (step_of_codeUnit hlow)
    exact (ih.of_passes hsecond (Nat.le_refl _)).of_passes
      (.of_take 6 rfl (step_of_codeUnit hhigh)) (Nat.le_refl _)
  | case7 done a b c d e f g h i rest high hhigh _ low hlow _ ih =>
    exact ih.of_passes (.of_take 6 rfl (step_of_codeUnit hhigh)) (Nat.le_refl _)
  | case8 done a b c d e f g h i rest high hhigh _ ih =>
    exact ih.of_passes (.of_take 6 rfl (step_of_codeUnit hhigh)) (Nat.le_refl _)
  | case10 done a b c d e rest _ u hu ih =>
    exact ih.of_passes (.of_take 6 rfl (step_of_codeUnit hu)) (Nat.le_refl _)
  -- Another escape, and a character that stands for itself.
  | case13 done e rest _ _ _ c _ ih => exact ih.of_passes (.of_take 2 rfl rfl) (Nat.le_refl _)
  | case15 done c rest hquote hlast _ _ _ hescape _ ih =>
    have hbackslash : c ≠ '\\' := by
      intro hc
      cases rest with
      | nil => exact hlast hc rfl
      | cons e rest => exact hescape e rest hc rfl
    have hquote : c ≠ '"' := hquote
    have hstep : (⟨.string, depth⟩ : Scan).step c = ⟨.string, depth⟩ := by
      simp [Scan.step, hquote, hbackslash]
    exact ih.of_passes (.of_take 1 rfl hstep) (Nat.le_refl _)
  | _ => exact .stop _ _

/-! ## Numbers -/

theorem wholeDigits_append (cs : List Char) :
    (wholeDigits cs).1 ++ (wholeDigits cs).2 = cs ∧ ∀ c ∈ (wholeDigits cs).1, isDigit c = true := by
  unfold wholeDigits
  split
  · exact ⟨rfl, by simp [isDigit]⟩
  · exact ⟨List.takeWhile_append_dropWhile, List.all_eq_true.mp List.all_takeWhile⟩

theorem dropDigits_skips (cs : List Char) : Skips cs (cs.dropWhile isDigit) :=
  .dropWhile (fun _ => isPlain_of_isDigit) cs

theorem fractionDigits_skips (cs : List Char) : Skips cs (fractionDigits cs).2 := by
  unfold fractionDigits
  split
  · rename_i rest
    split
    · exact .refl _
    · exact .cons (by decide) (dropDigits_skips rest)
  · exact .refl _

theorem exponentSign_skips (cs : List Char) : Skips cs (exponentSign cs).2 := by
  unfold exponentSign
  split
  · exact .of_take 1 rfl rfl
  · exact .of_take 1 rfl rfl
  · exact .refl _

theorem exponentPart_skips (cs : List Char) : Skips cs (exponentPart cs).2 := by
  unfold exponentPart
  split
  · exact .refl _
  · rename_i e rest
    split
    · rename_i hmark
      have hfirst : Skips (e :: rest) rest := by
        rcases hmark with rfl | rfl <;> exact .of_take 1 rfl rfl
      simp only
      split
      · exact .refl _
      · exact (hfirst.trans (exponentSign_skips rest)).trans (dropDigits_skips _)
    · exact .refl _

theorem readUnsigned_readsFrom (negative : Bool) (start cs : List Char) :
    ReadsFrom room ⟨.outside, depth⟩ ⟨.outside, depth⟩ cs (readUnsigned negative start cs) := by
  obtain ⟨happend, hdigits⟩ := wholeDigits_append cs
  unfold readUnsigned
  split
  · exact .stop _ _
  · rename_i whole rest _ hwhole
    rw [hwhole] at happend hdigits
    have hrest : Skips cs rest := ⟨whole, happend, fun c hc => isPlain_of_isDigit (hdigits c hc)⟩
    have hafter : Skips cs (exponentPart (fractionDigits rest).2).2 :=
      (hrest.trans (fractionDigits_skips rest)).trans (exponentPart_skips _)
    simp only
    split
    · split
      · exact .ok hafter.passes
      -- The one way to stop over a number: the digits are those in front.
      · rename_i hlong
        refine ⟨nofun, ?_, nofun⟩
        rintro e ⟨⟩
        exact ⟨whole, ⟨[], rest, by simpa using happend⟩, hdigits, rfl, Nat.not_le.mp hlong⟩
    · exact .ok hafter.passes

/-! ## Values -/

theorem readNamed_readsFrom (x : Number.Binary64) (cs : List Char) :
    ReadsFrom room s s cs (readNamed room x cs) := by
  unfold readNamed
  split
  · rename_i hroom
    exact .tooDeep (by rw [hroom]; decide) _
  · exact .ok (.refl _ _)

theorem readScalar_readsFrom (cs : List Char) :
    ReadsFrom room ⟨.outside, depth⟩ ⟨.outside, depth⟩ cs (readScalar room cs) := by
  unfold readScalar
  split
  case h_1 => exact .ok (Skips.of_take 4 rfl rfl).passes
  case h_2 => exact .ok (Skips.of_take 4 rfl rfl).passes
  case h_3 => exact .ok (Skips.of_take 5 rfl rfl).passes
  case h_4 => exact (readNamed_readsFrom _ _).of_skips (.of_take 3 rfl rfl)
  case h_5 => exact (readNamed_readsFrom _ _).of_skips (.of_take 8 rfl rfl)
  case h_6 => exact (readNamed_readsFrom _ _).of_skips (.of_take 9 rfl rfl)
  case h_7 rest _ => exact (readUnsigned_readsFrom true _ rest).of_skips (.of_take 1 rfl rfl)
  case h_8 => exact readUnsigned_readsFrom false cs cs

theorem readName_readsFrom (cs : List Char) :
    ReadsFrom room ⟨.outside, depth⟩ ⟨.outside, depth⟩ cs (readName cs) := by
  unfold readName
  split
  -- Behind the opening quote the scan is in a string, and behind the name outside again.
  · rename_i rest
    refine ReadsFrom.of_passes (t := ⟨.string, depth⟩) ?_ (.of_take 1 rfl rfl) (Nat.le_refl _)
    apply ReadsFrom.bind (readString_readsFrom _ [] rest) (Nat.le_refl _)
    intro name more
    refine ReadsFrom.of_skips ?_ (skipSpace_skips more)
    simp only
    split
    · rename_i after hafter
      rw [hafter]
      have hcolon : isPlain ':' = true := by decide
      exact .ok (Skips.cons hcolon (skipSpace_skips after)).passes
    · exact .stop _ _
  · exact .stop _ _

section Steps
variable {fuel : Nat}
  (hvalue : ∀ room depth cs,
    ReadsFrom room ⟨.outside, depth⟩ ⟨.outside, depth⟩ cs (readValue room fuel cs))
  (hitems : ∀ room depth done cs,
    ReadsFrom room ⟨.outside, depth + 1⟩ ⟨.outside, depth⟩ cs (readItems room fuel done cs))
  (hmembers : ∀ room depth done cs,
    ReadsFrom room ⟨.outside, depth + 1⟩ ⟨.outside, depth⟩ cs (readMembers room fuel done cs))

/-- What stands behind a bracket is read with one call less and one bracket more. -/
theorem readsFrom_bracket {c : Char} {x : Except Stop (α × List Char)}
    (hc : (⟨.outside, depth⟩ : Scan).step c = ⟨.outside, depth + 1⟩)
    (hx : ReadsFrom room ⟨.outside, depth + 1⟩ t (skipSpace rest) x) :
    ReadsFrom (room + 1) ⟨.outside, depth⟩ t (c :: rest) x :=
  (hx.of_skips (skipSpace_skips rest)).of_passes (.of_take 1 rfl hc)
    (Nat.le_of_eq (Nat.add_right_comm depth room 1))

include hitems hmembers in
theorem readValue_succ_readsFrom (room depth : Nat) (cs : List Char) :
    ReadsFrom room ⟨.outside, depth⟩ ⟨.outside, depth⟩ cs (readValue room (fuel + 1) cs) := by
  unfold readValue
  split
  · rename_i rest
    refine ReadsFrom.of_passes (t := ⟨.string, depth⟩) ?_ (.of_take 1 rfl rfl) (Nat.le_refl _)
    apply ReadsFrom.bind (readString_readsFrom _ [] rest).mapError_within (Nat.le_refl _)
    intro s more
    exact .ok (.refl _ _)
  · rename_i rest
    split
    · exact .tooDeep (by decide) _
    · apply readsFrom_bracket rfl
      split
      · rename_i after hafter
        rw [hafter]
        exact .ok (.of_take 1 rfl rfl)
      · exact hitems _ depth [] (skipSpace rest)
  · rename_i rest
    split
    · exact .tooDeep (by decide) _
    · apply readsFrom_bracket rfl
      split
      · rename_i after hafter
        rw [hafter]
        exact .ok (.of_take 1 rfl rfl)
      · exact hmembers _ depth [] (skipSpace rest)
  · exact readScalar_readsFrom cs

include hvalue hitems in
theorem readItems_succ_readsFrom (room depth : Nat) (done : List Json) (cs : List Char) :
    ReadsFrom room ⟨.outside, depth + 1⟩ ⟨.outside, depth⟩ cs
      (readItems room (fuel + 1) done cs) := by
  unfold readItems
  apply ReadsFrom.bind (hvalue room (depth + 1) cs) (Nat.le_refl _)
  intro item rest
  refine ReadsFrom.of_skips ?_ (skipSpace_skips rest)
  simp only
  split
  · rename_i after hafter
    rw [hafter]
    exact .ok (.of_take 1 rfl rfl)
  · rename_i after hafter
    rw [hafter]
    exact (hitems room depth _ _).of_skips (.cons (by decide) (skipSpace_skips after))
  · exact .within _ _

include hvalue hmembers in
theorem readMembers_succ_readsFrom (room depth : Nat) (done : Keyed (List Text.Piece) Json)
    (cs : List Char) :
    ReadsFrom room ⟨.outside, depth + 1⟩ ⟨.outside, depth⟩ cs
      (readMembers room (fuel + 1) done cs) := by
  unfold readMembers
  apply ReadsFrom.bind (readName_readsFrom cs).mapError_within (Nat.le_refl _)
  intro name more
  apply ReadsFrom.bind (hvalue room (depth + 1) more) (Nat.le_refl _)
  intro value rest
  refine ReadsFrom.of_skips ?_ (skipSpace_skips rest)
  simp only
  split
  · rename_i after hafter
    rw [hafter]
    exact .ok (.of_take 1 rfl rfl)
  · rename_i after hafter
    rw [hafter]
    exact (hmembers room depth _ _).of_skips
      (.cons (by decide) (skipSpace_skips after))
  · exact .within _ _

end Steps

/-- The readers of values, of items and of members, for any fuel. -/
theorem read_readsFrom (fuel : Nat) :
    (∀ room depth cs,
      ReadsFrom room ⟨.outside, depth⟩ ⟨.outside, depth⟩ cs (readValue room fuel cs)) ∧
    (∀ room depth done cs,
      ReadsFrom room ⟨.outside, depth + 1⟩ ⟨.outside, depth⟩ cs (readItems room fuel done cs)) ∧
    (∀ room depth done cs, ReadsFrom room ⟨.outside, depth + 1⟩ ⟨.outside, depth⟩ cs
      (readMembers room fuel done cs)) := by
  -- All three at once, since they call each other with less fuel.
  induction fuel with
  | zero => exact ⟨fun _ _ _ => .stop _ _, fun _ _ _ _ => .stop _ _, fun _ _ _ _ => .stop _ _⟩
  | succ fuel ih =>
    obtain ⟨hvalue, hitems, hmembers⟩ := ih
    exact ⟨readValue_succ_readsFrom hitems hmembers, readItems_succ_readsFrom hvalue hitems,
      readMembers_succ_readsFrom hvalue hmembers⟩

/-! ## Whole texts -/

theorem readWhole_readsFrom (room : Nat) (cs : List Char) :
    ReadsFrom room ⟨.outside, 0⟩ ⟨.outside, 0⟩ cs (readWhole room cs) := by
  refine ReadsFrom.of_skips ?_ (skipSpace_skips cs)
  apply ReadsFrom.bind ((read_readsFrom _).1 room 0 (skipSpace cs)) (Nat.le_refl _)
  intro value rest
  refine ReadsFrom.of_skips ?_ (skipSpace_skips rest)
  simp only
  split
  · rename_i hrest
    rw [hrest]
    exact .ok (.refl _ _)
  · exact .stop _ _

/-- A text begins with a byte order mark, or its reader has stopped. -/
theorem parse_error {error : ReadError} (h : parse room cs = .error error) :
    error = .malformed (.locate cs .byteOrderMark cs) ∨
      ∃ stop, readWhole room cs = .error stop ∧ ReadError.ofStop cs stop = error := by
  unfold parse at h
  split at h
  · cases h
    exact Or.inl rfl
  · split at h
    · cases h
    · rename_i stop hstop
      cases h
      exact Or.inr ⟨stop, hstop, rfl⟩

/-- A text is refused for a number only if the digits of that number stand in it. -/
theorem longNumber_of_parse (h : parse room cs = .error (.numberTooLong e)) : LongNumber cs e := by
  obtain h | ⟨stop, hstop, h⟩ := parse_error h
  · cases h
  · cases stop <;> cases h
    exact (readWhole_readsFrom room cs).number e hstop

/-- A text is refused for its nesting only if it leaves too little room to tell of a fault. -/
theorem nesting_of_parse {e : TooDeep} (h : parse room cs = .error (.tooDeep e)) :
    room < nesting cs + faultCalls := by
  obtain h | ⟨stop, hstop, h⟩ := parse_error h
  · cases h
  · cases stop <;> cases h
    have hdeep := (readWhole_readsFrom room cs).deep e hstop
    rwa [Nat.zero_add] at hdeep

theorem readValue_bracket {fuel : Nat} {stop : Stop}
    (h : readValue room fuel ('[' :: cs) = .error stop) :
    readValue (room + 1) (fuel + 2) ('[' :: '[' :: cs) = .error stop := by
  -- A second bracket begins an item, and an item that stops the reader stops the list.
  show (readValue room fuel ('[' :: cs) >>= _) = _
  rw [h]
  rfl

theorem readValue_brackets {fuel n : Nat} (hfuel : 2 * room < fuel) (hn : room < n) :
    readValue room fuel (List.replicate n '[') = .error (.tooDeep .array) := by
  induction room generalizing fuel n with
  | zero =>
    obtain ⟨fuel, rfl⟩ := Nat.exists_eq_succ_of_ne_zero hfuel.ne'
    obtain ⟨n, rfl⟩ := Nat.exists_eq_succ_of_ne_zero hn.ne'
    rfl
  | succ room ih =>
    obtain ⟨fuel, rfl⟩ : ∃ k, fuel = k + 2 := ⟨fuel - 2, by omega⟩
    obtain ⟨n, rfl⟩ : ∃ k, n = k + 2 := ⟨n - 2, by omega⟩
    exact readValue_bracket (ih (n := n + 1) (by omega) (by omega))

/-- A text of more opening brackets than there is room for is refused for its nesting. -/
theorem parse_brackets {n : Nat} (hn : room < n) :
    parse room (List.replicate n '[') = .error (.tooDeep .array) := by
  obtain ⟨n, rfl⟩ := Nat.exists_eq_succ_of_ne_zero (Nat.ne_zero_of_lt hn)
  -- There is fuel for every bracket, so it is the room that gives out.
  have hread : readValue room (2 * (n + 1) + 2) (List.replicate (n + 1) '[') =
      .error (.tooDeep .array) := readValue_brackets (by omega) hn
  have hspace : skipSpace (List.replicate (n + 1) '[') = List.replicate (n + 1) '[' := rfl
  have hwhole : readWhole room (List.replicate (n + 1) '[') = .error (.tooDeep .array) := by
    rw [readWhole, hspace, List.length_replicate, hread]
    rfl
  rw [List.replicate_succ] at hwhole ⊢
  simp only [parse, hwhole, ReadError.ofStop]
  rfl

end EventHeader.Json
