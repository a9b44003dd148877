import EventHeader.Text.Utf8
import Mathlib.Data.List.Basic

/- UTF-8 written and read. The bytes of a character are one of four sequences, told apart
   by the first byte, and each sequence carries the number of the character in the low bits
   of its bytes (`Sequence`). Every character is written as the sequence of its number
   (`sequence_encodeChar`), every sequence is that of one character
   (`Sequence.eq_encodeChar`), and the reader takes one sequence after another
   (`decodeFrom_sequence`). So reading gives back what was written, and what can be read is
   what was written: bytes are those of a text or they are refused (`decode_eq_ok_iff`). -/
namespace EventHeader.Text.Utf8

/-- The bytes of a character of some number. -/
inductive Sequence : List UInt8 → Nat → Prop
  | one {a : UInt8} {n : Nat} (first : a.toNat < 0x80) (value : n = a.toNat) : Sequence [a] n
  | two {a b : UInt8} {n : Nat} (first : 0xC2 ≤ a.toNat ∧ a.toNat < 0xE0)
      (second : isSecond a b = true) (value : n = a.toNat % 0x20 * 0x40 + tailBits b) :
      Sequence [a, b] n
  | three {a b c : UInt8} {n : Nat} (first : 0xE0 ≤ a.toNat ∧ a.toNat < 0xF0)
      (second : isSecond a b = true) (third : isTail c = true)
      (value : n = (a.toNat % 0x10 * 0x40 + tailBits b) * 0x40 + tailBits c) :
      Sequence [a, b, c] n
  | four {a b c d : UInt8} {n : Nat} (first : 0xF0 ≤ a.toNat ∧ a.toNat < 0xF5)
      (second : isSecond a b = true) (third : isTail c = true) (fourth : isTail d = true)
      (value : n = ((a.toNat % 0x08 * 0x40 + tailBits b) * 0x40 + tailBits c) * 0x40 + tailBits d) :
      Sequence [a, b, c, d] n

/-! ## Bytes as numbers -/

theorem isTail_iff {b : UInt8} : isTail b = true ↔ 0x80 ≤ b.toNat ∧ b.toNat < 0xC0 := by
  simp [isTail, UInt8.le_iff_toNat_le, UInt8.lt_iff_toNat_lt]

theorem isSecond_iff {a b : UInt8} : isSecond a b = true ↔
    (0x80 ≤ b.toNat ∧ b.toNat < 0xC0) ∧ (a.toNat = 0xE0 → 0xA0 ≤ b.toNat) ∧
      (a.toNat = 0xED → b.toNat < 0xA0) ∧ (a.toNat = 0xF0 → 0x90 ≤ b.toNat) ∧
      (a.toNat = 0xF4 → b.toNat < 0x90) := by
  have hne (n : UInt8) : (a != n) = true ↔ a.toNat ≠ n.toNat := by
    rw [bne_iff_ne, ne_eq, ← UInt8.toNat_inj]
  simp only [isSecond, Bool.and_eq_true, Bool.or_eq_true, isTail_iff, hne, decide_eq_true_eq,
    UInt8.le_iff_toNat_le, UInt8.lt_iff_toNat_lt, UInt8.reduceToNat]
  omega

theorem toNat_ofNat {n : Nat} (h : n < 0x100) : (UInt8.ofNat n).toNat = n :=
  UInt8.toNat_ofNat_of_lt' h

/-- The numbers of characters: all below the limit but those of surrogates. -/
theorem toNat_bounds (c : Char) :
    c.toNat < 0xD800 ∨ (0xDFFF < c.toNat ∧ c.toNat < 0x110000) := c.valid

theorem toNat_charOfNat {n : Nat} (h : n.isValidChar) : (Char.ofNat n).toNat = n := by
  unfold Char.ofNat
  rw [dif_pos h]
  rfl

/-! ## Characters and sequences -/

theorem sequence_encodeChar (c : Char) : Sequence (encodeChar c) c.toNat := by
  have hc := toNat_bounds c
  generalize hn : c.toNat = n at hc
  unfold encodeChar
  simp only [hn]
  -- By the number of bytes. No byte overflows, and the bits of all of them make up the number.
  split
  · rename_i h
    have ha := toNat_ofNat (show n < 0x100 by omega)
    exact .one (by omega) (by omega)
  · split
    · have ha := toNat_ofNat (show 0xC0 + n / 0x40 < 0x100 by omega)
      have hb := toNat_ofNat (show 0x80 + n % 0x40 < 0x100 by omega)
      apply Sequence.two
      · omega
      · apply isSecond_iff.mpr
        omega
      · unfold tailBits
        omega
    · split
      · have ha := toNat_ofNat (show 0xE0 + n / 0x1000 < 0x100 by omega)
        have hb := toNat_ofNat (show 0x80 + n / 0x40 % 0x40 < 0x100 by omega)
        have hd := toNat_ofNat (show 0x80 + n % 0x40 < 0x100 by omega)
        apply Sequence.three
        · omega
        · apply isSecond_iff.mpr
          omega
        · apply isTail_iff.mpr
          omega
        · unfold tailBits
          omega
      · have ha := toNat_ofNat (show 0xF0 + n / 0x40000 < 0x100 by omega)
        have hb := toNat_ofNat (show 0x80 + n / 0x1000 % 0x40 < 0x100 by omega)
        have hd := toNat_ofNat (show 0x80 + n / 0x40 % 0x40 < 0x100 by omega)
        have he := toNat_ofNat (show 0x80 + n % 0x40 < 0x100 by omega)
        apply Sequence.four
        · omega
        · apply isSecond_iff.mpr
          omega
        · apply isTail_iff.mpr
          omega
        · apply isTail_iff.mpr
          omega
        · unfold tailBits
          omega

/-- A sequence is how the character of its number is written. -/
theorem Sequence.eq_encodeChar {bytes : List UInt8} {n : Nat} (h : Sequence bytes n) :
    bytes = encodeChar (Char.ofNat n) := by
  -- Each byte is found again in the number, as a quotient or a remainder of it.
  have hbyte {b : UInt8} {m : Nat} (hb : b.toNat = m) : UInt8.ofNat m = b := by
    rw [← hb, UInt8.ofNat_toNat]
  cases h with
  | @one a n first value =>
    have hn := toNat_charOfNat (show n.isValidChar from Or.inl (by omega))
    simp only [encodeChar, hn]
    rw [if_pos (by omega), hbyte (b := a) (by omega)]
  | @two a b n first second value =>
    have hb := isSecond_iff.mp second
    unfold tailBits at value
    have hn := toNat_charOfNat (show n.isValidChar from Or.inl (by omega))
    simp only [encodeChar, hn]
    rw [if_neg (by omega), if_pos (by omega), hbyte (b := a) (by omega), hbyte (b := b) (by omega)]
  | @three a b c n first second third value =>
    have hb := isSecond_iff.mp second
    have hc := isTail_iff.mp third
    unfold tailBits at value
    have hn := toNat_charOfNat (show n.isValidChar by unfold Nat.isValidChar; omega)
    simp only [encodeChar, hn]
    rw [if_neg (by omega), if_neg (by omega), if_pos (by omega), hbyte (b := a) (by omega),
      hbyte (b := b) (by omega), hbyte (b := c) (by omega)]
  | @four a b c d n first second third fourth value =>
    have hb := isSecond_iff.mp second
    have hc := isTail_iff.mp third
    have hd := isTail_iff.mp fourth
    unfold tailBits at value
    have hn := toNat_charOfNat (show n.isValidChar by unfold Nat.isValidChar; omega)
    simp only [encodeChar, hn]
    rw [if_neg (by omega), if_neg (by omega), if_neg (by omega), hbyte (b := a) (by omega),
      hbyte (b := b) (by omega), hbyte (b := c) (by omega), hbyte (b := d) (by omega)]

/-! ## Reading -/

theorem leading_byte {a : UInt8} :
    ¬ a < 0x80 ∧ ¬ (a < 0xC2 ∨ 0xF5 ≤ a) ↔ 0xC2 ≤ a.toNat ∧ a.toNat < 0xF5 := by
  simp only [UInt8.lt_iff_toNat_lt, UInt8.le_iff_toNat_le, UInt8.reduceToNat]
  omega

theorem decodeFrom_sequence {bytes : List UInt8} {n : Nat} (h : Sequence bytes n) (pos : Nat)
    (rest : List UInt8) : decodeFrom pos (bytes ++ rest) =
      (Char.ofNat n :: ·) <$> decodeFrom (pos + bytes.length) rest := by
  conv_lhs => unfold decodeFrom
  cases h with
  | @one a n first value =>
    rw [value]
    exact if_pos (UInt8.lt_iff_toNat_lt.mpr first)
  | @two a b n first second value =>
    have hlong := leading_byte.mpr (show 0xC2 ≤ a.toNat ∧ a.toNat < 0xF5 by omega)
    have htwo : a < 0xE0 := UInt8.lt_iff_toNat_lt.mpr first.2
    simp [hlong, htwo, second, value]
  | @three a b c n first second third value =>
    have hlong := leading_byte.mpr (show 0xC2 ≤ a.toNat ∧ a.toNat < 0xF5 by omega)
    have htwo : ¬ a < 0xE0 := UInt8.not_lt.mpr (UInt8.le_iff_toNat_le.mpr first.1)
    have hthree : a < 0xF0 := UInt8.lt_iff_toNat_lt.mpr first.2
    simp [hlong, htwo, hthree, second, third, value]
  | @four a b c d n first second third fourth value =>
    have hlong := leading_byte.mpr (show 0xC2 ≤ a.toNat ∧ a.toNat < 0xF5 by omega)
    have hthree : ¬ a < 0xF0 := UInt8.not_lt.mpr (UInt8.le_iff_toNat_le.mpr first.1)
    have htwo : ¬ a < 0xE0 := fun h => hthree (UInt8.lt_trans h (by decide))
    simp [hlong, htwo, hthree, second, third, fourth, value]

theorem decodeFrom_flatMap (cs : List Char) (pos : Nat) :
    decodeFrom pos (cs.flatMap encodeChar) = .ok cs := by
  induction cs generalizing pos with
  | nil => rfl
  | cons c rest ih =>
    rw [List.flatMap_cons, decodeFrom_sequence (sequence_encodeChar c), ih, Char.ofNat_toNat]
    rfl

theorem map_cons_eq_ok {c : Char} {x : Except Fault (List Char)} {cs : List Char}
    (h : (c :: ·) <$> x = .ok cs) : ∃ rest, x = .ok rest ∧ cs = c :: rest := by
  cases x with
  | error f => cases h
  | ok rest => exact ⟨rest, rfl, (Except.ok.inj h).symm⟩

theorem Sequence.flatMap_eq {first rest : List UInt8} {n pos : Nat} (h : Sequence first n)
    (ih : ∀ {cs}, decodeFrom pos rest = .ok cs → rest = cs.flatMap encodeChar) {cs : List Char}
    (hread : (Char.ofNat n :: ·) <$> decodeFrom pos rest = .ok cs) :
    first ++ rest = cs.flatMap encodeChar := by
  obtain ⟨others, hothers, rfl⟩ := map_cons_eq_ok hread
  rw [List.flatMap_cons, ← h.eq_encodeChar, ← ih hothers]

theorem eq_flatMap_of_decodeFrom {pos : Nat} {bytes : List UInt8} {cs : List Char}
    (h : decodeFrom pos bytes = .ok cs) : bytes = cs.flatMap encodeChar := by
  -- The cases that go on are those behind one, two, three and four bytes.
  fun_induction decodeFrom pos bytes generalizing cs with
  | case1 =>
    cases h
    rfl
  | case2 pos a rest ha ih =>
    exact (Sequence.one (UInt8.lt_iff_toNat_lt.mp ha) rfl).flatMap_eq ih h
  | case6 pos a hascii hstart b rest hb ha ih =>
    have hfirst := leading_byte.mp ⟨hascii, hstart⟩
    have htwo : a.toNat < 0xE0 := UInt8.lt_iff_toNat_lt.mp ha
    have hsecond : isSecond a b = true := by simpa using hb
    exact (Sequence.two ⟨hfirst.1, htwo⟩ hsecond rfl).flatMap_eq ih h
  | case9 pos a hascii hstart b hb hmore c rest hc ha ih =>
    have htwo : 0xE0 ≤ a.toNat := UInt8.le_iff_toNat_le.mp (UInt8.not_lt.mp hmore)
    have hthree : a.toNat < 0xF0 := UInt8.lt_iff_toNat_lt.mp ha
    have hsecond : isSecond a b = true := by simpa using hb
    have hthird : isTail c = true := by simpa using hc
    exact (Sequence.three ⟨htwo, hthree⟩ hsecond hthird rfl).flatMap_eq ih h
  | case12 pos a hascii hstart b hb _ c hc hmore d rest hd ih =>
    have hfirst := leading_byte.mp ⟨hascii, hstart⟩
    have hthree : 0xF0 ≤ a.toNat := UInt8.le_iff_toNat_le.mp (UInt8.not_lt.mp hmore)
    have hsecond : isSecond a b = true := by simpa using hb
    have hthird : isTail c = true := by simpa using hc
    have hfourth : isTail d = true := by simpa using hd
    exact (Sequence.four ⟨hthree, hfirst.2⟩ hsecond hthird hfourth rfl).flatMap_eq ih h
  | _ => cases h

/-- Bytes are read as a text exactly if they are the bytes of that text. -/
theorem decode_eq_ok_iff {bytes : List UInt8} {s : String} :
    decode bytes = .ok s.toList ↔ bytes = encode s := by
  constructor
  · exact eq_flatMap_of_decodeFrom
  · intro h
    rw [h]
    exact decodeFrom_flatMap s.toList 0

theorem encode_inj {s t : String} : encode s = encode t ↔ s = t := by
  constructor
  · intro h
    have hs : decode (encode s) = .ok s.toList := decode_eq_ok_iff.mpr rfl
    rw [decode_eq_ok_iff.mpr h] at hs
    exact (String.toList_inj.mp (Except.ok.inj hs)).symm
  · exact congrArg encode

end EventHeader.Text.Utf8
