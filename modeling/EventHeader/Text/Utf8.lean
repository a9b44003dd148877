import EventHeader.Text.Digit

/- UTF-8. `encode` writes characters as bytes; `decode` reads bytes back and
   refuses them at the first byte sequence that no character has. The fault names
   the bytes concerned: a byte that starts no character, a sequence broken by a
   byte that cannot follow, or a sequence the text ends inside of. -/
namespace EventHeader.Text.Utf8

def encodeChar (c : Char) : List UInt8 :=
  let n := c.toNat
  if n < 0x80 then [UInt8.ofNat n]
  else if n < 0x800 then [UInt8.ofNat (0xC0 + n / 0x40), UInt8.ofNat (0x80 + n % 0x40)]
  else if n < 0x10000 then
    [UInt8.ofNat (0xE0 + n / 0x1000), UInt8.ofNat (0x80 + n / 0x40 % 0x40),
      UInt8.ofNat (0x80 + n % 0x40)]
  else
    [UInt8.ofNat (0xF0 + n / 0x40000), UInt8.ofNat (0x80 + n / 0x1000 % 0x40),
      UInt8.ofNat (0x80 + n / 0x40 % 0x40), UInt8.ofNat (0x80 + n % 0x40)]

def encode (s : String) : List UInt8 := s.toList.flatMap encodeChar

inductive Reason where
  /-- A byte that starts no character. -/
  | startByte
  /-- A character's bytes are broken off by a byte that cannot continue them. -/
  | continuationByte
  /-- The text ends inside a character. -/
  | endOfData
  deriving DecidableEq, Repr

def Reason.message : Reason → String
  | .startByte => "invalid start byte"
  | .continuationByte => "invalid continuation byte"
  | .endOfData => "unexpected end of data"

/-- The bytes that are no character: where they start, the first of them, how many
they are, and why. -/
structure Fault where
  position : Nat
  byte : UInt8
  count : Nat
  reason : Reason
  deriving DecidableEq, Repr

def Fault.message (f : Fault) : String :=
  if f.count = 1 then
    "'utf-8' codec can't decode byte 0x" ++ String.ofList (hexDigits 2 f.byte.toNat) ++
      " in position " ++ toString f.position ++ ": " ++ f.reason.message
  else
    "'utf-8' codec can't decode bytes in position " ++ toString f.position ++ "-" ++
      toString (f.position + f.count - 1) ++ ": " ++ f.reason.message

/-- Whether a byte may follow the first one of a character. -/
def isTail (b : UInt8) : Bool := 0x80 ≤ b && b < 0xC0

/-- Whether `b` may be the second byte of a character that starts with `a`: the
shortest form is the only one, surrogates have none, and nothing is above
`0x10FFFF`. -/
def isSecond (a b : UInt8) : Bool :=
  isTail b && (a != 0xE0 || 0xA0 ≤ b) && (a != 0xED || b < 0xA0) && (a != 0xF0 || 0x90 ≤ b) &&
    (a != 0xF4 || b < 0x90)

def tailBits (b : UInt8) : Nat := b.toNat % 0x40

/-- Reads the bytes from position `pos` of a text on. -/
def decodeFrom (pos : Nat) : List UInt8 → Except Fault (List Char)
  | [] => .ok []
  | a :: rest =>
    if a < 0x80 then (Char.ofNat a.toNat :: ·) <$> decodeFrom (pos + 1) rest
    else if a < 0xC2 ∨ 0xF5 ≤ a then .error ⟨pos, a, 1, .startByte⟩
    -- Up to three bytes follow, each looked at before the next one is asked for.
    else match rest with
      | [] => .error ⟨pos, a, 1, .endOfData⟩
      | b :: rest =>
        if !isSecond a b then .error ⟨pos, a, 1, .continuationByte⟩
        else if a < 0xE0 then
          (Char.ofNat (a.toNat % 0x20 * 0x40 + tailBits b) :: ·) <$> decodeFrom (pos + 2) rest
        else match rest with
          | [] => .error ⟨pos, a, 2, .endOfData⟩
          | c :: rest =>
            if !isTail c then .error ⟨pos, a, 2, .continuationByte⟩
            else if a < 0xF0 then
              (Char.ofNat ((a.toNat % 0x10 * 0x40 + tailBits b) * 0x40 + tailBits c) :: ·) <$>
                decodeFrom (pos + 3) rest
            else match rest with
              | [] => .error ⟨pos, a, 3, .endOfData⟩
              | d :: rest =>
                if !isTail d then .error ⟨pos, a, 3, .continuationByte⟩
                else
                  (Char.ofNat (((a.toNat % 0x08 * 0x40 + tailBits b) * 0x40 + tailBits c) * 0x40
                    + tailBits d) :: ·) <$> decodeFrom (pos + 4) rest

def decode (bytes : List UInt8) : Except Fault (List Char) := decodeFrom 0 bytes

end EventHeader.Text.Utf8
