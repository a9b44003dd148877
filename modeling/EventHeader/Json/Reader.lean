import EventHeader.Json.Basic
import EventHeader.Text.Digit

/- JSON text. The reader takes values off the front of the characters still to be
   read; a fault keeps the characters it was found at, so that its position is the
   difference of two lengths. Besides the standard it reads `NaN`, `Infinity` and
   `-Infinity` as numbers. A number ends at the first character that does not
   continue it, and a name that comes twice in an object keeps its first place and
   takes its last value. Names are compared by their pieces.

   Two limits are no faults of the text. A whole number may only have so many digits.
   And a reader can only nest so many calls, of which `room` counts those that are
   left: each list and each object takes one for as long as it is being read, to look
   up a number that is written by a name takes one, and to tell of a fault takes
   three. A fault found only once the calls have returned (no value, more after
   the value, a byte order mark) takes none of them. -/
namespace EventHeader.Json

inductive SyntaxCause where
  | expectingValue
  | expectingName
  | expectingColon
  | expectingComma
  | extraData
  | unterminatedString
  | controlCharacter
  | invalidEscape
  | invalidCodeUnit
  | byteOrderMark
  deriving DecidableEq, Repr

def SyntaxCause.message : SyntaxCause → String
  | .expectingValue => "Expecting value"
  | .expectingName => "Expecting property name enclosed in double quotes"
  | .expectingColon => "Expecting ':' delimiter"
  | .expectingComma => "Expecting ',' delimiter"
  | .extraData => "Extra data"
  | .unterminatedString => "Unterminated string starting at"
  | .controlCharacter => "Invalid control character at"
  | .invalidEscape => "Invalid \\escape"
  | .invalidCodeUnit => "Invalid \\uXXXX escape"
  | .byteOrderMark => "Unexpected UTF-8 BOM (decode using utf-8-sig)"

/-- A whole number with more digits than can be read. -/
structure NumberTooLong where
  digits : Nat
  deriving DecidableEq, Repr

def maxDigits : Nat := 4300

def NumberTooLong.message (e : NumberTooLong) : String :=
  "Exceeds the limit (" ++ toString maxDigits ++
    " digits) for integer string conversion: value has " ++ toString e.digits ++
    " digits; use sys.set_int_max_str_digits() to increase the limit"

/-- What no call was left for. -/
inductive TooDeep where
  | array
  | object
  | call
  | frame
  deriving DecidableEq, Repr

def TooDeep.message : TooDeep → String
  | .array => "maximum recursion depth exceeded while decoding a JSON array from a unicode string"
  | .object => "maximum recursion depth exceeded while decoding a JSON object from a unicode string"
  | .call => "maximum recursion depth exceeded while calling a Python object"
  | .frame => "maximum recursion depth exceeded"

/-- Why a reader stops: a fault, with the characters from where it was found to the
end of the text, a number that is too long, or calls nested too deep. -/
inductive Stop where
  | fault (cause : SyntaxCause) (rest : List Char)
  | numberTooLong (e : NumberTooLong)
  | tooDeep (e : TooDeep)

/-- Stops at the characters `rest`. A reader that does not stop gives what it read and the
characters after it. -/
def stop {α : Type} (cause : SyntaxCause) (rest : List Char) : Except Stop α :=
  .error (.fault cause rest)

/-- How many calls, one in another, it takes to tell of a fault. -/
def faultCalls : Nat := 3

/-- What a reader stops with that comes upon a fault with `room` calls left. Where these
are too few to tell of it, it matters which call is the one too many. -/
def Stop.within (room : Nat) : Stop → Stop
  | .fault cause rest =>
    match room with
    | 0 => .tooDeep .call
    | 1 => .tooDeep .frame
    | 2 => .tooDeep .call
    | _ => .fault cause rest
  | s => s

def isSpace (c : Char) : Bool := c == ' ' || c == '\t' || c == '\n' || c == '\r'

/-- The characters from the next token on. -/
def skipSpace (cs : List Char) : List Char := cs.dropWhile isSpace

/-! ## Strings -/

/-- The character a letter after a backslash stands for. -/
def escapedChar? : Char → Option Char
  | '"' => some '"'
  | '\\' => some '\\'
  | '/' => some '/'
  | 'b' => some '\x08'
  | 'f' => some '\x0c'
  | 'n' => some '\n'
  | 'r' => some '\r'
  | 't' => some '\t'
  | _ => none

/-- The code unit written by four digits of base sixteen. -/
def codeUnit? (a b c d : Char) : Option Nat := do
  let a ← Text.hexValue? a
  let b ← Text.hexValue? b
  let c ← Text.hexValue? c
  let d ← Text.hexValue? d
  return ((a * 16 + b) * 16 + c) * 16 + d

def isHighHalf (u : Nat) : Bool := 0xD800 ≤ u && u < 0xDC00

def isLowHalf (u : Nat) : Bool := 0xDC00 ≤ u && u < 0xE000

/-- The piece of a text that a code unit alone is. -/
def unitPiece (u : Nat) : Text.Piece :=
  if isHighHalf u || isLowHalf u then .half u else .char (Char.ofNat u)

def pairChar (high low : Nat) : Char :=
  Char.ofNat (0x10000 + (high - 0xD800) * 0x400 + (low - 0xDC00))

/-- Reads a string from the character after its opening quote. `opening` is the text
from that quote on, and `done` what has been read so far, last piece first. An escape
by code unit must leave a character for the closing quote. -/
def readString (opening : List Char) (done : List Text.Piece) :
    List Char → Except Stop (List Text.Piece × List Char)
  | [] => stop .unterminatedString opening
  | '"' :: rest => .ok (done.reverse, rest)
  | '\\' :: [] => stop .unterminatedString opening
  -- Two escapes in a row, which may be the halves of one pair.
  | '\\' :: 'u' :: a :: b :: c :: d :: '\\' :: 'u' :: e :: f :: g :: h :: i :: rest =>
    match codeUnit? a b c d with
    | none => stop .invalidCodeUnit
        ('u' :: a :: b :: c :: d :: '\\' :: 'u' :: e :: f :: g :: h :: i :: rest)
    | some high =>
      if isHighHalf high then
        match codeUnit? e f g h with
        | none => stop .invalidCodeUnit ('u' :: e :: f :: g :: h :: i :: rest)
        | some low =>
          if isLowHalf low then readString opening (.char (pairChar high low) :: done) (i :: rest)
          else readString opening (unitPiece high :: done)
            ('\\' :: 'u' :: e :: f :: g :: h :: i :: rest)
      else readString opening (unitPiece high :: done)
        ('\\' :: 'u' :: e :: f :: g :: h :: i :: rest)
  | '\\' :: 'u' :: a :: b :: c :: d :: e :: rest =>
    match codeUnit? a b c d with
    | none => stop .invalidCodeUnit ('u' :: a :: b :: c :: d :: e :: rest)
    | some u => readString opening (unitPiece u :: done) (e :: rest)
  | '\\' :: 'u' :: rest => stop .invalidCodeUnit ('u' :: rest)
  | '\\' :: e :: rest =>
    match escapedChar? e with
    | none => stop .invalidEscape ('\\' :: e :: rest)
    | some c => readString opening (.char c :: done) rest
  | c :: rest =>
    if c ≤ '\x1f' then stop .controlCharacter (c :: rest)
    else readString opening (.char c :: done) rest

/-! ## Numbers -/

def isDigit (c : Char) : Bool := '0' ≤ c && c ≤ '9'

def digitsValue (ds : List Char) : Nat := ds.foldl (fun n d => 10 * n + (d.toNat - '0'.toNat)) 0

/-- The digits of a whole number off the front: a zero alone, or a digit other
than zero and all digits after it. -/
def wholeDigits : List Char → List Char × List Char
  | '0' :: rest => (['0'], rest)
  | cs => (cs.takeWhile isDigit, cs.dropWhile isDigit)

/-- The digits after a point off the front, if there is at least one. -/
def fractionDigits : List Char → List Char × List Char
  | '.' :: rest =>
    match rest.takeWhile isDigit with
    | [] => ([], '.' :: rest)
    | ds => (ds, rest.dropWhile isDigit)
  | cs => ([], cs)

def exponentSign : List Char → Bool × List Char
  | '-' :: rest => (true, rest)
  | '+' :: rest => (false, rest)
  | cs => (false, cs)

/-- The exponent off the front, if a mark is followed by at least one digit. -/
def exponentPart (cs : List Char) : Option Int × List Char :=
  match cs with
  | [] => (none, cs)
  | e :: rest =>
    if e = 'e' ∨ e = 'E' then
      let (negative, digits) := exponentSign rest
      match digits.takeWhile isDigit with
      | [] => (none, cs)
      | ds =>
        let n : Int := digitsValue ds
        (some (if negative then -n else n), digits.dropWhile isDigit)
    else (none, cs)

/-- Reads a number without its sign. It is whole unless it has a fraction or an
exponent. -/
def readUnsigned (negative : Bool) (start cs : List Char) : Except Stop (Json × List Char) :=
  match wholeDigits cs with
  | ([], _) => stop .expectingValue start
  | (whole, rest) =>
    let (fraction, rest) := fractionDigits rest
    let (power, rest) := exponentPart rest
    if fraction.isEmpty && power.isNone then
      -- Other numbers are rounded, however many digits they have.
      if whole.length ≤ maxDigits then
        let n : Int := digitsValue whole
        .ok (.int (if negative then -n else n), rest)
      else .error (.numberTooLong ⟨whole.length⟩)
    else
      let digits := digitsValue (whole ++ fraction)
      .ok (.float (.ofDecimal negative digits (power.getD 0 - fraction.length)), rest)

/-! ## Values -/

/-- A number written by a name, which is looked up. -/
def readNamed (room : Nat) (x : Number.Binary64) (rest : List Char) :
    Except Stop (Json × List Char) :=
  if room = 0 then .error (.tooDeep .call) else .ok (.float x, rest)

/-- Reads what is neither a string, a list nor an object. -/
def readScalar (room : Nat) : List Char → Except Stop (Json × List Char)
  | 'n' :: 'u' :: 'l' :: 'l' :: rest => .ok (.null, rest)
  | 't' :: 'r' :: 'u' :: 'e' :: rest => .ok (.bool true, rest)
  | 'f' :: 'a' :: 'l' :: 's' :: 'e' :: rest => .ok (.bool false, rest)
  | 'N' :: 'a' :: 'N' :: rest => readNamed room .nan rest
  | 'I' :: 'n' :: 'f' :: 'i' :: 'n' :: 'i' :: 't' :: 'y' :: rest =>
    readNamed room (.infinity false) rest
  | '-' :: 'I' :: 'n' :: 'f' :: 'i' :: 'n' :: 'i' :: 't' :: 'y' :: rest =>
    readNamed room (.infinity true) rest
  | '-' :: rest => readUnsigned true ('-' :: rest) rest
  | cs => readUnsigned false cs cs

def readName : List Char → Except Stop (List Text.Piece × List Char)
  | '"' :: rest => do
    let (name, rest) ← readString ('"' :: rest) [] rest
    match skipSpace rest with
    | ':' :: rest => .ok (name, skipSpace rest)
    | rest => stop .expectingColon rest
  | cs => stop .expectingName cs

mutual
/-- Reads a value. Each call takes a character off the text before it calls for
the next value, so twice the length of the text is `fuel` enough. -/
def readValue (room : Nat) : Nat → List Char → Except Stop (Json × List Char)
  | 0, cs => stop .expectingValue cs
  | fuel + 1, cs =>
    match cs with
    | '"' :: rest => do
      let (s, rest) ← (readString ('"' :: rest) [] rest).mapError (.within room)
      .ok (.ofPieces s, rest)
    | '[' :: rest =>
      match room with
      | 0 => .error (.tooDeep .array)
      | room + 1 =>
        match skipSpace rest with
        | ']' :: rest => .ok (.array [], rest)
        | rest => readItems room fuel [] rest
    | '\x7b' :: rest =>
      match room with
      | 0 => .error (.tooDeep .object)
      | room + 1 =>
        match skipSpace rest with
        | '\x7d' :: rest => .ok (.object [], rest)
        | rest => readMembers room fuel [] rest
    | cs => readScalar room cs

/-- Reads the items of a list from the first character of one; `done` holds those
before it, last one first. -/
def readItems (room : Nat) : Nat → List Json → List Char → Except Stop (Json × List Char)
  | 0, _, cs => stop .expectingValue cs
  | fuel + 1, done, cs => do
    let (item, rest) ← readValue room fuel cs
    match skipSpace rest with
    | ']' :: rest => .ok (.array (item :: done).reverse, rest)
    | ',' :: rest => readItems room fuel (item :: done) (skipSpace rest)
    | rest => .error (.within room (.fault .expectingComma rest))

/-- Reads the members of an object from the first character of one; `done` holds
those before it. -/
def readMembers (room : Nat) :
    Nat → Keyed (List Text.Piece) Json → List Char → Except Stop (Json × List Char)
  | 0, _, cs => stop .expectingValue cs
  | fuel + 1, done, cs => do
    -- Within a name no call is nested, so how many are left matters to a fault only.
    let (name, rest) ← (readName cs).mapError (.within room)
    let (value, rest) ← readValue room fuel rest
    match skipSpace rest with
    | '\x7d' :: rest => .ok (.ofMembers (done.put name value), rest)
    | ',' :: rest => readMembers room fuel (done.put name value) (skipSpace rest)
    | rest => .error (.within room (.fault .expectingComma rest))
end

/-! ## Whole texts -/

/-- What is wrong with a JSON text and where: the number of characters before the
place, and its line and column, both counted from one. -/
structure SyntaxError where
  cause : SyntaxCause
  position : Nat
  line : Nat
  column : Nat
  deriving DecidableEq, Repr

def SyntaxError.message (e : SyntaxError) : String :=
  e.cause.message ++ ": line " ++ toString e.line ++ " column " ++ toString e.column ++
    " (char " ++ toString e.position ++ ")"

/-- Locates a cause that was found where only the characters `rest` of the whole text
were still to be read. -/
def SyntaxError.locate (whole : List Char) (cause : SyntaxCause) (rest : List Char) :
    SyntaxError :=
  let position := whole.length - rest.length
  let before := whole.take position
  ⟨cause, position, before.count '\n' + 1,
    (before.reverse.takeWhile (· != '\n')).length + 1⟩

inductive ReadError where
  | malformed (e : SyntaxError)
  | numberTooLong (e : NumberTooLong)
  | tooDeep (e : TooDeep)
  deriving DecidableEq, Repr

def ReadError.message : ReadError → String
  | .malformed e => e.message
  | .numberTooLong e => e.message
  | .tooDeep e => e.message

/-- The error that a reader of the whole text stopped with. -/
def ReadError.ofStop (whole : List Char) : Stop → ReadError
  | .fault cause rest => .malformed (.locate whole cause rest)
  | .numberTooLong e => .numberTooLong e
  | .tooDeep e => .tooDeep e

/-- Reads a value with nothing but space around it. -/
def readWhole (room : Nat) (cs : List Char) : Except Stop (Json × List Char) := do
  let (value, rest) ← readValue room (2 * cs.length + 2) (skipSpace cs)
  match skipSpace rest with
  | [] => .ok (value, [])
  | rest => stop .extraData rest

/-- Reads a whole JSON text, which may not start with a byte order mark, where `room` more
calls may be nested. -/
def parse (room : Nat) (cs : List Char) : Except ReadError Json :=
  match cs with
  | '\ufeff' :: _ => .error (.malformed (.locate cs .byteOrderMark cs))
  | _ =>
    match readWhole room cs with
    | .ok (value, _) => .ok value
    | .error s => .error (.ofStop cs s)

end EventHeader.Json
