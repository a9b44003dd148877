import EventHeader.Text.Digit
import EventHeader.Text.HiddenTable
import EventHeader.Text.Piece

/- Quoted texts in messages. A text is put between single quotes, or between
   double quotes when it holds a single quote and no double one. Backslash, the
   quote in use, line feed, carriage return and tab are escaped by a letter of
   their own, other hidden characters by their code point, and every character
   with a printed form stands for itself. Half a surrogate pair is escaped by its
   code unit. -/
namespace EventHeader.Text

/-- Whether a character has no printed form of its own. -/
def isHidden (c : Char) : Bool :=
  if 0x20 ≤ c.toNat ∧ c.toNat ≤ 0x7E then false
  else hiddenRuns.any (fun run => run.1 ≤ c.toNat && c.toNat ≤ run.2)

/-- The escape of a character by its code point, as short as the code point allows. -/
def codePointEscape (c : Char) : List Char :=
  if c.toNat < 0x100 then '\\' :: 'x' :: hexDigits 2 c.toNat
  else if c.toNat < 0x10000 then '\\' :: 'u' :: hexDigits 4 c.toNat
  else '\\' :: 'U' :: hexDigits 8 c.toNat

/-- A character as it is written between two marks `mark`. -/
def quotedChar (mark : Char) (c : Char) : List Char :=
  if c = mark ∨ c = '\\' then ['\\', c]
  else if c = '\n' then ['\\', 'n']
  else if c = '\r' then ['\\', 'r']
  else if c = '\t' then ['\\', 't']
  else if isHidden c then codePointEscape c
  else [c]

/-- The mark a text is quoted with. -/
def quoteMark (s : String) : Char :=
  if s.toList.contains '\'' && !s.toList.contains '"' then '"' else '\''

def quoted (s : String) : String :=
  let mark := quoteMark s
  String.ofList (mark :: s.toList.flatMap (quotedChar mark) ++ [mark])

/-- A piece of a text as it is written between two marks `mark`. -/
def quotedPiece (mark : Char) : Piece → List Char
  | .char c => quotedChar mark c
  | .half unit => '\\' :: 'u' :: hexDigits 4 unit

def quotedPieces (ps : List Piece) : String :=
  let mark := quoteMark (textOfPieces ps)
  String.ofList (mark :: ps.flatMap (quotedPiece mark) ++ [mark])

/-- Several quoted texts between square brackets. -/
def quotedList (ss : List String) : String :=
  "[" ++ ", ".intercalate (ss.map quoted) ++ "]"

end EventHeader.Text
