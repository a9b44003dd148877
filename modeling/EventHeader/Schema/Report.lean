import EventHeader.Schema.Fault
import EventHeader.Text.Utf8

/- The report of the faults of a document: how many there are, and for each its
   place, what is wrong, the value found there and a page that says more. A long
   value is shortened in the middle, by bytes but never inside a character. -/
namespace EventHeader.Schema.Report

def width (cs : List Char) : Nat :=
  cs.foldl (fun n c => n + (Text.Utf8.encodeChar c).length) 0

/-- As many characters off the front as take at most `limit` bytes. -/
def fitting : Nat → List Char → List Char
  | _, [] => []
  | limit, c :: cs =>
    let size := (Text.Utf8.encodeChar c).length
    if size ≤ limit then c :: fitting (limit - size) cs else []

/-- How many bytes of a value are shown in full. -/
def maxWidth : Nat := 50

/-- The text of a value, shortened to its first 25 and its last 24 bytes where it is
longer than `maxWidth`. -/
def shortened (s : String) : String :=
  let cs := s.toList
  if width cs ≤ maxWidth then s
  else String.ofList (fitting 25 cs ++ ['.', '.', '.'] ++ (fitting 24 cs.reverse).reverse)

/-- A step as it is written in a location: a name with a dot in it is marked off. -/
def stepText : Step → String
  | .key name => if name.toList.contains '.' then "`" ++ name ++ "`" else name
  | .index i => toString i

/-- The lines of the place of a fault; the whole document has none. -/
def locationLines (steps : List Step) : List String :=
  if steps.isEmpty then [] else [".".intercalate (steps.map stepText)]

def faultLines (f : Fault) : List String :=
  locationLines f.location ++
  ["  " ++ f.cause.message ++ " [type=" ++ f.cause.code ++ ", input_value=" ++
      shortened f.input.quotedText ++ ", input_type=" ++ f.input.typeName ++ "]",
    "    For further information visit https://errors.pydantic.dev/2.14/v/" ++ f.cause.code]

def heading (n : Nat) : String :=
  toString n ++ (if n = 1 then " validation error" else " validation errors") ++ " for SchemaType"

def text (faults : List Fault) : String :=
  "\n".intercalate (heading faults.length :: faults.flatMap faultLines)

end EventHeader.Schema.Report
