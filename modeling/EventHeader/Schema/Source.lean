import EventHeader.FileSystem
import EventHeader.Json.Reader
import EventHeader.Schema.Decode
import EventHeader.Text.Line
import EventHeader.Text.Utf8

/- Schemas in files. The bytes of a schema file are read as UTF-8, line endings are
   made line feeds, the text is read as JSON, and the document as a schema. Each
   stage has its own way to fail, and the first failure is the answer. -/
namespace EventHeader

/-- Why a file is no schema. -/
inductive LoadError where
  | unreadable (e : FileError)
  | notText (f : Text.Utf8.Fault)
  | notJson (e : Json.SyntaxError)
  | numberTooLong (e : Json.NumberTooLong)
  | tooDeep (e : Json.TooDeep)
  | notSchema (faults : List Fault)

/-- The schema that the bytes of a file describe, read where `room` more calls may be
nested. -/
def Schema.ofBytes (room : Nat) (bytes : List UInt8) : Except LoadError Schema :=
  match Text.Utf8.decode bytes with
  | .error f => .error (.notText f)
  | .ok cs =>
    match Json.parse room (Text.universalNewlines cs) with
    | .error (.malformed e) => .error (.notJson e)
    | .error (.numberTooLong e) => .error (.numberTooLong e)
    | .error (.tooDeep e) => .error (.tooDeep e)
    | .ok v => (Schema.ofJson v).mapError .notSchema

def Schema.inFile (room : Nat) (fs : FileSystem) (p : Path) : Except LoadError Schema :=
  match fs.read p with
  | .error cause => .error (.unreadable ⟨cause, p⟩)
  | .ok bytes => Schema.ofBytes room bytes

def Schema.load (room : Nat) (p : Path) : Action FileSystem LoadError Schema := do
  .write .debug "schema" ("Loading schema from " ++ p.text)
  let fs ← .getState
  .ofExcept (Schema.inFile room fs p)

end EventHeader
