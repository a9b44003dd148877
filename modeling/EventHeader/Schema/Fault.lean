import EventHeader.Json.Basic
import EventHeader.Schema.Kind
import EventHeader.Json.Text

/- Faults of a schema document. A fault is located by the way down from the whole
   document, says what is wrong there, and keeps the value it was found at. -/
namespace EventHeader

inductive Step where
  | key (name : String)
  | index (i : Nat)
  deriving DecidableEq, Repr

def Step.text : Step → String
  | .key name => name
  | .index i => toString i

/-- What is wrong at a place of a document. -/
inductive FaultCause where
  /-- A required member is absent. -/
  | missing
  /-- Something else than an object where `model` is described. -/
  | notModel (model : String)
  /-- Something else than an object where a map is expected. -/
  | notMap
  /-- Something else than a list. -/
  | notList
  /-- Something else than a text. -/
  | notString
  /-- A text or a number that stands for no truth value. -/
  | unreadableBool
  /-- A value of a type that holds no truth value. -/
  | notBool
  /-- Another text than the only ones allowed. -/
  | notLiteral (allowed : List String)
  /-- Something else than an object where the type of a property is described. -/
  | notTypeObject
  /-- A type of a property that names no kind. -/
  | tagMissing
  /-- A type of a property whose kind is none of the eight. -/
  | tagUnknown (tag : Json)
  /-- Properties nested too deep. -/
  | tooDeep

namespace FaultCause

def code : FaultCause → String
  | .missing => "missing"
  | .notModel _ => "model_type"
  | .notMap => "dict_type"
  | .notList => "list_type"
  | .notString => "string_type"
  | .unreadableBool => "bool_parsing"
  | .notBool => "bool_type"
  | .notLiteral _ => "literal_error"
  | .notTypeObject => "model_attributes_type"
  | .tagMissing => "union_tag_not_found"
  | .tagUnknown _ => "union_tag_invalid"
  | .tooDeep => "recursion_depth_exceeded"

/-- A text between single quotes, as it is. -/
def inQuotes (s : String) : String := "'" ++ s ++ "'"

def message : FaultCause → String
  | .missing => "Field required"
  | .notModel model => "Input should be a valid dictionary or instance of " ++ model
  | .notMap => "Input should be a valid dictionary"
  | .notList => "Input should be a valid list"
  | .notString => "Input should be a valid string"
  | .unreadableBool => "Input should be a valid boolean, unable to interpret input"
  | .notBool => "Input should be a valid boolean"
  | .notLiteral allowed => "Input should be " ++ " or ".intercalate (allowed.map inQuotes)
  | .notTypeObject => "Input should be a valid dictionary or object to extract fields from"
  | .tagMissing => "Unable to extract tag using discriminator 'type'"
  | .tagUnknown tag =>
    "Input tag '" ++ tag.text ++
      "' found using 'type' does not match any of the expected tags: " ++
      ", ".intercalate (Kind.all.map (fun k => inQuotes k.tag))
  | .tooDeep => "Recursion error - maximum validation depth exceeded"

end FaultCause

/-- A fault: the way to its place, what is wrong there, and the value at the place,
or around it where something is missing. -/
structure Fault where
  location : List Step
  cause : FaultCause
  input : Json

/-- The fault as seen from one step further up. -/
def Fault.under (s : Step) (f : Fault) : Fault := { f with location := s :: f.location }

end EventHeader
