import EventHeader.Text.Line
import EventHeader.Text.Literal

/- Declarations of C++: structs for the objects of a payload, and enums for its
   string enums. An enum comes with a function that gives each case back as the
   text it stands for. -/
namespace EventHeader

/-- A field of a struct and the name of its type. -/
structure Declaration.Field where
  name : String
  type : String
  deriving DecidableEq, Repr

/-- A case of an enum and the text it stands for. -/
structure Declaration.Case where
  label : String
  literal : String
  deriving DecidableEq, Repr

/-- A declaration inside an emitter class. -/
inductive Declaration where
  | struct (name : String) (fields : List Declaration.Field)
  | enum (name : String) (cases : List Declaration.Case)
  deriving DecidableEq, Repr

/-- There is no case of that label in the enum. -/
structure NoSuchCase where
  enum : String
  label : String
  deriving DecidableEq, Repr

def NoSuchCase.message (e : NoSuchCase) : String :=
  e.enum ++ " has no case '" ++ e.label ++ "'"

namespace Declaration

def name : Declaration → String
  | .struct n _ => n
  | .enum n _ => n

/-- The cases of an enum; a struct has none. -/
def cases : Declaration → List Case
  | .struct _ _ => []
  | .enum _ cs => cs

/-- The names of the types that a declaration is built from. -/
def referencedTypes : Declaration → List String
  | .struct _ fields => fields.map Field.type
  | .enum _ _ => []

def sort : Declaration → String
  | .struct _ _ => "StructDecl"
  | .enum _ _ => "EnumDecl"

/-- The text that the first case of a label stands for. -/
def literalOf (d : Declaration) (label : String) : Except NoSuchCase String :=
  match d.cases.find? (fun c => c.label == label) with
  | some c => .ok c.literal
  | none => .error ⟨d.name, label⟩

/-! ## Text -/

def Field.line (f : Field) : String := "  " ++ f.type ++ " " ++ f.name ++ ";"

def Case.line (c : Case) : String := "  " ++ c.label

/-- The line that gives a case back as its text. -/
def Case.branch (enum : String) (c : Case) : String :=
  "    case " ++ enum ++ "::" ++ c.label ++ ": return " ++ Text.literal c.literal ++ ";"

/-- The lines of the cases in their enum, put together; an enum without cases has
none. -/
def caseBlock : List Case → List String
  | [] => []
  | cs => [",\n".intercalate (cs.map Case.line)]

def render : Declaration → String
  | .struct n fields =>
    Text.unlines (("struct " ++ n ++ " \x7b") :: fields.map Field.line ++ ["\x7d;"])
  | .enum n cs =>
    Text.unlines (
      ("enum class " ++ n ++ " \x7b") :: caseBlock cs ++
      ["\x7d;", "", "static char const *toString(const " ++ n ++ " value) \x7b",
        "  switch (value) \x7b"] ++
      cs.map (Case.branch n) ++ ["  \x7d", "\x7d"])

end Declaration
end EventHeader
