import EventHeader.Entries
import EventHeader.Json.Text
import EventHeader.Path
import EventHeader.Text.Blank
import EventHeader.Text.Case

/- Settings. Each setting is a variable of the environment with a type, a default
   and a word on what it is for. A setting is what is given for this run, else what
   the environment says, else the default; a text of the environment that its type
   cannot be read from counts as the default. -/
namespace EventHeader

/-- The environment: the texts of its variables. -/
abbrev Environment := Entries String

namespace Settings

inductive ValueType where
  | text
  | flag
  | path
  /-- A type that no reading is known for. -/
  | unread
  deriving DecidableEq, Repr

/-- The value of a setting: a path, or a plain value. -/
inductive Value where
  | plain (v : Json)
  | path (p : Path)

def Value.text : Value → String
  | .plain v => v.text
  | .path p => p.text

/-- The truth value that a word stands for, in any case and with blanks around it. -/
def flagOfText? (s : String) : Option Bool :=
  let word := Text.strip (Text.lowerAscii s)
  if ["true", "1", "yes"].contains word then some true
  else if ["false", "0", "no"].contains word then some false
  else none

/-- The value that a text of the environment stands for; no text stands for the
default, and so does one that its type cannot be read from. -/
def convert (type : ValueType) (default : Value) : Option String → Value
  | none => default
  | some s =>
    match type with
    | .text => .plain (.string s)
    | .flag =>
      match flagOfText? s with
      | some b => .plain (.bool b)
      | none => default
    | .path => .path (Path.ofText s)
    | .unread => .plain (.string s)

inductive Variable where
  | libraryName
  | packageName
  | assumeNonnull
  | strictNames
  | outputDir
  | logLevel
  deriving DecidableEq, Repr

namespace Variable

def all : List Variable :=
  [libraryName, packageName, assumeNonnull, strictNames, outputDir, logLevel]

def name : Variable → String
  | libraryName => "CODEGEN_LIBRARY_NAME"
  | packageName => "CODEGEN_PACKAGE_NAME"
  | assumeNonnull => "CODEGEN_ASSUME_NONNULL"
  | strictNames => "CODEGEN_STRICT_NAMES"
  | outputDir => "CODEGEN_OUTPUT_DIR"
  | logLevel => "CODEGEN_LOG_LEVEL"

def type : Variable → ValueType
  | libraryName => .text
  | packageName => .text
  | assumeNonnull => .flag
  | strictNames => .flag
  | outputDir => .path
  | logLevel => .text

/-- The value of a setting that neither the run nor the environment gives. -/
def default : Variable → Value
  | libraryName => .plain .null
  | packageName => .plain .null
  | assumeNonnull => .plain (.bool false)
  | strictNames => .plain (.bool false)
  | outputDir => .plain .null
  | logLevel => .plain (.string "INFO")

def description : Variable → String
  | libraryName => "Library identifier passed to the generator"
  | packageName => "Optional package identifier passed to the generator"
  | assumeNonnull => "Treat primitive fields as non-nullable"
  | strictNames => "Fail when two declarations resolve to the same name"
  | outputDir => "Directory generated headers are written to"
  | logLevel => "Log level (DEBUG, INFO, WARNING, ERROR)"

def category : Variable → String
  | libraryName => "generation"
  | packageName => "generation"
  | assumeNonnull => "generation"
  | strictNames => "generation"
  | outputDir => "output"
  | logLevel => "logging"

def ofName? (s : String) : Option Variable := all.find? (fun v => v.name == s)

end Variable

/-- The settings of a category, or all of them. -/
def list : Option String → List Variable
  | none => Variable.all
  | some category => Variable.all.filter (fun v => v.category == category)

/-- The value of a setting, `given` for this run or else from the environment. -/
def value (env : Environment) (v : Variable) (given : Option Value) : Value :=
  match given with
  | some x => x
  | none => convert v.type v.default (Keyed.find? env v.name)

/-- The value of a setting as a text, if it is one. -/
def text? (env : Environment) (v : Variable) (given : Option String) : Option String :=
  match value env v (given.map (fun s => .plain (.string s))) with
  | .plain (.string s) => some s
  | _ => none

/-- The value of a setting as a truth value; a flag of the run can only turn it on. -/
def flag (env : Environment) (v : Variable) (given : Bool) : Bool :=
  match value env v (if given then some (.plain (.bool true)) else none) with
  | .plain (.bool b) => b
  | _ => false

/-- A value given where only a text can be a path. -/
structure NotAPath where
  typeName : String
  deriving DecidableEq, Repr

def NotAPath.message (e : NotAPath) : String :=
  "expected str, bytes or os.PathLike object, not " ++ e.typeName

def pathOfValue : Json → Except NotAPath Path
  | .string s => .ok (Path.ofText s)
  | .broken ps => .ok (Path.ofText (Text.textOfPieces ps))
  | v => .error ⟨v.typeName⟩

/-- The name of the directory for generated files below the working directory. -/
def outputDirName : String := "generated"

def outputDir (env : Environment) (cwd : Path) (given : Option Path) : Path :=
  match given with
  | some p => p
  | none =>
    match value env .outputDir none with
    | .path p => p
    | _ => cwd.child outputDirName

/-- The name of the level from which records are shown, in upper case. -/
def logLevel (env : Environment) (given : Option Value) : String :=
  Text.upper (value env .logLevel given).text

end Settings
end EventHeader
