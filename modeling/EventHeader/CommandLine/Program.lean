import EventHeader.CommandLine.Help
import EventHeader.Header
import EventHeader.Journal.Sink
import EventHeader.Output
import EventHeader.Schema.Outline
import EventHeader.Schema.Report
import EventHeader.Schema.Source
import EventHeader.Settings

/- The program as a function: from the arguments, the environment and the files to
   an exit code, what is printed, and the files afterwards. A command reports what
   it cannot do and answers with an exit code; what it does not foresee stops it. -/
namespace EventHeader.CommandLine

/-- A failure that no command foresees. -/
inductive Crash where
  | file (e : FileError)
  | notText (f : Text.Utf8.Fault)
  | numberTooLong (e : Json.NumberTooLong)
  | tooDeep (e : Json.TooDeep)
  | notAPath (e : Settings.NotAPath)
  | noWord (e : Schema.Outline.NoWord)
  deriving DecidableEq, Repr

def Crash.message : Crash → String
  | .file e => e.message
  | .notText f => f.message
  | .numberTooLong e => e.message
  | .tooDeep e => e.message
  | .notAPath e => e.message
  | .noWord e => e.message

def Crash.ofOutput : Output.Failure → Crash
  | .file e => .file e
  | .notText f => .notText f

/-- What a command ends with: an exit code, what it prints and what it complains of. -/
structure Answer where
  exit : Int
  output : String
  complaint : String
  deriving DecidableEq, Repr

def Answer.code (exit : Int) : Answer := ⟨exit, "", ""⟩

def complain {σ ε : Type} (message : String) : Action σ ε Unit := .write .error "cli" message

/-! ## Loading -/

/-- Loads a schema, or reports why it cannot be loaded. Bytes that are no text, numbers
that are too long, documents nested too deep for the `room` that is left, and paths that
no operating system takes are not foreseen. -/
def loadOrReport (room : Nat) (p : Path) : Action FileSystem Crash (Option Schema) := do
  match ← (Schema.load room p).attempt with
  | .ok s => return some s
  | .error (.unreadable e) =>
    if e.cause.isSystem then do
      complain ("Cannot read schema " ++ p.text ++ ": " ++ e.message)
      return none
    else .fail (.file e)
  | .error (.notJson e) => do
    complain ("Schema " ++ p.text ++ " is not valid JSON: " ++ e.message)
    return none
  | .error (.notSchema faults) => do
    complain ("Schema " ++ p.text ++ " is invalid:\n" ++ Schema.Report.text faults)
    return none
  | .error (.notText f) => .fail (.notText f)
  | .error (.numberTooLong e) => .fail (.numberTooLong e)
  | .error (.tooDeep e) => .fail (.tooDeep e)

/-! ## The generate command -/

/-- What the generate command is called with. -/
structure GenerateRequest where
  schema : Path
  library : Option String
  package : Option String
  assumeNonnull : Bool
  strict : Bool
  outputDir : Option Path
  check : Bool
  deriving DecidableEq, Repr

namespace GenerateRequest

/-- The name that the value of an option gives; where nothing is left of the value,
that is an empty one. -/
def nameOfValue : OptionValue → String
  | .text s => s
  | .nothing => ""

/-- The directory that an option gives, if it is there. -/
def directoryOf : Option OptionValue → Except Settings.NotAPath (Option Path)
  | none => .ok none
  | some v => (Settings.pathOfValue v.plain).map some

def ofArguments (a : Arguments) : Except Settings.NotAPath GenerateRequest :=
  (directoryOf (Keyed.find? a.values Manual.outputOption.name)).map (fun dir => {
    schema := Path.ofText (a.positional.getD "")
    library := (Keyed.find? a.values Manual.libraryOption.name).map nameOfValue
    package := (Keyed.find? a.values Manual.packageOption.name).map (fun v => v.plain.text)
    assumeNonnull := a.flags.contains Manual.nonnullOption.name
    strict := a.flags.contains Manual.strictOption.name
    outputDir := dir
    check := a.flags.contains Manual.checkOption.name })

/-- The name of the library; an empty one gives way to the stem of the schema. -/
def libraryName (r : GenerateRequest) (env : Environment) : String :=
  let given := (Settings.text? env .libraryName r.library).getD ""
  if given.isEmpty then r.schema.stem else given

/-- The options that a request stands for in an environment. -/
def options (r : GenerateRequest) (env : Environment) : GenerationOptions where
  library := r.libraryName env
  package := Settings.text? env .packageName r.package
  assumeNonnull := Settings.flag env .assumeNonnull r.assumeNonnull
  strict := Settings.flag env .strictNames r.strict

end GenerateRequest

def workingDirectory (fs : FileSystem) : Path := ⟨"/", fs.cwd⟩

def checkFiles (dir : Path) (files : Entries String) : Action FileSystem Crash Int := do
  let stale ← (Output.check dir files).mapError .ofOutput
  if stale.isEmpty then do
    .write .info "cli" ("Generated files in " ++ dir.text ++ " are up to date")
    return 0
  else do
    complain (toString stale.length ++ " generated file(s) out of date in " ++ dir.text)
    return 1

def writeFiles (dir : Path) (files : Entries String) : Action FileSystem Crash Int := do
  let _ ← (Output.write dir files).mapError .ofOutput
  return 0

/-- Generates the header of a schema and writes it or compares it; the exit code. -/
def generate (room : Nat) (env : Environment) (r : GenerateRequest) :
    Action FileSystem Crash Int := do
  let fs ← .getState
  let dir := Settings.outputDir env (workingDirectory fs) r.outputDir
  match ← loadOrReport room r.schema with
  | none => return 1
  | some schema =>
    match ← (Header.generate (r.options env) schema).attempt with
    | .error e => do
      complain ("Generation aborted: " ++ e.message)
      return 1
    | .ok files => if r.check then checkFiles dir files else writeFiles dir files

/-! ## The other commands -/

def describe (room : Nat) (schema : Path) : Action FileSystem Crash Answer := do
  match ← loadOrReport room schema with
  | none => return .code 1
  | some s => do
    let components ← s.components
    let outline ← (Action.ofExcept (Schema.Outline.text components)).mapError .noWord
    return ⟨0, outline ++ "\n", ""⟩

/-- The text of a setting's value in a list of settings. -/
def settingText : Settings.Value → String
  | .plain .null => ""
  | v => v.text

/-- The lines of a setting in a list of settings. -/
def settingLines (env : Environment) (v : Settings.Variable) : String :=
  v.name ++ "=" ++ settingText (Settings.value env v none) ++ "\n" ++
    "    [" ++ v.category ++ "] " ++ v.description ++ "\n"

def showSettings {σ : Type} (env : Environment) (category : Option String) :
    Action σ Crash Answer :=
  match Settings.list category with
  | [] => do
    complain ("Unknown category: " ++ category.getD "None")
    return .code 1
  | vs => pure ⟨0, String.join (vs.map (settingLines env)), ""⟩

/-- How a started program comes to its end. -/
inductive Ending where
  | exited (code : Int)
  | interrupted
  deriving DecidableEq, Repr

/-- The exit code that an interrupted program stands for. -/
def Ending.code : Ending → Int
  | .exited code => code
  | .interrupted => 130

/-- The arguments that choose the tests of a tier. -/
def tierArguments? : String → Option (List String)
  | "--unit" => some ["-m", "unit"]
  | "--integration" => some ["-m", "integration"]
  | "--all" => some []
  | _ => none

/-- The command that runs the tests: the arguments of all tiers come first. -/
def testCommand (arguments : List String) : List String :=
  ["python", "-m", "pytest"] ++
    arguments.flatMap (fun a => (tierArguments? a).getD []) ++
    arguments.filter (fun a => (tierArguments? a).isNone)

/-! ## The program -/

/-- What a run of the program starts from: its arguments and environment, the time
that records carry, how a program that it starts will end, and how many calls may still
be nested where a document is read. Whatever else it does is taken to find calls enough. -/
structure Invocation where
  arguments : List String
  environment : Environment
  time : String
  ending : Ending
  room : Nat

/-- Of the thousand calls that may be nested, those that are left where the program, started by
itself, begins to read a document. -/
def usualRoom : Nat := 985

/-- What a run of the program leaves behind: its exit code or the failure that ended
it, what it printed, the files, and the commands it started. -/
structure Conclusion where
  exit : Except Crash Int
  output : String
  errors : String
  files : FileSystem
  started : List (List String)

/-- Runs a command that takes options. Called without arguments it may want to be
explained. -/
def withManual (m : Manual) (needsArguments : Bool) (arguments : List String)
    (command : Arguments → Action FileSystem Crash Answer) : Action FileSystem Crash Answer :=
  if needsArguments && arguments.isEmpty then pure ⟨1, m.helpText, ""⟩
  else match m.grammar.read arguments with
    | .error e => pure ⟨2, "", m.refusal e⟩
    | .ok .help => pure ⟨0, m.helpText, ""⟩
    | .ok (.run a) => command a

/-- The commands by name, each from its arguments and the environment. -/
def command? (i : Invocation) (arguments : List String) :
    String → Option (Action FileSystem Crash Answer)
  | "generate" => some (withManual .generate true arguments (fun a => do
      let r ← (Action.ofExcept (GenerateRequest.ofArguments a)).mapError .notAPath
      let code ← generate i.room i.environment r
      return .code code))
  | "describe" => some (withManual .describe true arguments (fun a =>
      describe i.room (Path.ofText (a.positional.getD ""))))
  | "env" => some (withManual .env false arguments (fun a =>
      showSettings i.environment
        ((Keyed.find? a.values Manual.categoryOption.name).map (fun v => v.plain.text))))
  | "test" => some (do
      .write .info "cli" ("Running: " ++ " ".intercalate (testCommand arguments))
      return .code i.ending.code)
  | _ => none

def sink (env : Environment) : Sink :=
  Sink.fresh.setup (some (Sink.levelOfName (Settings.logLevel env none)))

/-- Runs a command and collects what it leaves behind. -/
def conclude (i : Invocation) (fs : FileSystem) (started : List (List String))
    (command : Action FileSystem Crash Answer) : Conclusion :=
  let o := command.run fs
  let log := (sink i.environment).textOfAll i.time o.journal
  match o.result with
  | .ok a => ⟨.ok a.exit, a.output, log ++ a.complaint, o.state, started⟩
  | .error e => ⟨.error e, "", log, o.state, started⟩

/-- A run that only prints the help text of the program. -/
def explain (fs : FileSystem) (exit : Int) (errors : String) : Conclusion :=
  ⟨.ok exit, overview, errors, fs, []⟩

def perform (i : Invocation) (fs : FileSystem) : Conclusion :=
  match i.arguments with
  | [] => explain fs 1 ""
  | name :: arguments =>
    if name = "-h" ∨ name = "--help" then explain fs 0 ""
    else match command? i arguments name with
      | some command =>
        conclude i fs (if name = "test" then [testCommand arguments] else []) command
      | none =>
        explain fs 1 (Sink.bareTextOf ⟨.error, "cli", "Unknown command: " ++ name⟩)

/-- The paths of the files that a run may read or write, with the working directory
at a place. -/
def touched (i : Invocation) (cwd : List String) : List Path :=
  match i.arguments with
  | "generate" :: arguments =>
    match Manual.generate.grammar.read arguments with
    | .ok (.run a) =>
      match GenerateRequest.ofArguments a with
      | .ok r =>
        [r.schema, (Settings.outputDir i.environment ⟨"/", cwd⟩ r.outputDir).child Header.fileName]
      | .error _ => []
    | _ => []
  | "describe" :: arguments =>
    match Manual.describe.grammar.read arguments with
    | .ok (.run a) => [Path.ofText (a.positional.getD "")]
    | _ => []
  | _ => []

end EventHeader.CommandLine
