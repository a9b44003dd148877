import EventHeader.Entries
import EventHeader.Json.Basic
import EventHeader.Text.Digit
import EventHeader.Text.Quoted

/- Arguments of a command. A command has options, some with a value, and at most one
   positional argument. A long option may be cut short as long as it stays unique,
   takes its value after `=` or from the next argument, and short options may be
   written together, with the value of the last one attached. What follows `--` is
   never an option, and neither is a negative number, a lone `-`, or what holds a
   space and starts no option. Two dashes attached to an option as its value are
   dropped and leave it without any. -/
namespace EventHeader.CommandLine

/-- What an option takes and does. -/
inductive OptionSort where
  /-- Asks for the help text and ends the reading of arguments. -/
  | help
  /-- Is there or not. -/
  | flag
  /-- Takes a value. -/
  | value
  deriving DecidableEq, Repr

/-- An option: its spellings, the first of which stands for it, and its sort. -/
structure OptionSpec where
  spellings : List String
  sort : OptionSort
  deriving DecidableEq, Repr

def OptionSpec.name (o : OptionSpec) : String := o.spellings.head?.getD ""

/-- What a command accepts. -/
structure Grammar where
  options : List OptionSpec
  positional : Option String
  deriving DecidableEq, Repr

/-- Why arguments are refused. -/
inductive UsageError where
  | ambiguous (argument : String) (candidates : List String)
  | valueExpected (o : OptionSpec)
  | valueIgnored (o : OptionSpec) (value : String)
  | positionalMissing (name : String)
  | unrecognized (arguments : List String)
  deriving DecidableEq, Repr

def UsageError.message : UsageError → String
  | .ambiguous argument candidates =>
    "ambiguous option: " ++ argument ++ " could match " ++ ", ".intercalate candidates
  | .valueExpected o => "argument " ++ "/".intercalate o.spellings ++ ": expected one argument"
  | .valueIgnored o value =>
    "argument " ++ "/".intercalate o.spellings ++ ": ignored explicit argument " ++
      Text.quoted value
  | .positionalMissing name => "the following arguments are required: " ++ name
  | .unrecognized arguments => "unrecognized arguments: " ++ " ".intercalate arguments

inductive OptionValue where
  | text (s : String)
  /-- What two dashes leave. -/
  | nothing
  deriving DecidableEq, Repr

namespace OptionValue

/-- The value that an attached or a following text is. -/
def ofText (s : String) : OptionValue := if s = "--" then .nothing else .text s

/-- A value as a plain one: where nothing is left, that is an empty list. -/
def plain : OptionValue → Json
  | .text s => .string s
  | .nothing => .array []

end OptionValue

/-- What was read from the arguments. -/
structure Arguments where
  positional : Option String
  values : Entries OptionValue
  flags : List String
  deriving DecidableEq, Repr

/-- What comes of reading arguments: a wish for help, or the arguments. -/
inductive Request where
  | help
  | run (arguments : Arguments)
  deriving DecidableEq, Repr

/-! ## Sorting arguments -/

/-- What stands in one argument with an option: nothing, a value after a long spelling
and `=`, or characters behind a short spelling, with or without `=`. -/
inductive Attached where
  | nothing
  | afterLong (value : List Char)
  | behindShort (cs : List Char)
  deriving DecidableEq, Repr

/-- An argument by its form. -/
inductive Token where
  /-- The argument `--`, after which nothing is an option. -/
  | separator
  | plain (argument : String)
  | option (o : OptionSpec) (attached : Attached)
  /-- What looks like an option and is none. -/
  | unknown (argument : String)
  deriving DecidableEq, Repr

namespace Grammar

/-- All spellings with their options, in order. -/
def spellings (g : Grammar) : List (String × OptionSpec) :=
  g.options.flatMap (fun o => o.spellings.map (fun s => (s, o)))

def find? (g : Grammar) (spelling : String) : Option OptionSpec :=
  Keyed.find? g.spellings spelling

/-- Whether characters start with two dashes, as a long spelling does. -/
def isLong (cs : List Char) : Bool := ['-', '-'].isPrefixOf cs

/-- An argument up to its first `=`, and what follows it, if there is one. -/
def splitAtEquals (cs : List Char) : List Char × Attached :=
  match cs.dropWhile (· != '=') with
  | [] => (cs, .nothing)
  | _ :: value =>
    (cs.takeWhile (· != '='), if isLong cs then .afterLong value else .behindShort value)

/-- The options that a long argument may be short for. -/
def longCandidates (g : Grammar) (cs : List Char) : List (String × OptionSpec × Attached) :=
  let (start, attached) := splitAtEquals cs
  (g.spellings.filter (fun e => start.isPrefixOf e.1.toList)).map
    (fun e => (e.1, e.2, attached))

/-- The options that an argument with a single dash may stand for. -/
def shortCandidates (g : Grammar) (cs : List Char) : List (String × OptionSpec × Attached) :=
  g.spellings.filterMap (fun e =>
    if e.1.toList = cs.take 2 then some (e.1, e.2, .behindShort (cs.drop 2))
    else if cs.isPrefixOf e.1.toList then some (e.1, e.2, .nothing)
    else none)

/-- The options that an argument starting with a dash may stand for. -/
def candidates (g : Grammar) (cs : List Char) : List (String × OptionSpec × Attached) :=
  if isLong cs then g.longCandidates cs else g.shortCandidates cs

/-- Whether digits follow to the end, but for a line feed at the very end. -/
def digitsToEnd (cs : List Char) : Bool :=
  let ds := cs.takeWhile Text.isDecimalDigit
  !ds.isEmpty && (cs.drop ds.length == [] || cs.drop ds.length == ['\n'])

/-- Whether characters are a negative number, with or without a point. -/
def isNegativeNumber : List Char → Bool
  | '-' :: cs =>
    digitsToEnd cs ||
    match cs.dropWhile Text.isDecimalDigit with
    | '.' :: fraction => digitsToEnd fraction
    | _ => false
  | _ => false

/-- Sorts an argument that starts with a dash and is no spelling of an option. -/
def classifyDashed (g : Grammar) (argument : String) : Except UsageError Token :=
  let cs := argument.toList
  let (start, attached) := splitAtEquals cs
  match (if attached = .nothing then none else g.find? (String.ofList start)) with
  | some o => .ok (.option o attached)
  -- An option spelled in full before a `=` does not get here, even if others begin alike.
  | none =>
    match g.candidates cs with
    | [(_, o, attached)] => .ok (.option o attached)
    | [] =>
      if isNegativeNumber cs || cs.contains ' ' then .ok (.plain argument)
      else .ok (.unknown argument)
    | several => .error (.ambiguous argument (several.map Prod.fst))

def classify (g : Grammar) (argument : String) : Except UsageError Token :=
  match argument.toList with
  | '-' :: _ :: _ =>
    match g.find? argument with
    | some o => .ok (.option o .nothing)
    | none => g.classifyDashed argument
  | _ => .ok (.plain argument)

/-- Sorts all arguments; the first one that is ambiguous ends it. -/
def tokens (g : Grammar) : List String → Except UsageError (List Token)
  | [] => .ok []
  | argument :: rest =>
    if argument = "--" then .ok (.separator :: rest.map .plain)
    else do
      let token ← g.classify argument
      let more ← g.tokens rest
      return token :: more

/-! ## Options -/

/-- What one argument with options in it asks for: the options with their values, and an
option whose value is the next argument. -/
structure Uses where
  taken : List (OptionSpec × Option String)
  pending : Option OptionSpec

/-- An option before the uses that stand behind it in one argument. -/
def Uses.after (o : OptionSpec) (u : Uses) : Uses := { u with taken := (o, none) :: u.taken }

/-- The use of an option without anything attached. -/
def useAlone (o : OptionSpec) : Uses :=
  if o.sort = .value then ⟨[], some o⟩ else ⟨[(o, none)], none⟩

/-- The use of an option with a value of its own, which not every option takes. -/
def useWithValue (o : OptionSpec) (value : List Char) : Except UsageError Uses :=
  if o.sort = .value then .ok ⟨[(o, some (String.ofList value))], none⟩
  else .error (.valueIgnored o (String.ofList value))

/-- The use of a short option with characters behind it: its value, or the letters of
further short options. -/
def useShort (g : Grammar) (o : OptionSpec) : List Char → Except UsageError Uses
  | [] => useWithValue o []
  | c :: cs =>
    if o.sort = .value then useWithValue o (c :: cs)
    else match g.find? (String.ofList ['-', c]), cs with
      | none, _ => .error (.valueIgnored o (String.ofList (c :: cs)))
      | some next, [] => .ok ((useAlone next).after o)
      | some next, d :: ds => (g.useShort next (d :: ds)).map (Uses.after o)

def uses (g : Grammar) (o : OptionSpec) : Attached → Except UsageError Uses
  | .nothing => .ok (useAlone o)
  | .afterLong value => useWithValue o value
  | .behindShort cs => g.useShort o cs

/-! ## Reading -/

/-- What has been read so far, and the arguments that nothing takes, last one first. -/
structure Reading where
  arguments : Arguments
  extras : List String

/-- Notes options in order; a wish for help ends the reading. -/
def note (r : Reading) : List (OptionSpec × Option String) → Option Reading
  | [] => some r
  | (o, value) :: rest =>
    match o.sort with
    | .help => none
    | .flag => note { r with arguments.flags := r.arguments.flags ++ [o.name] } rest
    | .value =>
      let v := OptionValue.ofText (value.getD "")
      note { r with arguments.values := Keyed.put r.arguments.values o.name v } rest

/-- Notes an argument that is no option: the positional one if it is still missing. -/
def notePlain (g : Grammar) (r : Reading) (argument : String) : Reading :=
  if g.positional.isSome && r.arguments.positional.isNone then
    { r with arguments.positional := some argument }
  else { r with extras := argument :: r.extras }

/-- Reads sorted arguments. A separator goes with the positional argument next to it
and is one argument too many elsewhere. -/
def readTokens (g : Grammar) : Reading → List Token → Except UsageError (Option Reading)
  | r, [] => .ok (some r)
  | r, .plain argument :: .separator :: rest =>
    if g.positional.isSome && r.arguments.positional.isNone then
      readTokens g (g.notePlain r argument) rest
    else readTokens g { g.notePlain r argument with extras := "--" :: argument :: r.extras } rest
  | r, .plain argument :: rest => readTokens g (g.notePlain r argument) rest
  | r, .separator :: rest =>
    if g.positional.isSome && r.arguments.positional.isNone && !rest.isEmpty then
      readTokens g r rest
    else readTokens g { r with extras := "--" :: r.extras } rest
  | r, .unknown argument :: rest =>
    readTokens g { r with extras := argument :: r.extras } rest
  | r, .option o attached :: rest => do
    let u ← g.uses o attached
    match u.pending with
    | none =>
      match note r u.taken with
      | none => .ok none
      | some r => readTokens g r rest
    -- Whatever looks like an option is not taken for a value.
    | some p =>
      match rest with
      | .plain value :: rest =>
        match note r (u.taken ++ [(p, some value)]) with
        | none => .ok none
        | some r => readTokens g r rest
      | _ => .error (.valueExpected p)

/-- Reads the arguments of a command. A missing positional argument is worse than one
too many. -/
def read (g : Grammar) (arguments : List String) : Except UsageError Request := do
  let ts ← g.tokens arguments
  match ← g.readTokens ⟨⟨none, [], []⟩, []⟩ ts with
  | none => return .help
  | some r =>
    match g.positional, r.arguments.positional with
    | some name, none => throw (.positionalMissing name)
    | _, _ =>
      if r.extras.isEmpty then return .run r.arguments
      else throw (.unrecognized r.extras.reverse)

end Grammar
end EventHeader.CommandLine
