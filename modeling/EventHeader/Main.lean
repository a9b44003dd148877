import EventHeader.CommandLine.Program
import Std.Time

/- The program itself. It looks up what the run may touch, lets the run be computed
   and carries out what has changed. It starts no other programs: where one is to
   be started, it says which. -/
namespace EventHeader.Main

def placePath (place : List String) : String := "/" ++ "/".intercalate place

def look (place : List String) : IO (Option FileEntry) := do
  try
    let bytes ← IO.FS.readBinFile (placePath place)
    return some (.file bytes.toList)
  catch e =>
    match e with
    | .inappropriateType _ 21 _ => return some .directory
    | _ => return none

/-- The places on the way along a path, the last one included. -/
def placesAlong (cwd : List String) (p : Path) : List (List String) :=
  let start := if p.root = "" then cwd else []
  let way := p.parts.foldl (fun places name =>
    FileSystem.step (places.head?.getD start) name :: places) [start]
  way.reverse

/-- The part of the files on disk that lies along some paths. -/
def snapshot (cwd : List String) (paths : List Path) : IO FileSystem := do
  let above := (List.range (cwd.length + 1)).map cwd.take
  let mut fs : FileSystem := ⟨cwd, []⟩
  for place in above ++ paths.flatMap (placesAlong cwd) do
    if (fs.entry? place).isNone then
      if let some e ← look place then
        fs := fs.put place e
  return fs

/-- Carries out the changes from one state of the files to another. -/
def carryOut (before after : FileSystem) : IO Unit := do
  for (place, e) in after.entries do
    if before.entry? place != some e then
      match e with
      | .directory => IO.FS.createDir (placePath place)
      | .file bytes => IO.FS.writeBinFile (placePath place) bytes.toByteArray

def environment : IO Environment := do
  let mut env : Environment := []
  for v in Settings.Variable.all do
    if let some s ← IO.getEnv v.name then
      env := env ++ [(v.name, s)]
  return env

def workingPlace : IO (List String) := do
  return (Path.ofText (toString (← IO.currentDir))).parts

/-- The time of day as records carry it. -/
def timeText : IO String := do
  let now ← Std.Time.PlainDateTime.now
  return now.format "uuuu-MM-dd HH:mm:ss,SSS"

/-- Runs the program on the disk and gives its exit code. -/
def run (arguments : List String) : IO UInt32 := do
  let i : CommandLine.Invocation :=
    ⟨arguments, ← environment, ← timeText, .exited 127, CommandLine.usualRoom⟩
  let cwd ← workingPlace
  let before ← snapshot cwd (CommandLine.touched i cwd)
  let c := CommandLine.perform i before
  carryOut before c.files
  IO.print c.output
  IO.eprint c.errors
  for command in c.started do
    IO.eprintln ("not started: " ++ " ".intercalate command)
  match c.exit with
  | .ok code => return UInt32.ofNat (code % 256).toNat
  | .error e =>
    IO.eprintln e.message
    return 1

end EventHeader.Main

def main (arguments : List String) : IO UInt32 := EventHeader.Main.run arguments
