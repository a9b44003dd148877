import EventHeader.FileSystem
import EventHeader.Text.Line
import EventHeader.Text.Utf8

/- Generated files on disk. They are written below a directory, which is made if it
   is missing, or only compared with what is there. A comparison reads line endings
   as line feeds and changes nothing. -/
namespace EventHeader.Output

/-- Why generated files cannot be written or compared. -/
inductive Failure where
  | file (e : FileError)
  | notText (f : Text.Utf8.Fault)
  deriving DecidableEq, Repr

def Failure.message : Failure → String
  | .file e => e.message
  | .notText f => f.message

/-- Writes each file below a directory that is there and gives the paths written. -/
def writeEach (dir : Path) : Entries String → Action FileSystem Failure (List Path)
  | [] => pure []
  | (name, contents) :: rest => do
    let path := dir.child name
    (FileSystem.perform path (fun fs => fs.write path (Text.Utf8.encode contents))).mapError .file
    .write .info "output" ("Wrote " ++ path.text)
    let paths ← writeEach dir rest
    return path :: paths

/-- Writes files below a directory, which is made if it is missing. -/
def write (dir : Path) (files : Entries String) : Action FileSystem Failure (List Path) := do
  (FileSystem.ensureDirectories dir.root dir.parts.reverse).mapError .file
  writeEach dir files

/-- Whether the file at a path is there and reads as the given text. -/
def matchesFile (fs : FileSystem) (path : Path) (contents : String) : Except Failure Bool :=
  match fs.contains path with
  | .error cause => .error (.file ⟨cause, path⟩)
  | .ok false => .ok false
  | .ok true =>
    match fs.read path with
    | .error cause => .error (.file ⟨cause, path⟩)
    | .ok bytes =>
      match Text.Utf8.decode bytes with
      | .error f => .error (.notText f)
      | .ok cs => .ok (Text.universalNewlines cs == contents.toList)

/-- Compares files with those below a directory and gives the paths of those that are
missing or different. -/
def check (dir : Path) : Entries String → Action FileSystem Failure (List Path)
  | [] => pure []
  | (name, contents) :: rest => do
    let path := dir.child name
    let fs ← .getState
    let upToDate ← .ofExcept (matchesFile fs path contents)
    if upToDate then
      check dir rest
    else do
      .write .warning "output" (path.text ++ " is out of date")
      let stale ← check dir rest
      return path :: stale

end EventHeader.Output
