import EventHeader.Entries
import EventHeader.Journal.Action
import EventHeader.Path
import EventHeader.Text.Quoted

/- Files and directories. Every entry has an absolute place, given by the names on
   the way from the root down to it; the root itself is always a directory. A path
   is followed name by name: each name but the last must lead into a directory, and
   two dots lead back out of one. The operations report the same errors, and in the
   same cases, as those of an operating system. -/
namespace EventHeader

/-- What stands at a place. -/
inductive FileEntry where
  | directory
  | file (bytes : List UInt8)
  deriving DecidableEq, Repr

/-- The entries by place, and the place that relative paths start from. -/
structure FileSystem where
  cwd : List String
  entries : Keyed (List String) FileEntry
  deriving DecidableEq, Repr

/-- Why an operation on files fails. -/
inductive FileErrorCause where
  | notFound
  | occupied
  | notDirectory
  | isDirectory
  /-- The path, or a name in it, has more bytes than there is room for. -/
  | tooLong
  /-- The path holds the character that ends texts for an operating system. -/
  | zeroCharacter
  deriving DecidableEq, Repr

/-- A failed operation on the file of a path. -/
structure FileError where
  cause : FileErrorCause
  path : Path
  deriving DecidableEq, Repr

def FileErrorCause.message : FileErrorCause → String
  | .notFound => "[Errno 2] No such file or directory"
  | .occupied => "[Errno 17] File exists"
  | .notDirectory => "[Errno 20] Not a directory"
  | .isDirectory => "[Errno 21] Is a directory"
  | .tooLong => "[Errno 36] File name too long"
  | .zeroCharacter => "embedded null byte"

/-- Whether a cause comes from the operating system. A path that cannot even be handed
to it has no number and its path is not told. -/
def FileErrorCause.isSystem (c : FileErrorCause) : Bool := c != .zeroCharacter

def FileError.message (e : FileError) : String :=
  if e.cause.isSystem then e.cause.message ++ ": " ++ Text.quoted e.path.text
  else e.cause.message

namespace FileSystem

def entry? (fs : FileSystem) (place : List String) : Option FileEntry :=
  if place = [] then some .directory else Keyed.find? fs.entries place

def put (fs : FileSystem) (place : List String) (e : FileEntry) : FileSystem :=
  { fs with entries := Keyed.put fs.entries place e }

/-! ## Following paths -/

def maxNameSize : Nat := 255

def maxPathSize : Nat := 4095

/-- Goes down from the directory at `place` by names that all have to lead into
directories. -/
def descend (fs : FileSystem) (place : List String) :
    List String → Except FileErrorCause (List String)
  | [] => .ok place
  | name :: rest =>
    -- Two dots lead up from where the names before them have led.
    if name = ".." then descend fs place.dropLast rest
    else if maxNameSize < name.utf8ByteSize then .error .tooLong
    else match fs.entry? (place ++ [name]) with
      | none => .error .notFound
      | some (.file _) => .error .notDirectory
      | some .directory => descend fs (place ++ [name]) rest

/-- The place that the name `last` leads to from a directory, be there anything or not. -/
def step (place : List String) (last : String) : List String :=
  if last = ".." then place.dropLast else place ++ [last]

/-- The place a path starts from. -/
def start (fs : FileSystem) (p : Path) : List String := if p.root = "" then fs.cwd else []

/-- The place that some names lead to from a directory, be there anything or not. -/
def follow (fs : FileSystem) (place names : List String) : Except FileErrorCause (List String) :=
  match names.getLast? with
  | none => .ok place
  | some last =>
    match fs.descend place names.dropLast with
    | .error cause => .error cause
    | .ok above =>
      if maxNameSize < last.utf8ByteSize then .error .tooLong else .ok (step above last)

/-- The place a path leads to, be there anything or not. The path is looked at as a
whole before any of its names is followed. -/
def locate (fs : FileSystem) (p : Path) : Except FileErrorCause (List String) :=
  if p.text.toList.contains '\x00' then .error .zeroCharacter
  else if maxPathSize < p.text.utf8ByteSize then .error .tooLong
  else fs.follow (fs.start p) p.parts

def find? (fs : FileSystem) (p : Path) : Option FileEntry :=
  match fs.locate p with
  | .ok place => fs.entry? place
  | .error _ => none

/-- Whether a path leads to a file or a directory. Of a path that is too long this
cannot be said. -/
def contains (fs : FileSystem) (p : Path) : Except FileErrorCause Bool :=
  match fs.locate p with
  | .ok place => .ok (fs.entry? place).isSome
  | .error .tooLong => .error .tooLong
  -- A path with the character that no system takes leads nowhere, and that is no failure.
  | .error _ => .ok false

def isDirectory (fs : FileSystem) (p : Path) : Bool := fs.find? p == some .directory

/-! ## Operations -/

def read (fs : FileSystem) (p : Path) : Except FileErrorCause (List UInt8) :=
  match fs.locate p with
  | .error cause => .error cause
  | .ok place =>
    match fs.entry? place with
    | none => .error .notFound
    | some .directory => .error .isDirectory
    | some (.file bytes) => .ok bytes

def write (fs : FileSystem) (p : Path) (bytes : List UInt8) : Except FileErrorCause FileSystem :=
  match fs.locate p with
  | .error cause => .error cause
  | .ok place =>
    match fs.entry? place with
    | some .directory => .error .isDirectory
    | _ => .ok (fs.put place (.file bytes))

/-- Makes a directory where there is nothing yet. -/
def makeDirectory (fs : FileSystem) (p : Path) : Except FileErrorCause FileSystem :=
  match fs.locate p with
  | .error cause => .error cause
  | .ok place =>
    match fs.entry? place with
    | some _ => .error .occupied
    | none => .ok (fs.put place .directory)

/-- Performs an operation whose failure is an error at a path. -/
def perform (p : Path) (operation : FileSystem → Except FileErrorCause FileSystem) :
    Action FileSystem FileError Unit := fun fs =>
  match operation fs with
  | .ok fs' => ⟨.ok (), fs', []⟩
  | .error cause => ⟨.error ⟨cause, p⟩, fs, []⟩

/-- Makes the directory at a path where its parent exists; one that is there already
will do. -/
def ensureDirectory (p : Path) : Action FileSystem FileError Unit :=
  perform p (fun fs =>
    match fs.makeDirectory p with
    | .ok fs' => .ok fs'
    | .error cause => if fs.isDirectory p then .ok fs else .error cause)

/-- Makes the directory at a path, given by its root and its parts from the last one
on, and the directories on the way to it as far as they are missing. -/
def ensureDirectories (root : String) : List String → Action FileSystem FileError Unit
  | [] => ensureDirectory ⟨root, []⟩
  | last :: before => do
    let fs ← .getState
    if fs.makeDirectory ⟨root, (last :: before).reverse⟩ matches .error .notFound then
      ensureDirectories root before
    ensureDirectory ⟨root, (last :: before).reverse⟩

/-- Puts an entry at a path, making the directories on the way to it. -/
def install (fs : FileSystem) (p : Path) (e : FileEntry) : FileSystem :=
  let place := fs.start p ++ p.parts
  let above := (List.range place.length).map place.take
  (above.foldl (fun fs' a => if (fs'.entry? a).isSome then fs' else fs'.put a .directory) fs).put
    place e

/-- Takes away what a path leads to, with everything below it. -/
def remove (fs : FileSystem) (p : Path) : FileSystem :=
  let place := fs.start p ++ p.parts
  { fs with entries := fs.entries.filter (fun e => !place.isPrefixOf e.1) }

/-- The entries below the place that relative paths start from, each by its path
from there, in the order of their paths. -/
def listing (fs : FileSystem) : List (String × FileEntry) :=
  let below := fs.entries.filter (fun e => fs.cwd.isPrefixOf e.1 && fs.cwd != e.1)
  (below.map (fun e => ("/".intercalate (e.1.drop fs.cwd.length), e.2))).mergeSort
    (fun a b => decide (a.1 ≤ b.1))

end FileSystem
end EventHeader
