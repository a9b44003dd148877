/- Paths of files. A path is a root and a list of parts. Empty parts and single dots
   say nothing and are left out, two dots are kept, since what they lead to depends
   on the files, and a path without parts is written as a dot. Exactly two slashes
   at the start are a root of their own; any other number is one slash. -/
namespace EventHeader

/-- A path: its root, which is empty for a relative path, and its parts. -/
structure Path where
  root : String
  parts : List String
  deriving DecidableEq, Repr

namespace Path

/-- The root that a number of slashes at the start stands for. -/
def rootOf : Nat → String
  | 0 => ""
  | 2 => "//"
  | _ => "/"

def ofText (s : String) : Path :=
  let slashes := s.toList.takeWhile (· == '/')
  let pieces := ((s.toList.drop slashes.length).splitOn '/').map String.ofList
  ⟨rootOf slashes.length, pieces.filter (fun p => p != "" && p != ".")⟩

def text (p : Path) : String :=
  if p.root = "" ∧ p.parts = [] then "." else p.root ++ "/".intercalate p.parts

/-- The path of `q` seen from `p`. -/
def join (p q : Path) : Path := if q.root = "" then ⟨p.root, p.parts ++ q.parts⟩ else q

def child (p : Path) (name : String) : Path := p.join (ofText name)

/-- The last part; a path without parts has an empty one. -/
def lastPart (p : Path) : String := p.parts.getLast?.getD ""

/-- The characters up to the last dot, if that dot is neither first nor last. -/
def stemChars (cs : List Char) : List Char :=
  let suffix := cs.reverse.takeWhile (· != '.')
  let before := (cs.reverse.drop suffix.length).drop 1
  if suffix.isEmpty || before.isEmpty then cs else before.reverse

/-- The last part without its extension. -/
def stem (p : Path) : String := String.ofList (stemChars p.lastPart.toList)

end Path
end EventHeader
