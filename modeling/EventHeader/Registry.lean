import EventHeader.Declaration
import EventHeader.GenerationError
import EventHeader.Journal.Action

/- The declarations of one component, in the order in which their names were first
   registered. A name registered again keeps its place and takes the new contents.
   Contents that differ are refused by a strict registry and reported by another. -/
namespace EventHeader

/-- The declarations of one component. -/
structure Registry where
  strict : Bool
  declarations : List Declaration
  deriving DecidableEq, Repr

namespace Registry

def empty (strict : Bool) : Registry := ⟨strict, []⟩

def find? (r : Registry) (name : String) : Option Declaration :=
  r.declarations.find? (fun d => d.name == name)

def names (r : Registry) : List String := r.declarations.map Declaration.name

def contains (r : Registry) (name : String) : Bool := (r.find? name).isSome

def size (r : Registry) : Nat := r.declarations.length

/-- Puts a declaration in the place of the one of its name, or at the end. -/
def placed (d : Declaration) : List Declaration → List Declaration
  | [] => [d]
  | e :: rest => if e.name = d.name then d :: rest else e :: placed d rest

/-- The registry with a declaration put in its place. -/
def place (r : Registry) (d : Declaration) : Registry :=
  { r with declarations := placed d r.declarations }

/-- Whether the name of a declaration is taken by a different one. -/
def clashes (r : Registry) (d : Declaration) : Bool :=
  match r.find? d.name with
  | some old => old != d
  | none => false

/-- Reports that a declaration is lost to another of its name. -/
def overwritten (d : Declaration) : Record :=
  ⟨.warning, "emitter.registry",
    "Declaration '" ++ d.name ++ "' overwritten by a different declaration with the same " ++
      "name; it keeps its original position and may now precede declarations it references"⟩

/-- Reports that a declaration is in its place. -/
def registered (d : Declaration) : Record :=
  ⟨.debug, "emitter.registry", "Registered " ++ d.sort ++ " " ++ d.name⟩

def register (d : Declaration) : Action Registry GenerationError Unit := fun r =>
  if r.clashes d then
    if r.strict then ⟨.error (.nameCollision d.name), r, []⟩
    else ⟨.ok (), r.place d, [overwritten d, registered d]⟩
  else ⟨.ok (), r.place d, [registered d]⟩

end Registry
end EventHeader
