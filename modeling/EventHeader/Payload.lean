import EventHeader.Registry
import EventHeader.Identifier
import EventHeader.Schema.Basic

/- The declarations of a payload. An object becomes a struct and a string enum an
   enum, each named by the path of names from its event down to it. The types of
   the fields are settled in order, so that what a struct refers to is registered
   before the struct itself. -/
namespace EventHeader.Payload
open EventHeader.Declaration

/-- The cases of a string enum, one for each option. -/
def enumCases (options : List String) : List Case :=
  options.map (fun o => ⟨Identifier.ofText o, o⟩)

def casesOf (label : String) (cs : List Case) : List Case :=
  cs.filter (fun c => c.label == label)

/-- The first case whose label another case has too. -/
def repeatedCase? (cs : List Case) : Option Case :=
  cs.find? (fun c => 1 < (casesOf c.label cs).length)

/-- Registers the enum of a string enum and gives its name. -/
def registerEnum (path options : List String) : Action Registry GenerationError String :=
  let name := Identifier.ofPath path
  let cs := enumCases options
  match repeatedCase? cs with
  | some c => do
    let literals := (casesOf c.label cs).map Case.literal
    .write .error "emitter"
      (name ++ ": options " ++ Text.quotedList literals ++ " collide on case " ++ c.label)
    .fail (.caseCollision name c.label literals)
  | none => do
    Registry.register (.enum name cs)
    return name

mutual
/-- Settles the type of a property at `path`: a primitive has one, and what has none
is registered first. -/
def fieldType (component : String) (path : List String) (property : String) :
    PropertyType → Action Registry GenerationError String
  | .primitive p => pure p.typeName
  | .stringEnum options => registerEnum path options
  | .object properties => do
    let fields ← structFields component path properties
    Registry.register (.struct (Identifier.ofPath path) fields)
    return Identifier.ofPath path
  | .foreign kind => do
    .write .error "emitter"
      (component ++ ": property '" ++ property ++ "' has invalid type " ++ kind.text)
    .fail (.invalidType kind)

/-- Settles the types of the properties below `path`, in order. -/
def structFields (component : String) (path : List String) :
    List Property → Action Registry GenerationError (List Field)
  | [] => pure []
  | ⟨name, _, type⟩ :: rest => do
    let typeName ← fieldType component (path ++ [name]) name type
    let fields ← structFields component path rest
    return ⟨name, typeName⟩ :: fields
end

/-- Registers the struct of an object and, before it, what its fields refer to. -/
def registerStruct (component : String) (path : List String) (properties : List Property) :
    Action Registry GenerationError String := do
  let fields ← structFields component path properties
  Registry.register (.struct (Identifier.ofPath path) fields)
  return Identifier.ofPath path

end EventHeader.Payload
