import EventHeader.GenerationError
import EventHeader.Schema.Basic

/- Kinds given as arbitrary values. A schema put together by hand may name its kinds
   by anything; what is the tag of one of the eight kinds stands for that kind, and
   everything else is foreign and refused wherever a kind matters. -/
namespace EventHeader

/-- The kind that a value stands for, if it is the tag of one. -/
def Kind.ofValue? : Json → Option Kind
  | .string tag => Kind.ofTag? tag
  | _ => none

def typeNameOf (kind : Json) : Except GenerationError String :=
  match Kind.ofValue? kind with
  | some (.primitive p) => .ok p.typeName
  | _ => .error (.invalidType kind)

def includeOf (kind : Json) : Except GenerationError (Option String) :=
  match Kind.ofValue? kind with
  | some k => .ok k.include?
  | none => .error (.invalidType kind)

/-- The type of a property with the given kind; of the options and the properties
only those that the kind has are used. -/
def PropertyType.ofParts (kind : Json) (options : List String) (properties : List Property) :
    PropertyType :=
  match Kind.ofValue? kind with
  | some (.primitive p) => .primitive p
  | some .stringEnum => .stringEnum options
  | some .object => .object properties
  | none => .foreign kind

end EventHeader
