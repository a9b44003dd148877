/- The closed set of property kinds. Six kinds hold a single value and have a type
   of C++ each; a string enum holds one of some given texts, and an object holds
   properties of its own. A schema names a kind by its tag. -/
namespace EventHeader

/-- A kind that holds a single value. -/
inductive Primitive where
  | boolean
  | string
  | int32
  | double
  | float
  | mixed
  deriving DecidableEq, Repr

namespace Primitive

def stem : Primitive → String
  | .boolean => "Boolean"
  | .string => "String"
  | .int32 => "Int32"
  | .double => "Double"
  | .float => "Float"
  | .mixed => "Mixed"

def word : Primitive → String
  | .boolean => "boolean"
  | .string => "string"
  | .int32 => "int32"
  | .double => "double"
  | .float => "float"
  | .mixed => "mixed"

/-- The type of C++ that holds values of a kind. -/
def typeName : Primitive → String
  | .boolean => "bool"
  | .string => "std::string"
  | .int32 => "int"
  | .double => "double"
  | .float => "Float"
  | .mixed => "folly::dynamic"

/-- The include directive that a kind's type needs, if any. -/
def include? : Primitive → Option String
  | .mixed => some "#include <folly/dynamic.h>"
  | _ => none

end Primitive

inductive Kind where
  | primitive (p : Primitive)
  | stringEnum
  | object
  deriving DecidableEq, Repr

namespace Kind

def tag : Kind → String
  | .primitive p => p.stem ++ "TypeAnnotation"
  | .stringEnum => "StringEnumTypeAnnotation"
  | .object => "ObjectTypeAnnotation"

def all : List Kind :=
  [.primitive .boolean, .primitive .string, .primitive .int32, .primitive .double,
    .primitive .float, .primitive .mixed, .stringEnum, .object]

def ofTag? (t : String) : Option Kind := all.find? (fun k => k.tag == t)

/-- The include directive that a kind needs by itself, if any. -/
def include? : Kind → Option String
  | .primitive p => p.include?
  | _ => none

end Kind
end EventHeader
