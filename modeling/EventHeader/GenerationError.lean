import EventHeader.Json.Text

/- What keeps a header from being generated. Each error is a breach of what a schema
   promises; the wording names the place as the user wrote it. -/
namespace EventHeader

/-- Why the declarations of a schema cannot be generated. -/
inductive GenerationError where
  /-- A property has a kind outside of the eight, or one without a type of its own
  where a single value is expected. -/
  | invalidType (kind : Json)
  /-- Two different declarations get one name. -/
  | nameCollision (name : String)
  /-- Several options of an enum get one case. -/
  | caseCollision (enum label : String) (options : List String)

def GenerationError.message : GenerationError → String
  | .invalidType kind => "Received invalid event property type " ++ kind.text
  | .nameCollision name => "Declaration '" ++ name ++ "' was generated twice with different contents"
  | .caseCollision enum label options =>
    "Enum '" ++ enum ++ "' options " ++ ", ".intercalate (options.map Text.quoted) ++
      " all map to case '" ++ label ++ "'"

end EventHeader
