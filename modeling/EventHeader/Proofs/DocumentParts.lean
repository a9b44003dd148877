import EventHeader.Proofs.SchemaGrammar
import EventHeader.Schema.Decode

/- The parts of schema documents. A part is a value without parts of its own, a list, a map,
   or a model: an object of which certain members are read and nothing else. `Model.fields`
   lists the members of each model with the keys under which they may stand and the parts
   they are; for the type of a property this depends on the kind that its tag names. The
   table says what is read where, and nothing of how: no order, no defaults, no faults.

   `Part.read` is the reader of each part, so that statements about parts are statements
   about the readers of schemas. -/
namespace EventHeader.Document

/-- The objects of which certain members are read. -/
inductive Model where
  | schema
  | module
  | component
  | event
  | eventType
  | payload
  | property
  | propertyType
  deriving DecidableEq

/-- What a value of a document is read as. -/
inductive Part where
  | tag
  | text
  | truth
  | word (allowed : String)
  | bubbling
  | model (m : Model)
  | list (item : Part)
  | map (value : Part)
  | nullable (value : Part)
  deriving DecidableEq

/-- A member of a model: the keys under which it may stand, the first of them counting, and
the part it is. -/
abbrev Field := List String × Part

/-- What is read of the type of a property beside its tag. -/
def kindFields (tag : String) : List Field :=
  if tag = "StringEnumTypeAnnotation" then [(["options"], .list .text)]
  else if tag = "ObjectTypeAnnotation" then [(["properties"], .list (.model .property))]
  else []

/-- The members that are read of an object as a model. -/
def Model.fields (m : Model) (es : Entries Json) : List Field :=
  match m with
  | .schema => [(["modules"], .map (.model .module))]
  | .module => [(["type"], .text), (["components"], .nullable (.map (.model .component)))]
  | .component => [(["events"], .list (.model .event))]
  | .event =>
    [(["name"], .text), (["optional"], .truth), (Grammar.bubblingKeys, .bubbling),
      (Grammar.typeKeys, .model .eventType)]
  | .eventType =>
    [(["type"], .word "EventTypeAnnotation"), (["argument"], .nullable (.model .payload))]
  | .payload =>
    [(["type"], .word "ObjectTypeAnnotation"), (["properties"], .list (.model .property))]
  | .property =>
    [(["name"], .text), (["optional"], .truth), (Grammar.typeKeys, .model .propertyType)]
  | .propertyType =>
    (["type"], .tag) ::
      match Keyed.find? es "type" with
      | some (.string tag) => kindFields tag
      | _ => []

/-- No two members of a model may stand under the same key. -/
theorem Model.field_unique (m : Model) (es : Entries Json) : ∀ f ∈ m.fields es, ∀ g ∈ m.fields es,
    ∀ key ∈ f.1, key ∈ g.1 → f = g := by
  cases m with
  | propertyType =>
    simp only [fields]
    split
    · unfold kindFields
      split
      · decide
      · split <;> decide
    · decide
  | _ => simp only [fields]; decide

/-! ## Readers -/

@[reducible] def Model.Value : Model → Type
  | .schema => Schema
  | .module => Module
  | .component => Component
  | .event => Event
  | .eventType => Option (List Property)
  | .payload => List Property
  | .property => Property
  | .propertyType => PropertyType

@[reducible] def Part.Value : Part → Type
  | .tag => Json
  | .text => String
  | .truth => Bool
  | .word _ => String
  | .bubbling => Bubbling
  | .model m => m.Value
  | .list item => List item.Value
  | .map value => Entries value.Value
  | .nullable value => Option value.Value

open Schema.Decode

/-- The reader of a model, where so many levels of properties may come. -/
def Model.read (levels : Nat) : (m : Model) → Json → Checked m.Value
  | .schema => Schema.Decode.schema
  | .module => Schema.Decode.module
  | .component => Schema.Decode.component
  | .event => Schema.Decode.event
  | .eventType => Schema.Decode.eventType
  | .payload => Schema.Decode.payload
  | .property => Schema.Decode.property levels
  | .propertyType => Schema.Decode.propertyType (Schema.Decode.property levels)

/-- Reads null as nothing and everything else as a value. -/
def orNull {α : Type} (value : Json → Checked α) : Json → Checked (Option α)
  | .null => .ok none
  | v => (value v).map some

/-- The reader of a part, where so many levels of properties may come. -/
def Part.read (levels : Nat) : (p : Part) → Json → Checked p.Value
  | .tag => .ok
  | .text => string
  | .truth => bool
  | .word allowed => literal [allowed]
  | .bubbling => Schema.Decode.bubbling
  | .model m => m.read levels
  | .list item => Schema.Decode.list (item.read levels)
  | .map value => Schema.Decode.map (value.read levels)
  | .nullable value => orNull (value.read levels)

theorem nullablePayload_eq (levels : Nat) :
    nullablePayload = (Part.nullable (.model .payload)).read levels := by
  funext v
  cases v <;> rfl

theorem nullableComponents_eq (levels : Nat) :
    nullableComponents = (Part.nullable (.map (.model .component))).read levels := by
  funext v
  cases v <;> rfl

end EventHeader.Document
