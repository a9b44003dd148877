import EventHeader.Schema.Basic
import EventHeader.Schema.Fault

/- Reading a schema from a JSON document. All faults are collected, in the order of
   the fields of each model and of the items of each list and map, and a fault in
   one item hides none in another. Members that a model does not read are ignored.
   `Checked` is a value or the faults found instead; two checks put together have
   the faults of both. -/
namespace EventHeader

/-- A value read from a document, or the faults found in its place. -/
abbrev Checked (α : Type) := Except (List Fault) α

namespace Checked
variable {α β γ : Type}

/-- One fault at the very place that is being read. -/
def fault (cause : FaultCause) (input : Json) : Checked α := .error [⟨[], cause, input⟩]

/-- Two values, or the faults of both. -/
def both : Checked α → Checked β → Checked (α × β)
  | .ok a, .ok b => .ok (a, b)
  | .ok _, .error fs => .error fs
  | .error fs, .ok _ => .error fs
  | .error fs, .error gs => .error (fs ++ gs)

/-- Locates the faults of a part from one step further up. -/
def under (s : Step) : Checked α → Checked α
  | .ok a => .ok a
  | .error fs => .error (fs.map (Fault.under s))

def all : List (Checked α) → Checked (List α)
  | [] => .ok []
  | c :: cs => (both c (all cs)).map (fun p => p.1 :: p.2)

end Checked

namespace Schema.Decode
variable {α : Type}

/-! ## Values without parts -/

def falseWords : List String := ["0", "off", "f", "false", "n", "no"]

def trueWords : List String := ["1", "on", "t", "true", "y", "yes"]

/-- A text. Halves of surrogate pairs are no fault. A schema has only texts of Unicode in it,
such as a file can hold, so halves are kept up to here and no further: they are replaced. -/
def string : Json → Checked String
  | .string s => .ok s
  | .broken ps => .ok (Text.textOfPieces ps)
  | v => .fault .notString v

/-- How many whole numbers have 64 bits; half of them are negative. -/
def int64Size : Int := 0x10000000000000000

/-- A truth value given as the whole number zero or one. -/
def boolOfInt (n : Int) (v : Json) : Checked Bool :=
  if n = 0 then .ok false
  else if n = 1 then .ok true
  else .fault .unreadableBool v

/-- A truth value, also as a word or as the number zero or one. Whole numbers within
64 bits are told from other numbers. The least of them is told so only where it is not
a floating-point number, since as one it may have been rounded from beyond. -/
def bool (v : Json) : Checked Bool :=
  match v with
  | .bool b => .ok b
  | .string s =>
    let word := String.ofList (s.toList.map Char.toLower)
    if falseWords.contains word then .ok false
    else if trueWords.contains word then .ok true
    else .fault .unreadableBool v
  | .int n =>
    if -int64Size ≤ 2 * n ∧ 2 * n < int64Size then boolOfInt n v else .fault .notBool v
  | .float x =>
    match x.toInt? with
    | some n =>
      if -int64Size < 2 * n ∧ 2 * n < int64Size then boolOfInt n v else .fault .notBool v
    | none => .fault .notBool v
  -- A text with half a pair in it is a text still, but no word.
  | .broken _ => .fault .unreadableBool v
  | _ => .fault .notBool v

/-- One of some texts. -/
def literal (allowed : List String) (v : Json) : Checked String :=
  match v with
  | .string s => if allowed.contains s then .ok s else .fault (.notLiteral allowed) v
  | _ => .fault (.notLiteral allowed) v

/-! ## Lists, maps and models -/

/-- Reads the items of a list, each located by its number from `i` on. -/
def itemsFrom (item : Json → Checked α) (i : Nat) : List Json → List (Checked α)
  | [] => []
  | v :: rest => (item v).under (.index i) :: itemsFrom item (i + 1) rest

def list (item : Json → Checked α) (v : Json) : Checked (List α) :=
  match v with
  | .array vs => .all (itemsFrom item 0 vs)
  | _ => .fault .notList v

/-- Reads the value of one entry of a map, located by its name. -/
def entry (item : Json → Checked α) (e : String × Json) : Checked (String × α) :=
  ((item e.2).under (.key e.1)).map (fun a => (e.1, a))

/-- A map from names to values, in the order of the document. -/
def map (item : Json → Checked α) (v : Json) : Checked (Entries α) :=
  match v with
  | .object es => .all (es.map (entry item))
  | _ => .fault .notMap v

/-- A model, read from the members of an object. -/
def model (name : String) (fields : Entries Json → Checked α) (v : Json) : Checked α :=
  match v with
  | .object es => fields es
  | _ => .fault (.notModel name) v

/-- The member a field is read from: the first of its keys that the object has. -/
def member? (es : Entries Json) : List String → Option (String × Json)
  | [] => none
  | key :: others =>
    match es.find? key with
    | some v => some (key, v)
    | none => member? es others

def optionalField (keys : List String) (absent : α) (value : Json → Checked α)
    (es : Entries Json) : Checked α :=
  match member? es keys with
  | some (key, v) => (value v).under (.key key)
  | none => .ok absent

/-- A field that must be there; a missing one is located by its first key. -/
def requiredField (keys : List String) (value : Json → Checked α) (es : Entries Json) :
    Checked α :=
  match member? es keys with
  | some (key, v) => (value v).under (.key key)
  | none => .error [⟨(keys.take 1).map .key, .missing, .object es⟩]

/-! ## Properties -/

def options (es : Entries Json) : Checked (List String) :=
  optionalField ["options"] [] (list string) es

def properties (item : Json → Checked Property) (es : Entries Json) : Checked (List Property) :=
  optionalField ["properties"] [] (list item) es

/-- The type of a property, chosen by its tag. Faults inside it are located below
the tag. -/
def propertyType (item : Json → Checked Property) (v : Json) : Checked PropertyType :=
  match v with
  | .object es =>
    match Keyed.find? es "type" with
    | none => .fault .tagMissing v
    | some (.string tag) =>
      match Kind.ofTag? tag with
      | some (.primitive p) => .ok (.primitive p)
      | some .stringEnum => (Checked.under (.key tag) (options es)).map .stringEnum
      | some .object => (Checked.under (.key tag) (properties item es)).map .object
      | none => .fault (.tagUnknown (.string tag)) v
    | some tag => .fault (.tagUnknown tag) v
  | _ => .fault .notTypeObject v

def typeKeys : List String := ["typeAnnotation", "type_annotation"]

def bubblingKeys : List String := ["bubblingType", "bubbling_type"]

/-- A property with at most `depth` levels of properties from it on down. -/
def property : Nat → Json → Checked Property
  | 0, v => .fault .tooDeep v
  | depth + 1, v =>
    model "NamedEventProperty" (fun es =>
      (Checked.both (requiredField ["name"] string es)
        (Checked.both (optionalField ["optional"] false bool es)
          (requiredField typeKeys (propertyType (property depth)) es))).map
        (fun p => ⟨p.1, p.2.1, p.2.2⟩)) v

/-- How many levels of properties a payload may have. -/
def maxDepth : Nat := 254

/-! ## Events, components, modules -/

def payload (v : Json) : Checked (List Property) :=
  model "ObjectTypeAnnotation" (fun es =>
    (Checked.both (optionalField ["type"] "" (literal ["ObjectTypeAnnotation"]) es)
      (properties (property maxDepth) es)).map Prod.snd) v

/-- A payload that may be given as null. -/
def nullablePayload : Json → Checked (Option (List Property))
  | .null => .ok none
  | v => (payload v).map some

/-- The type of an event, which holds its payload, if it has one. -/
def eventType (v : Json) : Checked (Option (List Property)) :=
  model "EventTypeAnnotationShape" (fun es =>
    (Checked.both (optionalField ["type"] "" (literal ["EventTypeAnnotation"]) es)
      (optionalField ["argument"] none nullablePayload es)).map Prod.snd) v

def bubbling (v : Json) : Checked Bubbling :=
  (literal ["direct", "bubble"] v).map (fun s => if s = "bubble" then .bubble else .direct)

def event (v : Json) : Checked Event :=
  model "EventTypeShape" (fun es =>
    (Checked.both (requiredField ["name"] string es)
      (Checked.both (optionalField ["optional"] false bool es)
        (Checked.both (optionalField bubblingKeys .direct bubbling es)
          (optionalField typeKeys none eventType es)))).map
      (fun p => ⟨p.1, p.2.1, p.2.2.1, p.2.2.2⟩)) v

def component (v : Json) : Checked Component :=
  model "ComponentShape" (fun es =>
    (optionalField ["events"] [] (list event) es).map Component.mk) v

/-- Components by name, which may be given as null. -/
def nullableComponents : Json → Checked (Option (Entries Component))
  | .null => .ok none
  | v => (map component v).map some

def module (v : Json) : Checked Module :=
  model "SchemaModule" (fun es =>
    (Checked.both (requiredField ["type"] string es)
      (optionalField ["components"] none nullableComponents es)).map
      (fun p => ⟨p.1, p.2⟩)) v

def schema (v : Json) : Checked Schema :=
  model "SchemaType" (fun es =>
    (optionalField ["modules"] [] (map module) es).map Schema.mk) v

end Schema.Decode

/-- The schema that a document describes, or all faults of the document. -/
def Schema.ofJson (v : Json) : Checked Schema := Schema.Decode.schema v

/-- The faults of a document; none if it describes a schema. -/
def schemaFaults (v : Json) : List Fault :=
  match Schema.ofJson v with
  | .ok _ => []
  | .error fs => fs

end EventHeader
