import EventHeader.Json.Basic

/- The grammar of schema documents, stated on JSON values alone. It says what a document
   has to be, member by member, and nothing of how one is read: no order in which the
   members are looked at, no faults, no values made of them. Members that are not
   mentioned may hold anything. Where a member has two keys, the first of them that the
   object has counts. Properties are counted by depth: those of a payload itself have
   depth 1, and a property of depth 255 or more is none. -/
namespace EventHeader.Grammar

/-! ## Members -/

/-- The value of the first of some keys that an object has. -/
def member? (keys : List String) (es : Entries Json) : Option Json :=
  keys.findSome? (Keyed.find? es)

def Required (keys : List String) (P : Json → Prop) (es : Entries Json) : Prop :=
  ∃ v, member? keys es = some v ∧ P v

def Optional (keys : List String) (P : Json → Prop) (es : Entries Json) : Prop :=
  ∀ v, member? keys es = some v → P v

def typeKeys : List String := ["typeAnnotation", "type_annotation"]

def bubblingKeys : List String := ["bubblingType", "bubbling_type"]

/-! ## Values without parts, lists and maps -/

/-- A text, also one in which halves of surrogate pairs stand alone. -/
inductive IsText : Json → Prop
  | whole (s : String) : IsText (.string s)
  | broken (ps : List Text.Piece) : IsText (.broken ps)

def boolWords : List String :=
  ["0", "off", "f", "false", "n", "no", "1", "on", "t", "true", "y", "yes"]

/-- A truth value, one of the words for it in letters of either case, or the number zero
or one. -/
inductive IsLaxBool : Json → Prop
  | bool (b : Bool) : IsLaxBool (.bool b)
  | word {s w : String} (known : w ∈ boolWords) (same : s.toList.map Char.toLower = w.toList) :
      IsLaxBool (.string s)
  | int {n : Int} (small : n = 0 ∨ n = 1) : IsLaxBool (.int n)
  | float {x : Number.Binary64} (small : x.toInt? = some 0 ∨ x.toInt? = some 1) :
      IsLaxBool (.float x)

inductive IsListOf (P : Json → Prop) : Json → Prop
  | intro {vs : List Json} (items : ∀ v ∈ vs, P v) : IsListOf P (.array vs)

inductive IsMapOf (P : Json → Prop) : Json → Prop
  | intro {es : Entries Json} (values : ∀ e ∈ es, P e.2) : IsMapOf P (.object es)

inductive IsNullOr (P : Json → Prop) : Json → Prop
  | null : IsNullOr P .null
  | value {v : Json} (value : P v) : IsNullOr P v

def IsWord (s : String) (v : Json) : Prop := v = .string s

/-! ## Properties -/

/-- The tags of the kinds that hold a single value. -/
def primitiveTags : List String :=
  ["BooleanTypeAnnotation", "StringTypeAnnotation", "Int32TypeAnnotation", "DoubleTypeAnnotation",
    "FloatTypeAnnotation", "MixedTypeAnnotation"]

mutual
/-- A property that is some levels below its event. -/
inductive IsProperty : Nat → Json → Prop
  | intro {depth : Nat} {es : Entries Json} {v : Json} (bounded : depth < 255)
      (name : Required ["name"] IsText es) (optional : Optional ["optional"] IsLaxBool es)
      (typed : member? typeKeys es = some v) (type : IsPropertyType depth v) :
      IsProperty depth (.object es)

/-- The type of a property of that depth: an object that names one of the eight kinds. -/
inductive IsPropertyType : Nat → Json → Prop
  | primitive {depth : Nat} {es : Entries Json} {tag : String}
      (kind : member? ["type"] es = some (.string tag)) (known : tag ∈ primitiveTags) :
      IsPropertyType depth (.object es)
  | stringEnum {depth : Nat} {es : Entries Json}
      (kind : member? ["type"] es = some (.string "StringEnumTypeAnnotation"))
      (options : Optional ["options"] (IsListOf IsText) es) : IsPropertyType depth (.object es)
  | object {depth : Nat} {es : Entries Json}
      (kind : member? ["type"] es = some (.string "ObjectTypeAnnotation"))
      (properties : Optional ["properties"] (IsPropertyList (depth + 1)) es) :
      IsPropertyType depth (.object es)

inductive IsPropertyList : Nat → Json → Prop
  | intro {depth : Nat} {vs : List Json} (items : ∀ v ∈ vs, IsProperty depth v) :
      IsPropertyList depth (.array vs)
end

/-! ## Events, components, modules -/

/-- A payload. Unlike the type of a property it need not name its kind. -/
inductive IsPayload : Json → Prop
  | intro {es : Entries Json} (kind : Optional ["type"] (IsWord "ObjectTypeAnnotation") es)
      (properties : Optional ["properties"] (IsPropertyList 1) es) : IsPayload (.object es)

/-- The type of an event, which holds its payload, if it has one. -/
inductive IsEventType : Json → Prop
  | intro {es : Entries Json} (kind : Optional ["type"] (IsWord "EventTypeAnnotation") es)
      (argument : Optional ["argument"] (IsNullOr IsPayload) es) : IsEventType (.object es)

inductive IsBubbling : Json → Prop
  | direct : IsBubbling (.string "direct")
  | bubble : IsBubbling (.string "bubble")

inductive IsEvent : Json → Prop
  | intro {es : Entries Json} (name : Required ["name"] IsText es)
      (optional : Optional ["optional"] IsLaxBool es)
      (bubbling : Optional bubblingKeys IsBubbling es)
      (type : Optional typeKeys IsEventType es) : IsEvent (.object es)

inductive IsComponent : Json → Prop
  | intro {es : Entries Json} (events : Optional ["events"] (IsListOf IsEvent) es) :
      IsComponent (.object es)

/-- A module, of whatever type. -/
inductive IsModule : Json → Prop
  | intro {es : Entries Json} (type : Required ["type"] IsText es)
      (components : Optional ["components"] (IsNullOr (IsMapOf IsComponent)) es) : IsModule (.object es)

inductive IsSchema : Json → Prop
  | intro {es : Entries Json} (modules : Optional ["modules"] (IsMapOf IsModule) es) :
      IsSchema (.object es)

end EventHeader.Grammar
