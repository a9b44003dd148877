import EventHeader.Proofs.CheckedFaults
import EventHeader.Proofs.DocumentParts
import EventHeader.Proofs.SchemaAcceptance

/- The places of schema documents. A place is a value together with what it is read as. Its
   report is made of stretches: faults about the value itself, and the reports of the places
   right below it, each with the way down to it in front (`Place.stretches`). The stretches
   are listed here from the table of the members that are read, without the readers. In what
   ways they come about is said once (`Place.Shape`), and for each of these ways the reader
   finds just these faults, in this order (`faults_eq_stretches`). -/
namespace EventHeader.Document
open Checked Schema.Decode

/-- A value of a document, what it is read as, and how many levels of properties may come. -/
structure Place where
  part : Part
  levels : Nat
  value : Json

/-- The faults that the value of a place has on its own. -/
def Place.faults (p : Place) : List Fault := (p.part.read p.levels p.value).faults

/-- A stretch of the report of a place: faults about its own value, or the report of a place
some steps below. -/
inductive Stretch where
  | own (fs : List Fault)
  | part (steps : List Step) (below : Place)

def Stretch.faults : Stretch → List Fault
  | .own fs => fs
  | .part steps below => below.faults.map (Fault.below steps)

def Stretch.under (s : Step) : Stretch → Stretch
  | .own fs => .own (fs.map (Fault.below [s]))
  | .part steps below => .part (s :: steps) below

/-- The fields of a model that must be there, by their keys. -/
def Model.required : Model → List (List String)
  | .module => [["type"]]
  | .event => [["name"]]
  | .property => [["name"], Grammar.typeKeys]
  | _ => []

/-- How many levels of properties may come below a model, unless nothing of it is read. -/
def Model.levelsBelow : Model → Nat → Option Nat
  | .payload, _ => some maxDepth
  | .property, 0 => none
  | .property, levels + 1 => some levels
  | _, levels => some levels

/-- The stretch of a field: the member it is read from, or that there is none. -/
def Model.stretch (m : Model) (levels : Nat) (es : Entries Json) (f : Field) : Stretch :=
  match member? es f.1 with
  | some (key, v) => .part [.key key] ⟨f.2, levels, v⟩
  | none =>
    .own (if f.1 ∈ m.required then [⟨(f.1.take 1).map .key, .missing, .object es⟩] else [])

/-- The stretches of the type of a property, by the tag of its kind: what a kind reads lies
below the tag. -/
def kindStretches (tag : String) (levels : Nat) (es : Entries Json) : List Stretch :=
  (kindFields tag).map fun f => (Model.propertyType.stretch levels es f).under (.key tag)

/-- The stretches of the report of a place, in order. -/
def Place.stretches (p : Place) : List Stretch :=
  match p.part, p.value with
  | .list item, .array vs => vs.zipIdx.map fun e => .part [.index e.2] ⟨item, p.levels, e.1⟩
  | .map value, .object es => es.map fun e => .part [.key e.1] ⟨value, p.levels, e.2⟩
  | .nullable _, .null => []
  | .nullable value, v => [.part [] ⟨value, p.levels, v⟩]
  | .model .propertyType, .object es =>
    match Keyed.find? es "type" with
    | some (.string tag) =>
      if (Kind.ofTag? tag).isSome then kindStretches tag p.levels es else [.own p.faults]
    | _ => [.own p.faults]
  | .model m, .object es =>
    match m.levelsBelow p.levels with
    | some levels => (m.fields es).map (m.stretch levels es)
    | none => [.own p.faults]
  | _, _ => [.own p.faults]

/-! ## Models, field by field -/

theorem faults_optional (m : Model) (f : Field) (h : f.1 ∉ m.required) (absent : f.2.Value)
    (levels : Nat) (es : Entries Json) :
    (optionalField f.1 absent (f.2.read levels) es).faults = (m.stretch levels es f).faults := by
  rw [faults_optionalField, Model.stretch]
  cases member? es f.1 with
  | none => rw [if_neg h]; rfl
  | some found => rfl

theorem faults_required (m : Model) (f : Field) (h : f.1 ∈ m.required) (levels : Nat)
    (es : Entries Json) :
    (requiredField f.1 (f.2.read levels) es).faults = (m.stretch levels es f).faults := by
  rw [faults_requiredField, Model.stretch]
  cases member? es f.1 with
  | none => rw [if_pos h]; rfl
  | some found => rfl

theorem faults_model {m : Model} {levels below : Nat} (hm : m ≠ .propertyType)
    (hbelow : m.levelsBelow levels = some below) (es : Entries Json) :
    (m.read levels (.object es)).faults =
      (m.fields es).flatMap (fun f => (m.stretch below es f).faults) := by
  -- Each field has its stretch by itself; a model puts the faults of its fields together.
  cases m with
  | schema =>
    cases hbelow
    have hmodules := faults_optional .schema (["modules"], .map (.model .module)) (by decide) []
      levels es
    simp only [Model.fields, List.flatMap_cons, List.flatMap_nil, List.append_nil, ← hmodules]
    simp only [Model.read, Schema.Decode.schema, model, faults_map]
    rfl
  | module =>
    cases hbelow
    have htype := faults_required .module (["type"], .text) (by decide) levels es
    have hcomponents := faults_optional .module
      (["components"], .nullable (.map (.model .component))) (by decide) none levels es
    simp only [Model.fields, List.flatMap_cons, List.flatMap_nil, List.append_nil, ← htype,
      ← hcomponents]
    simp only [Model.read, Schema.Decode.module, model, faults_map, faults_both,
      nullableComponents_eq levels]
    rfl
  | component =>
    cases hbelow
    have hevents := faults_optional .component (["events"], .list (.model .event)) (by decide) []
      levels es
    simp only [Model.fields, List.flatMap_cons, List.flatMap_nil, List.append_nil, ← hevents]
    simp only [Model.read, Schema.Decode.component, model, faults_map]
    rfl
  | event =>
    cases hbelow
    have hname := faults_required .event (["name"], .text) (by decide) levels es
    have hoptional := faults_optional .event (["optional"], .truth) (by decide) false levels es
    have hbubbling := faults_optional .event (Grammar.bubblingKeys, .bubbling) (by decide) .direct
      levels es
    have htype := faults_optional .event (Grammar.typeKeys, .model .eventType) (by decide) none
      levels es
    simp only [Model.fields, List.flatMap_cons, List.flatMap_nil, List.append_nil, ← hname,
      ← hoptional, ← hbubbling, ← htype]
    simp only [Model.read, Schema.Decode.event, model, faults_map, faults_both]
    rfl
  | eventType =>
    cases hbelow
    have htype := faults_optional .eventType (["type"], .word "EventTypeAnnotation") (by decide) ""
      levels es
    have hargument := faults_optional .eventType (["argument"], .nullable (.model .payload))
      (by decide) none levels es
    simp only [Model.fields, List.flatMap_cons, List.flatMap_nil, List.append_nil, ← htype,
      ← hargument]
    simp only [Model.read, Schema.Decode.eventType, model, faults_map, faults_both,
      nullablePayload_eq levels]
    rfl
  | payload =>
    cases hbelow
    have htype := faults_optional .payload (["type"], .word "ObjectTypeAnnotation") (by decide) ""
      maxDepth es
    have hproperties := faults_optional .payload (["properties"], .list (.model .property))
      (by decide) [] maxDepth es
    simp only [Model.fields, List.flatMap_cons, List.flatMap_nil, List.append_nil, ← htype,
      ← hproperties]
    simp only [Model.read, Schema.Decode.payload, model, faults_map, faults_both]
    rfl
  | property =>
    cases levels with
    | zero => cases hbelow
    | succ levels =>
      cases hbelow
      have hname := faults_required .property (["name"], .text) (by decide) below es
      have hoptional := faults_optional .property (["optional"], .truth) (by decide) false below es
      have htype := faults_required .property (Grammar.typeKeys, .model .propertyType) (by decide)
        below es
      simp only [Model.fields, List.flatMap_cons, List.flatMap_nil, List.append_nil, ← hname,
        ← hoptional, ← htype]
      simp only [Model.read, Schema.Decode.property, model, faults_map, faults_both]
      rfl
  | propertyType => exact absurd rfl hm

/-! ## All places -/

@[simp] theorem Stretch.faults_under (s : Step) (t : Stretch) :
    (t.under s).faults = t.faults.map (Fault.below [s]) := by
  cases t with
  | own fs => rfl
  | part steps below => exact (Fault.map_below_below [s] steps below.faults).symm

theorem faults_kind {kind : Kind} {es : Entries Json}
    (h : Keyed.find? es "type" = some (.string kind.tag)) (levels : Nat) :
    (Model.propertyType.read levels (.object es)).faults =
      (kindStretches kind.tag levels es).flatMap Stretch.faults := by
  simp only [Model.read, propertyType, h, ofTag?_tag]
  cases kind with
  | primitive p => cases p <;> rfl
  | stringEnum =>
    have hoptions := faults_optional .propertyType (["options"], .list .text) (by decide) []
      levels es
    have hstretches : kindStretches Kind.stringEnum.tag levels es =
        [(Model.propertyType.stretch levels es (["options"], .list .text)).under
          (.key Kind.stringEnum.tag)] := rfl
    rw [hstretches, List.flatMap_singleton, Stretch.faults_under, ← hoptions, faults_map,
      faults_under]
    rfl
  | object =>
    have hproperties := faults_optional .propertyType (["properties"], .list (.model .property))
      (by decide) [] levels es
    have hstretches : kindStretches Kind.object.tag levels es =
        [(Model.propertyType.stretch levels es (["properties"], .list (.model .property))).under
          (.key Kind.object.tag)] := rfl
    rw [hstretches, List.flatMap_singleton, Stretch.faults_under, ← hproperties, faults_map,
      faults_under]
    rfl

theorem stretches_model {m : Model} (hm : m ≠ .propertyType) (levels : Nat)
    (es : Entries Json) : (⟨.model m, levels, .object es⟩ : Place).stretches =
      match m.levelsBelow levels with
      | some below => (m.fields es).map (m.stretch below es)
      | none => [.own (⟨.model m, levels, .object es⟩ : Place).faults] := by
  cases m with
  | propertyType => exact absurd rfl hm
  | _ => rfl

/-- The ways in which the stretches of a place come about. -/
inductive Place.Shape : Place → List Stretch → Prop where
  | own (p : Place) : Shape p [.own p.faults]
  | items (item : Part) (levels : Nat) (vs : List Json) :
      Shape ⟨.list item, levels, .array vs⟩
        (vs.zipIdx.map fun e => .part [.index e.2] ⟨item, levels, e.1⟩)
  | entries (value : Part) (levels : Nat) (es : Entries Json) :
      Shape ⟨.map value, levels, .object es⟩
        (es.map fun e => .part [.key e.1] ⟨value, levels, e.2⟩)
  | null (part : Part) (levels : Nat) : Shape ⟨.nullable part, levels, .null⟩ []
  | nonNull (part : Part) (levels : Nat) {v : Json} (h : v ≠ .null) :
      Shape ⟨.nullable part, levels, v⟩ [.part [] ⟨part, levels, v⟩]
  | kind {k : Kind} {es : Entries Json} (h : Keyed.find? es "type" = some (.string k.tag))
      (levels : Nat) : Shape ⟨.model .propertyType, levels, .object es⟩
        (kindStretches k.tag levels es)
  | fields {m : Model} (hm : m ≠ .propertyType) {levels below : Nat}
      (hbelow : m.levelsBelow levels = some below) (es : Entries Json) :
      Shape ⟨.model m, levels, .object es⟩ ((m.fields es).map (m.stretch below es))

/-- The type of a property is read by its kind if its tag names one. -/
theorem shape_propertyType (levels : Nat) (es : Entries Json) :
    Place.Shape ⟨.model .propertyType, levels, .object es⟩
      (⟨.model .propertyType, levels, .object es⟩ : Place).stretches := by
  simp only [Place.stretches]
  split
  · rename_i tag htag
    cases hkind : Kind.ofTag? tag with
    | none => exact .own _
    | some k =>
      obtain rfl := tag_of_ofTag? hkind
      exact .kind htag levels
  · exact .own _

theorem Place.shape (p : Place) : p.Shape p.stretches := by
  obtain ⟨part, levels, v⟩ := p
  -- A value of another sort than its part asks for is not gone into.
  cases part with
  | list item =>
    cases v with
    | array vs => exact .items item levels vs
    | _ => exact .own _
  | map value =>
    cases v with
    | object es => exact .entries value levels es
    | _ => exact .own _
  | nullable value =>
    cases v with
    | null => exact .null value levels
    | _ => exact .nonNull value levels (by nofun)
  | model m =>
    by_cases hm : m = .propertyType
    · subst hm
      cases v with
      | object es => exact shape_propertyType levels es
      | _ => exact .own _
    · cases v with
      | object es =>
        rw [stretches_model hm]
        cases hbelow : m.levelsBelow levels with
        | none => exact .own _
        | some below => exact .fields hm hbelow es
      | _ =>
        cases m with
        | propertyType => exact absurd rfl hm
        | _ => exact .own _
  | _ => exact .own _

theorem Place.Shape.faults_eq {p : Place} {ts : List Stretch} (h : p.Shape ts) :
    p.faults = ts.flatMap Stretch.faults := by
  cases h with
  | own p => exact (List.flatMap_singleton _ _).symm
  | items item levels vs =>
    show (Schema.Decode.list (item.read levels) (.array vs)).faults = _
    rw [faults_list, List.flatMap_map]
    rfl
  | entries value levels es =>
    show (Schema.Decode.map (value.read levels) (.object es)).faults = _
    rw [faults_entries, List.flatMap_map]
    rfl
  | null part levels => rfl
  | @nonNull part levels v hv =>
    cases v with
    | null => exact absurd rfl hv
    | _ => simp [Stretch.faults, Place.faults, Part.read, orNull]
  | kind htag levels => exact faults_kind htag levels
  | @fields m hm levels below hbelow es =>
    show (m.read levels (.object es)).faults = _
    rw [faults_model hm hbelow, List.flatMap_map]

/-- The report of a place is made of its stretches, one after another. -/
theorem faults_eq_stretches (p : Place) : p.faults = p.stretches.flatMap Stretch.faults :=
  p.shape.faults_eq

end EventHeader.Document
