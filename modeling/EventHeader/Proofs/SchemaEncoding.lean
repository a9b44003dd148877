import EventHeader.Proofs.RegularSchemas
import EventHeader.Proofs.SchemaAcceptance

/- Schemas written as documents. The writer puts down every member, also those that could
   be left out, and for each member that has two keys it takes either, as it is told for
   every place (`Spelling`). What is read from the document is the schema that was written,
   whatever the spelling (`ofJson_encode`), provided that the reader admits its payloads at
   all. A property is written at its place among the others, so the proof goes along the
   writer, with as many levels to come as the reader has left. -/
namespace EventHeader

/-! ## The writer -/

/-- Which of the two keys of a member is taken: for each event or property, given by the
names and numbers on the way down to it, and each first key, whether it is the second. -/
abbrev Spelling := List Step → String → Bool

/-- The key that is taken for a member. -/
def Spelling.key (spelling : Spelling) (place : List Step) (first second : String) : String :=
  if spelling place first then second else first

namespace Schema.Encode
variable (spelling : Spelling)

def bubblingWord : Bubbling → String
  | .direct => "direct"
  | .bubble => "bubble"

mutual
def propertyType (place : List Step) : PropertyType → Json
  | .primitive p => .object [("type", .string (Kind.primitive p).tag)]
  | .stringEnum options =>
    .object [("type", .string Kind.stringEnum.tag), ("options", .array (options.map .string))]
  | .object inner =>
    .object [("type", .string Kind.object.tag), ("properties", .array (properties place 0 inner))]
  | .foreign kind => .object [("type", kind)]

/-- The properties below a place, numbered from `i` on. -/
def properties (place : List Step) (i : Nat) : List Property → List Json
  | [] => []
  | ⟨name, optional, type⟩ :: rest =>
    .object [("name", .string name), ("optional", .bool optional),
      (spelling.key (place ++ [.index i]) "typeAnnotation" "type_annotation",
        propertyType (place ++ [.index i]) type)] :: properties place (i + 1) rest
end

/-- The payload of an event, null if there is none. -/
def payload (place : List Step) : Option (List Property) → Json
  | none => .null
  | some inner =>
    .object [("type", .string Kind.object.tag),
      ("properties", .array (properties spelling place 0 inner))]

def event (place : List Step) (e : Event) : Json :=
  .object [("name", .string e.name), ("optional", .bool e.optional),
    (spelling.key place "bubblingType" "bubbling_type", .string (bubblingWord e.bubbling)),
    (spelling.key place "typeAnnotation" "type_annotation",
      .object [("type", .string "EventTypeAnnotation"), ("argument", payload spelling place e.payload)])]

/-- The events of a component, numbered from `i` on. -/
def events (place : List Step) (i : Nat) : List Event → List Json
  | [] => []
  | e :: rest => event spelling (place ++ [.index i]) e :: events place (i + 1) rest

def component (place : List Step) (c : Component) : Json :=
  .object [("events", .array (events spelling place 0 c.events))]

/-- The components of a module by name, null if there are none. -/
def components (place : List Step) : Option (Entries Component) → Json
  | none => .null
  | some cs => .object (cs.map fun c => (c.1, component spelling (place ++ [.key c.1]) c.2))

def module (place : List Step) (m : Module) : Json :=
  .object [("type", .string m.type), ("components", components spelling place m.components)]

end Schema.Encode

/-- A schema as a document, in some spelling. -/
def Schema.encode (spelling : Spelling) (s : Schema) : Json :=
  .object [("modules", .object (s.modules.map fun m =>
    (m.1, Schema.Encode.module spelling [.key m.1] m.2)))]

/-! ## Lists, maps and members that are read back -/

namespace Schema.Decode
variable {α : Type} {item : Json → Checked α}

theorem all_itemsFrom_ok {vs : List Json} {as : List α}
    (h : List.Forall₂ (fun v a => item v = .ok a) vs as) (i : Nat) :
    Checked.all (itemsFrom item i vs) = .ok as := by
  induction h generalizing i with
  | nil => rfl
  | cons hv _ ih => rw [itemsFrom, Checked.all, hv, ih]; rfl

theorem list_ok {vs : List Json} {as : List α}
    (h : List.Forall₂ (fun v a => item v = .ok a) vs as) : list item (.array vs) = .ok as :=
  all_itemsFrom_ok h 0

theorem map_ok {write : String × α → Json} {es : Entries α}
    (h : ∀ e ∈ es, item (write e) = .ok e.2) :
    map item (.object (es.map fun e => (e.1, write e))) = .ok es := by
  induction es with
  | nil => rfl
  | cons e rest ih =>
    obtain ⟨he, hrest⟩ := List.forall_mem_cons.mp h
    have hentry : entry item (e.1, write e) = .ok e := by
      rw [entry, he]
      rfl
    have hbelow : Checked.all ((rest.map fun e => (e.1, write e)).map (entry item)) = .ok rest :=
      ih hrest
    rw [List.map_cons, map, List.map_cons, Checked.all, hentry, hbelow]
    rfl

theorem optionalField_ok {keys : List String} {absent a : α} {es : Entries Json} {key : String}
    {v : Json} (hmember : member? es keys = some (key, v)) (h : item v = .ok a) :
    optionalField keys absent item es = .ok a := by
  simp only [optionalField, hmember, h]
  rfl

theorem requiredField_ok {keys : List String} {a : α} {es : Entries Json} {key : String}
    {v : Json} (hmember : member? es keys = some (key, v)) (h : item v = .ok a) :
    requiredField keys item es = .ok a := by
  simp only [requiredField, hmember, h]
  rfl

/-! ## Documents that are read back -/

variable {spelling : Spelling} {levels : Nat}

theorem string_written (options : List String) :
    List.Forall₂ (fun v o => string v = .ok o) (options.map .string) options := by
  induction options with
  | nil => exact .nil
  | cons o rest ih => exact .cons rfl ih

theorem propertyType_kind {item : Json → Checked Property} {es : Entries Json} (kind : Kind)
    (h : Keyed.find? es "type" = some (.string kind.tag)) :
    propertyType item (.object es) =
      match kind with
      | .primitive p => .ok (.primitive p)
      | .stringEnum => (Checked.under (.key kind.tag) (options es)).map .stringEnum
      | .object => (Checked.under (.key kind.tag) (properties item es)).map .object := by
  simp only [propertyType, h, ofTag?_tag]
  cases kind <;> rfl

theorem property_written {place : List Step} {name : String} {optional : Bool}
    {type : PropertyType} {v : Json} (h : propertyType (property levels) v = .ok type) :
    property (levels + 1) (.object [("name", .string name), ("optional", .bool optional),
      (spelling.key place "typeAnnotation" "type_annotation", v)]) = .ok ⟨name, optional, type⟩ := by
  generalize hes : [("name", Json.string name), ("optional", .bool optional),
    (spelling.key place "typeAnnotation" "type_annotation", v)] = es
  have hname : requiredField ["name"] string es = .ok name := by rw [← hes]; rfl
  have hoptional : optionalField ["optional"] false bool es = .ok optional := by rw [← hes]; rfl
  have hmember : member? es typeKeys =
      some (spelling.key place "typeAnnotation" "type_annotation", v) := by
    rw [← hes, Spelling.key]
    split <;> rfl
  have htype := requiredField_ok hmember h
  rw [property, model, hname, hoptional, htype]
  rfl

theorem properties_member {item : Json → Checked Property} {vs : List Json} {ps : List Property}
    (h : List.Forall₂ (fun v p => item v = .ok p) vs ps) :
    properties item [("type", .string Kind.object.tag), ("properties", .array vs)] = .ok ps :=
  optionalField_ok rfl (list_ok h)

mutual
theorem propertyType_written : ∀ (type : PropertyType) {levels : Nat} (_ : type.Regular levels)
    (place : List Step),
    propertyType (property levels) (Encode.propertyType spelling place type) = .ok type
  | .primitive p, _, _, _ => by
    rw [Encode.propertyType, propertyType_kind (.primitive p) rfl]
  | .stringEnum os, _, _, _ => by
    have hoptions : options [("type", .string Kind.stringEnum.tag),
        ("options", .array (os.map .string))] = .ok os :=
      optionalField_ok rfl (list_ok (string_written os))
    rw [Encode.propertyType, propertyType_kind .stringEnum rfl, hoptions]
    rfl
  | .object inner, _, h, place => by
    have hproperties := properties_member (properties_written inner (h.inside inner rfl) place 0)
    rw [Encode.propertyType, propertyType_kind .object rfl, hproperties]
    rfl
  | .foreign kind, _, h, _ => absurd rfl (h.known kind)

theorem properties_written : ∀ (ps : List Property) {levels : Nat}
    (_ : EventHeader.Regular levels ps) (place : List Step) (i : Nat),
    List.Forall₂ (fun v p => property levels v = .ok p) (Encode.properties spelling place i ps) ps
  | [], _, _, _, _ => .nil
  | ⟨name, optional, type⟩ :: rest, levels, h, place, i => by
    obtain ⟨hfirst, hrest⟩ := regular_cons.mp h
    have hbelow := properties_written rest hrest place (i + 1)
    obtain ⟨below, rfl, htype⟩ := regular_singleton.mp hfirst
    exact .cons (property_written (propertyType_written type htype _)) hbelow
end

theorem payload_written {ps : List Property} (h : EventHeader.Regular maxDepth ps)
    (place : List Step) : payload (Encode.payload spelling place (some ps)) = .ok ps := by
  have hitems : List.Forall₂ _ (Encode.properties spelling place 0 ps) ps :=
    properties_written ps h place 0
  rw [Encode.payload, payload, model, properties_member hitems]
  rfl

theorem nullablePayload_written {payload : Option (List Property)} (h : RegularPayload payload)
    (place : List Step) : nullablePayload (Encode.payload spelling place payload) = .ok payload := by
  cases payload with
  | none => rfl
  | some ps =>
    rw [nullablePayload.eq_2 _ (by simp [Encode.payload]), payload_written (h ps rfl)]
    rfl

theorem event_written {e : Event} (h : RegularPayload e.payload) (place : List Step) :
    event (Encode.event spelling place e) = .ok e := by
  generalize htyped : Json.object [("type", .string "EventTypeAnnotation"),
    ("argument", Encode.payload spelling place e.payload)] = type
  have htype : eventType type = .ok e.payload := by
    have hargument : optionalField ["argument"] none nullablePayload
        [("type", .string "EventTypeAnnotation"),
          ("argument", Encode.payload spelling place e.payload)] = .ok e.payload :=
      optionalField_ok rfl (nullablePayload_written h place)
    rw [← htyped, eventType, model, hargument]
    rfl
  have hbubbling : bubbling (.string (Encode.bubblingWord e.bubbling)) = .ok e.bubbling := by
    cases e.bubbling <;> rfl
  rw [Encode.event, htyped]
  generalize hes : [("name", Json.string e.name), ("optional", .bool e.optional),
    (spelling.key place "bubblingType" "bubbling_type", .string (Encode.bubblingWord e.bubbling)),
    (spelling.key place "typeAnnotation" "type_annotation", type)] = es
  have hname : requiredField ["name"] string es = .ok e.name := by rw [← hes]; rfl
  have hoptional : optionalField ["optional"] false bool es = .ok e.optional := by rw [← hes]; rfl
  -- Whichever of its two keys a member is written under, the other one is not there.
  have hbubblingMember : member? es bubblingKeys =
      some (spelling.key place "bubblingType" "bubbling_type",
        .string (Encode.bubblingWord e.bubbling)) := by
    rw [← hes, Spelling.key, Spelling.key]
    split <;> split <;> rfl
  have htypeMember : member? es typeKeys =
      some (spelling.key place "typeAnnotation" "type_annotation", type) := by
    rw [← hes, Spelling.key, Spelling.key]
    split <;> split <;> rfl
  rw [event, model, hname, hoptional, optionalField_ok hbubblingMember hbubbling,
    optionalField_ok htypeMember htype]
  rfl

theorem events_written : ∀ (es : List Event) (_ : ∀ e ∈ es, RegularPayload e.payload)
    (place : List Step) (i : Nat),
    List.Forall₂ (fun v e => event v = .ok e) (Encode.events spelling place i es) es
  | [], _, _, _ => .nil
  | e :: rest, h, place, i => by
    obtain ⟨he, hrest⟩ := List.forall_mem_cons.mp h
    exact .cons (event_written he _) (events_written rest hrest place (i + 1))

theorem component_written {c : Component} (h : ∀ e ∈ c.events, RegularPayload e.payload)
    (place : List Step) : component (Encode.component spelling place c) = .ok c := by
  have hevents : optionalField ["events"] [] (list event)
      [("events", .array (Encode.events spelling place 0 c.events))] = .ok c.events :=
    optionalField_ok rfl (list_ok (events_written c.events h place 0))
  rw [Encode.component, component, model, hevents]
  rfl

theorem module_written {m : Module} (h : ∀ components, m.components = some components →
    ∀ c ∈ components, ∀ e ∈ c.2.events, RegularPayload e.payload) (place : List Step) :
    module (Encode.module spelling place m) = .ok m := by
  have hvalue : nullableComponents (Encode.components spelling place m.components) =
      .ok m.components := by
    cases hm : m.components with
    | none => rfl
    | some cs =>
      have hcs : map component (.object (cs.map fun c =>
          (c.1, Encode.component spelling (place ++ [.key c.1]) c.2))) = .ok cs := by
        apply map_ok
        intro c hc
        exact component_written (h cs hm c hc) _
      rw [nullableComponents.eq_2 _ (by simp [Encode.components]), Encode.components, hcs]
      rfl
  have hcomponents : optionalField ["components"] none nullableComponents
      [("type", .string m.type), ("components", Encode.components spelling place m.components)] =
        .ok m.components :=
    optionalField_ok rfl hvalue
  rw [Encode.module, module, model, hcomponents]
  rfl

end Schema.Decode

/-- A schema that is written as a document, with every member written out and each key
spelled either way, is read from it again, if its properties are of the eight kinds and
not nested deeper than a document may have them. -/
theorem ofJson_encode (spelling : Spelling) (s : Schema) (h : s.Regular) :
    Schema.ofJson (s.encode spelling) = .ok s := by
  have hmodules : Schema.Decode.map Schema.Decode.module
      (.object (s.modules.map fun m => (m.1, Schema.Encode.module spelling [.key m.1] m.2))) =
        .ok s.modules := by
    apply Schema.Decode.map_ok
    intro m hm
    apply Schema.Decode.module_written
    intro components hcomponents c hc e he payload hpayload
    exact h payload ⟨m, hm, components, hcomponents, c, hc, e, he, hpayload⟩
  have hfield : Schema.Decode.optionalField ["modules"] [] (Schema.Decode.map Schema.Decode.module)
      [("modules", .object (s.modules.map fun m =>
        (m.1, Schema.Encode.module spelling [.key m.1] m.2)))] = .ok s.modules :=
    Schema.Decode.optionalField_ok rfl hmodules
  rw [Schema.encode, Schema.ofJson, Schema.Decode.schema, Schema.Decode.model, hfield]
  rfl

/-- A component with an event that bubbles and one that has a nested payload, and a module
without components. -/
def drawerSchema : Schema :=
  ⟨[("views", ⟨"Component", some [("Drawer", ⟨[⟨"onOpen", true, .bubble, none⟩,
      ⟨"onDrag", false, .direct, some [⟨"x", false, .primitive .double⟩,
        ⟨"from", true, .object [⟨"side", false, .stringEnum ["left", "right"]⟩]⟩]⟩]⟩)]⟩),
    ("native", ⟨"NativeModule", none⟩)]⟩

/-- The second key for every bubbling type and for the types of the properties of payloads. -/
def mixedSpelling : Spelling := fun place first => first == "bubblingType" || place.length == 4

theorem ofJson_encode_drawer :
    drawerSchema.Regular ∧ Schema.ofJson (drawerSchema.encode mixedSpelling) = .ok drawerSchema := by
  have hread : Schema.ofJson (drawerSchema.encode fun _ _ => false) = .ok drawerSchema := rfl
  have hregular : drawerSchema.Regular := regular_ofJson hread
  exact ⟨hregular, ofJson_encode mixedSpelling drawerSchema hregular⟩

end EventHeader
