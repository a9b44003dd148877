import EventHeader.Proofs.CheckedValues
import EventHeader.Proofs.GenerationFaults
import EventHeader.Proofs.KeyedEntries
import EventHeader.Proofs.OutlineRows
import EventHeader.Proofs.PropertyDepth

/- What can still fail for a schema that has been read. The reader admits properties down
   to a limit and of the eight kinds only, so every payload of the schema is regular
   (`regular_ofJson`). Generating a header and outlining the schema come upon foreign
   kinds independently of the reader and of one another; in regular payloads neither of
   them does (`foreignKind?_propertyNodes`, `componentLines_ok`). What is left are collisions
   of names (`read_schema_fails_by_collision_only`). -/
namespace EventHeader

/-- Every payload of a schema is regular for the levels that a document may have. -/
def Schema.Regular (s : Schema) : Prop :=
  ∀ payload, s.HasPayload payload → EventHeader.Regular Schema.Decode.maxDepth payload

/-! ## Payloads that have been read -/

namespace Schema.Decode
open Checked

theorem gives_properties {item : Json → Checked Property} {levels : Nat}
    (h : ∀ v, Gives (item v) (fun p => EventHeader.Regular levels [p])) (es : Entries Json) :
    Gives (properties item es) (EventHeader.Regular levels) := by
  have hlist (v : Json) : Gives (list item v) (EventHeader.Regular levels) :=
    (gives_list h v).mono fun _ hps => regular_of_forall hps
  exact gives_optionalField regular_nil hlist ["properties"] es

theorem gives_propertyType {item : Json → Checked Property} {levels : Nat}
    (h : ∀ v, Gives (item v) (fun p => EventHeader.Regular levels [p])) (v : Json) :
    Gives (propertyType item v) (PropertyType.Regular levels) := by
  cases v with
  | object es =>
    simp only [propertyType]
    split
    · exact gives_error
    · split
      · exact gives_ok (.primitive _)
      · exact Gives.map (gives_any.mono fun os _ => .stringEnum os)
      · exact Gives.map (((gives_properties h es).under _).mono fun _ => .object)
      · exact gives_error
    · exact gives_error
  | _ => exact gives_error

theorem gives_property : ∀ (levels : Nat) (v : Json),
    Gives (property levels v) (fun p => EventHeader.Regular levels [p])
  | 0, _ => gives_error
  | levels + 1, v => by
    refine gives_model (fun es => Gives.map ?_) v
    have htype := gives_requiredField (gives_propertyType (gives_property levels)) typeKeys es
    refine (gives_any.both (gives_any.both htype)).mono fun p hp => ?_
    exact regular_singleton.mpr ⟨levels, rfl, hp.2.2⟩

/-- A payload, if there is one, is regular. -/
def RegularPayload (payload : Option (List Property)) : Prop :=
  ∀ ps, payload = some ps → EventHeader.Regular maxDepth ps

theorem regularPayload_none : RegularPayload none := nofun

theorem gives_payload (v : Json) : Gives (payload v) (EventHeader.Regular maxDepth) := by
  refine gives_model (fun es => Gives.map ?_) v
  exact (gives_any.both (gives_properties (gives_property maxDepth) es)).mono fun _ hp => hp.2

theorem gives_eventType (v : Json) : Gives (eventType v) RegularPayload := by
  refine gives_model (fun es => Gives.map ?_) v
  have hargument := gives_optionalField regularPayload_none
    (gives_nullable rfl nullablePayload.eq_2 gives_payload) ["argument"] es
  exact (gives_any.both hargument).mono fun _ hp => hp.2

theorem gives_event (v : Json) : Gives (event v) (fun e => RegularPayload e.payload) := by
  refine gives_model (fun es => Gives.map ?_) v
  have htype := gives_optionalField regularPayload_none gives_eventType typeKeys es
  exact (gives_any.both (gives_any.both (gives_any.both htype))).mono fun _ hp => hp.2.2.2

theorem gives_component (v : Json) :
    Gives (component v) (fun c => ∀ e ∈ c.events, RegularPayload e.payload) := by
  refine gives_model (fun es => Gives.map ?_) v
  exact gives_optionalField (fun _ he => absurd he List.not_mem_nil) (gives_list gives_event)
    ["events"] es

theorem gives_module (v : Json) : Gives (module v) (fun m => ∀ components,
    m.components = some components → ∀ c ∈ components, ∀ e ∈ c.2.events,
      RegularPayload e.payload) := by
  refine gives_model (fun es => Gives.map ?_) v
  have hnone : ∀ components, (none : Option (Entries Component)) = some components →
      ∀ c ∈ components, ∀ e ∈ c.2.events, RegularPayload e.payload := nofun
  have hcomponents := gives_optionalField hnone
    (gives_nullable rfl nullableComponents.eq_2 (gives_map gives_component)) ["components"] es
  exact (gives_any.both hcomponents).mono fun _ hp => hp.2

end Schema.Decode

open Checked in
theorem regular_ofJson {v : Json} {s : Schema} (h : Schema.ofJson v = .ok s) : s.Regular := by
  have hmodules : Gives (Schema.Decode.schema v) (fun s => ∀ m ∈ s.modules, ∀ components,
      m.2.components = some components → ∀ c ∈ components, ∀ e ∈ c.2.events,
        Schema.Decode.RegularPayload e.payload) := by
    refine Schema.Decode.gives_model (fun es => Gives.map ?_) v
    exact Schema.Decode.gives_optionalField (fun _ hm => absurd hm List.not_mem_nil)
      (Schema.Decode.gives_map Schema.Decode.gives_module) ["modules"] es
  intro payload ⟨m, hm, components, hcomponents, c, hc, e, he, hpayload⟩
  exact hmodules s h m hm components hcomponents c hc e he payload hpayload

/-! ## Declarations of regular payloads -/

namespace Payload

mutual
theorem foreignKind?_typeNodes : ∀ (type : PropertyType) {levels : Nat} (_ : type.Regular levels)
    (path : List String), ∀ n ∈ typeNodes path type, n.foreignKind? = none
  | .primitive _, _, _, _, _, hn => absurd hn List.not_mem_nil
  | .stringEnum _, _, _, _, _, hn => by
    rw [List.mem_singleton.mp hn]
    rfl
  | .object properties, _, h, path, n, hn => by
    rcases List.mem_append.mp hn with hn | hn
    · exact foreignKind?_propertyNodes properties (h.inside properties rfl) path n hn
    · rw [List.mem_singleton.mp hn]
      rfl
  | .foreign kind, _, h, _, _, _ => absurd rfl (h.known kind)

theorem foreignKind?_propertyNodes : ∀ (properties : List Property) {levels : Nat}
    (_ : Regular levels properties) (path : List String),
    ∀ n ∈ propertyNodes path properties, n.foreignKind? = none
  | [], _, _, _, _, hn => absurd hn List.not_mem_nil
  | ⟨name, _, type⟩ :: rest, _, h, path, n, hn => by
    obtain ⟨hfirst, hrest⟩ := regular_cons.mp h
    obtain ⟨below, -, htype⟩ := regular_singleton.mp hfirst
    rcases List.mem_append.mp hn with hn | hn
    · exact foreignKind?_typeNodes type htype (path ++ [name]) n hn
    · exact foreignKind?_propertyNodes rest hrest path n hn
end

/-- An error over some nodes of known kinds is a collision, and one of declarations only
for strict names. -/
theorem Stopped.collision {strict : Bool} {ns : List Node} {e : GenerationError}
    (h : Stopped strict ns e) (hns : ∀ n ∈ ns, n.foreignKind? = none) :
    (∃ enum label options, e = .caseCollision enum label options) ∨
      (strict = true ∧ ∃ n, e = .nameCollision n) := by
  cases h with
  | invalidType hkind =>
    obtain ⟨n, hn, hkind⟩ := List.exists_of_findSome?_eq_some hkind
    rw [hns n hn] at hkind
    cases hkind
  | obstacle _ hfirst =>
    obtain ⟨before, n, after, -, -, hobstacle⟩ := hfirst
    cases hobstacle with
    | sharedLabel _ => exact Or.inl ⟨_, _, _, rfl⟩
    | takenName hs _ _ _ _ _ => exact Or.inr ⟨hs, _, rfl⟩

end Payload

/-! ## Outlines of regular payloads -/

namespace Schema.Outline

theorem componentLines_ok {components : Entries Component}
    (h : ∀ c ∈ components, ∀ e ∈ c.2.events, Decode.RegularPayload e.payload) :
    ∃ ls, componentLines components = .ok ls := by
  refine ⟨componentRows components, componentLines_eq fun c hc e he => ?_⟩
  cases hp : e.payload with
  | none => exact known_nil
  | some properties => exact (h c hc e he properties hp).known

end Schema.Outline

/-! ## Components of schemas -/

section
variable {σ ε : Type}

theorem forall_mergeComponents {P : String × Component → Prop} :
    ∀ (modules : Entries Module) (found : Entries Component) (state : σ),
      (∀ c ∈ found, P c) →
      (∀ m ∈ modules, ∀ components, m.2.components = some components → ∀ c ∈ components, P c) →
      ∀ {merged : Entries Component},
        ((mergeComponents found modules : Action σ ε _).run state).result = .ok merged →
        ∀ c ∈ merged, P c
  | [], _, _, hfound, _, merged, h => by
    cases h
    exact hfound
  | (name, m) :: rest, found, state, hfound, hmodules, merged, h => by
    obtain ⟨hm, hrest⟩ := List.forall_mem_cons.mp hmodules
    unfold mergeComponents at h
    split at h
    · cases hcomponents : m.components with
      | none =>
        rw [hcomponents] at h
        obtain ⟨_, _, h, _⟩ := Action.bind_ok h
        exact forall_mergeComponents rest found _ hfound hrest h
      | some components =>
        rw [hcomponents] at h
        -- A merged entry was there before or is one of the module.
        refine forall_mergeComponents rest _ state (fun c hc => ?_) hrest h
        exact (Keyed.mem_merge hc).elim (hfound c) (hm components hcomponents c)
    · exact forall_mergeComponents rest found state hfound hrest h

end

section
variable {σ : Type}

/-- A schema that has been read has no property at depth 255 or deeper and none of a
foreign kind, generating its header fails over nothing but a collision of cases, or of
declarations if names are strict, and there is an outline of it. -/
theorem read_schema_fails_by_collision_only (v : Json) (s : Schema) (h : Schema.ofJson v = .ok s)
    (o : GenerationOptions) (state : σ) :
    (∀ payload, s.HasPayload payload → ∀ depth p, PropertyAt payload depth p →
      depth < 255 ∧ ∀ kind, p.type ≠ .foreign kind) ∧
    (∀ e, ((Header.generate o s).run state).result = .error e →
      (∃ enum label options, e = .caseCollision enum label options) ∨
        (o.strict = true ∧ ∃ n, e = .nameCollision n)) ∧
    ∃ components t, ((s.components : Action σ GenerationError _).run state).result =
      .ok components ∧ Schema.Outline.text components = .ok t := by
  have hregular := regular_ofJson h
  obtain ⟨components, hcomponents⟩ := Payload.mergeComponents_ok s.modules [] state
  have hpayloads : ∀ c ∈ components, ∀ e ∈ c.2.events,
      Schema.Decode.RegularPayload e.payload :=
    forall_mergeComponents s.modules [] state (fun _ hc => absurd hc List.not_mem_nil)
      (fun m hm cs hcs c hc e he ps hps => hregular ps ⟨m, hm, cs, hcs, c, hc, e, he, hps⟩)
      hcomponents
  refine ⟨fun payload hpayload depth p hp => ?_, fun e he => ?_, ?_⟩
  · have hmax : Schema.Decode.maxDepth = 254 := rfl
    obtain ⟨hdepth, hknown⟩ := hregular payload hpayload depth p hp
    exact ⟨by omega, hknown⟩
  · obtain ⟨before, c, after, hsplit, -, hstopped⟩ := (Payload.generate_error hcomponents).mp he
    -- What stops a component is one of its nodes, none of which is foreign here.
    refine hstopped.collision fun n hn => ?_
    obtain ⟨event, hevent, hn⟩ := List.mem_flatMap.mp hn
    have hc := hpayloads c (by simp [hsplit]) event hevent
    unfold Payload.eventNodes at hn
    split at hn
    · exact absurd hn List.not_mem_nil
    · rename_i properties hp
      have htype := PropertyType.Regular.object (hc properties hp)
      exact Payload.foreignKind?_typeNodes _ htype [event.name] n hn
  · obtain ⟨ls, hls⟩ := Schema.Outline.componentLines_ok hpayloads
    refine ⟨components, Text.unlines ls, hcomponents, ?_⟩
    rw [Schema.Outline.text, hls]
    rfl

end

/-- A document whose one enum lies in an object of a payload and has two options of one
case. -/
def modeDocument : Json :=
  .object [("modules", .object [("views", .object [("type", .string "Component"),
    ("components", .object [("Picker", .object [("events", .array [.object [
      ("name", .string "onPick"),
      ("typeAnnotation", .object [("argument", .object [("properties", .array [.object [
        ("name", .string "range"),
        ("typeAnnotation", .object [("type", .string "ObjectTypeAnnotation"),
          ("properties", .array [.object [("name", .string "mode"),
            ("typeAnnotation", .object [("type", .string "StringEnumTypeAnnotation"),
              ("options", .array [.string "a b", .string "a-b"])])]])])]])])])]])])])])])]

def modeProperty : Property := ⟨"mode", false, .stringEnum ["a b", "a-b"]⟩

def modePayload : List Property := [⟨"range", false, .object [modeProperty]⟩]

def modeSchema : Schema :=
  ⟨[("views", ⟨"Component",
    some [("Picker", ⟨[⟨"onPick", false, .direct, some modePayload⟩]⟩)]⟩)]⟩

theorem read_schema_fails_by_collision_only_mode :
    Schema.ofJson modeDocument = .ok modeSchema ∧
    (modeSchema.HasPayload modePayload ∧ PropertyAt modePayload 2 modeProperty ∧
      ∀ kind, modeProperty.type ≠ .foreign kind) ∧
    (((Header.generate ⟨"lib", none, false, true⟩ modeSchema).run ()).result =
      .error (.caseCollision "OnPickRangeMode" "AB" ["a b", "a-b"]) ∧
    ∃ components t, ((modeSchema.components : Action Unit GenerationError _).run ()).result =
      .ok components ∧ Schema.Outline.text components = .ok t) := by
  have hread : Schema.ofJson modeDocument = .ok modeSchema := rfl
  obtain ⟨hregular, -, houtline⟩ := read_schema_fails_by_collision_only modeDocument modeSchema
    hread ⟨"lib", none, false, true⟩ ()
  have hpayload : modeSchema.HasPayload modePayload :=
    ⟨_, List.mem_singleton_self _, _, rfl, _, List.mem_singleton_self _, _,
      List.mem_singleton_self _, rfl⟩
  have hmode : PropertyAt modePayload 2 modeProperty :=
    .nested (List.mem_singleton_self _) rfl (.own (List.mem_singleton_self _))
  exact ⟨hread, ⟨hpayload, hmode, (hregular modePayload hpayload 2 modeProperty hmode).2⟩,
    rfl, houtline⟩

end EventHeader
