import EventHeader.Proofs.CheckedDecisions

/- Which documents describe a schema: exactly those of the grammar
   (`schema_accepted_iff_grammar`). Each reader decides the predicate of the grammar for
   what it reads, from the values without parts up to the whole document. Only
   properties are read recursively; their readers are bounded by the levels still to
   come, those of the grammar by the levels above, and the two bounds meet at the limit
   (`decides_property`). -/
namespace EventHeader.Schema.Decode
open Checked Grammar

/-! ## Values without parts -/

theorem decides_string (v : Json) : Decides (string v) (IsText v) := by
  cases v with
  | string s => exact decides_ok s (.whole s)
  | broken ps => exact decides_ok _ (.broken ps)
  | _ => exact decides_fault nofun

theorem decides_boolOfInt (n : Int) (v : Json) : Decides (boolOfInt n v) (n = 0 ∨ n = 1) := by
  unfold boolOfInt
  split
  · exact decides_ok false (Or.inl ‹_›)
  · split
    · exact decides_ok true (Or.inr ‹_›)
    · rename_i hzero hone
      exact decides_fault (not_or.mpr ⟨hzero, hone⟩)

/-- A bound that refuses neither zero nor one makes no difference. -/
theorem decides_boundedInt {bound : Prop} [Decidable bound] {n : Int}
    (hbound : n = 0 ∨ n = 1 → bound) (v : Json) :
    Decides (if bound then boolOfInt n v else fault .notBool v) (n = 0 ∨ n = 1) := by
  split
  · exact decides_boolOfInt n v
  · rename_i hn
    exact decides_fault (mt hbound hn)

theorem isLaxBool_string {s : String} :
    IsLaxBool (.string s) ↔ String.ofList (s.toList.map Char.toLower) ∈ boolWords := by
  constructor
  · rintro (_ | ⟨hknown, hsame⟩)
    rwa [hsame, String.ofList_toList]
  · intro hknown
    exact .word hknown String.toList_ofList.symm

theorem decides_bool (v : Json) : Decides (bool v) (IsLaxBool v) := by
  have hint64 : int64Size = 18446744073709551616 := rfl
  cases v with
  | bool b => exact decides_ok b (.bool b)
  | string s =>
    have hwords : boolWords = falseWords ++ trueWords := rfl
    simp only [bool, List.contains_iff_mem]
    split
    · exact decides_ok false (isLaxBool_string.mpr (hwords ▸ List.mem_append_left _ ‹_›))
    · split
      · exact decides_ok true (isLaxBool_string.mpr (hwords ▸ List.mem_append_right _ ‹_›))
      · rename_i hfalse htrue
        refine decides_fault fun h => ?_
        rw [isLaxBool_string, hwords, List.mem_append] at h
        exact h.elim hfalse htrue
  -- That a number has 64 bits makes no difference to what is accepted, only to the fault.
  | int n =>
    refine (decides_boundedInt (n := n) (fun h => by omega) _).congr ⟨.int, ?_⟩
    rintro (_ | _ | ⟨hsmall⟩)
    exact hsmall
  | float x =>
    have hx : IsLaxBool (.float x) ↔ x.toInt? = some 0 ∨ x.toInt? = some 1 := by
      refine ⟨?_, .float⟩
      rintro (_ | _ | _ | hsmall)
      exact hsmall
    refine Decides.congr ?_ hx.symm
    simp only [bool]
    cases x.toInt? with
    | none => exact decides_fault (by simp)
    | some n => exact (decides_boundedInt (n := n) (fun h => by omega) _).congr (by simp)
  | _ => exact decides_fault nofun

theorem decides_literal (allowed : List String) (v : Json) :
    Decides (literal allowed v) (∃ s ∈ allowed, IsWord s v) := by
  cases v with
  | string s =>
    simp only [literal, List.contains_iff_mem]
    split
    · rename_i hs
      exact decides_ok s ⟨s, hs, rfl⟩
    · rename_i hs
      exact decides_fault (by simpa [IsWord] using hs)
  | _ => exact decides_fault (by simp [IsWord])

theorem decides_onlyLiteral (s : String) (v : Json) :
    Decides (literal [s] v) (IsWord s v) :=
  (decides_literal [s] v).congr (by simp)

/-! ## Properties -/

theorem decides_options (es : Entries Json) :
    Decides (options es) (Optional ["options"] (IsListOf IsText) es) :=
  decides_optionalField (decides_list decides_string) ["options"] [] es

theorem decides_properties {item : Json → Checked Property} {depth : Nat}
    (h : ∀ v, Decides (item v) (IsProperty depth v)) (es : Entries Json) :
    Decides (properties item es) (Optional ["properties"] (IsPropertyList depth) es) := by
  refine decides_optionalField (fun v => (decides_list h v).congr ?_) ["properties"] [] es
  constructor
  · rintro ⟨hitems⟩
    exact .intro hitems
  · rintro ⟨hitems⟩
    exact .intro hitems

theorem ofTag?_tag (kind : Kind) : Kind.ofTag? kind.tag = some kind := by
  cases kind with
  | primitive p => cases p <;> rfl
  | _ => rfl

theorem tag_of_ofTag? {tag : String} {kind : Kind} (h : Kind.ofTag? tag = some kind) :
    kind.tag = tag := by
  simpa using List.find?_some h

theorem mem_primitiveTags {tag : String} :
    tag ∈ primitiveTags ↔ ∃ p, (Kind.primitive p).tag = tag := by
  constructor
  · intro h
    have htags : primitiveTags =
        [Primitive.boolean, .string, .int32, .double, .float, .mixed].map
          (fun p => (Kind.primitive p).tag) := rfl
    rw [htags] at h
    obtain ⟨p, -, hp⟩ := List.mem_map.mp h
    exact ⟨p, hp⟩
  · rintro ⟨p, rfl⟩
    cases p <;> decide

/-- What a kind asks of the members beside its tag. -/
def MembersOf (depth : Nat) (es : Entries Json) : Kind → Prop
  | .primitive _ => True
  | .stringEnum => Optional ["options"] (IsListOf IsText) es
  | .object => Optional ["properties"] (IsPropertyList (depth + 1)) es

theorem isPropertyType_iff {depth : Nat} {es : Entries Json} :
    IsPropertyType depth (.object es) ↔
      ∃ kind : Kind, Keyed.find? es "type" = some (.string kind.tag) ∧ MembersOf depth es kind := by
  have htype : Grammar.member? ["type"] es = Keyed.find? es "type" := by simp [Grammar.member?]
  rw [← htype]
  constructor
  · rintro (⟨hkind, hknown⟩ | ⟨hkind, hoptions⟩ | ⟨hkind, hproperties⟩)
    · obtain ⟨p, rfl⟩ := mem_primitiveTags.mp hknown
      exact ⟨.primitive p, hkind, trivial⟩
    · exact ⟨.stringEnum, hkind, hoptions⟩
    · exact ⟨.object, hkind, hproperties⟩
  · rintro ⟨kind, hkind, hmembers⟩
    cases kind with
    | primitive p => exact .primitive hkind (mem_primitiveTags.mpr ⟨p, rfl⟩)
    | stringEnum => exact .stringEnum hkind hmembers
    | object => exact .object hkind hmembers

theorem decides_propertyType {item : Json → Checked Property} {depth : Nat}
    (h : ∀ v, Decides (item v) (IsProperty (depth + 1) v)) (v : Json) :
    Decides (propertyType item v) (IsPropertyType depth v) := by
  cases v with
  | object es =>
    refine Decides.congr ?_ isPropertyType_iff.symm
    simp only [propertyType]
    rcases Keyed.find? es "type" with _ | tag
    · exact decides_fault (by simp)
    cases tag with
    | string tag =>
      simp only
      cases hkind : Kind.ofTag? tag with
      | none =>
        refine decides_fault ?_
        rintro ⟨kind, htag, -⟩
        cases htag
        rw [ofTag?_tag] at hkind
        cases hkind
      | some kind =>
        -- Different kinds have different tags, so that the tag asks for the members of one.
        have honly : MembersOf depth es kind ↔ ∃ kind' : Kind,
            some (Json.string tag) = some (.string kind'.tag) ∧ MembersOf depth es kind' := by
          constructor
          · intro hmembers
            exact ⟨kind, by rw [tag_of_ofTag? hkind], hmembers⟩
          · rintro ⟨kind', htag, hmembers⟩
            cases htag
            rw [ofTag?_tag] at hkind
            exact Option.some.inj hkind ▸ hmembers
        refine Decides.congr ?_ honly
        cases kind with
        | primitive p => exact decides_ok _ trivial
        | stringEnum => exact ((decides_options es).under (.key tag)).map _
        | object => exact ((decides_properties h es).under (.key tag)).map _
    | _ => exact decides_fault (by simp)
  | _ =>
    refine decides_fault fun hP => ?_
    cases hP

/-- With so many levels still to come there are so many above: both bounds end at the
same depth. -/
theorem decides_property : ∀ (levels : Nat), levels ≤ maxDepth → ∀ v,
    Decides (property levels v) (IsProperty (maxDepth + 1 - levels) v)
  | 0, _, v => by
    refine decides_fault ?_
    rintro ⟨hbounded⟩
    exact absurd hbounded (Nat.lt_irrefl 255)
  | levels + 1, hlevels, v => by
    have hbelow : maxDepth + 1 - (levels + 1) + 1 = maxDepth + 1 - levels := by omega
    have ih := decides_property levels (by omega)
    rw [← hbelow] at ih
    refine decides_model (fun es => ?_) (fun v h => by cases h; exact ⟨_, rfl⟩) v
    have hmembers := (decides_requiredField decides_string ["name"] es).both
      ((decides_optionalField decides_bool ["optional"] false es).both
        (decides_requiredField (decides_propertyType ih) Decode.typeKeys es))
    refine (hmembers.map _).congr ⟨?_, ?_⟩
    · rintro ⟨hname, hoptional, type, htyped, htype⟩
      have hmax : maxDepth = 254 := rfl
      exact .intro (by omega) hname hoptional htyped htype
    · rintro ⟨-, hname, hoptional, htyped, htype⟩
      exact ⟨hname, hoptional, _, htyped, htype⟩

/-! ## Events, components, modules -/

theorem decides_payload (v : Json) : Decides (payload v) (IsPayload v) := by
  refine decides_model (fun es => ?_) (fun v h => by cases h; exact ⟨_, rfl⟩) v
  have hproperties := decides_properties (decides_property maxDepth (Nat.le_refl _)) es
  have hmembers :=
    (decides_optionalField (decides_onlyLiteral "ObjectTypeAnnotation") ["type"] "" es).both
      hproperties
  refine (hmembers.map _).congr ⟨fun ⟨hkind, hproperties⟩ => .intro hkind hproperties, ?_⟩
  rintro ⟨hkind, hproperties⟩
  exact ⟨hkind, hproperties⟩

theorem decides_eventType (v : Json) : Decides (eventType v) (IsEventType v) := by
  refine decides_model (fun es => ?_) (fun v h => by cases h; exact ⟨_, rfl⟩) v
  have hmembers :=
    (decides_optionalField (decides_onlyLiteral "EventTypeAnnotation") ["type"] "" es).both
      (decides_optionalField (decides_nullable rfl nullablePayload.eq_2 decides_payload)
        ["argument"] none es)
  refine (hmembers.map _).congr ⟨fun ⟨hkind, hargument⟩ => .intro hkind hargument, ?_⟩
  rintro ⟨hkind, hargument⟩
  exact ⟨hkind, hargument⟩

theorem decides_bubbling (v : Json) : Decides (bubbling v) (IsBubbling v) := by
  refine ((decides_literal ["direct", "bubble"] v).map _).congr ⟨?_, ?_⟩
  · rintro ⟨s, hs, rfl⟩
    simp only [List.mem_cons, List.not_mem_nil, or_false] at hs
    rcases hs with rfl | rfl
    · exact .direct
    · exact .bubble
  · rintro (_ | _)
    · exact ⟨"direct", by simp, rfl⟩
    · exact ⟨"bubble", by simp, rfl⟩

theorem decides_event (v : Json) : Decides (event v) (IsEvent v) := by
  refine decides_model (fun es => ?_) (fun v h => by cases h; exact ⟨_, rfl⟩) v
  have hmembers := (decides_requiredField decides_string ["name"] es).both
    ((decides_optionalField decides_bool ["optional"] false es).both
      ((decides_optionalField decides_bubbling Decode.bubblingKeys .direct es).both
        (decides_optionalField decides_eventType Decode.typeKeys none es)))
  refine (hmembers.map _).congr
    ⟨fun ⟨hname, hoptional, hbubbling, htype⟩ => .intro hname hoptional hbubbling htype, ?_⟩
  rintro ⟨hname, hoptional, hbubbling, htype⟩
  exact ⟨hname, hoptional, hbubbling, htype⟩

theorem decides_component (v : Json) : Decides (component v) (IsComponent v) := by
  refine decides_model (fun es => ?_) (fun v h => by cases h; exact ⟨_, rfl⟩) v
  have hevents := decides_optionalField (decides_list decides_event) ["events"] [] es
  refine (hevents.map _).congr ⟨.intro, ?_⟩
  rintro ⟨hevents⟩
  exact hevents

theorem decides_module (v : Json) : Decides (module v) (IsModule v) := by
  refine decides_model (fun es => ?_) (fun v h => by cases h; exact ⟨_, rfl⟩) v
  have hmembers := (decides_requiredField decides_string ["type"] es).both
    (decides_optionalField
      (decides_nullable rfl nullableComponents.eq_2 (decides_map decides_component))
      ["components"] none es)
  refine (hmembers.map _).congr ⟨fun ⟨htype, hcomponents⟩ => .intro htype hcomponents, ?_⟩
  rintro ⟨htype, hcomponents⟩
  exact ⟨htype, hcomponents⟩

theorem decides_schema (v : Json) : Decides (schema v) (IsSchema v) := by
  refine decides_model (fun es => ?_) (fun v h => by cases h; exact ⟨_, rfl⟩) v
  have hmodules := decides_optionalField (decides_map decides_module) ["modules"] [] es
  refine (hmodules.map _).congr ⟨.intro, ?_⟩
  rintro ⟨hmodules⟩
  exact hmodules

end EventHeader.Schema.Decode

namespace EventHeader
open Grammar

theorem schemaFaults_eq_nil (v : Json) : schemaFaults v = [] ↔ IsSchema v := by
  have hdecides := Schema.Decode.decides_schema v
  unfold schemaFaults Schema.ofJson
  cases hv : Schema.Decode.schema v with
  | ok s =>
    rw [hv] at hdecides
    exact ⟨fun _ => hdecides, fun _ => rfl⟩
  | error fs =>
    rw [hv] at hdecides
    exact ⟨fun h => absurd h hdecides.1, fun h => absurd h hdecides.2⟩

instance (v : Json) : Decidable (IsSchema v) :=
  decidable_of_iff ((schemaFaults v).isEmpty = true)
    (List.isEmpty_iff.trans (schemaFaults_eq_nil v))

/-- A document describes a schema, and is reported without faults, if and only if it is of
the grammar. -/
theorem schema_accepted_iff_grammar (v : Json) :
    ((∃ s, Schema.ofJson v = .ok s) ↔ IsSchema v) ∧ (schemaFaults v = [] ↔ IsSchema v) :=
  ⟨(Schema.Decode.decides_schema v).accepted, schemaFaults_eq_nil v⟩

/-- A payload need not name its kind, and the second key of a type will do. -/
example : IsSchema (.object [("modules", .object [("picker", .object [
    ("type", .string "Component"), ("components", .object [("Picker", .object [
      ("events", .array [.object [("name", .string "onPick"), ("type_annotation", .object [
        ("argument", .object [])])]])])])])])]) := by decide

/-- Components may be null, modules may not. -/
example : ¬ IsSchema (.object [("modules", .null)]) := by decide

end EventHeader
