import EventHeader.Proofs.CheckedAgreement
import EventHeader.Proofs.DocumentParts
import EventHeader.Proofs.KeyedEntries
import EventHeader.Proofs.SchemaAcceptance
import Mathlib.Logic.Relation

/- Edits of documents that no reader notices. An edit changes the order of the members of a
   model or a member that the model does not read, at the top of a document or at any part
   below it (`Edit`). Which members a model reads depends on the model and, for the type of
   a property, on its tag; which keys it looks up for a member depends on those the object
   has, since a key behind the first one present is never looked up (`consulted`).

   Two objects are read alike as a model if they are in each of its fields (`agree_model`),
   and each edit leaves the fields of the object it is made at alike. By induction on the
   place of the edit the whole documents are read alike (`Edit.readAlike`), and so are
   documents that any number of edits lie between (`edits_keep_schema_and_faults`). -/
namespace EventHeader.Document
open Checked Schema.Decode

/-! ## Edits -/

/-- The keys that are looked up for a field: those up to the first that an object has. -/
def consulted (es : Entries Json) : List String → List String
  | [] => []
  | key :: others => key :: if (Keyed.find? es key).isSome then [] else consulted es others

/-- Whether no field of a model is looked up in an object under a key. -/
def Model.Ignores (m : Model) (es : Entries Json) (key : String) : Prop :=
  ∀ field ∈ m.fields es, key ∉ consulted es field.1

instance (m : Model) (es : Entries Json) (key : String) : Decidable (m.Ignores es key) :=
  inferInstanceAs (Decidable (∀ field ∈ m.fields es, key ∉ consulted es field.1))

/-- One edit of a part of a document, at the part itself or below it. -/
inductive Edit : Part → Json → Json → Prop
  /-- The members of a model in another order. -/
  | reorder {m : Model} {es es' : Entries Json} (distinct : (es.map Prod.fst).Nodup)
      (order : es.Perm es') : Edit (.model m) (.object es) (.object es')
  /-- A member that a model does not read, added, removed or changed. -/
  | unread {m : Model} {es es' : Entries Json} {key : String} (ignored : m.Ignores es key)
      (others : Keyed.drop es key = Keyed.drop es' key) : Edit (.model m) (.object es) (.object es')
  /-- An edit below a member that a model reads. -/
  | member {m : Model} {es : Entries Json} {keys : List String} {part : Part} {key : String}
      {v w : Json} (field : (keys, part) ∈ m.fields es) (found : member? es keys = some (key, v))
      (below : Edit part v w) : Edit (.model m) (.object es) (.object (Keyed.put es key w))
  /-- An edit below an item of a list. -/
  | item {part : Part} {before after : List Json} {v w : Json} (below : Edit part v w) :
      Edit (.list part) (.array (before ++ v :: after)) (.array (before ++ w :: after))
  /-- An edit below a value of a map. -/
  | value {part : Part} {before after : Entries Json} {key : String} {v w : Json}
      (below : Edit part v w) :
      Edit (.map part) (.object (before ++ (key, v) :: after)) (.object (before ++ (key, w) :: after))
  /-- An edit below what may be null. -/
  | present {part : Part} {v w : Json} (below : Edit part v w) : Edit (.nullable part) v w

/-! ## Members -/

section Members
variable {es es' : Entries Json} {keys : List String} {key : String} {v : Json}

/-- What is found for a field depends on the keys that are looked up, and on no others. -/
theorem member?_congr : ∀ {keys : List String},
    (∀ key ∈ consulted es keys, Keyed.find? es key = Keyed.find? es' key) →
    member? es keys = member? es' keys
  | [], _ => rfl
  | key :: others, h => by
    have hkey := h key List.mem_cons_self
    cases hfind : Keyed.find? es key with
    | some v => simp only [member?, ← hkey, hfind]
    | none =>
      simp only [member?, ← hkey, hfind]
      apply member?_congr
      intro other hother
      apply h
      simp only [consulted, hfind]
      exact List.mem_cons_of_mem key hother

theorem consulted_subset (es : Entries Json) : ∀ keys : List String, consulted es keys ⊆ keys
  | [] => List.Subset.refl []
  | key :: others => by
    simp only [consulted]
    split
    · exact List.cons_subset_cons key (List.nil_subset others)
    · exact List.cons_subset_cons key (consulted_subset es others)

theorem key_mem_of_member? : ∀ {keys : List String}, member? es keys = some (key, v) → key ∈ keys
  | first :: others, h => by
    simp only [member?] at h
    split at h
    · cases h
      exact List.mem_cons_self
    · exact List.mem_cons_of_mem first (key_mem_of_member? h)

theorem member?_put_self (w : Json) : ∀ {keys : List String}, member? es keys = some (key, v) →
    member? (Keyed.put es key w) keys = some (key, w)
  | first :: others, h => by
    simp only [member?] at h ⊢
    by_cases hfirst : first = key
    · rw [hfirst, Keyed.find?_put_self]
    · rw [Keyed.find?_put_other hfirst]
      split at h
      · cases h
        exact absurd rfl hfirst
      · exact member?_put_self w h

end Members

/-! ## Reading alike -/

/-- Whether two values are read alike as a part, at whatever depth. -/
def ReadAlike (p : Part) (v w : Json) : Prop :=
  ∀ levels : Nat, Agree (p.read levels v) (p.read levels w)

/-- Whether the members found for a field in two objects are read alike: none in either, or
both under the same key. -/
inductive FoundAlike (p : Part) : Option (String × Json) → Option (String × Json) → Prop
  | none : FoundAlike p none none
  | some {key : String} {v w : Json} (alike : ReadAlike p v w) :
      FoundAlike p (some (key, v)) (some (key, w))

/-- Whether two objects are read alike in a field. -/
def FieldAlike (es es' : Entries Json) (field : Field) : Prop :=
  FoundAlike field.2 (member? es field.1) (member? es' field.1)

section Fields
variable {keys : List String} {part : Part} {es es' : Entries Json}

theorem fieldAlike_of_eq {field : Field} (h : member? es field.1 = member? es' field.1) :
    FieldAlike es es' field := by
  unfold FieldAlike
  rw [h]
  cases member? es' field.1 with
  | none => exact .none
  | some found => exact .some (fun _ => Agree.refl _)

theorem agree_optionalField (h : FieldAlike es es' (keys, part)) (absent : part.Value)
    (levels : Nat) : Agree (optionalField keys absent (part.read levels) es)
      (optionalField keys absent (part.read levels) es') := by
  have hfound : FoundAlike part (member? es keys) (member? es' keys) := h
  simp only [optionalField]
  generalize member? es keys = found, member? es' keys = found' at hfound ⊢
  cases hfound with
  | none => exact Agree.refl _
  | some alike => exact (alike levels).under _

theorem agree_requiredField (h : FieldAlike es es' (keys, part)) (levels : Nat) :
    Agree (requiredField keys (part.read levels) es)
      (requiredField keys (part.read levels) es') := by
  have hfound : FoundAlike part (member? es keys) (member? es' keys) := h
  simp only [requiredField]
  generalize member? es keys = found, member? es' keys = found' at hfound ⊢
  cases hfound with
  | none => exact rfl
  | some alike => exact (alike levels).under _

theorem FieldAlike.same_tag {key : String} (h : FieldAlike es es' ([key], .tag)) :
    Keyed.find? es key = Keyed.find? es' key := by
  have hvalue (es : Entries Json) : (member? es [key]).map Prod.snd = Keyed.find? es key := by
    simp only [member?]
    cases Keyed.find? es key <;> rfl
  have hfound : FoundAlike .tag (member? es [key]) (member? es' [key]) := h
  rw [← hvalue es, ← hvalue es']
  generalize member? es [key] = found, member? es' [key] = found' at hfound ⊢
  cases hfound with
  | none => rfl
  | some alike => exact congrArg some (alike 0)

end Fields

/-- The type of a property is read alike: by the same tag, which says what else is read. -/
theorem readAlike_propertyType {es es' : Entries Json}
    (h : ∀ field ∈ Model.propertyType.fields es, FieldAlike es es' field) :
    ReadAlike (.model .propertyType) (.object es) (.object es') := by
  intro levels
  have htag := (h (["type"], .tag) (by simp [Model.fields])).same_tag
  simp only [Part.read, Model.read, propertyType, ← htag]
  cases hvalue : Keyed.find? es "type" with
  | none => exact rfl
  | some value =>
    cases value with
    | string tag =>
      cases hkind : Kind.ofTag? tag with
      | none =>
        simp only [hkind]
        exact rfl
      | some kind =>
        simp only [hkind]
        -- What else is looked up depends on the tag, which both have.
        obtain rfl := tag_of_ofTag? hkind
        cases kind with
        | primitive p => exact Agree.refl _
        | stringEnum =>
          have hoptions := h (["options"], .list .text)
            (by simp [Model.fields, hvalue, kindFields, Kind.tag])
          exact ((agree_optionalField hoptions [] levels).under _).map _
        | object =>
          have hproperties := h (["properties"], .list (.model .property))
            (by simp [Model.fields, hvalue, kindFields, Kind.tag])
          exact ((agree_optionalField hproperties [] levels).under _).map _
    | _ => exact rfl

/-- Objects that are read alike in every field of a model are read alike as that model. -/
theorem readAlike_model {m : Model} {es es' : Entries Json}
    (h : ∀ field ∈ m.fields es, FieldAlike es es' field) :
    ReadAlike (.model m) (.object es) (.object es') := by
  intro levels
  -- Model by model, the fields one after another as they are read.
  cases m with
  | schema =>
    have hmodules := h (["modules"], .map (.model .module)) (by simp [Model.fields])
    exact (agree_optionalField hmodules [] levels).map _
  | module =>
    have htype := h (["type"], .text) (by simp [Model.fields])
    have hcomponents := h (["components"], .nullable (.map (.model .component)))
      (by simp [Model.fields])
    have hagree := agree_optionalField hcomponents none levels
    rw [← nullableComponents_eq levels] at hagree
    exact ((agree_requiredField htype levels).both hagree).map _
  | component =>
    have hevents := h (["events"], .list (.model .event)) (by simp [Model.fields])
    exact (agree_optionalField hevents [] levels).map _
  | event =>
    have hname := h (["name"], .text) (by simp [Model.fields])
    have hoptional := h (["optional"], .truth) (by simp [Model.fields])
    have hbubbling := h (Grammar.bubblingKeys, .bubbling) (by simp [Model.fields])
    have htype := h (Grammar.typeKeys, .model .eventType) (by simp [Model.fields])
    exact ((agree_requiredField hname levels).both
      ((agree_optionalField hoptional false levels).both
        ((agree_optionalField hbubbling .direct levels).both
          (agree_optionalField htype none levels)))).map _
  | eventType =>
    have htype := h (["type"], .word "EventTypeAnnotation") (by simp [Model.fields])
    have hargument := h (["argument"], .nullable (.model .payload)) (by simp [Model.fields])
    have hagree := agree_optionalField hargument none levels
    rw [← nullablePayload_eq levels] at hagree
    exact ((agree_optionalField htype "" levels).both hagree).map _
  | payload =>
    have htype := h (["type"], .word "ObjectTypeAnnotation") (by simp [Model.fields])
    have hproperties := h (["properties"], .list (.model .property)) (by simp [Model.fields])
    exact ((agree_optionalField htype "" levels).both
      (agree_optionalField hproperties [] maxDepth)).map _
  | property =>
    have hname := h (["name"], .text) (by simp [Model.fields])
    have hoptional := h (["optional"], .truth) (by simp [Model.fields])
    have htype := h (Grammar.typeKeys, .model .propertyType) (by simp [Model.fields])
    cases levels with
    | zero => exact rfl
    | succ levels =>
      exact ((agree_requiredField hname levels).both
        ((agree_optionalField hoptional false levels).both
          (agree_requiredField htype levels))).map _
  | propertyType =>
    exact readAlike_propertyType h levels

/-! ## Edits are read alike -/

theorem Edit.ne_null {p : Part} {v w : Json} (h : Edit p v w) : v ≠ .null ∧ w ≠ .null := by
  induction h with
  | present _ ih => exact ih
  | _ => exact ⟨nofun, nofun⟩

theorem orNull_of_ne_null {α : Type} (value : Json → Checked α) {v : Json} (h : v ≠ .null) :
    orNull value v = (value v).map some := by
  cases v with
  | null => exact absurd rfl h
  | _ => rfl

/-- What an edit makes of a part is read alike. -/
theorem Edit.readAlike {p : Part} {v w : Json} (h : Edit p v w) : ReadAlike p v w := by
  induction h with
  | @reorder m es es' distinct order =>
    refine readAlike_model fun field _ => fieldAlike_of_eq (member?_congr fun key _ => ?_)
    exact Keyed.find?_perm order distinct key
  | @unread m es es' key ignored others =>
    refine readAlike_model fun field hfield => fieldAlike_of_eq (member?_congr fun other hother => ?_)
    have hne : other ≠ key := fun heq => ignored field hfield (heq ▸ hother)
    rw [← Keyed.find?_drop hne, others, Keyed.find?_drop hne]
  | @member m es keys part key v w field found below ih =>
    refine readAlike_model fun g hg => ?_
    by_cases hkey : key ∈ g.1
    · -- No other field may stand under the key, so this one is the field of the member.
      obtain rfl := m.field_unique es _ field g hg key (key_mem_of_member? found) hkey
      unfold FieldAlike
      rw [found, member?_put_self w found]
      exact .some ih
    · refine fieldAlike_of_eq (member?_congr fun other hother => ?_)
      have hne : other ≠ key := fun heq => hkey (heq ▸ consulted_subset es g.1 hother)
      exact (Keyed.find?_put_other hne).symm
  -- Edits further down are carried up through what is around them.
  | item below ih => exact fun levels => agree_list (ih levels) _ _
  | value below ih => exact fun levels => agree_map (ih levels) _ _ _
  | present below ih =>
    intro levels
    simp only [Part.read]
    rw [orNull_of_ne_null _ below.ne_null.1, orNull_of_ne_null _ below.ne_null.2]
    exact (ih levels).map some

/-- Documents that edits lie between describe the same schema, or have faults that say the
same in the same order. -/
theorem edits_keep_schema_and_faults {v w : Json}
    (edits : Relation.ReflTransGen (Edit (.model .schema)) v w) :
    ((∃ s, Schema.ofJson v = .ok s ∧ Schema.ofJson w = .ok s) ∨
      ∃ fs gs, Schema.ofJson v = .error fs ∧ Schema.ofJson w = .error gs ∧
        fs.map Fault.said = gs.map Fault.said) ∧
      (schemaFaults v).map Fault.said = (schemaFaults w).map Fault.said := by
  have hagree : Agree (Schema.ofJson v) (Schema.ofJson w) := by
    induction edits with
    | refl => exact .refl _
    | tail _ edit ih => exact ih.trans (edit.readAlike 0)
  unfold schemaFaults
  cases hv : Schema.ofJson v <;> cases hw : Schema.ofJson w <;> rw [hv, hw] at hagree
  · exact ⟨.inr ⟨_, _, rfl, rfl, hagree⟩, hagree⟩
  · exact hagree.elim
  · exact hagree.elim
  · obtain rfl : _ = _ := hagree
    exact ⟨.inl ⟨_, rfl, rfl⟩, rfl⟩

/-- A document of one component that emits one event. -/
def oneEvent (event : Json) : Json :=
  .object [("modules", .object [("Views", .object [("type", .string "Component"),
    ("components", .object [("Drawer", .object [("events", .array [event])])])])])]

theorem Edit.oneEvent {event event' : Json} (h : Edit (.model .event) event event') :
    Edit (.model .schema) (oneEvent event) (oneEvent event') := by
  have hcomponent := @Edit.member .component [("events", .array [event])] ["events"] _ "events" _ _
    List.mem_cons_self rfl (@Edit.item _ [] [] _ _ h)
  have hmodule := @Edit.member .module [("type", .string "Component"), ("components", _)]
    ["components"] _ "components" _ _ (List.mem_cons_of_mem _ List.mem_cons_self) rfl
    (.present (@Edit.value _ [] [] "Drawer" _ _ hcomponent))
  exact @Edit.member .schema [("modules", _)] ["modules"] _ "modules" _ _ List.mem_cons_self rfl
    (@Edit.value _ [] [] "Views" _ _ hmodule)

/-- The shadowed spelling of a bubbling type may go, and the name, which is none, may come
last: it is what the only fault is about before and after. -/
theorem edits_keep_schema_and_faults_shadowed :
    let cluttered := [("name", Json.int 7), ("bubbling_type", .null),
      ("bubblingType", .string "bubble")]
    let tidy := [("bubblingType", Json.string "bubble"), ("name", .int 7)]
    (schemaFaults (oneEvent (.object cluttered))).map Fault.said =
        (schemaFaults (oneEvent (.object tidy))).map Fault.said ∧
      schemaFaults (oneEvent (.object tidy)) ≠ [] := by
  intro cluttered tidy
  have hunread : Edit (.model .event) (.object cluttered)
      (.object [("name", Json.int 7), ("bubblingType", .string "bubble")]) :=
    @Edit.unread _ _ _ "bubbling_type" (by decide) rfl
  have hreorder : Edit (.model .event)
      (.object [("name", Json.int 7), ("bubblingType", .string "bubble")]) (.object tidy) :=
    .reorder (by decide) (.swap _ _ [])
  exact ⟨(edits_keep_schema_and_faults (.tail (.single hunread.oneEvent) hreorder.oneEvent)).2,
    nofun⟩

end EventHeader.Document
