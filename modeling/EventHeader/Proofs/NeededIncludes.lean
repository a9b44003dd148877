import EventHeader.Proofs.ComponentIsolation
import EventHeader.Proofs.OrderIndependence
import EventHeader.Proofs.IdentifierShape

/- Directives and the fields that need them. The directives of a header are collected in a walk
   of their own over the payloads, apart from the one that makes the declarations, and the two
   agree: the fields of the structs that the nodes of a payload declare are its properties, at
   whatever depth these lie (`propertyAt_iff_node`), and only a `Mixed` property makes a field of
   the type that the directive is for (`typeNameAt_eq_dynamic`). A class holds no declaration but
   those of its nodes, so a field of that type is never without the directive; and with strict
   names it holds them all, so the directive is never without such a field
   (`includes_are_needed`). -/
namespace EventHeader

def dynamicType : String := "folly::dynamic"

def dynamicInclude : String := "#include <folly/dynamic.h>"

namespace Payload
open EventHeader.Declaration

/-! ## The properties of a payload are those of its nodes -/

theorem mem_propertyNodes_of_mem {path : List String} {properties : List Property} {p : Property}
    {n : Node} (hp : p ∈ properties) (hn : n ∈ typeNodes (path ++ [p.name]) p.type) :
    n ∈ propertyNodes path properties := by
  induction properties with
  | nil => exact absurd hp List.not_mem_nil
  | cons q rest ih =>
    obtain ⟨name, optional, type⟩ := q
    rw [propertyNodes]
    obtain rfl | hp := List.mem_cons.mp hp
    · exact List.mem_append_left _ hn
    · exact List.mem_append_right _ (ih hp)

theorem node_of_objectAt {properties inner : List Property} {depth : Nat} {p : Property}
    (h : PropertyAt properties depth p) (hp : p.type = .object inner) (path : List String) :
    ∃ way, Node.object way inner ∈ propertyNodes path properties := by
  induction h generalizing path with
  | @own properties p mem =>
    refine ⟨path ++ [p.name], mem_propertyNodes_of_mem mem ?_⟩
    rw [hp]
    exact List.mem_append_right _ (List.mem_singleton_self _)
  | @nested properties below p q depth mem object inside ih =>
    obtain ⟨way, hnode⟩ := ih hp (path ++ [p.name])
    refine ⟨way, mem_propertyNodes_of_mem mem ?_⟩
    rw [object]
    exact List.mem_append_left _ hnode

mutual
theorem objectIn_of_typeNode : ∀ (type : PropertyType) (path : List String)
    {way : List String} {inner : List Property}, Node.object way inner ∈ typeNodes path type →
    ∃ properties, type = .object properties ∧ ObjectIn properties inner
  | .primitive _, _, _, _, h => absurd h List.not_mem_nil
  | .stringEnum _, _, _, _, h => by cases List.mem_singleton.mp h
  | .foreign _, _, _, _, h => by cases List.mem_singleton.mp h
  | .object properties, path, way, inner, h => by
    refine ⟨properties, rfl, ?_⟩
    obtain h | h := List.mem_append.mp h
    · obtain ⟨depth, p, hat, hp⟩ := objectAt_of_propertyNode properties path h
      exact .inside hat hp
    · cases List.mem_singleton.mp h
      exact .whole

theorem objectAt_of_propertyNode : ∀ (properties : List Property) (path : List String)
    {way : List String} {inner : List Property},
    Node.object way inner ∈ propertyNodes path properties →
    ∃ depth p, PropertyAt properties depth p ∧ p.type = .object inner
  | [], _, _, _, h => absurd h List.not_mem_nil
  | ⟨name, optional, type⟩ :: rest, path, way, inner, h => by
    obtain h | h := List.mem_append.mp h
    · obtain ⟨properties, htype, hin⟩ := objectIn_of_typeNode type _ h
      cases hin with
      | whole => exact ⟨1, _, .own List.mem_cons_self, htype⟩
      | inside lies hobject => exact ⟨_, _, .nested List.mem_cons_self htype lies, hobject⟩
    · obtain ⟨depth, p, hat, hp⟩ := objectAt_of_propertyNode rest path h
      exact ⟨depth, p, hat.cons _, hp⟩
end

theorem objectIn_iff_node (path : List String) {payload inner : List Property} :
    ObjectIn payload inner ↔
      ∃ way, Node.object way inner ∈ typeNodes path (.object payload) := by
  constructor
  · intro h
    cases h with
    | whole => exact ⟨path, List.mem_append_right _ (List.mem_singleton_self _)⟩
    | inside lies object =>
      obtain ⟨way, hnode⟩ := node_of_objectAt lies object path
      exact ⟨way, List.mem_append_left _ hnode⟩
  · intro ⟨way, hnode⟩
    obtain ⟨_, hobject, hin⟩ := objectIn_of_typeNode _ path hnode
    cases hobject
    exact hin

/-- A property lies in a payload, at any depth, exactly if it is one of an object node. -/
theorem propertyAt_iff_node (path : List String) {payload : List Property} {p : Property} :
    (∃ depth, PropertyAt payload depth p) ↔
      ∃ way inner, Node.object way inner ∈ typeNodes path (.object payload) ∧ p ∈ inner := by
  constructor
  · intro ⟨depth, h⟩
    obtain ⟨inner, hin, hp⟩ := h.objectIn
    obtain ⟨way, hnode⟩ := (objectIn_iff_node path).mp hin
    exact ⟨way, inner, hnode, hp⟩
  · intro ⟨way, inner, hnode, hp⟩
    cases (objectIn_iff_node path).mpr ⟨way, hnode⟩ with
    | whole => exact ⟨1, .own hp⟩
    | inside lies object => exact ⟨_, lies.deeper object hp⟩

/-! ## Fields of the type -/

/-- Only `Mixed` properties have the type: no identifier has a colon in it. -/
theorem typeNameAt_eq_dynamic {path : List String} {type : PropertyType} :
    typeNameAt path type = dynamicType ↔ type = .primitive .mixed := by
  have hpath : Identifier.ofPath path ≠ dynamicType := by
    intro h
    have hcolon := Identifier.isWordChar_of_mem_ofPath path ':' (by rw [h]; decide)
    exact absurd hcolon (by decide)
  cases type with
  | primitive k => cases k <;> simp [typeNameAt, Primitive.typeName, dynamicType]
  | _ => simpa [typeNameAt] using hpath

/-- Whether a declaration is a struct with a field of the type. -/
def HasDynamicField (d : Declaration) : Prop :=
  ∃ name fields, d = .struct name fields ∧ ∃ f ∈ fields, f.type = dynamicType

/-- Whether a payload of a component holds a `Mixed` property, at any depth. -/
def HoldsMixed (c : Component) : Prop :=
  ∃ e ∈ c.events, ∃ payload depth p, e.payload = some payload ∧ PropertyAt payload depth p ∧
    p.type = .primitive .mixed

theorem hasDynamicField_iff {way : List String} {inner : List Property} :
    HasDynamicField (.struct (Identifier.ofPath way) (fieldsAt way inner)) ↔
      ∃ p ∈ inner, p.type = .primitive .mixed := by
  constructor
  · intro ⟨_, _, hstruct, f, hf, htype⟩
    cases hstruct
    obtain ⟨p, hp, rfl⟩ := List.mem_map.mp hf
    exact ⟨p, hp, typeNameAt_eq_dynamic.mp htype⟩
  · intro ⟨p, hp, htype⟩
    refine ⟨_, _, rfl, _, List.mem_map_of_mem hp, ?_⟩
    exact typeNameAt_eq_dynamic.mpr htype

/-- A component holds a `Mixed` property exactly if a node of it declares a field of the type. -/
theorem holdsMixed_iff {c : Component} : HoldsMixed c ↔
    ∃ n ∈ componentNodes c, ∃ d, n.declaration = .ok d ∧ HasDynamicField d := by
  constructor
  · rintro ⟨e, he, payload, depth, p, hpayload, hat, htype⟩
    obtain ⟨way, inner, hnode, hp⟩ := (propertyAt_iff_node [e.name]).mp ⟨depth, hat⟩
    refine ⟨.object way inner, ?_, _, rfl, hasDynamicField_iff.mpr ⟨p, hp, htype⟩⟩
    apply List.mem_flatMap.mpr
    refine ⟨e, he, ?_⟩
    rw [eventNodes, hpayload]
    exact hnode
  · rintro ⟨n, hn, d, hdecl, hfield⟩
    obtain ⟨e, he, hn⟩ := List.mem_flatMap.mp hn
    unfold eventNodes at hn
    -- Only structs have fields, so the node is an object and the field one of its properties.
    cases n with
    | object way inner =>
      cases hdecl
      obtain ⟨p, hp, htype⟩ := hasDynamicField_iff.mp hfield
      split at hn
      · exact absurd hn List.not_mem_nil
      · rename_i payload hpayload
        obtain ⟨depth, hat⟩ := (propertyAt_iff_node [e.name]).mpr ⟨way, inner, hn, hp⟩
        exact ⟨e, he, payload, depth, p, hpayload, hat, htype⟩
    | stringEnum way options =>
      obtain ⟨-, rfl⟩ := Node.declaration_stringEnum hdecl
      obtain ⟨_, _, henum, _⟩ := hfield
      cases henum
    | foreign way kind => cases hdecl

theorem Settled.holdsMixed {strict : Bool} {c : Component} {ds : List Declaration}
    (h : Settled strict (componentNodes c) ds) {d : Declaration} (hd : d ∈ ds)
    (hfield : HasDynamicField d) : HoldsMixed c := by
  obtain ⟨n, hn, hdecl⟩ := mem_declarations.mp (h.mem hd)
  exact holdsMixed_iff.mpr ⟨n, hn, d, hdecl, hfield⟩

theorem Settled.dynamicField {c : Component} {ds : List Declaration}
    (h : Settled true (componentNodes c) ds) (hmixed : HoldsMixed c) :
    ∃ d ∈ ds, HasDynamicField d := by
  obtain ⟨n, hn, d, hdecl, hfield⟩ := holdsMixed_iff.mp hmixed
  exact ⟨d, h.mem_iff.mpr ⟨n, hn, hdecl⟩, hfield⟩

end Payload

/-! ## The block of directives -/

namespace Header
open Payload

/-- The directives of a header: the one that every header has, and the one for `Mixed`
properties if it is there. -/
def includeBlock (dynamic : Bool) : String :=
  if dynamic then baseInclude ++ "\n" ++ dynamicInclude else baseInclude

def textBelow (classes : List EmitterClass) : String :=
  "\n\n".intercalate (namespaceOpen :: classes.map EmitterClass.render ++ [namespaceClose]) ++ "\n"

theorem ownNeed_dynamic {type : PropertyType} :
    Include.OwnNeed type dynamicInclude ↔ type = .primitive .mixed := by
  constructor
  · intro ⟨k, hk, hneed⟩
    cases k with
    | mixed => exact hk
    | _ => cases hneed
  · intro h
    exact ⟨.mixed, h, rfl⟩

theorem neededIn_dynamic {components : Entries Component} :
    NeededIn components dynamicInclude ↔ ∃ entry ∈ components, HoldsMixed entry.2 := by
  simp only [NeededIn, Include.NeededBy, Include.Needed, ownNeed_dynamic, HoldsMixed,
    exists_and_left]

theorem assemble_eq (classes : List EmitterClass) (includes : List String) :
    assemble classes includes = banner ++ "\n\n" ++ Text.unlines (baseInclude :: includes) ++
      "\n\n" ++ textBelow classes := by
  have hparts : [banner, Text.unlines (baseInclude :: includes), namespaceOpen] ++
      classes.map EmitterClass.render ++ [namespaceClose] =
        banner :: Text.unlines (baseInclude :: includes) ::
          (namespaceOpen :: classes.map EmitterClass.render ++ [namespaceClose]) := by simp
  rw [assemble, textBelow, hparts, String.intercalate_cons_cons,
    String.intercalate_cons_of_ne_nil (by simp)]
  simp only [String.append_assoc]

/-- The set of the directives that components need is empty or holds the one for `Mixed`
properties, which is there exactly if one of the components holds such a property. -/
theorem includeBlock_of_set {components : Entries Component} {includes : List String}
    (h : Include.IsSetOf includes (NeededIn components)) : ∃ dynamic,
      Text.unlines (baseInclude :: includes) = includeBlock dynamic ∧
      (dynamic = true ↔ ∃ entry ∈ components, HoldsMixed entry.2) := by
  rw [← neededIn_dynamic, ← h.mem_iff]
  obtain rfl | rfl := includes_of_set h
  · exact ⟨false, by simp [Text.unlines, includeBlock], by simp⟩
  · exact ⟨true, by simp [Text.unlines, includeBlock, dynamicInclude], by simp [dynamicInclude]⟩

/-- A header has the directive for `Mixed` properties, once below the one that every header has,
exactly if a component holds such a property at any depth of a payload. So whenever a declaration
has a field of the type, the directive is there; and with strict names it is there only if a
declaration has such a field. -/
theorem includes_are_needed {σ : Type} (o : GenerationOptions) (s : Schema) (state : σ)
    (files : Entries String) (h : ((generate o s).run state).result = .ok files) :
    ∃ (components : Entries Component) (classes : List EmitterClass) (dynamic : Bool),
      ((s.components : Action σ GenerationError _).run state).result = .ok components ∧
      components.map (classOf o.strict) = classes.map .ok ∧
      files = [(fileName, banner ++ "\n\n" ++ includeBlock dynamic ++ "\n\n" ++
        textBelow classes)] ∧
      (dynamic = true ↔ ∃ entry ∈ components, HoldsMixed entry.2) ∧
      ((∃ cls ∈ classes, ∃ d ∈ cls.declarations, HasDynamicField d) → dynamic = true) ∧
      (o.strict = true → dynamic = true →
        ∃ cls ∈ classes, ∃ d ∈ cls.declarations, HasDynamicField d) := by
  obtain ⟨hclasses, includes, hincludes, rfl⟩ := generate_ok h
  obtain ⟨dynamic, hblock, hmixed⟩ := includeBlock_of_set hincludes
  refine ⟨Keyed.ofList s.definitions, (Keyed.ofList s.definitions).map (emitter o.strict),
    dynamic, components_result s state, ?_, ?_, hmixed, ?_, ?_⟩
  · rw [List.map_map]
    exact List.map_congr_left hclasses
  · rw [assemble_eq, hblock]
  · intro ⟨cls, hcls, d, hd, hfield⟩
    obtain ⟨entry, hentry, rfl⟩ := List.mem_map.mp hcls
    obtain ⟨hsettled, -, -⟩ := ofComponent_ok (hclasses entry hentry)
    exact hmixed.mpr ⟨entry, hentry, hsettled.holdsMixed hd hfield⟩
  · -- Only a strict registry is sure to hold what the node with the property declares.
    intro hstrict hdynamic
    obtain ⟨entry, hentry, hholds⟩ := hmixed.mp hdynamic
    obtain ⟨hsettled, -, -⟩ := ofComponent_ok (hclasses entry hentry)
    rw [hstrict] at hsettled ⊢
    exact ⟨_, List.mem_map_of_mem hentry, hsettled.dynamicField hholds⟩

theorem includes_are_needed_tap : ∃ files classes,
    ((generate ⟨"lib", none, false, true⟩
      (tapSchema (.primitive .int32) (.primitive .mixed))).run ()).result = .ok files ∧
    files = [(fileName, banner ++ "\n\n" ++ includeBlock true ++ "\n\n" ++ textBelow classes)] ∧
    ∃ cls ∈ classes, ∃ d ∈ cls.declarations, HasDynamicField d := by
  obtain ⟨components, classes, dynamic, hcomponents, -, hfiles, hmixed, -, hfield⟩ :=
    includes_are_needed ⟨"lib", none, false, true⟩
      (tapSchema (.primitive .int32) (.primitive .mixed)) () _ rfl
  have hdynamic : dynamic = true := by
    cases hcomponents
    exact hmixed.mpr ⟨("Pad", tapComponent (.primitive .mixed)), List.mem_cons_self, _,
      List.mem_cons_self, _, 1, _, rfl, .own List.mem_cons_self, rfl⟩
  exact ⟨_, classes, rfl, hdynamic ▸ hfiles, hfield rfl hdynamic⟩

/-- Without strict names the only struct with such a field may be lost. -/
example :
    let events : List Event :=
      [⟨"onTap", false, .direct, some [⟨"at", false, .primitive .mixed⟩]⟩,
        ⟨"onTap", false, .direct, some [⟨"at", false, .primitive .int32⟩]⟩]
    Include.ofEvents events = .ok [dynamicInclude] ∧
      (classOf false ("Pad", ⟨events⟩)).map EmitterClass.declarations =
        .ok [.struct "OnTap" [⟨"at", "int"⟩]] :=
  ⟨rfl, rfl⟩

end Header
end EventHeader
