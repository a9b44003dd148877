import EventHeader.Proofs.CarriageReturns
import EventHeader.Proofs.NeededIncludes

/- Members declared twice. A class has members of three kinds: the types nested in it, the fields
   of these, and its methods. A registry keeps one declaration for a name, so no two types of a
   class share one. The other two are taken over from the schema as they come: the structs of a
   strict class have the fields that the objects of the component have properties
   (`Settled.fieldNames_iff`), and its methods are called as the events are
   (`methodName_method`). With strict names nothing is refused but another content under the name
   of a type, so a member is declared twice exactly if an object names a property twice or two
   events have one name (`strict_members_distinct_iff`), as a schema may have it
   (`strict_members_declared_twice`). -/
namespace EventHeader

/-- The name that the declaration of a method gives it: what stands between the type of the result
and the bracket. -/
def methodName (method : String) : String :=
  String.ofList ((method.toList.drop "void ".length).takeWhile (· != '('))

/-- The name that a method made of an event's name has: the name as it is, but for a bracket and
what comes after it. -/
def Event.calledName (e : Event) : String := String.ofList (e.name.toList.takeWhile (· != '('))

/-- Whether an event of a component carries an object with some properties: as its payload, or at
any depth in it. -/
def Component.HasObject (c : Component) (properties : List Property) : Prop :=
  ∃ e ∈ c.events, ∃ payload, e.payload = some payload ∧ ObjectIn payload properties

/-! ## Methods -/

theorem takeWhile_append_stop {p : Char → Bool} {c : Char} (hc : p c = false) (cs ds : List Char) :
    (cs ++ c :: ds).takeWhile p = cs.takeWhile p := by
  induction cs with
  | nil => simp [hc]
  | cons d cs ih => simp only [List.cons_append, List.takeWhile_cons, ih]

theorem methodName_method (e : Event) : methodName e.method = e.calledName := by
  obtain ⟨arguments, hchars⟩ :
      ∃ arguments, e.method.toList = "void ".toList ++ (e.name.toList ++ '(' :: arguments) := by
    cases hp : e.payload with
    | none => exact ⟨") const;".toList, by simp [Event.method, hp]⟩
    | some properties =>
      exact ⟨(Identifier.ofPath [e.name] ++ " value) const;").toList, by simp [Event.method, hp]⟩
  rw [methodName, Event.calledName, hchars, ← String.length_toList, List.drop_left,
    takeWhile_append_stop (by decide)]

namespace Payload

/-! ## Fields -/

theorem hasObject_iff_node {c : Component} {properties : List Property} :
    c.HasObject properties ↔ ∃ way, Node.object way properties ∈ componentNodes c := by
  constructor
  · intro h
    obtain ⟨e, he, payload, hpayload, hin⟩ := h
    obtain ⟨way, hnode⟩ := (objectIn_iff_node [e.name]).mp hin
    refine ⟨way, List.mem_flatMap.mpr ⟨e, he, ?_⟩⟩
    rw [eventNodes, hpayload]
    exact hnode
  · intro h
    obtain ⟨way, hnode⟩ := h
    obtain ⟨e, he, hnode⟩ := List.mem_flatMap.mp hnode
    unfold eventNodes at hnode
    split at hnode
    · exact absurd hnode List.not_mem_nil
    · rename_i payload hpayload
      exact ⟨e, he, payload, hpayload, (objectIn_iff_node [e.name]).mpr ⟨way, hnode⟩⟩

theorem fieldNames_struct (path : List String) (properties : List Property) :
    (Declaration.struct (Identifier.ofPath path) (fieldsAt path properties)).fieldNames =
      properties.map Property.name := by
  simp [Declaration.fieldNames, fieldsAt, Function.comp_def]

/-- In a strict class the structs have just the fields that the objects have properties, so what
holds of the names of all properties of an object holds of the names of all fields of a struct. -/
theorem Settled.fieldNames_iff {c : Component} {ds : List Declaration} {P : List String → Prop}
    (h : Settled true (componentNodes c) ds) (hnone : P []) :
    (∀ d ∈ ds, P d.fieldNames) ↔
      ∀ properties, c.HasObject properties → P (properties.map Property.name) := by
  constructor
  · intro hall properties hobject
    obtain ⟨way, hnode⟩ := hasObject_iff_node.mp hobject
    rw [← fieldNames_struct way properties]
    exact hall _ (h.mem_iff.mpr ⟨_, hnode, rfl⟩)
  · intro hall d hd
    obtain ⟨n, hn, hdecl⟩ := h.mem_iff.mp hd
    cases n with
    | object way properties =>
      cases hdecl
      rw [fieldNames_struct]
      exact hall properties (hasObject_iff_node.mpr ⟨way, hn⟩)
    | stringEnum way options =>
      obtain ⟨-, rfl⟩ := Node.declaration_stringEnum hdecl
      exact hnone
    | foreign way kind => cases hdecl

/-- With strict names no two types of a class have one name; but the fields of each struct have
different names just if the properties of each object have, and the methods just if the events
have. -/
theorem strict_members_distinct_iff {σ : Type} (component : String) (c : Component) (s : σ)
    (cls : EmitterClass)
    (h : ((EmitterClass.ofComponent component c true).run s).result = .ok cls) :
    (cls.declarations.map Declaration.name).Nodup ∧
      ((∀ d ∈ cls.declarations, d.fieldNames.Nodup) ↔
        ∀ properties, c.HasObject properties → (properties.map Property.name).Nodup) ∧
      cls.methods.map methodName = c.events.map Event.calledName := by
  obtain ⟨hsettled, -, hmethods⟩ := ofComponent_ok h
  refine ⟨hsettled.nodup_names, hsettled.fieldNames_iff List.nodup_nil, ?_⟩
  rw [hmethods, List.map_map]
  exact List.map_congr_left fun e _ => methodName_method e

def slider : Component :=
  ⟨[⟨"onSlide", false, .direct, some [
      ⟨"from", true, .object [⟨"x", false, .primitive .float⟩, ⟨"y", false, .primitive .float⟩]⟩,
      ⟨"to", false, .object [⟨"x", false, .primitive .float⟩]⟩]⟩,
    ⟨"onRelease", false, .bubble, none⟩]⟩

def sliderClass : EmitterClass :=
  ⟨"Slider",
    [.struct "OnSlideFrom" [⟨"x", "Float"⟩, ⟨"y", "Float"⟩], .struct "OnSlideTo" [⟨"x", "Float"⟩],
      .struct "OnSlide" [⟨"from", "OnSlideFrom"⟩, ⟨"to", "OnSlideTo"⟩]],
    ["void onSlide(OnSlide value) const;", "void onRelease() const;"]⟩

theorem strict_members_distinct_iff_slider :
    ((EmitterClass.ofComponent "Slider" slider true).run ()).result = .ok sliderClass ∧
    (sliderClass.declarations.map Declaration.name).Nodup ∧
      ((∀ d ∈ sliderClass.declarations, d.fieldNames.Nodup) ↔
        ∀ properties, slider.HasObject properties → (properties.map Property.name).Nodup) ∧
      sliderClass.methods.map methodName = slider.events.map Event.calledName :=
  ⟨rfl, strict_members_distinct_iff "Slider" slider () sliderClass rfl⟩

def doubleEvent : Event :=
  ⟨"onTap", false, .direct,
    some [⟨"value", false, .primitive .string⟩, ⟨"value", false, .primitive .string⟩]⟩

/-- The class of a component that lists the event twice. -/
def doubleClass : EmitterClass :=
  ⟨"Slider", [.struct "OnTap" [⟨"value", "std::string"⟩, ⟨"value", "std::string"⟩]],
    ["void onTap(OnTap value) const;", "void onTap(OnTap value) const;"]⟩

/-- A name that is repeated with the same content is not refused, so that a field and a method
are declared twice. -/
theorem strict_members_declared_twice :
    ((EmitterClass.ofComponent "Slider" ⟨[doubleEvent, doubleEvent]⟩ true).run ()).result =
        .ok doubleClass ∧
      ¬ (∀ d ∈ doubleClass.declarations, d.fieldNames.Nodup) ∧
      ¬ (doubleClass.methods.map methodName).Nodup :=
  ⟨rfl, by decide, by decide⟩

end Payload
end EventHeader
