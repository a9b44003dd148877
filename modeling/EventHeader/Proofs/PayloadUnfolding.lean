import EventHeader.Proofs.BuiltinTypes

/- Payloads read back from declarations. The type of a field is either that of single
   values, or a name under which a declaration is looked up; an enum gives the texts
   of its cases, and a struct gives its fields, each read in turn (`readDeclared`).
   The reader is told how deep it may go, and says whether it found a name that is not
   declared or had to stop.

   All nodes of all events share the names of one class, and the name of a node is
   only what is left of its path. In a strict registry that does no harm: each node
   finds its own declaration under its name, whoever registered it first, so that
   reading from the type in the method of an event gives back the payload of the event
   (`strict_payload_unfolds`), all but the marks of optional properties, which
   declarations do not show. -/
namespace EventHeader.Payload
open EventHeader.Declaration

/-- Why a type cannot be read back. -/
inductive Unread where
  | undeclared (name : String)
  | tooDeep
  deriving DecidableEq, Repr

/-- What a field of a type holds, where `declared` reads the types that are declared. -/
def readType (declared : String → Except Unread PropertyType) (t : String) :
    Except Unread PropertyType :=
  match Primitive.ofTypeName? t with
  | some p => .ok (.primitive p)
  | none => declared t

def readFields (declared : String → Except Unread PropertyType) :
    List Field → Except Unread (List Property)
  | [] => .ok []
  | f :: rest => do
    let type ← readType declared f.type
    let properties ← readFields declared rest
    return ⟨f.name, false, type⟩ :: properties

/-- What the declaration of a name stands for, read through `depth` declarations at
most. -/
def readDeclared (ds : List Declaration) : Nat → String → Except Unread PropertyType
  | 0, _ => .error .tooDeep
  | depth + 1, name =>
    match Registry.lookup ds name with
    | none => .error (.undeclared name)
    | some (.enum _ cases) => .ok (.stringEnum (cases.map Case.literal))
    | some (.struct _ fields) => do
      let properties ← readFields (readDeclared ds depth) fields
      return .object properties

mutual
/-- What a property holds, with nothing in it marked as optional. -/
def required : PropertyType → PropertyType
  | .primitive p => .primitive p
  | .stringEnum options => .stringEnum options
  | .object properties => .object (allRequired properties)
  | .foreign kind => .foreign kind

def allRequired : List Property → List Property
  | [] => []
  | ⟨name, _, type⟩ :: rest => ⟨name, false, required type⟩ :: allRequired rest
end

mutual
/-- How many declarations lie in one another in what a property holds. -/
def levels : PropertyType → Nat
  | .primitive _ => 0
  | .stringEnum _ => 1
  | .object properties => levelsBelow properties + 1
  | .foreign _ => 1

/-- How many declarations lie in one another below an object with these properties. -/
def levelsBelow : List Property → Nat
  | [] => 0
  | ⟨_, _, type⟩ :: rest => max (levels type) (levelsBelow rest)
end

/-- A node finds its own declaration under its name. -/
def Held (ds : List Declaration) (n : Node) : Prop :=
  ∃ d, n.declaration = .ok d ∧ Registry.lookup ds d.name = some d

/-! ## Reading one declaration -/

theorem literals_enumCases (options : List String) :
    (enumCases options).map Case.literal = options := by
  simp [enumCases, Function.comp_def]

theorem readDeclared_stringEnum {ds : List Declaration} {path options : List String}
    (h : Held ds (.stringEnum path options)) (depth : Nat) :
    readDeclared ds (depth + 1) (Identifier.ofPath path) = .ok (.stringEnum options) := by
  obtain ⟨d, hd, hl⟩ := h
  obtain ⟨-, rfl⟩ := Node.declaration_stringEnum hd
  have hl : Registry.lookup ds (Identifier.ofPath path) =
      some (.enum (Identifier.ofPath path) (enumCases options)) := hl
  simp only [readDeclared, hl, literals_enumCases]

theorem readDeclared_object {ds : List Declaration} {path : List String}
    {properties read : List Property} (h : Held ds (.object path properties)) {depth : Nat}
    (hread : readFields (readDeclared ds depth) (fieldsAt path properties) = .ok read) :
    readDeclared ds (depth + 1) (Identifier.ofPath path) = .ok (.object read) := by
  obtain ⟨d, hd, hl⟩ := h
  cases hd
  have hl : Registry.lookup ds (Identifier.ofPath path) =
      some (.struct (Identifier.ofPath path) (fieldsAt path properties)) := hl
  simp only [readDeclared, hl, hread]
  rfl

/-! ## Reading a payload -/

section
variable {ds : List Declaration}

mutual
/-- Below an event no name is mistaken for a type of single values, so a type that is
not one is looked up. -/
theorem readType_typeNameAt : ∀ (type : PropertyType) (path : List String), 2 ≤ path.length →
    (∀ n ∈ typeNodes path type, Held ds n) → ∀ depth, levels type ≤ depth →
    readType (readDeclared ds depth) (typeNameAt path type) = .ok (required type)
  | .primitive p, _, _, _, _, _ => by
    simp only [readType, typeNameAt, Primitive.ofTypeName?_typeName, required]
  | .stringEnum options, path, hpath, hn, depth, hdepth => by
    have hheld : Held ds (.stringEnum path options) := hn _ (List.mem_singleton_self _)
    obtain ⟨k, rfl⟩ : ∃ k, depth = k + 1 := ⟨depth - 1, by simp only [levels] at hdepth; omega⟩
    simp only [readType, typeNameAt, Primitive.ofTypeName?_eq_none (ofPath_ne_typeName hpath),
      required]
    exact readDeclared_stringEnum hheld k
  | .object properties, path, hpath, hn, depth, hdepth => by
    have hheld : Held ds (.object path properties) := hn _ (by simp [typeNodes])
    have hbelow : ∀ n ∈ propertyNodes path properties, Held ds n :=
      fun n h => hn n (List.mem_append_left _ h)
    simp only [levels] at hdepth
    obtain ⟨k, rfl⟩ : ∃ k, depth = k + 1 := ⟨depth - 1, by omega⟩
    simp only [readType, typeNameAt, Primitive.ofTypeName?_eq_none (ofPath_ne_typeName hpath),
      required]
    apply readDeclared_object hheld
    exact readFields_fieldsAt properties path (by omega) hbelow k (by omega)
  | .foreign kind, path, _, hn, _, _ => by
    -- A foreign kind has no declaration, so nothing that is held has one.
    obtain ⟨d, hd, -⟩ := hn (.foreign path kind) (List.mem_singleton_self _)
    cases hd

theorem readFields_fieldsAt : ∀ (properties : List Property) (path : List String),
    1 ≤ path.length → (∀ n ∈ propertyNodes path properties, Held ds n) →
    ∀ depth, levelsBelow properties ≤ depth →
    readFields (readDeclared ds depth) (fieldsAt path properties) = .ok (allRequired properties)
  | [], _, _, _, _, _ => rfl
  | ⟨name, _, type⟩ :: rest, path, hpath, hn, depth, hdepth => by
    simp only [levelsBelow] at hdepth
    have htype := readType_typeNameAt type (path ++ [name])
      (by rw [List.length_append, List.length_singleton]; omega)
      (fun n h => hn n (List.mem_append_left _ h)) depth (by omega)
    have hrest := readFields_fieldsAt rest path hpath
      (fun n h => hn n (List.mem_append_right _ h)) depth (by omega)
    simp only [fieldsAt] at hrest
    simp only [fieldsAt, List.map_cons, readFields, htype, hrest, allRequired]
    rfl
end

end

theorem Settled.all_held {ns : List Node} {ds : List Declaration} (h : Settled true ns ds) :
    ∀ n ∈ ns, Held ds n := by
  intro n hn
  obtain ⟨d, hd⟩ := h.declared n hn
  have hmem : d ∈ declarations ns := mem_declarations.mpr ⟨n, hn, hd⟩
  refine ⟨d, hd, ?_⟩
  rw [h.held]
  exact Registry.find?_placeAll_of_mem (h.admits rfl) hmem

/-- If a component succeeds with strict names, the type in the method of each event with
a payload reads back as that payload. -/
theorem strict_payload_unfolds {σ : Type} (component : String) (c : Component) (s : σ)
    (cls : EmitterClass)
    (h : ((EmitterClass.ofComponent component c true).run s).result = .ok cls)
    (e : Event) (he : e ∈ c.events) (properties : List Property)
    (hp : e.payload = some properties) :
    ∃ T, e.method = "void " ++ e.name ++ "(" ++ T ++ " value) const;" ∧ e.method ∈ cls.methods ∧
      ∀ depth, levelsBelow properties < depth →
        readDeclared cls.declarations depth T = .ok (.object (allRequired properties)) := by
  obtain ⟨hsettled, -, hmethods⟩ := ofComponent_ok h
  have hheld : ∀ n ∈ eventNodes e, Held cls.declarations n :=
    fun n hn => hsettled.all_held n (List.mem_flatMap.mpr ⟨e, he, hn⟩)
  refine ⟨Identifier.ofPath [e.name], by simp only [Event.method, hp], ?_, ?_⟩
  · rw [hmethods]
    exact List.mem_map_of_mem he
  · -- The payload itself is looked up, even under a name like `Float`.
    intro depth hdepth
    obtain ⟨k, rfl⟩ : ∃ k, depth = k + 1 := ⟨depth - 1, by omega⟩
    apply readDeclared_object (hheld _ (root_mem_eventNodes hp))
    refine readFields_fieldsAt properties [e.name] (Nat.le_refl 1) ?_ k (by omega)
    intro n hn
    apply hheld
    simp only [eventNodes, hp, typeNodes]
    exact List.mem_append_left _ hn

/-- The payload of two events whose names differ in their texts and not as identifiers. -/
def changePayload : List Property :=
  [⟨"target", true, .object [⟨"x", false, .primitive .float⟩]⟩,
    ⟨"mode", false, .stringEnum ["single", "left-right"]⟩]

def changeEvent : Event := ⟨"onChange", false, .direct, some changePayload⟩

/-- A component whose events share declarations, one of them named like a type. -/
def sharingComponent : Component :=
  ⟨[⟨"on-change", false, .direct, some changePayload⟩, changeEvent,
    ⟨"float", false, .bubble, some [⟨"value", false, .primitive .float⟩]⟩]⟩

def sharingClass : EmitterClass :=
  ⟨"Slider",
    [.struct "OnChangeTarget" [⟨"x", "Float"⟩],
      .enum "OnChangeMode" [⟨"Single", "single"⟩, ⟨"LeftRight", "left-right"⟩],
      .struct "OnChange" [⟨"target", "OnChangeTarget"⟩, ⟨"mode", "OnChangeMode"⟩],
      .struct "Float" [⟨"value", "Float"⟩]],
    ["void on-change(OnChange value) const;", "void onChange(OnChange value) const;",
      "void float(Float value) const;"]⟩

theorem strict_payload_unfolds_shared :
    ((EmitterClass.ofComponent "Slider" sharingComponent true).run ()).result = .ok sharingClass ∧
    ∃ T, changeEvent.method = "void " ++ changeEvent.name ++ "(" ++ T ++ " value) const;" ∧
      changeEvent.method ∈ sharingClass.methods ∧
      ∀ depth, levelsBelow changePayload < depth →
        readDeclared sharingClass.declarations depth T = .ok (.object (allRequired changePayload)) :=
  ⟨rfl, strict_payload_unfolds "Slider" sharingComponent () sharingClass rfl changeEvent
    (by simp [sharingComponent]) changePayload rfl⟩

end EventHeader.Payload
