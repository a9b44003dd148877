import EventHeader.EmitterClass
import EventHeader.Proofs.ActionLaws
import EventHeader.Proofs.RegistryPlaces

/- The nodes of a payload. A node is a property that needs a declaration of its own,
   with the path of names to it; a payload is itself one. A node's declaration
   depends on its path and on what it holds and on nothing else.

   The emitter class registers declarations while it settles the types of fields,
   in a recursion over the payload that hands the registry on. This module shows
   that the recursion is a plain sequence (`structFields_eq`, `registerPayloads_eq`):
   the nodes are settled one after another, each after all nodes below it, and the
   fields come out as if nothing had been registered. So a component that succeeds
   holds the declarations of its nodes, put into an empty registry in that order
   (`ofComponent_ok`). -/
namespace EventHeader.Payload
open EventHeader.Declaration

/-- A part of a payload that is more than a single value, and the names on the way to
it. -/
inductive Node where
  | object (path : List String) (properties : List Property)
  | stringEnum (path options : List String)
  | foreign (path : List String) (kind : Json)

def typeNameAt (path : List String) : PropertyType → String
  | .primitive p => p.typeName
  | _ => Identifier.ofPath path

def fieldsAt (path : List String) (properties : List Property) : List Field :=
  properties.map (fun p => ⟨p.name, typeNameAt (path ++ [p.name]) p.type⟩)

mutual
/-- The nodes of a property at a path, each after all nodes below it. -/
def typeNodes (path : List String) : PropertyType → List Node
  | .primitive _ => []
  | .stringEnum options => [.stringEnum path options]
  | .object properties => propertyNodes path properties ++ [.object path properties]
  | .foreign kind => [.foreign path kind]

/-- The nodes of the properties below a path, in order. -/
def propertyNodes (path : List String) : List Property → List Node
  | [] => []
  | ⟨name, _, type⟩ :: rest => typeNodes (path ++ [name]) type ++ propertyNodes path rest
end

/-- The nodes of an event: those of its payload, if it has one. -/
def eventNodes (e : Event) : List Node :=
  match e.payload with
  | none => []
  | some properties => typeNodes [e.name] (.object properties)

namespace Node

def path : Node → List String
  | .object path _ => path
  | .stringEnum path _ => path
  | .foreign path _ => path

def declaration : Node → Except GenerationError Declaration
  | .object path properties => .ok (.struct (Identifier.ofPath path) (fieldsAt path properties))
  | .stringEnum path options =>
    match repeatedCase? (enumCases options) with
    | some c => .error (.caseCollision (Identifier.ofPath path) c.label
        ((casesOf c.label (enumCases options)).map Case.literal))
    | none => .ok (.enum (Identifier.ofPath path) (enumCases options))
  | .foreign _ kind => .error (.invalidType kind)

/-- Registers the declaration of a node, or reports why there is none and stops. -/
def settle (component : String) : Node → Action Registry GenerationError Unit
  | .object path properties =>
    Registry.register (.struct (Identifier.ofPath path) (fieldsAt path properties))
  | .stringEnum path options => do
    let _ ← registerEnum path options
  | .foreign path kind => do
    .write .error "emitter"
      (component ++ ": property '" ++ path.getLast?.getD "" ++ "' has invalid type " ++ kind.text)
    .fail (.invalidType kind)

theorem declaration_stringEnum {path options : List String} {d : Declaration}
    (h : (stringEnum path options).declaration = .ok d) :
    repeatedCase? (enumCases options) = none ∧
      d = .enum (Identifier.ofPath path) (enumCases options) := by
  simp only [declaration] at h
  split at h
  · cases h
  · rename_i hc
    cases h
    exact ⟨hc, rfl⟩

theorem declaration_name {n : Node} {d : Declaration} (h : n.declaration = .ok d) :
    d.name = Identifier.ofPath n.path := by
  cases n with
  | object path properties => cases h; rfl
  | stringEnum path options =>
    obtain ⟨-, rfl⟩ := declaration_stringEnum h
    rfl
  | foreign path kind => cases h

theorem settle_of_ok (component : String) {n : Node} {d : Declaration}
    (h : n.declaration = .ok d) : n.settle component = Registry.register d := by
  cases n with
  | object path properties => cases h; rfl
  | stringEnum path options =>
    obtain ⟨hc, rfl⟩ := declaration_stringEnum h
    simp [settle, registerEnum, hc]
  | foreign path kind => cases h

/-- A node without a declaration reports why and stops, whatever the registry holds. -/
theorem settle_of_error (component : String) {n : Node} {e : GenerationError}
    (h : n.declaration = .error e) : ∃ report, n.settle component = (do
      .write .error "emitter" report
      .fail e) := by
  cases n with
  | object path properties => cases h
  | stringEnum path options =>
    simp only [declaration] at h
    cases hc : repeatedCase? (enumCases options) with
    | none => rw [hc] at h; cases h
    | some c =>
      rw [hc] at h
      cases h
      exact ⟨_, by simp only [settle, registerEnum, hc, bind_assoc]; rfl⟩
  | foreign path kind => cases h; exact ⟨_, rfl⟩

end Node

def settleAll (component : String) : List Node → Action Registry GenerationError Unit
  | [] => pure ()
  | n :: rest => do
    n.settle component
    settleAll component rest

/-! ## The recursion over a payload is a sequence of nodes -/

theorem settleAll_append (component : String) : ∀ ms ns : List Node,
    settleAll component (ms ++ ns) = (do settleAll component ms; settleAll component ns)
  | [], ns => by simp [settleAll]
  | m :: ms, ns => by
    simp only [List.cons_append, settleAll, bind_assoc]
    rw [settleAll_append component ms ns]

theorem settleAll_singleton (component : String) (n : Node) :
    settleAll component [n] = n.settle component := by
  simp [settleAll]

theorem registerEnum_eq (component : String) (path options : List String) :
    registerEnum path options = (do
      (Node.stringEnum path options).settle component
      return Identifier.ofPath path) := by
  simp only [Node.settle, registerEnum]
  cases repeatedCase? (enumCases options) with
  | none => simp
  | some c => simp

mutual
theorem fieldType_eq (component : String) (path : List String) (name : String) :
    ∀ type : PropertyType, fieldType component (path ++ [name]) name type = (do
      settleAll component (typeNodes (path ++ [name]) type)
      return typeNameAt (path ++ [name]) type)
  | .primitive p => by simp [fieldType, typeNodes, settleAll, typeNameAt]
  | .stringEnum options => by
    simp only [fieldType, typeNodes, settleAll_singleton, typeNameAt]
    exact registerEnum_eq component _ _
  | .object properties => by
    -- The nodes below come first, since the struct is registered with its fields known.
    simp only [fieldType, typeNodes, settleAll_append, settleAll_singleton, typeNameAt]
    rw [structFields_eq component _ properties]
    simp [Node.settle]
  | .foreign kind => by
    simp [fieldType, typeNodes, settleAll_singleton, Node.settle]

theorem structFields_eq (component : String) (path : List String) :
    ∀ properties : List Property, structFields component path properties = (do
      settleAll component (propertyNodes path properties)
      return fieldsAt path properties)
  | [] => by simp [structFields, propertyNodes, settleAll, fieldsAt]
  | ⟨name, _, type⟩ :: rest => by
    simp only [structFields, propertyNodes, settleAll_append]
    rw [fieldType_eq component path name type, structFields_eq component path rest]
    simp [fieldsAt]
end

theorem registerStruct_eq (component : String) (path : List String) (properties : List Property) :
    registerStruct component path properties = (do
      settleAll component (typeNodes path (.object properties))
      return Identifier.ofPath path) := by
  simp only [registerStruct, typeNodes, settleAll_append, settleAll_singleton]
  rw [structFields_eq]
  simp [Node.settle]

/-! ## Paths -/

mutual
theorem path_of_mem_typeNodes : ∀ (type : PropertyType) (path : List String) (n : Node),
    n ∈ typeNodes path type → path <+: n.path
  | .primitive _, _, _, h => absurd h List.not_mem_nil
  | .stringEnum _, _, _, h => by
    rw [List.mem_singleton.mp h]
    exact List.prefix_rfl
  | .object properties, path, n, h => by
    rcases List.mem_append.mp h with h | h
    · obtain ⟨name, hp⟩ := path_of_mem_propertyNodes properties path n h
      exact (List.prefix_append path [name]).trans hp
    · rw [List.mem_singleton.mp h]
      exact List.prefix_rfl
  | .foreign _, _, _, h => by
    rw [List.mem_singleton.mp h]
    exact List.prefix_rfl

theorem path_of_mem_propertyNodes : ∀ (properties : List Property) (path : List String) (n : Node),
    n ∈ propertyNodes path properties → ∃ name, path ++ [name] <+: n.path
  | [], _, _, h => absurd h List.not_mem_nil
  | ⟨name, _, type⟩ :: rest, path, n, h => by
    rcases List.mem_append.mp h with h | h
    · exact ⟨name, path_of_mem_typeNodes type (path ++ [name]) n h⟩
    · exact path_of_mem_propertyNodes rest path n h
end

/-- A node of an event is the payload, or its path has two names at least. -/
theorem mem_eventNodes {e : Event} {n : Node} (h : n ∈ eventNodes e) :
    (∃ properties, e.payload = some properties ∧ n = .object [e.name] properties) ∨
      2 ≤ n.path.length := by
  unfold eventNodes at h
  split at h
  · exact absurd h List.not_mem_nil
  · rename_i properties hp
    rcases List.mem_append.mp h with h | h
    · obtain ⟨name, hpre⟩ := path_of_mem_propertyNodes properties [e.name] n h
      exact Or.inr hpre.length_le
    · exact Or.inl ⟨properties, hp, List.mem_singleton.mp h⟩

theorem root_mem_eventNodes {e : Event} {properties : List Property}
    (h : e.payload = some properties) : Node.object [e.name] properties ∈ eventNodes e := by
  simp [eventNodes, h, typeNodes]

/-! ## Components that succeed -/

def Node.Declared (n : Node) : Prop := ∃ d, n.declaration = .ok d

def declarations (ns : List Node) : List Declaration :=
  ns.filterMap (fun n => n.declaration.toOption)

theorem declarations_append (ms ns : List Node) :
    declarations (ms ++ ns) = declarations ms ++ declarations ns :=
  List.filterMap_append

theorem declarations_cons_ok {n : Node} {d : Declaration} (h : n.declaration = .ok d)
    (ns : List Node) : declarations (n :: ns) = d :: declarations ns := by
  simp [declarations, h, Except.toOption]

theorem mem_declarations {ns : List Node} {d : Declaration} :
    d ∈ declarations ns ↔ ∃ n ∈ ns, n.declaration = .ok d := by
  simp only [declarations, List.mem_filterMap]
  refine exists_congr fun n => and_congr_right fun _ => ?_
  cases n.declaration <;> simp [Except.toOption]

/-- The nodes of a component: those of its events, in order. -/
def componentNodes (c : Component) : List Node := c.events.flatMap eventNodes

/-- What a component holds that has been settled: each of its nodes has a declaration,
and these have been put into an empty registry in order; a strict registry has lost
none of them. -/
structure Settled (strict : Bool) (ns : List Node) (ds : List Declaration) : Prop where
  declared : ∀ n ∈ ns, n.Declared
  held : ds = ((Registry.empty strict).placeAll (declarations ns)).declarations
  admits : strict = true → (Registry.empty strict).Admits (declarations ns)

section
variable {strict : Bool} {ns : List Node} {ds : List Declaration}

theorem Settled.mem (h : Settled strict ns ds) {d : Declaration} (hd : d ∈ ds) :
    d ∈ declarations ns := by
  rw [h.held] at hd
  exact (Registry.mem_placeAll hd).resolve_right List.not_mem_nil

theorem Settled.mem_names (h : Settled strict ns ds) {t : String} :
    t ∈ ds.map Declaration.name ↔ t ∈ (declarations ns).map Declaration.name := by
  have hnames : t ∈ ds.map Declaration.name ↔
      t ∈ ([] : List String) ∨ t ∈ (declarations ns).map Declaration.name := by
    rw [h.held]
    exact Registry.mem_names_placeAll
  rw [hnames]
  simp

theorem Settled.nodup_names (h : Settled strict ns ds) : (ds.map Declaration.name).Nodup := by
  rw [h.held]
  exact Registry.nodup_names_placeAll List.nodup_nil

theorem Settled.mem_names_iff_path (h : Settled strict ns ds) {t : String} :
    t ∈ ds.map Declaration.name ↔ ∃ n ∈ ns, Identifier.ofPath n.path = t := by
  rw [h.mem_names, List.mem_map]
  constructor
  · rintro ⟨d, hd, rfl⟩
    obtain ⟨n, hn, hdecl⟩ := mem_declarations.mp hd
    exact ⟨n, hn, (Node.declaration_name hdecl).symm⟩
  · rintro ⟨n, hn, rfl⟩
    obtain ⟨d, hdecl⟩ := h.declared n hn
    exact ⟨d, mem_declarations.mpr ⟨n, hn, hdecl⟩, Node.declaration_name hdecl⟩

end

theorem settle_ok {component : String} {n : Node} {r : Registry}
    (h : ((n.settle component).run r).result = .ok ()) :
    ∃ d, n.declaration = .ok d ∧ ((n.settle component).run r).state = r.place d ∧
      (r.strict = true → r.clashes d = false) := by
  cases hd : n.declaration with
  | error e =>
    obtain ⟨report, hs⟩ := Node.settle_of_error component hd
    rw [hs] at h
    cases h
  | ok d =>
    rw [Node.settle_of_ok component hd] at h ⊢
    exact ⟨d, rfl, Registry.register_ok h⟩

/-- Nodes that have been settled have declarations, and these are in the registry. -/
theorem settleAll_ok {component : String} {ns : List Node} {r : Registry}
    (h : ((settleAll component ns).run r).result = .ok ()) :
    (∀ n ∈ ns, n.Declared) ∧
      ((settleAll component ns).run r).state = r.placeAll (declarations ns) ∧
      (r.strict = true → r.Admits (declarations ns)) := by
  induction ns generalizing r with
  | nil => exact ⟨fun _ hn => absurd hn List.not_mem_nil, rfl, fun _ => trivial⟩
  | cons n rest ih =>
    obtain ⟨_, hn, hrest, hstate⟩ := Action.bind_ok h
    obtain ⟨d, hd, hplace, hclash⟩ := settle_ok hn
    -- The rest starts from the registry that the first node leaves behind.
    rw [hplace] at hrest hstate
    obtain ⟨hdecl, hrun, hadmits⟩ := ih hrest
    rw [declarations_cons_ok hd]
    refine ⟨?_, ?_, fun hs => ⟨hclash hs, hadmits hs⟩⟩
    · intro m hm
      rcases List.mem_cons.mp hm with rfl | hm
      · exact ⟨d, hd⟩
      · exact hdecl m hm
    · exact hstate.trans hrun

theorem registerPayloads_eq (component : String) : ∀ events : List Event,
    EmitterClass.registerPayloads component events =
      settleAll component (events.flatMap eventNodes)
  | [] => rfl
  | e :: rest => by
    simp only [EmitterClass.registerPayloads, List.flatMap_cons, settleAll_append, eventNodes]
    rw [registerPayloads_eq component rest]
    cases e.payload with
    | none => simp [settleAll]
    | some properties => simp [registerStruct_eq]

/-- A component that succeeds is its settled nodes and the methods of its events. -/
theorem ofComponent_ok {σ : Type} {component : String} {c : Component} {strict : Bool} {s : σ}
    {cls : EmitterClass}
    (h : ((EmitterClass.ofComponent component c strict).run s).result = .ok cls) :
    Settled strict (componentNodes c) cls.declarations ∧
      cls.component = component ∧ cls.methods = c.events.map Event.method := by
  obtain ⟨ds, hds, hrest, _⟩ := Action.bind_ok h
  obtain ⟨_, hsettle, hget, _⟩ := Action.bind_ok (s := Registry.empty strict) hds
  rw [registerPayloads_eq] at hsettle hget
  obtain ⟨hdecl, hrun, hadmits⟩ := settleAll_ok hsettle
  rw [hrun] at hget
  cases hget
  cases hrest
  exact ⟨⟨hdecl, rfl, hadmits⟩, rfl, rfl⟩

end EventHeader.Payload
