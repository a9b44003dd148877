import EventHeader.Schema.Basic

/- How deep the properties of a payload are nested. The properties of the payload itself
   have depth 1, and those of an object one more than the object (`PropertyAt`). A payload
   is regular for some levels if no property in it lies deeper than these and none is of a
   foreign kind. This can be decided level by level (`regular_succ`), which is how payloads
   are read, written and walked through. -/
namespace EventHeader

/-- A property that stands at some depth among or below some properties. -/
inductive PropertyAt : List Property → Nat → Property → Prop
  | own {properties : List Property} {p : Property} (mem : p ∈ properties) :
      PropertyAt properties 1 p
  | nested {properties inner : List Property} {p q : Property} {depth : Nat}
      (mem : p ∈ properties) (object : p.type = .object inner) (inside : PropertyAt inner depth q) :
      PropertyAt properties (depth + 1) q

/-- The properties of an object of a payload: the payload itself, or an object at some depth in
it. -/
inductive ObjectIn (payload : List Property) : List Property → Prop
  | whole : ObjectIn payload payload
  | inside {depth : Nat} {p : Property} {inner : List Property} (lies : PropertyAt payload depth p)
      (object : p.type = .object inner) : ObjectIn payload inner

/-- No property lies deeper than some levels, and none is of a foreign kind. -/
def Regular (levels : Nat) (properties : List Property) : Prop :=
  ∀ depth p, PropertyAt properties depth p → depth ≤ levels ∧ ∀ kind, p.type ≠ .foreign kind

/-- No property is of a foreign kind, at any depth. -/
def Known (properties : List Property) : Prop :=
  ∀ depth p, PropertyAt properties depth p → ∀ kind, p.type ≠ .foreign kind

/-- A type is not foreign, and what lies inside of it is regular for some levels. -/
structure PropertyType.Regular (levels : Nat) (type : PropertyType) : Prop where
  known : ∀ kind, type ≠ .foreign kind
  inside : ∀ inner, type = .object inner → EventHeader.Regular levels inner

/-- A payload of a schema: that of an event of some component of some module. -/
def Schema.HasPayload (s : Schema) (payload : List Property) : Prop :=
  ∃ m ∈ s.modules, ∃ components, m.2.components = some components ∧
    ∃ c ∈ components, ∃ e ∈ c.2.events, e.payload = some payload

variable {levels : Nat} {properties : List Property} {type : PropertyType}

theorem PropertyType.Regular.primitive (p : Primitive) :
    PropertyType.Regular levels (.primitive p) where
  known := nofun
  inside := nofun

theorem PropertyType.Regular.stringEnum (options : List String) :
    PropertyType.Regular levels (.stringEnum options) where
  known := nofun
  inside := nofun

theorem PropertyType.Regular.object (h : EventHeader.Regular levels properties) :
    PropertyType.Regular levels (.object properties) where
  known := nofun
  inside := by
    intro inner hinner
    cases hinner
    exact h

theorem not_propertyAt_nil {depth : Nat} {p : Property} : ¬ PropertyAt [] depth p := by
  intro h
  cases h with
  | own hmem => exact absurd hmem List.not_mem_nil
  | nested hmem _ _ => exact absurd hmem List.not_mem_nil

theorem PropertyAt.cons {depth : Nat} {p : Property} (h : PropertyAt properties depth p)
    (q : Property) : PropertyAt (q :: properties) depth p := by
  cases h with
  | own mem => exact .own (List.mem_cons_of_mem _ mem)
  | nested mem object inside => exact .nested (List.mem_cons_of_mem _ mem) object inside

theorem PropertyAt.deeper {inner : List Property} {depth : Nat} {p q : Property}
    (h : PropertyAt properties depth p) (hp : p.type = .object inner) (hq : q ∈ inner) :
    PropertyAt properties (depth + 1) q := by
  induction h with
  | own mem => exact .nested mem hp (.own hq)
  | nested mem object _ ih => exact .nested mem object (ih hp)

theorem PropertyAt.objectIn {depth : Nat} {p : Property} (h : PropertyAt properties depth p) :
    ∃ inner, ObjectIn properties inner ∧ p ∈ inner := by
  induction h with
  | own mem => exact ⟨_, .whole, mem⟩
  | nested mem object _ ih =>
    obtain ⟨inner, hin, hp⟩ := ih
    cases hin with
    | whole => exact ⟨_, .inside (.own mem) object, hp⟩
    | inside lies hobject => exact ⟨inner, .inside (.nested mem object lies) hobject, hp⟩

theorem regular_nil : Regular levels [] := fun _ _ hp => absurd hp not_propertyAt_nil

theorem Regular.known (h : Regular levels properties) : Known properties :=
  fun depth p hp => (h depth p hp).2

theorem known_nil : Known [] := fun _ _ hp => absurd hp not_propertyAt_nil

theorem known_cons {p : Property} (h : Known (p :: properties)) :
    (∀ kind, p.type ≠ .foreign kind) ∧ (∀ inner, p.type = .object inner → Known inner) ∧
      Known properties :=
  ⟨h 1 p (.own List.mem_cons_self),
    fun _ hinner depth q hq => h (depth + 1) q (.nested List.mem_cons_self hinner hq),
    fun depth q hq => h depth q (hq.cons p)⟩

theorem regular_zero : Regular 0 properties ↔ properties = [] := by
  refine ⟨fun h => ?_, fun h => h ▸ regular_nil⟩
  apply List.eq_nil_iff_forall_not_mem.mpr
  intro p hp
  have hdepth := (h 1 p (.own hp)).1
  omega

/-- Properties are regular if each is for itself, with one level less below it. -/
theorem regular_succ : Regular (levels + 1) properties ↔ ∀ p ∈ properties, p.type.Regular levels := by
  refine ⟨fun h p hp => ⟨(h 1 p (.own hp)).2, fun inner hinner depth q hq => ?_⟩,
    fun h depth q hq => ?_⟩
  · obtain ⟨hdepth, hknown⟩ := h (depth + 1) q (.nested hp hinner hq)
    exact ⟨by omega, hknown⟩
  · cases hq with
    | own hmem => exact ⟨by omega, (h q hmem).known⟩
    | nested hmem hobject hinside =>
      obtain ⟨hdepth, hknown⟩ := (h _ hmem).inside _ hobject _ _ hinside
      exact ⟨by omega, hknown⟩

theorem regular_cons {p : Property} : Regular levels (p :: properties) ↔
    Regular levels [p] ∧ Regular levels properties := by
  cases levels with
  | zero => simp [regular_zero]
  | succ below => simp [regular_succ]

theorem regular_of_forall (h : ∀ p ∈ properties, Regular levels [p]) : Regular levels properties := by
  induction properties with
  | nil => exact regular_nil
  | cons p rest ih =>
    obtain ⟨hp, hrest⟩ := List.forall_mem_cons.mp h
    exact regular_cons.mpr ⟨hp, ih hrest⟩

theorem regular_singleton {p : Property} :
    Regular levels [p] ↔ ∃ below, levels = below + 1 ∧ p.type.Regular below := by
  cases levels with
  | zero => simp [regular_zero]
  | succ below => simp [regular_succ]

end EventHeader
