import EventHeader.Header
import EventHeader.Proofs.PayloadNodes
import Mathlib.Data.List.Forall2

/- Schemas whose options are worded differently. A schema is a rewording of another one if
   the two are the same but for the options of string enums, and each option has the label
   of the one in its place. Then their components need the same include directives
   (`ofEvents_reworded`), have the same methods (`method_reworded`), and have nodes of the
   same paths and kinds (`reworded_componentNodes`).

   Options that stand in each other's place are `Corresponding`. Every enum of a schema is
   one of its nodes, so it is enough to go through the nodes of both in parallel. What is
   proved of nodes is proved for whatever relation `C` the options of enums of one name
   may be in, and this is the relation it is used with in the end. -/
namespace EventHeader
open Payload

/-! ## Schemas -/

/-- As many options, each with the label of the one in its place. -/
def SameLabels (options options' : List String) : Prop :=
  List.Forall₂ (fun o o' => Identifier.ofText o = Identifier.ofText o') options options'

mutual
/-- Types of properties that are the same but for the wording of options. -/
inductive PropertyType.Reworded : PropertyType → PropertyType → Prop
  | primitive (p : Primitive) : PropertyType.Reworded (.primitive p) (.primitive p)
  | stringEnum {options options' : List String} (labels : SameLabels options options') :
      PropertyType.Reworded (.stringEnum options) (.stringEnum options')
  | object {properties properties' : List Property}
      (below : RewordedProperties properties properties') :
      PropertyType.Reworded (.object properties) (.object properties')
  | foreign (kind : Json) : PropertyType.Reworded (.foreign kind) (.foreign kind)

inductive RewordedProperties : List Property → List Property → Prop
  | nil : RewordedProperties [] []
  | cons (name : String) (optional : Bool) {type type' : PropertyType}
      {rest rest' : List Property} (first : PropertyType.Reworded type type')
      (others : RewordedProperties rest rest') :
      RewordedProperties (⟨name, optional, type⟩ :: rest) (⟨name, optional, type'⟩ :: rest')
end

structure Event.Reworded (e e' : Event) : Prop where
  name : e.name = e'.name
  optional : e.optional = e'.optional
  bubbling : e.bubbling = e'.bubbling
  payload : Option.Rel RewordedProperties e.payload e'.payload

/-- Maps of the same keys in the same order, with related values. -/
def Entries.Related {α β : Type} (V : α → β → Prop) (es : Entries α) (fs : Entries β) : Prop :=
  List.Forall₂ (fun e f => e.1 = f.1 ∧ V e.2 f.2) es fs

def Component.Reworded (c c' : Component) : Prop := List.Forall₂ Event.Reworded c.events c'.events

/-- Modules that are the same but for the components, which are related. -/
structure Module.Related (V : Component → Component → Prop) (m m' : Module) : Prop where
  type : m.type = m'.type
  components : Option.Rel (Entries.Related V) m.components m'.components

/-- Schemas that are the same but for the wording of options. -/
def Schema.Reworded (s s' : Schema) : Prop :=
  Entries.Related (Module.Related Component.Reworded) s.modules s'.modules

/-! ## Nodes -/

/-- Nodes of one path and kind, of which enums have options of the same labels that are
related. -/
inductive Payload.Node.Reworded (C : String → String → String → Prop) : Node → Node → Prop
  | object {path : List String} {properties properties' : List Property}
      (below : RewordedProperties properties properties') :
      Reworded C (.object path properties) (.object path properties')
  | stringEnum {path options options' : List String} (labels : SameLabels options options')
      (related : List.Forall₂ (C (Identifier.ofPath path)) options options') :
      Reworded C (.stringEnum path options) (.stringEnum path options')
  | foreign (path : List String) (kind : Json) :
      Reworded C (.foreign path kind) (.foreign path kind)

/-- The relation of any two options. -/
def anyOptions (_ _ _ : String) : Prop := True

mutual
theorem reworded_typeNodes : ∀ {type type' : PropertyType} (path : List String),
    type.Reworded type' →
    List.Forall₂ (Node.Reworded anyOptions) (typeNodes path type) (typeNodes path type')
  | _, _, _, .primitive _ => .nil
  | _, _, _, .stringEnum labels => .cons (.stringEnum labels (labels.imp fun _ _ _ => trivial)) .nil
  | _, _, path, .object below =>
    List.rel_append (reworded_propertyNodes path below) (.cons (.object below) .nil)
  | _, _, path, .foreign kind => .cons (.foreign path kind) .nil

theorem reworded_propertyNodes : ∀ {properties properties' : List Property} (path : List String),
    RewordedProperties properties properties' →
    List.Forall₂ (Node.Reworded anyOptions) (propertyNodes path properties)
      (propertyNodes path properties')
  | _, _, _, .nil => .nil
  | _, _, path, .cons name _ first others =>
    List.rel_append (reworded_typeNodes (path ++ [name]) first) (reworded_propertyNodes path others)
end

theorem reworded_eventNodes {e e' : Event} (h : e.Reworded e') :
    List.Forall₂ (Node.Reworded anyOptions) (eventNodes e) (eventNodes e') := by
  unfold eventNodes
  rw [← h.name]
  have hpayload := h.payload
  generalize e.payload = payload, e'.payload = payload' at hpayload ⊢
  cases hpayload with
  | none => exact .nil
  | some below => exact reworded_typeNodes [e.name] (.object below)

theorem reworded_componentNodes {c c' : Component} (h : c.Reworded c') :
    List.Forall₂ (Node.Reworded anyOptions) (componentNodes c) (componentNodes c') :=
  List.rel_flatMap h fun _ _ => reworded_eventNodes

/-! ## What does not depend on options -/

theorem typeNameAt_reworded {type type' : PropertyType} (h : type.Reworded type')
    (path : List String) : typeNameAt path type = typeNameAt path type' := by
  cases h <;> rfl

theorem fieldsAt_reworded {path : List String} : ∀ {properties properties' : List Property},
    RewordedProperties properties properties' → fieldsAt path properties = fieldsAt path properties'
  | _, _, .nil => rfl
  | _, _, .cons name _ first others =>
    congrArg₂ List.cons (congrArg (Declaration.Field.mk name) (typeNameAt_reworded first _))
      (fieldsAt_reworded others)

mutual
theorem ofType_reworded : ∀ {type type' : PropertyType}, type.Reworded type' →
    Include.ofType type = Include.ofType type'
  | _, _, .primitive _ => rfl
  | _, _, .stringEnum _ => rfl
  | _, _, .object below => ofProperties_reworded below
  | _, _, .foreign _ => rfl

theorem ofProperties_reworded : ∀ {properties properties' : List Property},
    RewordedProperties properties properties' →
    Include.ofProperties properties = Include.ofProperties properties'
  | _, _, .nil => rfl
  | _, _, .cons _ _ first others => by
    simp only [Include.ofProperties]
    rw [ofType_reworded first, ofProperties_reworded others]
end

theorem ofEvents_reworded {events events' : List Event} (h : List.Forall₂ Event.Reworded events events') :
    Include.ofEvents events = Include.ofEvents events' := by
  induction h with
  | nil => rfl
  | @cons e e' _ _ first _ ih =>
    have hpayload : Include.ofProperties (e.payload.getD []) =
        Include.ofProperties (e'.payload.getD []) := by
      have hpayload := first.payload
      generalize e.payload = payload, e'.payload = payload' at hpayload ⊢
      cases hpayload with
      | none => rfl
      | some below => exact ofProperties_reworded below
    simp only [Include.ofEvents]
    rw [hpayload, ih]

theorem method_reworded {e e' : Event} (h : e.Reworded e') : e.method = e'.method := by
  have hpayload := h.payload
  simp only [Event.method, ← h.name]
  generalize e.payload = payload, e'.payload = payload' at hpayload ⊢
  cases hpayload <;> rfl

theorem methods_reworded {events events' : List Event}
    (h : List.Forall₂ Event.Reworded events events') :
    events.map Event.method = events'.map Event.method := by
  induction h with
  | nil => rfl
  | cons first _ ih => exact congrArg₂ List.cons (method_reworded first) ih

/-- Components that need the same directives, have the same methods, and have reworded nodes
with related options. -/
structure Component.Alike (C : String → String → String → Prop) (c c' : Component) : Prop where
  includes : Include.ofEvents c.events = Include.ofEvents c'.events
  methods : c.events.map Event.method = c'.events.map Event.method
  nodes : List.Forall₂ (Node.Reworded C) (componentNodes c) (componentNodes c')

/-! ## Corresponding options -/

def Module.nodes (m : Module) : List Node :=
  (m.components.getD []).flatMap (fun c => componentNodes c.2)

/-- The nodes of a schema, of all modules in order. -/
def Schema.nodes (s : Schema) : List Node := s.modules.flatMap (fun m => m.2.nodes)

/-- Whether two options stand in each other's place in two schemas: in the same place of two
enums that are in the same place among the nodes and get this name. -/
def Corresponding (s s' : Schema) (enum o o' : String) : Prop :=
  ∃ path options options',
    (Node.stringEnum path options, Node.stringEnum path options') ∈ s.nodes.zip s'.nodes ∧
      Identifier.ofPath path = enum ∧ (o, o') ∈ options.zip options'

theorem reworded_moduleNodes {m m' : Module} (h : m.Related Component.Reworded m') :
    List.Forall₂ (Node.Reworded anyOptions) m.nodes m'.nodes := by
  unfold Module.nodes
  have hcomponents := h.components
  generalize m.components = components, m'.components = components' at hcomponents ⊢
  cases hcomponents with
  | none => exact .nil
  | some below => exact List.rel_flatMap below fun _ _ hc => reworded_componentNodes hc.2

theorem Schema.Reworded.corresponding {s s' : Schema} (h : s.Reworded s') :
    List.Forall₂ (Node.Reworded (Corresponding s s')) s.nodes s'.nodes := by
  have hnodes : List.Forall₂ (Node.Reworded anyOptions) s.nodes s'.nodes :=
    List.rel_flatMap h fun _ _ hm => reworded_moduleNodes hm.2
  refine List.forall₂_iff_zip.mpr ⟨hnodes.length_eq, fun {n n'} hmem => ?_⟩
  cases List.forall₂_zip hnodes hmem with
  | object below => exact .object below
  | @stringEnum path options options' labels _ =>
    refine .stringEnum labels (List.forall₂_iff_zip.mpr ⟨labels.length_eq, fun ho => ?_⟩)
    exact ⟨path, options, options', hmem, rfl, ho⟩
  | foreign path kind => exact .foreign path kind

theorem forall₂_of_flatMap {α β γ δ : Type} {R : γ → δ → Prop} {f : α → List γ} {g : β → List δ}
    {xs : List α} {ys : List β} (lengths : List.Forall₂ (fun x y => (f x).length = (g y).length) xs ys)
    (h : List.Forall₂ R (xs.flatMap f) (ys.flatMap g)) :
    List.Forall₂ (fun x y => List.Forall₂ R (f x) (g y)) xs ys := by
  induction lengths with
  | nil => exact .nil
  | @cons x y xs ys hlength _ ih =>
    rw [List.flatMap_cons, List.flatMap_cons] at h
    have hfirst := List.forall₂_take_append _ _ _ h
    have hrest := List.forall₂_drop_append _ _ _ h
    rw [← hlength, List.take_left] at hfirst
    rw [← hlength, List.drop_left] at hrest
    exact .cons hfirst (ih hrest)

theorem Module.Related.alike {C : String → String → String → Prop} {m m' : Module}
    (h : m.Related Component.Reworded m') (nodes : List.Forall₂ (Node.Reworded C) m.nodes m'.nodes) :
    m.Related (Component.Alike C) m' := by
  refine ⟨h.type, ?_⟩
  have hcomponents := h.components
  unfold Module.nodes at nodes
  generalize m.components = components, m'.components = components' at hcomponents nodes ⊢
  cases hcomponents with
  | none => exact .none
  | some below =>
    have hlengths := below.imp fun c c' hc =>
      show (componentNodes c.2).length = (componentNodes c'.2).length from
        (reworded_componentNodes hc.2).length_eq
    have hparts := forall₂_of_flatMap hlengths nodes
    exact .some (hparts.mp (fun _ _ hnodes hc =>
      ⟨hc.1, ofEvents_reworded hc.2, methods_reworded hc.2, hnodes⟩) below)

/-- The components of reworded schemas are alike, with options that correspond. -/
theorem Schema.Reworded.alike {s s' : Schema} (h : s.Reworded s') :
    Entries.Related (Module.Related (Component.Alike (Corresponding s s'))) s.modules s'.modules := by
  have hlengths := h.imp fun m m' hm =>
    show m.2.nodes.length = m'.2.nodes.length from (reworded_moduleNodes hm.2).length_eq
  have hparts := forall₂_of_flatMap hlengths h.corresponding
  exact hparts.mp (fun _ _ hnodes hm => ⟨hm.1, hm.2.alike hnodes⟩) h

end EventHeader
