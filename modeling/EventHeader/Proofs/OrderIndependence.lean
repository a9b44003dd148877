import EventHeader.Proofs.HeaderContents
import EventHeader.Proofs.PayloadUnfolding

/- What does not depend on order. With strict names a component is refused over what its
   nodes are and over how any two of them compare, not over which comes first (`Faulty`), so
   its events may come in any order; and since a strict registry holds the declarations of
   all nodes, it holds the same ones, though not in the same places (`declarations_perm`). A
   header is refused over any of its components in either naming mode, and its directives
   are a set, so that components in another order only move the classes
   (`order_makes_no_difference`). -/
namespace EventHeader

namespace Payload
variable {events events' : List Event}

theorem mem_componentNodes_of_perm (h : events.Perm events') :
    ∀ n, n ∈ componentNodes ⟨events⟩ ↔ n ∈ componentNodes ⟨events'⟩ :=
  fun _ => (h.flatMap_right eventNodes).mem_iff

theorem faulty_perm {strict : Bool} (h : events.Perm events') :
    Faulty strict (componentNodes ⟨events⟩) ↔ Faulty strict (componentNodes ⟨events'⟩) := by
  constructor
  · exact fun hfaulty => hfaulty.mono fun n => (mem_componentNodes_of_perm h n).mp
  · exact fun hfaulty => hfaulty.mono fun n => (mem_componentNodes_of_perm h n).mpr

theorem Settled.mem_iff {ns : List Node} {ds : List Declaration} (h : Settled true ns ds)
    {d : Declaration} : d ∈ ds ↔ ∃ n ∈ ns, n.declaration = .ok d := by
  constructor
  · exact fun hd => mem_declarations.mp (h.mem hd)
  · -- This is where names have to be strict: otherwise a later node may have taken the name.
    intro ⟨n, hn, hd⟩
    obtain ⟨e, he, hfound⟩ := h.all_held n hn
    rw [hd] at he
    cases he
    exact List.mem_of_find?_eq_some hfound

theorem Settled.perm {ns ms : List Node} {ds es : List Declaration} (h : Settled true ns ds)
    (h' : Settled true ms es) (hnodes : ∀ n, n ∈ ns ↔ n ∈ ms) : ds.Perm es := by
  apply (List.perm_ext_iff_of_nodup h.nodup_names.of_map h'.nodup_names.of_map).mpr
  intro d
  rw [h.mem_iff, h'.mem_iff]
  simp only [hnodes]

end Payload

namespace Header
variable {σ : Type}

theorem neededIn_perm {components components' : Entries Component}
    (h : components.Perm components') (d : String) :
    NeededIn components d ↔ NeededIn components' d := by
  simp only [NeededIn, h.mem_iff]

/-- Components in another order are generated or refused alike. -/
theorem generate_succeeds_perm {o : GenerationOptions} {s s' : Schema} {state : σ}
    (h : (Keyed.ofList s.definitions).Perm (Keyed.ofList s'.definitions)) :
    (∃ files, ((generate o s).run state).result = .ok files) ↔
      ∃ files, ((generate o s').run state).result = .ok files := by
  rw [generate_succeeds_iff, generate_succeeds_iff]
  simp only [h.mem_iff]

end Header

open Payload Header in
/-- Events in another order are accepted or refused alike with strict names, and then declared
alike. Components in another order are accepted or refused alike in either naming mode, and
then every class stands in the header as it is, with the same directives. -/
theorem order_makes_no_difference {σ : Type} :
    (∀ (component : String) (events events' : List Event) (state : σ), events.Perm events' →
      ((∃ cls, ((EmitterClass.ofComponent component ⟨events⟩ true).run state).result = .ok cls) ↔
        ∃ cls, ((EmitterClass.ofComponent component ⟨events'⟩ true).run state).result = .ok cls) ∧
      ∀ cls cls', ((EmitterClass.ofComponent component ⟨events⟩ true).run state).result = .ok cls →
        ((EmitterClass.ofComponent component ⟨events'⟩ true).run state).result = .ok cls' →
        cls.declarations.Perm cls'.declarations ∧
          cls.methods = events.map Event.method ∧ cls'.methods = events'.map Event.method) ∧
    ∀ (o : GenerationOptions) (s s' : Schema) (state : σ) (components components' : Entries Component),
      ((s.components : Action σ GenerationError _).run state).result = .ok components →
      ((s'.components : Action σ GenerationError _).run state).result = .ok components' →
      components.Perm components' →
      ((∃ files, ((generate o s).run state).result = .ok files) ↔
        ∃ files, ((generate o s').run state).result = .ok files) ∧
      ∀ files files', ((generate o s).run state).result = .ok files →
        ((generate o s').run state).result = .ok files' →
        (∀ entry ∈ components, classOf o.strict entry = .ok (emitter o.strict entry)) ∧
        ∃ includes,
          files = [(fileName, assemble (components.map (emitter o.strict)) includes)] ∧
          files' = [(fileName, assemble (components'.map (emitter o.strict)) includes)] := by
  constructor
  · intro component events events' state hperm
    constructor
    · rw [ofComponent_ok_iff, ofComponent_ok_iff, faulty_perm hperm]
    · intro cls cls' h h'
      obtain ⟨hsettled, -, hmethods⟩ := ofComponent_ok h
      obtain ⟨hsettled', -, hmethods'⟩ := ofComponent_ok h'
      exact ⟨hsettled.perm hsettled' (mem_componentNodes_of_perm hperm), hmethods, hmethods'⟩
  · intro o s s' state components components' hc hc' hperm
    rw [components_result] at hc hc'
    cases hc
    cases hc'
    constructor
    · exact generate_succeeds_perm hperm
    · intro files files' h h'
      obtain ⟨hclasses, includes, hincludes, rfl⟩ := generate_ok h
      obtain ⟨-, includes', hincludes', rfl⟩ := generate_ok h'
      -- The directives are a set, and both lists of components need the same.
      have hsame := (hincludes.congr (neededIn_perm hperm)).unique hincludes'
      exact ⟨hclasses, includes, rfl, by rw [hsame]⟩

def panEvent : Event :=
  ⟨"onPan", false, .direct, some [⟨"start", false, .object [⟨"x", false, .primitive .mixed⟩]⟩]⟩

/-- An event whose payload is that struct once more. -/
def panStartEvent : Event := ⟨"onPanStart", false, .direct, some [⟨"x", false, .primitive .mixed⟩]⟩

/-- The components of two schemas, in either order. -/
def panComponents : Entries Component := [("Pad", ⟨[panEvent, panStartEvent]⟩), ("Plain", ⟨[]⟩)]

def panSchema : Schema := ⟨[("Views", ⟨"Component", some panComponents⟩)]⟩

def panSchemaReversed : Schema := ⟨[("Views", ⟨"Component", some panComponents.reverse⟩)]⟩

/-- The class of the events in the order in which they are written. -/
def panClass : EmitterClass :=
  ⟨"Pad",
    [.struct "OnPanStart" [⟨"x", "folly::dynamic"⟩], .struct "OnPan" [⟨"start", "OnPanStart"⟩]],
    ["void onPan(OnPan value) const;", "void onPanStart(OnPanStart value) const;"]⟩

theorem order_makes_no_difference_pan :
    [panEvent, panStartEvent].Perm [panStartEvent, panEvent] ∧
    (∃ cls, ((EmitterClass.ofComponent "Pad" ⟨[panStartEvent, panEvent]⟩ true).run ()).result =
        .ok cls ∧ panClass.declarations.Perm cls.declarations) ∧
    panComponents.Perm panComponents.reverse ∧
    ∃ files, ((Header.generate ⟨"lib", none, false, true⟩ panSchemaReversed).run ()).result =
      .ok files := by
  obtain ⟨hevents, hcomponents⟩ := order_makes_no_difference (σ := Unit)
  have hperm : [panEvent, panStartEvent].Perm [panStartEvent, panEvent] := List.Perm.swap _ _ []
  have hreverse : panComponents.Perm panComponents.reverse := (List.reverse_perm _).symm
  obtain ⟨haccepted, hdeclared⟩ := hevents "Pad" _ _ () hperm
  obtain ⟨cls, hcls⟩ := haccepted.mp ⟨panClass, rfl⟩
  obtain ⟨hgenerated, -⟩ := hcomponents ⟨"lib", none, false, true⟩ panSchema panSchemaReversed ()
    panComponents panComponents.reverse rfl rfl hreverse
  exact ⟨hperm, ⟨cls, hcls, (hdeclared panClass cls rfl hcls).1⟩, hreverse,
    hgenerated.mp ⟨_, rfl⟩⟩

end EventHeader
