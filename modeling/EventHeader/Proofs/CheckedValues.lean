import EventHeader.Schema.Decode

/- What checked values are like. `Gives c P` says that whatever value a check gives
   satisfies `P`; a check that finds faults gives none. One lemma for each way in which
   checks are put together carries such statements from the parts of a document to the
   whole. -/
namespace EventHeader

namespace Checked
variable {α β : Type} {c : Checked α} {d : Checked β} {P : α → Prop} {Q : β → Prop}

/-- Whatever value a check gives satisfies a predicate. -/
def Gives (c : Checked α) (P : α → Prop) : Prop := ∀ a, c = .ok a → P a

theorem gives_ok {a : α} (h : P a) : Gives (.ok a) P := by
  intro b hb
  cases hb
  exact h

theorem gives_error {fs : List Fault} : Gives (.error fs : Checked α) P := by
  intro a ha
  cases ha

theorem Gives.both (hc : Gives c P) (hd : Gives d Q) :
    Gives (both c d) (fun p => P p.1 ∧ Q p.2) := by
  cases c with
  | error fs => cases d <;> exact gives_error
  | ok a =>
    cases d with
    | error fs => exact gives_error
    | ok b => exact gives_ok ⟨hc a rfl, hd b rfl⟩

theorem Gives.map {f : α → β} (h : Gives c (fun a => Q (f a))) : Gives (c.map f) Q := by
  cases c with
  | error fs => exact gives_error
  | ok a => exact gives_ok (h a rfl)

theorem Gives.under (h : Gives c P) (s : Step) : Gives (c.under s) P := by
  cases c with
  | error fs => exact gives_error
  | ok a => exact h

theorem Gives.mono {R : α → Prop} (h : Gives c P) (hPR : ∀ a, P a → R a) : Gives c R :=
  fun a ha => hPR a (h a ha)

theorem gives_any : Gives c (fun _ => True) := fun _ _ => trivial

theorem gives_all : ∀ {cs : List (Checked α)}, (∀ c ∈ cs, Gives c P) →
    Gives (all cs) (fun as => ∀ a ∈ as, P a)
  | [], _ => gives_ok (fun a ha => absurd ha List.not_mem_nil)
  | c :: cs, h => by
    obtain ⟨hc, hcs⟩ := List.forall_mem_cons.mp h
    refine Gives.map ((hc.both (gives_all hcs)).mono ?_)
    intro p hp
    exact List.forall_mem_cons.mpr hp

end Checked

namespace Schema.Decode
open Checked
variable {α : Type} {P : α → Prop} {item : Json → Checked α}

theorem gives_itemsFrom (h : ∀ v, Gives (item v) P) :
    ∀ (i : Nat) (vs : List Json), ∀ c ∈ itemsFrom item i vs, Gives c P
  | _, [], c, hc => absurd hc List.not_mem_nil
  | i, v :: rest, c, hc => by
    rcases List.mem_cons.mp hc with rfl | hc
    · exact (h v).under (.index i)
    · exact gives_itemsFrom h (i + 1) rest c hc

theorem gives_list (h : ∀ v, Gives (item v) P) (v : Json) :
    Gives (list item v) (fun as => ∀ a ∈ as, P a) := by
  cases v with
  | array vs => exact gives_all (gives_itemsFrom h 0 vs)
  | _ => exact gives_error

theorem gives_map (h : ∀ v, Gives (item v) P) (v : Json) :
    Gives (map item v) (fun es => ∀ e ∈ es, P e.2) := by
  cases v with
  | object es =>
    apply gives_all
    intro c hc
    obtain ⟨e, -, rfl⟩ := List.mem_map.mp hc
    exact Gives.map ((h e.2).under (.key e.1))
  | _ => exact gives_error

theorem gives_model {name : String} {fields : Entries Json → Checked α}
    (h : ∀ es, Gives (fields es) P) (v : Json) : Gives (model name fields v) P := by
  cases v with
  | object es => exact h es
  | _ => exact gives_error

theorem gives_optionalField {absent : α} (habsent : P absent) (h : ∀ v, Gives (item v) P)
    (keys : List String) (es : Entries Json) : Gives (optionalField keys absent item es) P := by
  unfold optionalField
  split
  · exact (h _).under _
  · exact gives_ok habsent

theorem gives_requiredField (h : ∀ v, Gives (item v) P) (keys : List String)
    (es : Entries Json) : Gives (requiredField keys item es) P := by
  unfold requiredField
  split
  · exact (h _).under _
  · exact gives_error

/-- Where null may be given, it gives nothing, and every other value what it gives. -/
theorem gives_nullable {read : Json → Checked (Option α)} (hnull : read .null = .ok none)
    (hother : ∀ v, (v = .null → False) → read v = (item v).map some)
    (h : ∀ v, Gives (item v) P) (v : Json) :
    Gives (read v) (fun value => ∀ a, value = some a → P a) := by
  by_cases hv : v = .null
  · rw [hv, hnull]
    exact gives_ok (fun a ha => by cases ha)
  · rw [hother v hv]
    refine Gives.map ((h v).mono ?_)
    intro a ha b hb
    cases hb
    exact ha

end Schema.Decode
end EventHeader
