import EventHeader.Schema.Decode

/- Checks that agree: both give the same value, or both find the same faults in the same
   order. Of a fault the place and what is wrong there count; the value found at the place
   does not, since it is nothing that a fault says. One lemma for each way in which checks
   are put together carries agreement from the parts of a document to the whole. -/
namespace EventHeader

/-- What a fault says: where it is and what is wrong there, on which alone its code and its
wording depend. -/
def Fault.said (f : Fault) : List Step × FaultCause := (f.location, f.cause)

namespace Checked
variable {α β : Type} {c c' c'' : Checked α} {d d' : Checked β}

/-- Whether two checks give the same value or find the same faults in the same order. -/
def Agree : Checked α → Checked α → Prop
  | .ok a, .ok b => a = b
  | .error fs, .error gs => fs.map Fault.said = gs.map Fault.said
  | _, _ => False

@[refl] theorem Agree.refl (c : Checked α) : Agree c c := by
  cases c <;> exact rfl

theorem Agree.trans (h : Agree c c') (h' : Agree c' c'') : Agree c c'' := by
  cases c <;> cases c' <;> cases c'' <;>
    first
    | exact Eq.trans h h'
    | exact False.elim h
    | exact False.elim h'

theorem Agree.both (hc : Agree c c') (hd : Agree d d') : Agree (both c d) (both c' d') := by
  -- Only where both checks find faults are there two lists to put together.
  cases c with
  | ok a =>
    cases c' with
    | error => exact False.elim hc
    | ok a' =>
      cases d <;> cases d'
      · exact hd
      · exact False.elim hd
      · exact False.elim hd
      · exact Prod.ext hc hd
  | error fs =>
    cases c' with
    | ok => exact False.elim hc
    | error fs' =>
      cases d <;> cases d'
      · show (fs ++ _).map Fault.said = (fs' ++ _).map Fault.said
        rw [List.map_append, List.map_append, show fs.map Fault.said = _ from hc]
        exact congrArg _ hd
      · exact False.elim hd
      · exact False.elim hd
      · exact hc

theorem Agree.map (h : Agree c c') (f : α → β) : Agree (c.map f) (c'.map f) := by
  cases c <;> cases c'
  · exact h
  · exact h
  · exact h
  · exact congrArg f h

theorem Agree.under (h : Agree c c') (s : Step) : Agree (c.under s) (c'.under s) := by
  cases c with
  | ok a => cases c' <;> exact h
  | error fs =>
    cases c' with
    | ok => exact h
    | error gs =>
      have hsaid : ∀ hs : List Fault, (hs.map (Fault.under s)).map Fault.said =
          (hs.map Fault.said).map (fun p => (s :: p.1, p.2)) := fun hs => by
        simp only [List.map_map]
        rfl
      show (fs.map (Fault.under s)).map Fault.said = (gs.map (Fault.under s)).map Fault.said
      rw [hsaid, hsaid]
      exact congrArg _ h

/-- All of some checks agree if the one that is exchanged does. -/
theorem agree_all_middle (h : Agree c c') (before after : List (Checked α)) :
    Agree (all (before ++ c :: after)) (all (before ++ c' :: after)) := by
  induction before with
  | nil => exact (h.both (.refl _)).map _
  | cons first rest ih => exact ((Agree.refl first).both ih).map _

end Checked

namespace Schema.Decode
open Checked
variable {α : Type} {item : Json → Checked α} {v w : Json}

theorem itemsFrom_append (item : Json → Checked α) (i : Nat) (vs ws : List Json) :
    itemsFrom item i (vs ++ ws) = itemsFrom item i vs ++ itemsFrom item (i + vs.length) ws := by
  induction vs generalizing i with
  | nil => rfl
  | cons v rest ih =>
    rw [List.cons_append, itemsFrom, ih, itemsFrom, List.cons_append, List.length_cons,
      Nat.add_right_comm, Nat.add_assoc]

theorem agree_list (h : Agree (item v) (item w)) (before after : List Json) :
    Agree (list item (.array (before ++ v :: after))) (list item (.array (before ++ w :: after))) := by
  simp only [list, itemsFrom_append, itemsFrom]
  exact agree_all_middle (h.under _) _ _

theorem agree_map (h : Agree (item v) (item w)) (key : String) (before after : Entries Json) :
    Agree (map item (.object (before ++ (key, v) :: after)))
      (map item (.object (before ++ (key, w) :: after))) := by
  simp only [map, List.map_append, List.map_cons]
  exact agree_all_middle ((h.under (.key key)).map _) _ _

end Schema.Decode
end EventHeader
