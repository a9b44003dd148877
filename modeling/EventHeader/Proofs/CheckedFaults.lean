import EventHeader.Schema.Decode

/- The faults that checks find. A check that is put together of others finds the faults of
   all of them, one after another, and adds nothing but the steps on the way down to them:
   there is one law for each way in which checks are put together. So no fault hides
   another, and which faults a part has does not depend on what stands beside it. -/
namespace EventHeader

/-- The fault as seen from some steps further up. -/
def Fault.below (steps : List Step) (f : Fault) : Fault := { f with location := steps ++ f.location }

@[simp] theorem Fault.map_below_nil (fs : List Fault) : fs.map (Fault.below []) = fs :=
  List.map_id fs

theorem Fault.map_below_below (steps more : List Step) (fs : List Fault) :
    (fs.map (Fault.below more)).map (Fault.below steps) = fs.map (Fault.below (steps ++ more)) := by
  simp [Fault.below]

namespace Checked
variable {α β : Type}

/-- The faults that a check finds; none if it gives a value. -/
def faults : Checked α → List Fault
  | .ok _ => []
  | .error fs => fs

@[simp] theorem faults_map (c : Checked α) (f : α → β) : faults (c.map f) = faults c := by
  cases c <;> rfl

@[simp] theorem faults_under (c : Checked α) (s : Step) :
    faults (c.under s) = (faults c).map (Fault.below [s]) := by
  cases c <;> rfl

@[simp] theorem faults_both (c : Checked α) (d : Checked β) :
    faults (both c d) = faults c ++ faults d := by
  cases c with
  | ok a => cases d <;> rfl
  | error fs =>
    cases d with
    | ok b => exact (List.append_nil fs).symm
    | error gs => rfl

theorem faults_all (cs : List (Checked α)) : faults (all cs) = cs.flatMap faults := by
  induction cs with
  | nil => rfl
  | cons c cs ih => rw [all, faults_map, faults_both, ih, List.flatMap_cons]

end Checked

theorem schemaFaults_eq (v : Json) : schemaFaults v = (Schema.ofJson v).faults := by
  unfold schemaFaults
  cases Schema.ofJson v <;> rfl

namespace Schema.Decode
open Checked
variable {α : Type}

theorem faults_list (item : Json → Checked α) (vs : List Json) :
    (list item (.array vs)).faults =
      vs.zipIdx.flatMap (fun p => (item p.1).faults.map (Fault.below [.index p.2])) := by
  have hitems : ∀ (vs : List Json) (i : Nat), (itemsFrom item i vs).flatMap faults =
      (vs.zipIdx i).flatMap (fun p => (item p.1).faults.map (Fault.below [.index p.2])) := by
    intro vs
    induction vs with
    | nil => intro i; rfl
    | cons v rest ih =>
      intro i
      rw [itemsFrom, List.flatMap_cons, faults_under, ih (i + 1), List.zipIdx_cons,
        List.flatMap_cons]
  show (all (itemsFrom item 0 vs)).faults = _
  rw [faults_all, hitems]

theorem faults_entries (item : Json → Checked α) (es : Entries Json) :
    (map item (.object es)).faults =
      es.flatMap (fun e => (item e.2).faults.map (Fault.below [.key e.1])) := by
  show (all (es.map (entry item))).faults = _
  rw [faults_all, List.flatMap_map]
  simp only [entry, faults_map, faults_under]

theorem faults_optionalField (keys : List String) (absent : α) (value : Json → Checked α)
    (es : Entries Json) : (optionalField keys absent value es).faults =
      match member? es keys with
      | some (key, v) => (value v).faults.map (Fault.below [.key key])
      | none => [] := by
  unfold optionalField
  cases member? es keys with
  | none => rfl
  | some found => exact faults_under _ _

/-- A field that must be there has the fault that it is not, or those of its member. -/
theorem faults_requiredField (keys : List String) (value : Json → Checked α)
    (es : Entries Json) : (requiredField keys value es).faults =
      match member? es keys with
      | some (key, v) => (value v).faults.map (Fault.below [.key key])
      | none => [⟨(keys.take 1).map .key, .missing, .object es⟩] := by
  unfold requiredField
  cases member? es keys with
  | none => rfl
  | some found => exact faults_under _ _

end Schema.Decode
end EventHeader
