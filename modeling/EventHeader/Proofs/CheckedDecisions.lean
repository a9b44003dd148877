import EventHeader.Proofs.SchemaGrammar
import EventHeader.Schema.Decode

/- What checks decide. A check decides a statement if it gives a value just where the
   statement holds, and otherwise at least one fault (`Decides`). What lists, maps,
   models and their fields decide follows from what their parts decide, one lemma for
   each way in which checks are put together; no lemma says how faults are located or
   in which order they come, since neither makes a difference to what is accepted. -/
namespace EventHeader

namespace Checked
variable {α β : Type} {c : Checked α} {d : Checked β} {P Q : Prop}

/-- Whether a check gives a value where a statement holds and otherwise some faults. -/
def Decides : Checked α → Prop → Prop
  | .ok _, P => P
  | .error fs, P => fs ≠ [] ∧ ¬ P

theorem Decides.accepted (h : Decides c P) : (∃ a, c = .ok a) ↔ P := by
  cases c with
  | ok a => exact ⟨fun _ => h, fun _ => ⟨a, rfl⟩⟩
  | error fs => exact ⟨nofun, fun hP => absurd hP h.2⟩

theorem Decides.congr (h : Decides c P) (hPQ : P ↔ Q) : Decides c Q := by
  cases c with
  | ok a => exact hPQ.mp h
  | error fs => exact ⟨h.1, mt hPQ.mpr h.2⟩

theorem decides_ok (a : α) (hP : P) : Decides (.ok a) P := hP

theorem decides_fault {f : Fault} (hP : ¬ P) : Decides (.error [f] : Checked α) P :=
  ⟨List.cons_ne_nil f [], hP⟩

theorem Decides.both (hc : Decides c P) (hd : Decides d Q) : Decides (both c d) (P ∧ Q) := by
  cases c with
  | ok a =>
    cases d with
    | ok b => exact ⟨hc, hd⟩
    | error gs => exact ⟨hd.1, fun h => hd.2 h.2⟩
  | error fs =>
    cases d with
    | ok b => exact ⟨hc.1, fun h => hc.2 h.1⟩
    | error gs => exact ⟨List.append_ne_nil_of_left_ne_nil hc.1 gs, fun h => hc.2 h.1⟩

theorem Decides.map (h : Decides c P) (f : α → β) : Decides (c.map f) P := by
  cases c with
  | ok a => exact h
  | error fs => exact h

theorem Decides.under (h : Decides c P) (s : Step) : Decides (c.under s) P := by
  cases c with
  | ok a => exact h
  | error fs => exact ⟨mt List.map_eq_nil_iff.mp h.1, h.2⟩

theorem decides_all_nil : Decides (all ([] : List (Checked α))) True := decides_ok [] trivial

theorem decides_all_cons {cs : List (Checked α)} (hc : Decides c P) (hcs : Decides (all cs) Q) :
    Decides (all (c :: cs)) (P ∧ Q) := (hc.both hcs).map _

end Checked

namespace Schema.Decode
open Checked Grammar
variable {α : Type} {P : Json → Prop} {item : Json → Checked α}

/-! ## Lists and maps -/

theorem decides_itemsFrom (h : ∀ v, Decides (item v) (P v)) :
    ∀ (i : Nat) (vs : List Json), Decides (all (itemsFrom item i vs)) (∀ v ∈ vs, P v)
  | _, [] => decides_all_nil.congr (by simp)
  | i, v :: rest =>
    (decides_all_cons ((h v).under (.index i)) (decides_itemsFrom h (i + 1) rest)).congr
      List.forall_mem_cons.symm

theorem decides_list (h : ∀ v, Decides (item v) (P v)) (v : Json) :
    Decides (list item v) (IsListOf P v) := by
  cases v with
  | array vs =>
    refine (decides_itemsFrom h 0 vs).congr ⟨.intro, ?_⟩
    rintro ⟨hitems⟩
    exact hitems
  | _ => exact decides_fault nofun

theorem decides_entries (h : ∀ v, Decides (item v) (P v)) :
    ∀ es : Entries Json, Decides (all (es.map (entry item))) (∀ e ∈ es, P e.2)
  | [] => decides_all_nil.congr (by simp)
  | (key, v) :: rest => by
    have hfirst := ((h v).under (.key key)).map (fun a => (key, a))
    exact (decides_all_cons hfirst (decides_entries h rest)).congr (by simp)

theorem decides_map (h : ∀ v, Decides (item v) (P v)) (v : Json) :
    Decides (map item v) (IsMapOf P v) := by
  cases v with
  | object es =>
    refine (decides_entries h es).congr ⟨.intro, ?_⟩
    rintro ⟨hvalues⟩
    exact hvalues
  | _ => exact decides_fault nofun

/-- Null is accepted beside what the check of a value accepts. -/
theorem decides_nullable {read : Json → Checked (Option α)} (hnull : read .null = .ok none)
    (hother : ∀ v, (v = .null → False) → read v = (item v).map some)
    (h : ∀ v, Decides (item v) (P v)) (v : Json) : Decides (read v) (IsNullOr P v) := by
  by_cases hv : v = .null
  · rw [hv, hnull]
    exact decides_ok none .null
  · rw [hother v hv]
    refine ((h v).map some).congr ⟨.value, ?_⟩
    rintro (_ | hvalue)
    · exact absurd rfl hv
    · exact hvalue

/-! ## Models and their fields -/

theorem decides_model {name : String} {fields : Entries Json → Checked α}
    (hfields : ∀ es, Decides (fields es) (P (.object es)))
    (hobject : ∀ v, P v → ∃ es, v = .object es) (v : Json) : Decides (model name fields v) (P v) := by
  have hother (hv : ∀ es, v ≠ .object es) : ¬ P v := fun hP =>
    let ⟨es, hes⟩ := hobject v hP
    hv es hes
  cases v with
  | object es => exact hfields es
  | _ => exact decides_fault (hother nofun)

theorem map_member? (es : Entries Json) : ∀ keys : List String,
    (member? es keys).map Prod.snd = Grammar.member? keys es
  | [] => rfl
  | key :: others => by
    have ih := map_member? es others
    simp only [Grammar.member?] at ih ⊢
    rw [member?, List.findSome?_cons]
    cases Keyed.find? es key with
    | some v => rfl
    | none => exact ih

theorem decides_optionalField (h : ∀ v, Decides (item v) (P v)) (keys : List String) (absent : α)
    (es : Entries Json) : Decides (optionalField keys absent item es) (Optional keys P es) := by
  unfold Optional optionalField
  rw [← map_member?]
  rcases member? es keys with _ | ⟨key, v⟩
  · exact decides_ok absent (by simp)
  · exact ((h v).under (.key key)).congr (by simp)

theorem decides_requiredField (h : ∀ v, Decides (item v) (P v)) (keys : List String)
    (es : Entries Json) : Decides (requiredField keys item es) (Required keys P es) := by
  unfold Required requiredField
  rw [← map_member?]
  rcases member? es keys with _ | ⟨key, v⟩
  · exact decides_fault (by simp)
  · exact ((h v).under (.key key)).congr (by simp)

end Schema.Decode
end EventHeader
