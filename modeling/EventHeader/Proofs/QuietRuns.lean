import EventHeader.CommandLine.Program
import EventHeader.Proofs.PayloadNodes

/- Runs that only report. An action is quiet if it leaves every state as it is and all records
   that it writes have a property. Sequences of quiet actions are quiet (`Quietly.bind`), so
   loading a schema is, and so is generating a header: registries are states of their own, of
   which only the records are left (`generate_quietly`). What such an action gives to the next
   one is a result and nothing else (`Quietly.run_bind_ok`). -/
namespace EventHeader

namespace Action
variable {σ τ ε δ α β : Type} {P : Record → Prop} {x : Action σ ε α} {f : α → Action σ ε β}

@[simp] theorem run_attempt (x : Action σ ε α) (s : σ) : (x.attempt : Action σ δ _).run s =
    ⟨.ok (x.run s).result, (x.run s).state, (x.run s).journal⟩ := rfl

@[simp] theorem run_mapError (g : ε → δ) (x : Action σ ε α) (s : σ) : (x.mapError g).run s =
    ⟨(x.run s).result.mapError g, (x.run s).state, (x.run s).journal⟩ := rfl

theorem mapError_ok_iff {g : ε → δ} {s : σ} {a : α} :
    ((x.mapError g).run s).result = .ok a ↔ (x.run s).result = .ok a := by
  rw [run_mapError]
  cases (x.run s).result <;> simp [Except.mapError]

theorem mapError_state (g : ε → δ) (x : Action σ ε α) (s : σ) :
    ((x.mapError g).run s).state = (x.run s).state := rfl

/-- A record of a sequence is one of its first part, or one of its second after the first
succeeded. -/
theorem mem_journal_bind {s : σ} {r : Record} (h : r ∈ ((x >>= f).run s).journal) :
    r ∈ (x.run s).journal ∨
      ∃ a, (x.run s).result = .ok a ∧ r ∈ ((f a).run (x.run s).state).journal := by
  rcases hx : x.run s with ⟨result, s', j⟩
  cases result with
  | error e =>
    rw [run_bind_error hx] at h
    exact Or.inl h
  | ok a =>
    rw [run_bind_ok hx] at h
    obtain h | h := List.mem_append.mp h
    · exact Or.inl h
    · exact Or.inr ⟨a, rfl, h⟩

/-- Whether an action leaves every state as it is and writes only records with a property. -/
structure Quietly (P : Record → Prop) (x : Action σ ε α) : Prop where
  state : ∀ s, (x.run s).state = s
  records : ∀ s, ∀ r ∈ (x.run s).journal, P r

namespace Quietly

theorem pure (a : α) : Quietly P (Pure.pure a : Action σ ε α) where
  state := fun _ => rfl
  records := fun _ _ hr => absurd hr List.not_mem_nil

theorem fail (e : ε) : Quietly P (Action.fail e : Action σ ε α) where
  state := fun _ => rfl
  records := fun _ _ hr => absurd hr List.not_mem_nil

theorem getState : Quietly P (Action.getState : Action σ ε σ) where
  state := fun _ => rfl
  records := fun _ _ hr => absurd hr List.not_mem_nil

theorem write {level : Level} {part message : String} (h : P ⟨level, part, message⟩) :
    Quietly P (Action.write level part message : Action σ ε Unit) where
  state := fun _ => rfl
  records := by
    intro s r hr
    rw [run_write] at hr
    rw [List.mem_singleton.mp hr]
    exact h

theorem ofExcept (result : Except ε α) : Quietly P (Action.ofExcept result : Action σ ε α) := by
  cases result with
  | ok a => exact .pure a
  | error e => exact .fail e

theorem attempt (hx : Quietly P x) : Quietly P (x.attempt : Action σ δ (Except ε α)) where
  state := hx.state
  records := hx.records

theorem onOwnState {y : Action τ ε α} {t : τ} (h : ∀ r ∈ (y.run t).journal, P r) :
    Quietly P (y.onOwnState t : Action σ ε α) where
  state := fun _ => rfl
  records := fun _ => h

theorem bind (hx : Quietly P x) (hf : ∀ a, Quietly P (f a)) : Quietly P (x >>= f) where
  state := by
    intro s
    have hs := hx.state s
    rcases hrun : x.run s with ⟨result, s', j⟩
    rw [hrun] at hs
    cases result with
    | error e =>
      rw [run_bind_error hrun]
      exact hs
    | ok a =>
      rw [run_bind_ok hrun]
      exact ((hf a).state s').trans hs
  records := by
    intro s r hr
    obtain hr | ⟨a, -, hr⟩ := mem_journal_bind hr
    · exact hx.records s r hr
    · exact (hf a).records _ r hr

/-- What follows a quiet action that succeeds starts from the state that the action did. -/
theorem run_bind_ok (hx : Quietly P x) {s : σ} {a : α} (h : (x.run s).result = .ok a) :
    (x >>= f).run s = ⟨((f a).run s).result, ((f a).run s).state,
      (x.run s).journal ++ ((f a).run s).journal⟩ := by
  have hs := hx.state s
  rcases hrun : x.run s with ⟨result, s', j⟩
  rw [hrun] at h hs
  cases h
  cases hs
  exact Action.run_bind_ok hrun

theorem run_bind_error (hx : Quietly P x) {s : σ} {e : ε} (h : (x.run s).result = .error e) :
    (x >>= f).run s = ⟨.error e, s, (x.run s).journal⟩ := by
  have hs := hx.state s
  rcases hrun : x.run s with ⟨result, s', j⟩
  rw [hrun] at h hs
  cases h
  cases hs
  exact Action.run_bind_error hrun

end Quietly
end Action

/-- Whether a record comes from another part of the program than the one for files. -/
def Record.NotOfOutput (r : Record) : Prop := r.part ≠ "output"

open EventHeader.Action EventHeader.Record

/-! ## Generating -/

section
variable {σ ε : Type}

theorem mergeComponents_quietly : ∀ (modules : Entries Module) (found : Entries Component),
    Quietly NotOfOutput (mergeComponents found modules : Action σ ε _)
  | [], found => .pure found
  | (name, m) :: rest, found => by
    unfold mergeComponents
    split
    · split
      · apply Quietly.bind (.write (by simp [NotOfOutput]))
        intro _
        exact mergeComponents_quietly rest found
      · exact mergeComponents_quietly rest _
    · exact mergeComponents_quietly rest found

end

namespace Payload

theorem register_records (d : Declaration) (registry : Registry) :
    ∀ r ∈ ((Registry.register d).run registry).journal, r.NotOfOutput := by
  have hpart : "emitter.registry" ≠ "output" := by decide
  have hregistered : (Registry.registered d).NotOfOutput := hpart
  have hoverwritten : (Registry.overwritten d).NotOfOutput := hpart
  cases hc : registry.clashes d with
  | false => simpa [Registry.run_register_unopposed hc] using hregistered
  | true =>
    cases hs : registry.strict with
    | false =>
      simpa [Registry.run_register_overwriting hc hs] using ⟨hoverwritten, hregistered⟩
    | true => simp [Registry.run_register_refused hc hs]

theorem settle_records (component : String) (n : Node) (registry : Registry) :
    ∀ r ∈ ((n.settle component).run registry).journal, r.NotOfOutput := by
  cases hdecl : n.declaration with
  | ok d =>
    rw [Node.settle_of_ok component hdecl]
    exact register_records d registry
  | error e =>
    obtain ⟨report, hsettle⟩ := Node.settle_of_error component hdecl
    rw [hsettle]
    intro r hr
    rw [List.mem_singleton.mp hr]
    show "emitter" ≠ "output"
    decide

theorem settleAll_records (component : String) (ns : List Node) (registry : Registry) :
    ∀ r ∈ ((settleAll component ns).run registry).journal, r.NotOfOutput := by
  induction ns generalizing registry with
  | nil => exact fun r hr => absurd hr List.not_mem_nil
  | cons n rest ih =>
    intro r hr
    obtain hr | ⟨_, -, hr⟩ := mem_journal_bind hr
    · exact settle_records component n registry r hr
    · exact ih _ r hr

theorem payloadDeclarations_records (component : String) (events : List Event)
    (registry : Registry) :
    ∀ r ∈ ((EmitterClass.payloadDeclarations component events).run registry).journal,
      r.NotOfOutput := by
  intro r hr
  obtain hr | ⟨_, -, hr⟩ := mem_journal_bind hr
  · rw [registerPayloads_eq] at hr
    exact settleAll_records component _ registry r hr
  · exact absurd hr List.not_mem_nil

end Payload

namespace Header
variable {σ : Type}

theorem classesOf_quietly (strict : Bool) : ∀ components : Entries Component,
    Quietly NotOfOutput (classesOf strict components : Action σ _ _)
  | [] => .pure _
  | (name, c) :: rest => by
    apply Quietly.bind (.ofExcept _)
    intro _
    apply Quietly.bind
    · apply Quietly.bind (.onOwnState (Payload.payloadDeclarations_records name c.events _))
      intro _
      apply Quietly.bind (.write (by simp [NotOfOutput]))
      intro _
      exact .pure _
    · intro _
      apply Quietly.bind (classesOf_quietly strict rest)
      intro _
      exact .pure _

theorem generate_quietly (o : GenerationOptions) (s : Schema) :
    Quietly NotOfOutput (generate o s : Action σ _ _) := by
  apply Quietly.bind (.write (by simp [NotOfOutput]))
  intro _
  apply Quietly.bind (mergeComponents_quietly _ _)
  intro components
  apply Quietly.bind (classesOf_quietly o.strict components)
  intro _
  apply Quietly.bind (.write (by simp [NotOfOutput]))
  intro _
  exact .pure _

end Header

/-! ## Loading -/

namespace CommandLine

theorem complain_quietly {σ ε : Type} (message : String) :
    Quietly NotOfOutput (complain message : Action σ ε Unit) :=
  .write (by simp [NotOfOutput])

theorem loadOrReport_quietly (room : Nat) (p : Path) :
    Quietly NotOfOutput (loadOrReport room p) := by
  have hload : Quietly NotOfOutput (Schema.load room p) := by
    apply Quietly.bind (.write (by simp [NotOfOutput]))
    intro _
    apply Quietly.bind .getState
    intro _
    exact .ofExcept _
  apply Quietly.bind hload.attempt
  intro result
  split
  · exact .pure _
  · split
    · exact (complain_quietly _).bind fun _ => .pure _
    · exact .fail _
  · exact (complain_quietly _).bind fun _ => .pure _
  · exact (complain_quietly _).bind fun _ => .pure _
  · exact .fail _
  · exact .fail _
  · exact .fail _

end CommandLine
end EventHeader
