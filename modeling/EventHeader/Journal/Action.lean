import EventHeader.Journal.Record

/- Actions: computations that change a state, write records and may stop with a
   cause. Stopping undoes nothing: the state reached and the records written up to
   then remain, and both are part of what an action is. An action is a function
   from a state to an outcome, so what one does can be computed and compared. -/
namespace EventHeader

structure Outcome (σ ε α : Type) where
  result : Except ε α
  state : σ
  journal : List Record

/-- A computation over a state `σ` that gives an `α` or stops with a cause `ε`. -/
def Action (σ ε α : Type) : Type := σ → Outcome σ ε α

namespace Action
variable {σ τ ε δ α β : Type}

def run (x : Action σ ε α) (s : σ) : Outcome σ ε α := x s

/-- Performs one action and then, unless it stopped, the next. -/
def andThen (x : Action σ ε α) (f : α → Action σ ε β) : Action σ ε β := fun s =>
  match x s with
  | ⟨.ok a, s', j⟩ => let o := f a s'; ⟨o.result, o.state, j ++ o.journal⟩
  | ⟨.error e, s', j⟩ => ⟨.error e, s', j⟩

instance : Monad (Action σ ε) where
  pure a := fun s => ⟨.ok a, s, []⟩
  bind := andThen

def fail (e : ε) : Action σ ε α := fun s => ⟨.error e, s, []⟩

def write (level : Level) (part message : String) : Action σ ε Unit :=
  fun s => ⟨.ok (), s, [⟨level, part, message⟩]⟩

def getState : Action σ ε σ := fun s => ⟨.ok s, s, []⟩

def setState (s : σ) : Action σ ε Unit := fun _ => ⟨.ok (), s, []⟩

/-- A value or a cause to stop with. -/
def ofExcept : Except ε α → Action σ ε α
  | .ok a => pure a
  | .error e => fail e

/-- Performs an action on a state of its own, which is dropped afterwards. -/
def onOwnState (x : Action τ ε α) (s : τ) : Action σ ε α := fun outer =>
  let o := x s
  ⟨o.result, outer, o.journal⟩

/-- Rewords the cause an action stops with. -/
def mapError (f : ε → δ) (x : Action σ ε α) : Action σ δ α := fun s =>
  let o := x s
  ⟨o.result.mapError f, o.state, o.journal⟩

/-- Performs an action to its end and gives what came of it, be it a cause. -/
def attempt (x : Action σ ε α) : Action σ δ (Except ε α) := fun s =>
  let o := x s
  ⟨.ok o.result, o.state, o.journal⟩

/-! ## What the combinators do -/

@[simp] theorem run_pure (a : α) (s : σ) : (pure a : Action σ ε α).run s = ⟨.ok a, s, []⟩ := rfl

theorem run_bind (x : Action σ ε α) (f : α → Action σ ε β) (s : σ) :
    (x >>= f).run s = match x.run s with
      | ⟨.ok a, s', j⟩ => ⟨((f a).run s').result, ((f a).run s').state, j ++ ((f a).run s').journal⟩
      | ⟨.error e, s', j⟩ => ⟨.error e, s', j⟩ := rfl

@[simp] theorem run_fail (e : ε) (s : σ) : (fail e : Action σ ε α).run s = ⟨.error e, s, []⟩ := rfl

@[simp] theorem run_write (level : Level) (part message : String) (s : σ) :
    (write level part message : Action σ ε Unit).run s = ⟨.ok (), s, [⟨level, part, message⟩]⟩ := rfl

@[simp] theorem run_getState (s : σ) : (getState : Action σ ε σ).run s = ⟨.ok s, s, []⟩ := rfl

@[simp] theorem run_setState (s t : σ) : (setState t : Action σ ε Unit).run s = ⟨.ok (), t, []⟩ := rfl

theorem run_bind_ok {x : Action σ ε α} {f : α → Action σ ε β} {s s' : σ} {a : α}
    {j : List Record} (h : x.run s = ⟨.ok a, s', j⟩) :
    (x >>= f).run s =
      ⟨((f a).run s').result, ((f a).run s').state, j ++ ((f a).run s').journal⟩ := by
  rw [run_bind, h]

theorem run_bind_error {x : Action σ ε α} {f : α → Action σ ε β} {s s' : σ} {e : ε}
    {j : List Record} (h : x.run s = ⟨.error e, s', j⟩) :
    (x >>= f).run s = ⟨.error e, s', j⟩ := by
  rw [run_bind, h]

end Action
end EventHeader
