import EventHeader.Journal.Action

/- Laws of actions. Actions are a lawful monad: doing nothing before or after an
   action changes nothing, and it does not matter how a sequence of actions is
   grouped, since records are only appended. A sequence that succeeds has succeeded
   in both of its parts (`bind_ok`), and one that stops has stopped in one of them
   (`bind_error`). -/
namespace EventHeader.Action
variable {σ τ ε α β : Type}

theorem action_ext {x y : Action σ ε α} (h : ∀ s, x.run s = y.run s) : x = y := funext h

instance : LawfulMonad (Action σ ε) := by
  refine LawfulMonad.mk' _ ?_ ?_ ?_
  · intro α x
    apply action_ext
    intro s
    show (x >>= pure).run s = x.run s
    rw [run_bind]
    rcases x.run s with ⟨_ | a, s', j⟩
    · rfl
    · simp
  · intro α β a f
    exact action_ext fun s => by rw [run_bind]; simp
  · intro α β γ x f g
    apply action_ext
    intro s
    rw [run_bind, run_bind, run_bind]
    rcases x.run s with ⟨_ | a, s', j⟩
    · rfl
    · simp only [run_bind]
      rcases (f a).run s' with ⟨_ | b, s'', k⟩
      · rfl
      · simp

@[simp] theorem map_fail (e : ε) (f : α → β) : f <$> (fail e : Action σ ε α) = fail e := rfl

@[simp] theorem run_map (f : α → β) (x : Action σ ε α) (s : σ) :
    (f <$> x).run s = ⟨(x.run s).result.map f, (x.run s).state, (x.run s).journal⟩ := by
  rw [← bind_pure_comp, run_bind]
  rcases x.run s with ⟨_ | a, s', j⟩
  · rfl
  · simp [Except.map]

@[simp] theorem map_ok (a : α) (f : α → β) : (.ok a : Except ε α).map f = .ok (f a) := rfl

@[simp] theorem map_eq_error {x : Except ε α} {f : α → β} {e : ε} :
    x.map f = .error e ↔ x = .error e := by
  cases x <;> simp [Except.map]

@[simp] theorem run_ofExcept (x : Except ε α) (s : σ) : (ofExcept x).run s = ⟨x, s, []⟩ := by
  cases x <;> rfl

@[simp] theorem run_onOwnState (x : Action τ ε α) (t : τ) (s : σ) :
    (onOwnState x t : Action σ ε α).run s = ⟨(x.run t).result, s, (x.run t).journal⟩ := rfl

/-- A sequence that succeeds has succeeded in its first part and then in its second. -/
theorem bind_ok {x : Action σ ε α} {f : α → Action σ ε β} {s : σ} {b : β}
    (h : ((x >>= f).run s).result = .ok b) :
    ∃ a, (x.run s).result = .ok a ∧ ((f a).run (x.run s).state).result = .ok b ∧
      ((x >>= f).run s).state = ((f a).run (x.run s).state).state := by
  rcases hx : x.run s with ⟨result, s', j⟩
  cases result with
  | error e => rw [run_bind_error hx] at h; cases h
  | ok a => rw [run_bind_ok hx] at h ⊢; exact ⟨a, rfl, h, rfl⟩

/-- A sequence stops in its first part, or in its second after the first succeeded. -/
theorem bind_error {x : Action σ ε α} {f : α → Action σ ε β} {s : σ} {e : ε} :
    ((x >>= f).run s).result = .error e ↔ (x.run s).result = .error e ∨
      ∃ a, (x.run s).result = .ok a ∧ ((f a).run (x.run s).state).result = .error e := by
  rcases hx : x.run s with ⟨result, s', j⟩
  cases result with
  | error e' => rw [run_bind_error hx]; simp
  | ok a => rw [run_bind_ok hx]; simp

/-- The second part of a sequence starts from the state that the first one leaves. -/
theorem state_bind_ok {x : Action σ ε α} {f : α → Action σ ε β} {s : σ} {a : α}
    (h : (x.run s).result = .ok a) :
    ((x >>= f).run s).state = ((f a).run (x.run s).state).state := by
  rcases hx : x.run s with ⟨result, s', j⟩
  rw [hx] at h
  cases h
  rw [run_bind_ok hx]

theorem state_bind_error {x : Action σ ε α} {f : α → Action σ ε β} {s : σ} {e : ε}
    (h : (x.run s).result = .error e) : ((x >>= f).run s).state = (x.run s).state := by
  rcases hx : x.run s with ⟨result, s', j⟩
  rw [hx] at h
  cases h
  rw [run_bind_error hx]

end EventHeader.Action
