import EventHeader.Proofs.ActionLaws

/- Two actions side by side. Performed on related states, parallel actions leave related
   states behind, and results that are alike: related values, or related causes to stop
   with. What they write may differ. One lemma for each way in which actions are put
   together makes parallel actions of parallel parts. -/
namespace EventHeader.Action
variable {σ τ σ' τ' ε δ α β α' β' : Type}

/-- Whether two results are both values, which are related, or both causes, which are. -/
inductive Alike (E : ε → δ → Prop) (V : α → β → Prop) : Except ε α → Except δ β → Prop
  | ok {a : α} {b : β} (values : V a b) : Alike E V (.ok a) (.ok b)
  | error {e : ε} {f : δ} (causes : E e f) : Alike E V (.error e) (.error f)

/-- Whether two actions, from related states, end in related states with results that are
alike. -/
def Parallel (R : σ → τ → Prop) (E : ε → δ → Prop) (V : α → β → Prop) (x : Action σ ε α)
    (y : Action τ δ β) : Prop :=
  ∀ s t, R s t → Alike E V (x.run s).result (y.run t).result ∧ R (x.run s).state (y.run t).state

namespace Parallel
variable {R : σ → τ → Prop} {E : ε → δ → Prop} {V : α → β → Prop} {W : α' → β' → Prop}

theorem pure' {a : α} {b : β} (h : V a b) : Parallel R E V (pure a) (pure b) :=
  fun _ _ hst => ⟨.ok h, hst⟩

theorem fail' {e : ε} {f : δ} (h : E e f) :
    Parallel R E V (.fail e : Action σ ε α) (.fail f : Action τ δ β) :=
  fun _ _ hst => ⟨.error h, hst⟩

theorem write' (level level' : Level) (part part' message message' : String) :
    Parallel R E Eq (.write level part message) (.write level' part' message') :=
  fun _ _ hst => ⟨.ok rfl, hst⟩

theorem ofExcept' {x : Except ε α} {y : Except δ β} (h : Alike E V x y) :
    Parallel R E V (.ofExcept x) (.ofExcept y) := by
  intro s t hst
  rw [run_ofExcept, run_ofExcept]
  exact ⟨h, hst⟩

/-- Parallel actions followed by parallel actions, whatever related values the first give. -/
theorem bind' {x : Action σ ε α} {y : Action τ δ β} {f : α → Action σ ε α'}
    {g : β → Action τ δ β'} (hxy : Parallel R E V x y)
    (hfg : ∀ a b, V a b → Parallel R E W (f a) (g b)) : Parallel R E W (x >>= f) (y >>= g) := by
  intro s t hst
  obtain ⟨hresult, hstate⟩ := hxy s t hst
  generalize hx : x.run s = o at hresult hstate
  generalize hy : y.run t = o' at hresult hstate
  obtain ⟨result, s', j⟩ := o
  obtain ⟨result', t', j'⟩ := o'
  cases hresult with
  | ok hab =>
    rw [run_bind_ok hx, run_bind_ok hy]
    exact hfg _ _ hab s' t' hstate
  | error hef =>
    rw [run_bind_error hx, run_bind_error hy]
    exact ⟨.error hef, hstate⟩

theorem onOwnState' {R' : σ' → τ' → Prop} {x : Action σ ε α} {y : Action τ δ β}
    (hxy : Parallel R E V x y) {s : σ} {t : τ} (hst : R s t) :
    Parallel R' E V (x.onOwnState s) (y.onOwnState t) := by
  intro outer outer' houter
  rw [run_onOwnState, run_onOwnState]
  exact ⟨(hxy s t hst).1, houter⟩

end Parallel
end EventHeader.Action
