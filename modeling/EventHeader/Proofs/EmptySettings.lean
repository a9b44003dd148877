import EventHeader.Proofs.GenerateCommand
import EventHeader.Proofs.KeyedEntries

/- Empty variables of the environment. What a request for a header does depends on the settings
   only through the naming mode and the directory (`generate_sameEffect`); the others are reported
   and nothing else. A flag cannot be read from an empty text and so falls back to its default
   (`value_empty`). The directory is a path, and an empty text is a path as well: that of the
   working directory. So an empty variable counts as one that is not set, but for the one for the
   directory, with which the header goes into the working directory itself unless the request
   names another one (`empty_setting_as_unset`, `empty_directory_setting`). -/
namespace EventHeader
open EventHeader.Action

/-! ## Outcomes that only their records tell apart -/

/-- The same result and the same state, whatever has been reported. -/
structure Outcome.SameEffect {σ ε α : Type} (o o' : Outcome σ ε α) : Prop where
  result : o.result = o'.result
  state : o.state = o'.state

namespace Outcome.SameEffect
variable {σ ε α β : Type} {x y : Action σ ε α} {f g : α → Action σ ε β} {s : σ}

theorem refl (o : Outcome σ ε α) : o.SameEffect o := ⟨rfl, rfl⟩

theorem bind (hx : (x.run s).SameEffect (y.run s))
    (hf : ∀ a t, ((f a).run t).SameEffect ((g a).run t)) :
    ((x >>= f).run s).SameEffect ((y >>= g).run s) := by
  rw [run_bind, run_bind]
  rcases hrun : x.run s with ⟨result, t, j⟩
  rcases hrun' : y.run s with ⟨result', t', j'⟩
  rw [hrun, hrun'] at hx
  obtain rfl : result = result' := hx.result
  obtain rfl : t = t' := hx.state
  cases result with
  | error e => exact ⟨rfl, rfl⟩
  | ok a => exact ⟨(hf a t).result, (hf a t).state⟩

theorem attempt {ε' : Type} (hx : (x.run s).SameEffect (y.run s)) :
    ((x.attempt : Action σ ε' _).run s).SameEffect (y.attempt.run s) :=
  ⟨congrArg Except.ok hx.result, hx.state⟩

end Outcome.SameEffect

theorem Header.generate_sameEffect {σ : Type} {o o' : GenerationOptions}
    (h : o.strict = o'.strict) (s : Schema) (state : σ) :
    ((Header.generate o s).run state).SameEffect ((Header.generate o' s).run state) where
  result := generate_congr h rfl
  state := ((generate_quietly o s).state state).trans ((generate_quietly o' s).state state).symm

namespace Settings
variable {env : Environment} {v w : Variable}

/-! ## Empty variables -/

theorem Variable.name_inj (h : v.name = w.name) : v = w := by
  cases v <;> cases w <;> first | rfl | exact absurd h (by decide)

/-- What one variable holds does not matter to another setting, and a flag is the same with an
empty variable as without it. -/
theorem value_empty (h : w = v → w.type = .flag) (given : Option Value) :
    value (Keyed.put env v.name "") w given = value (Keyed.drop env v.name) w given := by
  cases given with
  | some x => rfl
  | none =>
    by_cases hw : w = v
    · have hflag : flagOfText? "" = none := by decide
      rw [value, value, ← hw, Keyed.find?_put_self, Keyed.find?_drop_self, h hw]
      simp only [convert, hflag]
    · have hname : w.name ≠ v.name := fun heq => hw (Variable.name_inj heq)
      rw [value, value, Keyed.find?_put_other hname, Keyed.find?_drop hname]

theorem flag_empty (hw : w.type = .flag) (given : Bool) :
    flag (Keyed.put env v.name "") w given = flag (Keyed.drop env v.name) w given := by
  rw [flag, flag, value_empty fun _ => hw]

/-- Another variable than the one for the directory does not matter to it, and no variable does
to a directory that is given. -/
theorem outputDir_empty {given : Option Path} (h : v ≠ .outputDir ∨ given.isSome) (cwd : Path) :
    outputDir (Keyed.put env v.name "") cwd given =
      outputDir (Keyed.drop env v.name) cwd given := by
  cases given with
  | some p => rfl
  | none =>
    obtain h | h := h
    · rw [outputDir, outputDir, value_empty fun heq => absurd heq.symm h]
    · cases h

end Settings

namespace CommandLine
variable {room : Nat} {env env' : Environment} {r r' : GenerateRequest} {fs : FileSystem}

/-- What a request does depends on the schema, the check, the directory and the naming mode. -/
theorem generate_sameEffect (hschema : r.schema = r'.schema) (hcheck : r.check = r'.check)
    (hdirectory : r.directory env fs = r'.directory env' fs)
    (hstrict : (r.options env).strict = (r'.options env').strict) :
    ((generate room env r).run fs).SameEffect ((generate room env' r').run fs) := by
  have hdeliver : deliver env r fs = deliver env' r' fs := by
    unfold deliver
    rw [hcheck, hdirectory]
  rw [run_generate, run_generate, hschema, hdeliver]
  apply Outcome.SameEffect.bind (.refl _)
  intro loaded state
  cases loaded with
  | none => exact .refl _
  | some s =>
    apply Outcome.SameEffect.bind (Header.generate_sameEffect hstrict s state).attempt
    intro generated state
    exact .refl _

/-- An empty variable has the effect of one that is not set, but for the one for the directory of
a request that names none: there an empty variable names the working directory. -/
theorem empty_setting_as_unset (room : Nat) (env : Environment) (v : Settings.Variable)
    (r : GenerateRequest) (fs : FileSystem) :
    (v ≠ .outputDir ∨ r.outputDir.isSome →
      ((generate room (Keyed.put env v.name "") r).run fs).SameEffect
        ((generate room (Keyed.drop env v.name) r).run fs)) ∧
    (v = .outputDir → r.outputDir = none →
      ((generate room (Keyed.put env v.name "") r).run fs).SameEffect
        ((generate room (Keyed.drop env v.name) { r with outputDir := some ⟨"", []⟩ }).run fs)) := by
  have hstrict : Settings.flag (Keyed.put env v.name "") .strictNames r.strict =
      Settings.flag (Keyed.drop env v.name) .strictNames r.strict := Settings.flag_empty rfl r.strict
  constructor
  · intro h
    exact generate_sameEffect rfl rfl (Settings.outputDir_empty h _) hstrict
  · intro hv hnone
    subst hv
    refine generate_sameEffect rfl rfl ?_ hstrict
    have hempty : Path.ofText "" = ⟨"", []⟩ := by decide
    rw [GenerateRequest.directory, hnone, Settings.outputDir, Settings.value,
      Keyed.find?_put_self]
    exact hempty

theorem empty_setting_as_unset_tap :
    (Settings.Variable.strictNames ≠ .outputDir ∧
      ((generate usualRoom (Keyed.put [] Settings.Variable.strictNames.name "") schemaRequest).run
        (schemaFiles "Tap")).SameEffect
        ((generate usualRoom (Keyed.drop [] Settings.Variable.strictNames.name) schemaRequest).run
          (schemaFiles "Tap"))) ∧
    schemaRequest.outputDir = none ∧
      ((generate usualRoom (Keyed.put [] Settings.Variable.outputDir.name "") schemaRequest).run
        (schemaFiles "Tap")).SameEffect
        ((generate usualRoom (Keyed.drop [] Settings.Variable.outputDir.name)
          { schemaRequest with outputDir := some ⟨"", []⟩ }).run (schemaFiles "Tap")) := by
  have hstrict :=
    (empty_setting_as_unset usualRoom [] .strictNames schemaRequest (schemaFiles "Tap")).1
  have hdirectory :=
    (empty_setting_as_unset usualRoom [] .outputDir schemaRequest (schemaFiles "Tap")).2
  exact ⟨⟨by decide, hstrict (Or.inl (by decide))⟩, rfl, hdirectory rfl rfl⟩

/-- With an empty variable for the directory the header does not go where it goes without it. -/
theorem empty_directory_setting :
    ¬ ((generate usualRoom (Keyed.put [] Settings.Variable.outputDir.name "") schemaRequest).run
      (schemaFiles "Tap")).SameEffect
      ((generate usualRoom (Keyed.drop [] Settings.Variable.outputDir.name) schemaRequest).run
        (schemaFiles "Tap")) := by
  intro h
  have hempty :
      ((generate usualRoom (Keyed.put [] Settings.Variable.outputDir.name "") schemaRequest).run
        (schemaFiles "Tap")).state.entry? ["w", "generated"] = none := by decide +kernel
  have hunset :
      ((generate usualRoom (Keyed.drop [] Settings.Variable.outputDir.name) schemaRequest).run
        (schemaFiles "Tap")).state.entry? ["w", "generated"] = some .directory := by decide +kernel
  rw [h.state, hunset] at hempty
  cases hempty

end CommandLine
end EventHeader
