import EventHeader.Header
import EventHeader.Proofs.PayloadNodes

/- Strict names and lax names side by side. A lax registry overwrites a declaration
   and reports it where a strict one stops; in all else the two do the same. So two
   runs of one generation, one strict and one lax, stay in step up to the first
   overwritten declaration, and there the strict one stops with its name.

   `InStep hard lax` says this of two actions on related states, whatever the lax one
   does afterwards, and is put together like the actions themselves: from `pure` and
   `bind` up to a whole generation (`generate_inStep`), for the same options but one.
   `strict_generate_parts_at_overwrite` reads off what a user can see of it. -/
namespace EventHeader.Lockstep

def IsOverwrite (r : Record) : Prop := ∃ d, r = Registry.overwritten d

def Quiet (journal : List Record) : Prop := ∀ r ∈ journal, ¬ IsOverwrite r

/-- The first overwritten declaration that a journal reports has that name. -/
def FirstOverwrite (n : String) (journal : List Record) : Prop :=
  ∃ before d after, journal = before ++ Registry.overwritten d :: after ∧ Quiet before ∧ d.name = n

def NoCollision {α : Type} (result : Except GenerationError α) : Prop :=
  ∀ n, result ≠ .error (.nameCollision n)

/-- What a strict and a lax run leave behind. Either they have done the same and nothing
was overwritten, or the strict one has stopped where the lax one reports the first
declaration that was. -/
inductive Twin {σ τ α : Type} (R : σ → τ → Prop) :
    Outcome σ GenerationError α → Outcome τ GenerationError α → Prop
  | alike {result : Except GenerationError α} {s : σ} {t : τ} {journal : List Record} :
    R s t → NoCollision result → Quiet journal → Twin R ⟨result, s, journal⟩ ⟨result, t, journal⟩
  | parted {s : σ} {before after : List Record} {d : Declaration}
      {lax : Outcome τ GenerationError α} :
    lax.journal = before ++ Registry.overwritten d :: after → Quiet before →
      Twin R ⟨.error (.nameCollision d.name), s, before⟩ lax

/-- From related states, two actions leave behind the same or part at the first
overwritten declaration. -/
def InStep {σ τ α : Type} (R : σ → τ → Prop) (hard : Action σ GenerationError α)
    (lax : Action τ GenerationError α) : Prop :=
  ∀ s t, R s t → Twin R (hard.run s) (lax.run t)

theorem not_isOverwrite {r : Record} (h : r.level ≠ .warning) : ¬ IsOverwrite r := by
  rintro ⟨d, rfl⟩
  exact h rfl

theorem Quiet.nil : Quiet [] := fun _ hr => absurd hr List.not_mem_nil

theorem Quiet.singleton {r : Record} (h : r.level ≠ .warning) : Quiet [r] := by
  intro x hx
  rw [List.mem_singleton.mp hx]
  exact not_isOverwrite h

theorem Quiet.append {j k : List Record} (hj : Quiet j) (hk : Quiet k) : Quiet (j ++ k) := by
  intro r hr
  rcases List.mem_append.mp hr with hr | hr
  · exact hj r hr
  · exact hk r hr

section
variable {α β : Type}

theorem NoCollision.ok (a : α) : NoCollision (.ok a) := fun _ h => by cases h

theorem NoCollision.error {e : GenerationError} (h : ∀ n, e ≠ .nameCollision n) :
    NoCollision (.error e : Except GenerationError α) :=
  fun n he => h n (Except.error.inj he)

theorem NoCollision.cause {e : GenerationError}
    (h : NoCollision (.error e : Except GenerationError α)) (n : String) : e ≠ .nameCollision n :=
  fun he => h n (congrArg Except.error he)

theorem NoCollision.bind {x : Except GenerationError α} {f : α → Except GenerationError β}
    (hx : NoCollision x) (hf : ∀ a, NoCollision (f a)) : NoCollision (x >>= f) := by
  cases x with
  | error e => exact .error hx.cause
  | ok a => exact hf a

end

/-! ## Actions in step -/

namespace InStep
variable {σ τ α β : Type} {R : σ → τ → Prop}

theorem pure' (a : α) : InStep R (pure a) (pure a) :=
  fun _ _ h => .alike h (.ok a) .nil

theorem fail' {e : GenerationError} (he : ∀ n, e ≠ .nameCollision n) :
    InStep R (.fail e : Action σ GenerationError α) (.fail e) :=
  fun _ _ h => .alike h (.error he) .nil

theorem write' {level : Level} (part message : String) (hl : level ≠ .warning) :
    InStep R (.write level part message) (.write level part message) :=
  fun _ _ h => .alike h (.ok ()) (.singleton hl)

theorem ofExcept' {x : Except GenerationError α} (hx : NoCollision x) :
    InStep R (.ofExcept x) (.ofExcept x) := by
  intro s t h
  rw [Action.run_ofExcept, Action.run_ofExcept]
  exact .alike h hx .nil

/-- Actions in step, followed by actions in step, are in step: what parted stays parted,
since the strict run has stopped and the lax run only adds to its journal. -/
theorem bind' {x : Action σ GenerationError α} {y : Action τ GenerationError α}
    {f : α → Action σ GenerationError β} {g : α → Action τ GenerationError β}
    (hx : InStep R x y) (hf : ∀ a, InStep R (f a) (g a)) : InStep R (x >>= f) (y >>= g) := by
  intro s t h
  have hxy := hx s t h
  generalize hs : x.run s = hard at hxy
  generalize ht : y.run t = lax at hxy
  cases hxy with
  | @alike result s' t' journal hst hresult hjournal =>
    cases result with
    | error e =>
      rw [Action.run_bind_error hs, Action.run_bind_error ht]
      exact .alike hst (.error hresult.cause) hjournal
    | ok a =>
      rw [Action.run_bind_ok hs, Action.run_bind_ok ht]
      have hfg := hf a s' t' hst
      generalize (f a).run s' = hard at hfg
      generalize (g a).run t' = lax at hfg
      cases hfg with
      | alike hst hresult hrest => exact .alike hst hresult (hjournal.append hrest)
      | parted hlax hbefore =>
        exact .parted (by rw [hlax, List.append_assoc]) (hjournal.append hbefore)
  | @parted s' before after d lax hlax hbefore =>
    rw [Action.run_bind_error hs]
    -- What the lax run goes on to write comes after the report and does not move it.
    rcases lax with ⟨_ | a, t', journal⟩
    · rw [Action.run_bind_error ht]
      exact .parted hlax hbefore
    · rw [Action.run_bind_ok ht]
      have hlax : journal = before ++ Registry.overwritten d :: after := hlax
      exact .parted (by rw [hlax, List.append_assoc, List.cons_append]) hbefore

theorem onOwnState' {x : Action σ GenerationError α} {y : Action τ GenerationError α}
    (hx : InStep R x y) {s : σ} {t : τ} (h : R s t) {ρ : Type} :
    InStep (Eq : ρ → ρ → Prop) (x.onOwnState s) (y.onOwnState t) := by
  rintro outer _ rfl
  have hxy := hx s t h
  rw [Action.run_onOwnState, Action.run_onOwnState]
  generalize x.run s = hard at hxy
  generalize y.run t = lax at hxy
  cases hxy with
  | alike _ hresult hjournal => exact .alike rfl hresult hjournal
  | parted hlax hbefore => exact .parted hlax hbefore

end InStep

/-! ## A strict registry beside a lax one -/

/-- A strict registry and a lax one that hold the same. -/
def Paired (strict lax : Registry) : Prop := ∃ ds, strict = ⟨true, ds⟩ ∧ lax = ⟨false, ds⟩

theorem register_inStep (d : Declaration) :
    InStep Paired (Registry.register d) (Registry.register d) := by
  rintro _ _ ⟨ds, rfl, rfl⟩
  -- Whether a name is taken depends on the declarations alone, so both find the same.
  cases hc : (⟨true, ds⟩ : Registry).clashes d with
  | false =>
    have hc' : (⟨false, ds⟩ : Registry).clashes d = false := hc
    rw [Registry.run_register_unopposed hc, Registry.run_register_unopposed hc']
    have hdebug : (Registry.registered d).level ≠ .warning :=
      show Level.debug ≠ .warning by decide
    exact .alike ⟨Registry.placed d ds, rfl, rfl⟩ (.ok ()) (.singleton hdebug)
  | true =>
    have hc' : (⟨false, ds⟩ : Registry).clashes d = true := hc
    rw [Registry.run_register_refused hc rfl, Registry.run_register_overwriting hc' rfl]
    have hj : [Registry.overwritten d, Registry.registered d] =
        [] ++ Registry.overwritten d :: [Registry.registered d] := rfl
    exact .parted hj .nil

open Payload in
theorem declaration_noCollision (n : Node) : NoCollision n.declaration := by
  cases n with
  | object path properties => exact .ok _
  | stringEnum path options =>
    simp only [Node.declaration]
    split
    · exact .error fun _ h => by cases h
    · exact .ok _
  | foreign path kind => exact .error fun _ h => by cases h

open Payload in
theorem settle_inStep (component : String) (n : Node) :
    InStep Paired (n.settle component) (n.settle component) := by
  cases hd : n.declaration with
  | ok d =>
    rw [Node.settle_of_ok component hd]
    exact register_inStep d
  | error e =>
    obtain ⟨report, hs⟩ := Node.settle_of_error component hd
    rw [hs]
    have hcause : NoCollision (.error e : Except GenerationError Declaration) :=
      hd ▸ declaration_noCollision n
    exact (InStep.write' _ _ (by decide)).bind' fun _ => InStep.fail' hcause.cause

theorem settleAll_inStep (component : String) (ns : List Payload.Node) :
    InStep Paired (Payload.settleAll component ns) (Payload.settleAll component ns) := by
  induction ns with
  | nil => exact InStep.pure' ()
  | cons n rest ih => exact (settle_inStep component n).bind' fun _ => ih

theorem payloadDeclarations_inStep (component : String) (events : List Event) :
    InStep Paired (EmitterClass.payloadDeclarations component events)
      (EmitterClass.payloadDeclarations component events) := by
  unfold EmitterClass.payloadDeclarations
  rw [Payload.registerPayloads_eq]
  refine (settleAll_inStep component _).bind' fun _ => ?_
  -- The registries differ as values, but what is read of them does not.
  rintro _ _ ⟨ds, rfl, rfl⟩
  exact .alike ⟨ds, rfl, rfl⟩ (.ok ds) .nil

/-! ## A whole generation -/

section
variable {σ : Type}

theorem ofComponent_inStep (component : String) (c : Component) :
    InStep (Eq : σ → σ → Prop) (EmitterClass.ofComponent component c true)
      (EmitterClass.ofComponent component c false) := by
  unfold EmitterClass.ofComponent
  refine InStep.bind' ?_ fun ds => ?_
  · exact (payloadDeclarations_inStep component c.events).onOwnState' ⟨[], rfl, rfl⟩
  · exact (InStep.write' _ _ (by decide)).bind' fun _ => InStep.pure' _

mutual
theorem ofType_noCollision : ∀ type : PropertyType, NoCollision (Include.ofType type)
  | .primitive _ => .ok _
  | .stringEnum _ => .ok _
  | .object properties => ofProperties_noCollision properties
  | .foreign _ => .error fun _ h => by cases h

theorem ofProperties_noCollision : ∀ properties : List Property,
    NoCollision (Include.ofProperties properties)
  | [] => .ok _
  | ⟨_, _, type⟩ :: rest => by
    unfold Include.ofProperties
    refine (ofType_noCollision type).bind fun here => ?_
    exact (ofProperties_noCollision rest).bind fun more => .ok _
end

theorem ofEvents_noCollision : ∀ events : List Event, NoCollision (Include.ofEvents events)
  | [] => .ok _
  | e :: rest => by
    unfold Include.ofEvents
    refine (ofProperties_noCollision _).bind fun here => ?_
    exact (ofEvents_noCollision rest).bind fun more => .ok _

theorem mergeComponents_inStep : ∀ (modules : Entries Module) (found : Entries Component),
    InStep (Eq : σ → σ → Prop) (mergeComponents found modules) (mergeComponents found modules)
  | [], found => InStep.pure' found
  | (name, m) :: rest, found => by
    unfold mergeComponents
    split
    · cases m.components with
      | none =>
        exact (InStep.write' _ _ (by decide)).bind' fun _ => mergeComponents_inStep rest found
      | some components => exact mergeComponents_inStep rest _
    · exact mergeComponents_inStep rest found

theorem classesOf_inStep : ∀ components : Entries Component,
    InStep (Eq : σ → σ → Prop) (Header.classesOf true components)
      (Header.classesOf false components)
  | [] => InStep.pure' _
  | (name, c) :: rest => by
    unfold Header.classesOf
    refine (InStep.ofExcept' (ofEvents_noCollision c.events)).bind' fun here => ?_
    refine (ofComponent_inStep name c).bind' fun emitter => ?_
    exact (classesOf_inStep rest).bind' fun _ => InStep.pure' _

/-- The outcome of generating with the given options, but with strict names or without. -/
def outcomeOf (strict : Bool) (o : GenerationOptions) (s : Schema) (state : σ) :
    Outcome σ GenerationError (Entries String) :=
  (Header.generate { o with strict } s).run state

theorem generate_inStep (o : GenerationOptions) (s : Schema) (state : σ) :
    Twin Eq (outcomeOf true o s state) (outcomeOf false o s state) := by
  have h : InStep (Eq : σ → σ → Prop)
      (Header.generate { o with strict := true } s)
      (Header.generate { o with strict := false } s) := by
    unfold Header.generate
    refine (InStep.write' _ _ (by decide)).bind' fun _ => ?_
    refine (mergeComponents_inStep s.modules []).bind' fun components => ?_
    refine (classesOf_inStep components).bind' fun _ => ?_
    exact (InStep.write' _ _ (by decide)).bind' fun _ => InStep.pure' _
  exact h state state rfl

end

/-! ## Where the strict run stops -/

theorem name_of_overwritten {d e : Declaration}
    (h : Registry.overwritten d = Registry.overwritten e) : d.name = e.name := by
  have hm : (Registry.overwritten d).message = (Registry.overwritten e).message :=
    congrArg Record.message h
  have hq := (String.append_left_inj _).mp ((String.append_left_inj _).mp hm)
  exact (String.append_right_inj _).mp hq

theorem name_of_firsts {d e : Declaration} {after after' : List Record} :
    ∀ {before before' : List Record},
      before ++ Registry.overwritten d :: after = before' ++ Registry.overwritten e :: after' →
      Quiet before → Quiet before' → d.name = e.name
  | [], [], h, _, _ => name_of_overwritten (List.cons.inj h).1
  | [], r :: _, h, _, hbefore' => by
    have hr : Registry.overwritten d = r := (List.cons.inj h).1
    exact absurd ⟨d, hr.symm⟩ (hbefore' r List.mem_cons_self)
  | r :: _, [], h, hbefore, _ => by
    have hr : r = Registry.overwritten e := (List.cons.inj h).1
    exact absurd ⟨e, hr⟩ (hbefore r List.mem_cons_self)
  | r :: _, r' :: _, h, hbefore, hbefore' =>
    name_of_firsts (List.cons.inj h).2 (fun x hx => hbefore x (List.mem_cons_of_mem r hx))
      (fun x hx => hbefore' x (List.mem_cons_of_mem r' hx))

theorem FirstOverwrite.unique {n m : String} {journal : List Record}
    (hn : FirstOverwrite n journal) (hm : FirstOverwrite m journal) : n = m := by
  obtain ⟨before, d, after, rfl, hbefore, rfl⟩ := hn
  obtain ⟨before', e, after', hj, hbefore', rfl⟩ := hm
  exact name_of_firsts hj hbefore hbefore'

theorem FirstOverwrite.exists_mem {n : String} {journal : List Record}
    (h : FirstOverwrite n journal) : ∃ r ∈ journal, IsOverwrite r := by
  obtain ⟨before, d, after, rfl, -, -⟩ := h
  exact ⟨Registry.overwritten d, List.mem_append_right _ List.mem_cons_self, d, rfl⟩

/-- What twin outcomes look like from outside: only an overwritten declaration tells them
apart. -/
theorem Twin.observed {σ α : Type} {hard lax : Outcome σ GenerationError α}
    (h : Twin Eq hard lax) :
    (hard = lax ∧ NoCollision hard.result ∧ Quiet lax.journal) ∨
    (∃ n, hard.result = .error (.nameCollision n) ∧ FirstOverwrite n lax.journal) := by
  cases h with
  | alike hst hresult hjournal =>
    subst hst
    exact .inl ⟨rfl, hresult, hjournal⟩
  | parted hlax hbefore => exact .inr ⟨_, rfl, _, _, _, hlax, hbefore, rfl⟩

section
variable {σ : Type}

/-- Strict names change nothing but one thing. A strict generation stops over a name just
when the lax one reports an overwritten declaration, and over the name that it reports
first. Where the lax one reports none, the two give the same files or the same error, and
write the same records. -/
theorem strict_generate_parts_at_overwrite (o : GenerationOptions) (s : Schema) (state : σ) :
    (∀ n, (outcomeOf true o s state).result = .error (.nameCollision n) ↔
      FirstOverwrite n (outcomeOf false o s state).journal) ∧
    ((∃ n, (outcomeOf true o s state).result = .error (.nameCollision n)) ↔
      ∃ r ∈ (outcomeOf false o s state).journal, IsOverwrite r) ∧
    (Quiet (outcomeOf false o s state).journal →
      outcomeOf true o s state = outcomeOf false o s state) := by
  -- The runs are one and the same, without an overwriting, or parted at the first.
  rcases (generate_inStep o s state).observed with ⟨hsame, hresult, hjournal⟩ | ⟨n, hn, hfirst⟩
  · refine ⟨?_, ?_, fun _ => hsame⟩
    · intro n
      refine ⟨fun h => absurd h (hresult n), fun h => ?_⟩
      obtain ⟨r, hr, hov⟩ := h.exists_mem
      exact absurd hov (hjournal r hr)
    · refine ⟨fun ⟨n, h⟩ => absurd h (hresult n), ?_⟩
      rintro ⟨r, hr, hov⟩
      exact absurd hov (hjournal r hr)
  · refine ⟨?_, ⟨fun _ => hfirst.exists_mem, fun _ => ⟨n, hn⟩⟩, ?_⟩
    · intro m
      constructor
      · intro hm
        have hnm : n = m := GenerationError.nameCollision.inj (Except.error.inj (hn ▸ hm))
        exact hnm ▸ hfirst
      · intro hm
        rw [hfirst.unique hm] at hn
        exact hn
    · intro hnone
      obtain ⟨r, hr, hov⟩ := hfirst.exists_mem
      exact absurd hov (hnone r hr)

end

def viewSchema (events : List Event) : Schema :=
  ⟨[("MyView", ⟨"Component", some [("MyView", ⟨events⟩)]⟩)]⟩

def viewOptions : GenerationOptions := ⟨"lib", none, false, true⟩

/-- Two events with one name for what is nested in the first and for the second. -/
def crossedSchema : Schema :=
  viewSchema [⟨"onA", false, .direct, some [⟨"b", false, .object []⟩]⟩,
    ⟨"onAB", false, .direct, some [⟨"c", false, .stringEnum ["x"]⟩]⟩]

def plainSchema : Schema :=
  viewSchema [⟨"onA", false, .direct, some [⟨"b", false, .object []⟩]⟩]

theorem strict_generate_parts_at_overwrite_crossed :
    (outcomeOf true viewOptions crossedSchema ()).result = .error (.nameCollision "OnAB") ∧
    FirstOverwrite "OnAB" (outcomeOf false viewOptions crossedSchema ()).journal ∧
    outcomeOf true viewOptions plainSchema () = outcomeOf false viewOptions plainSchema () := by
  obtain ⟨hname, -, -⟩ := strict_generate_parts_at_overwrite viewOptions crossedSchema ()
  obtain ⟨-, -, hsame⟩ := strict_generate_parts_at_overwrite viewOptions plainSchema ()
  have hstop : (outcomeOf true viewOptions crossedSchema ()).result =
      .error (.nameCollision "OnAB") := rfl
  refine ⟨hstop, (hname "OnAB").mp hstop, hsame ?_⟩
  have hquiet : ∀ r ∈ (outcomeOf false viewOptions plainSchema ()).journal,
      r.level ≠ .warning := by decide
  exact fun r hr => not_isOverwrite (hquiet r hr)

end EventHeader.Lockstep
