import EventHeader.Header
import EventHeader.Proofs.SettlingFaults

/- When a generation fails, and over what. A component is looked through twice: once
   for the include directives of its payloads and once for their declarations. Both
   look at the same nodes, and only the first can come upon a foreign kind, since it
   comes first and looks at all of them (`ofEvents_refused`). So within a component a
   foreign kind wins over every other fault (`Stopped`), wherever it stands.

   A generation fails exactly if a component of the schema is faulty; it stops at the
   first that is, over the fault that comes first there
   (`generate_stops_at_first_fault`). -/
namespace EventHeader.Payload
open EventHeader.Declaration

/-- What stops a component with these nodes: the first foreign kind if there is any,
and otherwise the first node in the way of those before it. -/
inductive Stopped (strict : Bool) (ns : List Node) : GenerationError → Prop
  | invalidType {kind} : ns.findSome? Node.foreignKind? = some kind →
      Stopped strict ns (.invalidType kind)
  | obstacle {e} : (∀ n ∈ ns, n.foreignKind? = none) → FirstObstacle strict ns e →
      Stopped strict ns e

variable {strict : Bool} {ns : List Node} {e : GenerationError}

theorem FirstObstacle.faulty (h : FirstObstacle strict ns e) : Faulty strict ns := by
  obtain ⟨before, n, after, rfl, -, hn⟩ := h
  cases hn with
  | @sharedLabel path options label sharing hshared =>
    have hmem : .stringEnum path options ∈ before ++ .stringEnum path options :: after := by simp
    exact .sharedLabel hmem hshared.not_nodup
  | takenName hs hm hold hd hname hne =>
    exact .takenName hs (by simp [hm]) (by simp) hold hd hname hne

theorem Stopped.faulty (h : Stopped strict ns e) : Faulty strict ns := by
  cases h with
  | invalidType hk =>
    obtain ⟨n, hn, hk⟩ := List.exists_of_findSome?_eq_some hk
    exact .foreignKind hn hk
  | obstacle _ hfirst => exact hfirst.faulty

/-! ## The look for include directives -/

/-- A result is refused over a kind, if there is one. -/
def RefusedOver {α : Type} (x : Except GenerationError α) : Option Json → Prop
  | some kind => x = .error (.invalidType kind)
  | none => ∃ a, x = .ok a

theorem RefusedOver.bind {α β : Type} {x : Except GenerationError α}
    {f : α → Except GenerationError β} {kind? other? : Option Json} (hx : RefusedOver x kind?)
    (hf : ∀ a, RefusedOver (f a) other?) : RefusedOver (x >>= f) (kind?.or other?) := by
  cases kind? with
  | some kind =>
    have hx : x = .error (.invalidType kind) := hx
    rw [hx]
    rfl
  | none =>
    obtain ⟨a, rfl⟩ := hx
    exact hf a

theorem RefusedOver.map {α β : Type} {x : Except GenerationError α} {f : α → β}
    {kind? : Option Json} (hx : RefusedOver x kind?) :
    RefusedOver (x >>= fun a => pure (f a)) kind? := by
  have h : RefusedOver (x >>= fun a => pure (f a)) (kind?.or none) := hx.bind fun a => ⟨f a, rfl⟩
  rwa [Option.or_none] at h

mutual
theorem ofType_refused : ∀ (type : PropertyType) (path : List String),
    RefusedOver (Include.ofType type) ((typeNodes path type).findSome? Node.foreignKind?)
  | .primitive p, _ => ⟨_, rfl⟩
  | .stringEnum options, _ => ⟨_, rfl⟩
  | .object properties, path => by
    have h := ofProperties_refused properties path
    rw [← Option.or_none (o := (propertyNodes path properties).findSome? _)] at h
    rw [typeNodes, List.findSome?_append]
    exact h
  | .foreign kind, _ => rfl

theorem ofProperties_refused : ∀ (properties : List Property) (path : List String),
    RefusedOver (Include.ofProperties properties)
      ((propertyNodes path properties).findSome? Node.foreignKind?)
  | [], _ => ⟨_, rfl⟩
  | ⟨name, _, type⟩ :: rest, path => by
    rw [propertyNodes, List.findSome?_append]
    unfold Include.ofProperties
    exact (ofType_refused type (path ++ [name])).bind fun here =>
      (ofProperties_refused rest path).map
end

theorem ofPayload_refused (e : Event) : RefusedOver (Include.ofProperties (e.payload.getD []))
    ((eventNodes e).findSome? Node.foreignKind?) := by
  unfold eventNodes
  cases e.payload with
  | none => exact ⟨_, rfl⟩
  | some properties => exact ofType_refused (.object properties) [e.name]

theorem ofEvents_refused : ∀ events : List Event, RefusedOver (Include.ofEvents events)
    ((events.flatMap eventNodes).findSome? Node.foreignKind?)
  | [] => ⟨_, rfl⟩
  | e :: rest => by
    rw [List.flatMap_cons, List.findSome?_append]
    unfold Include.ofEvents
    exact (ofPayload_refused e).bind fun here => (ofEvents_refused rest).map

/-! ## One component -/

section
variable {σ : Type} {component : String} {c : Component} {s : σ}

theorem ofComponent_error :
    ((EmitterClass.ofComponent component c strict).run s).result = .error e ↔
      ((settleAll component (componentNodes c)).run (Registry.empty strict)).result = .error e := by
  unfold EmitterClass.ofComponent EmitterClass.payloadDeclarations
  rw [registerPayloads_eq, Action.bind_error, Action.run_onOwnState, Action.bind_error]
  simp [componentNodes]

theorem ofComponent_error_iff (hk : ∀ n ∈ componentNodes c, n.foreignKind? = none) :
    ((EmitterClass.ofComponent component c strict).run s).result = .error e ↔
      Stopped strict (componentNodes c) e := by
  rw [ofComponent_error, settleAll_error_iff hk]
  constructor
  · exact fun h => .obstacle hk h
  · intro h
    cases h with
    | invalidType h =>
      obtain ⟨n, hn, hkind⟩ := List.exists_of_findSome?_eq_some h
      rw [hk n hn] at hkind
      cases hkind
    | obstacle _ h => exact h

theorem ofComponent_ok_iff : (∃ cls, ((EmitterClass.ofComponent component c strict).run s).result =
    .ok cls) ↔ ¬ Faulty strict (componentNodes c) := by
  constructor
  · rintro ⟨cls, h⟩
    obtain ⟨hsettled, -, -⟩ := ofComponent_ok h
    exact not_faulty_iff.mpr ⟨hsettled.declared, hsettled.admits⟩
  · intro h
    cases hres : ((EmitterClass.ofComponent component c strict).run s).result with
    | ok cls => exact ⟨cls, rfl⟩
    | error cause =>
      rw [ofComponent_error, settleAll_ok_iff.mpr h] at hres
      cases hres

end

theorem exists_stopped_iff : (∃ e, Stopped strict ns e) ↔ Faulty strict ns := by
  refine ⟨fun ⟨e, h⟩ => h.faulty, fun h => ?_⟩
  cases hk : ns.findSome? Node.foreignKind? with
  | some kind => exact ⟨_, .invalidType hk⟩
  | none =>
    have hk := List.findSome?_eq_none_iff.mp hk
    cases hres : ((settleAll "" ns).run (Registry.empty strict)).result with
    | ok u => exact absurd h (settleAll_ok_iff.mp hres)
    | error e => exact ⟨e, .obstacle hk ((settleAll_error_iff hk).mp hres)⟩

/-! ## All components in order -/

theorem exists_first_cons {α : Type} {P Q : α → Prop} {x : α} {xs : List α} :
    (∃ before y after, x :: xs = before ++ y :: after ∧ (∀ b ∈ before, P b) ∧ Q y) ↔
      Q x ∨ (P x ∧ ∃ before y after, xs = before ++ y :: after ∧ (∀ b ∈ before, P b) ∧ Q y) := by
  constructor
  · rintro ⟨before, y, after, hsplit, hbefore, hy⟩
    cases before with
    | nil =>
      cases hsplit
      exact Or.inl hy
    | cons z before =>
      cases hsplit
      obtain ⟨hx, hbefore⟩ := List.forall_mem_cons.mp hbefore
      exact Or.inr ⟨hx, before, y, after, rfl, hbefore, hy⟩
  · rintro (hx | ⟨hx, before, y, after, rfl, hbefore, hy⟩)
    · exact ⟨[], x, xs, rfl, fun _ h => absurd h List.not_mem_nil, hx⟩
    · exact ⟨x :: before, y, after, rfl, List.forall_mem_cons.mpr ⟨hx, hbefore⟩, hy⟩

/-- What stops some components: the first of them that is faulty, and what stops it. -/
def FirstStopped (strict : Bool) (components : Entries Component) (e : GenerationError) : Prop :=
  ∃ before entry after, components = before ++ entry :: after ∧
    (∀ b ∈ before, ¬ Faulty strict (componentNodes b.2)) ∧
    Stopped strict (componentNodes entry.2) e

theorem exists_firstStopped_iff : ∀ components : Entries Component,
    (∃ e, FirstStopped strict components e) ↔
      ∃ entry ∈ components, Faulty strict (componentNodes entry.2)
  | [] => by
    constructor
    · rintro ⟨e, before, entry, after, h, -⟩
      cases before <;> cases h
    · rintro ⟨entry, h, -⟩
      exact absurd h List.not_mem_nil
  | entry :: rest => by
    unfold FirstStopped
    simp only [exists_first_cons, exists_or, exists_stopped_iff, exists_and_left,
      List.exists_mem_cons_iff]
    rw [← exists_firstStopped_iff rest]
    by_cases h : Faulty strict (componentNodes entry.2)
    · simp [h]
    · simp [h, FirstStopped]

section
variable {σ : Type} {s : σ}

theorem classesOf_error : ∀ {components : Entries Component} {s : σ},
    ((Header.classesOf strict components).run s).result = .error e ↔
      FirstStopped strict components e
  | [], s => by
    constructor
    · intro h
      cases h
    · rintro ⟨before, entry, after, h, -⟩
      cases before <;> cases h
  | (name, c) :: rest, s => by
    unfold Header.classesOf FirstStopped
    rw [exists_first_cons, Action.bind_error, Action.run_ofExcept]
    have hincludes := ofEvents_refused c.events
    cases hk : (c.events.flatMap eventNodes).findSome? Node.foreignKind? with
    | some kind =>
      -- The includes are refused, so the declarations are not looked at.
      rw [hk] at hincludes
      have hincludes : Include.ofEvents c.events = .error (.invalidType kind) := hincludes
      have hstop : Stopped strict (componentNodes c) (.invalidType kind) := .invalidType hk
      rw [hincludes]
      simp only [hstop.faulty, not_true_eq_false, false_and, or_false, reduceCtorEq, exists_const]
      constructor
      · intro h
        cases h
        exact hstop
      · intro h
        cases h with
        | invalidType h =>
          have hsame : some kind = some _ := hk.symm.trans h
          cases hsame
          rfl
        | obstacle hnone _ =>
          have hnone : (componentNodes c).findSome? Node.foreignKind? = none :=
            List.findSome?_eq_none_iff.mpr hnone
          cases hk.symm.trans hnone
    | none =>
      rw [hk] at hincludes
      obtain ⟨here, hincludes⟩ := hincludes
      have hk : ∀ n ∈ componentNodes c, n.foreignKind? = none := List.findSome?_eq_none_iff.mp hk
      rw [hincludes]
      simp only [reduceCtorEq, false_or, Except.ok.injEq, exists_eq_left', Action.bind_error,
        ofComponent_error_iff hk]
      -- The class of this component is made, so what stops is what stops the rest.
      refine or_congr_right ?_
      constructor
      · rintro ⟨cls, hcls, hrest⟩
        refine ⟨ofComponent_ok_iff.mp ⟨cls, hcls⟩, classesOf_error.mp (hrest.resolve_right ?_)⟩
        rintro ⟨_, -, h⟩
        cases h
      · rintro ⟨hc, hrest⟩
        obtain ⟨cls, hcls⟩ := ofComponent_ok_iff.mpr hc
        exact ⟨cls, hcls, Or.inl (classesOf_error.mpr hrest)⟩

theorem mergeComponents_ok : ∀ (modules : Entries Module) (found : Entries Component) (s : σ),
    ∃ components, ((mergeComponents found modules : Action σ GenerationError _).run s).result =
      .ok components
  | [], found, _ => ⟨found, rfl⟩
  | (name, m) :: rest, found, s => by
    unfold mergeComponents
    split
    · cases m.components with
      | none => exact mergeComponents_ok rest found s
      | some components => exact mergeComponents_ok rest _ s
    · exact mergeComponents_ok rest found s

end

/-! ## What is reported as an error -/

section
variable {σ α β : Type}

/-- Nothing is reported as an error, unless the options of an enum share a label. -/
def Unreported (o : Outcome σ GenerationError α) : Prop :=
  (∃ enum label options, o.result = .error (.caseCollision enum label options)) ∨
    ∀ r ∈ o.journal, r.level ≠ .error

theorem Unreported.bind {x : Action σ GenerationError α} {f : α → Action σ GenerationError β}
    {s : σ} (hx : Unreported (x.run s))
    (hf : ∀ a, (x.run s).result = .ok a → Unreported ((f a).run (x.run s).state)) :
    Unreported ((x >>= f).run s) := by
  generalize ho : x.run s = o at hx hf
  obtain ⟨result, s', j⟩ := o
  cases result with
  | error cause =>
    rw [Action.run_bind_error ho]
    refine hx.imp_left ?_
    rintro ⟨enum, label, options, h⟩
    cases h
    exact ⟨enum, label, options, rfl⟩
  | ok a =>
    rw [Action.run_bind_ok ho]
    rcases hf a rfl with h | h
    · exact Or.inl h
    -- The first action gave a value, so it has not stopped over a label.
    · have hj : ∀ r ∈ j, r.level ≠ .error := by
        refine hx.resolve_left ?_
        rintro ⟨_, _, _, h⟩
        cases h
      exact Or.inr fun r hr => (List.mem_append.mp hr).elim (hj r) (h r)

theorem Unreported.pure (a : α) (s : σ) :
    Unreported ((Pure.pure a : Action σ GenerationError α).run s) :=
  Or.inr fun _ hr => absurd hr List.not_mem_nil

theorem Unreported.write {level : Level} (part message : String) (hl : level ≠ .error) (s : σ) :
    Unreported ((Action.write level part message : Action σ GenerationError Unit).run s) := by
  refine Or.inr fun r hr => ?_
  rw [List.mem_singleton.mp hr]
  exact hl

theorem unreported_register (d : Declaration) (r : Registry) :
    Unreported ((Registry.register d).run r) := by
  have hdebug : (Registry.registered d).level ≠ .error := show Level.debug ≠ .error by decide
  have hwarning : (Registry.overwritten d).level ≠ .error := show Level.warning ≠ .error by decide
  refine Or.inr ?_
  cases hc : r.clashes d with
  | false => simpa [Registry.run_register_unopposed hc] using hdebug
  | true =>
    cases hs : r.strict with
    | false => simpa [Registry.run_register_overwriting hc hs] using ⟨hwarning, hdebug⟩
    | true => simp [Registry.run_register_refused hc hs]

theorem unreported_settle {component : String} {n : Node} (hn : n.foreignKind? = none)
    (r : Registry) : Unreported ((n.settle component).run r) := by
  cases hd : n.declaration with
  | ok d =>
    rw [Node.settle_of_ok component hd]
    exact unreported_register d r
  | error cause =>
    obtain ⟨report, hs⟩ := Node.settle_of_error component hd
    rw [hs]
    cases n with
    | object path properties => cases hd
    | stringEnum path options =>
      obtain ⟨label, sharing, -, rfl⟩ := Node.declaration_stringEnum_error.mp hd
      exact Or.inl ⟨_, label, sharing, rfl⟩
    | foreign path kind => cases hn

theorem unreported_settleAll {component : String} : ∀ {ns : List Node} (_ : ∀ n ∈ ns,
    n.foreignKind? = none) (r : Registry), Unreported ((settleAll component ns).run r)
  | [], _, r => .pure () r
  | n :: rest, h, r => by
    obtain ⟨hn, hrest⟩ := List.forall_mem_cons.mp h
    exact (unreported_settle hn r).bind fun _ _ => unreported_settleAll hrest _

theorem unreported_ofComponent {component : String} {c : Component}
    (hk : ∀ n ∈ componentNodes c, n.foreignKind? = none) (s : σ) :
    Unreported ((EmitterClass.ofComponent component c strict).run s) := by
  unfold EmitterClass.ofComponent
  refine Unreported.bind ?_ fun ds _ => ?_
  · have h : Unreported ((EmitterClass.payloadDeclarations component c.events).run
        (Registry.empty strict)) := by
      unfold EmitterClass.payloadDeclarations
      rw [registerPayloads_eq]
      exact (unreported_settleAll hk _).bind fun _ _ => Or.inr (by simp)
    exact h
  · exact (Unreported.write _ _ (by decide) _).bind fun _ _ => .pure _ _

theorem unreported_classesOf : ∀ (components : Entries Component) (s : σ),
    Unreported ((Header.classesOf strict components).run s)
  | [], s => .pure _ s
  | (name, c) :: rest, s => by
    unfold Header.classesOf
    refine Unreported.bind (Or.inr (by simp)) fun here hhere => ?_
    -- Only a component whose kinds are all known gets as far as its declarations.
    have hk : ∀ n ∈ componentNodes c, n.foreignKind? = none := by
      have hincludes := ofEvents_refused c.events
      rw [Action.run_ofExcept] at hhere
      cases hk : (c.events.flatMap eventNodes).findSome? Node.foreignKind? with
      | none => exact List.findSome?_eq_none_iff.mp hk
      | some kind =>
        rw [hk] at hincludes
        have hincludes : Include.ofEvents c.events = .error (.invalidType kind) := hincludes
        rw [hincludes] at hhere
        cases hhere
    refine (unreported_ofComponent hk _).bind fun emitter _ => ?_
    exact (unreported_classesOf rest _).bind fun _ _ => .pure _ _

theorem unreported_mergeComponents : ∀ (modules : Entries Module) (found : Entries Component)
    (s : σ), Unreported ((mergeComponents found modules : Action σ GenerationError _).run s)
  | [], found, s => .pure found s
  | (name, m) :: rest, found, s => by
    unfold mergeComponents
    split
    · cases m.components with
      | none =>
        exact (Unreported.write _ _ (by decide) s).bind fun _ _ =>
          unreported_mergeComponents rest found _
      | some components => exact unreported_mergeComponents rest _ s
    · exact unreported_mergeComponents rest found s

theorem unreported_generate (o : GenerationOptions) (s : Schema) (state : σ) :
    Unreported ((Header.generate o s).run state) := by
  unfold Header.generate
  refine (Unreported.write _ _ (by decide) state).bind fun _ _ => ?_
  refine (unreported_mergeComponents s.modules [] _).bind fun components _ => ?_
  refine (unreported_classesOf components _).bind fun _ _ => ?_
  exact (Unreported.write _ _ (by decide) _).bind fun _ _ => .pure _ _

end

/-! ## A whole generation -/

section
variable {σ : Type}

theorem generate_error {o : GenerationOptions} {s : Schema} {state : σ}
    {components : Entries Component}
    (hc : ((s.components : Action σ GenerationError _).run state).result = .ok components) :
    ((Header.generate o s).run state).result = .error e ↔ FirstStopped o.strict components e := by
  unfold Header.generate
  simp [Action.bind_error, hc, classesOf_error]

/-- A generation fails exactly if a component is faulty, and then over what stops the
first such component. Nothing is reported as an error but options that share a label: the
settling of declarations, which would report a foreign kind before it stops over it, never
comes upon one, since the include directives have been refused before. -/
theorem generate_stops_at_first_fault (o : GenerationOptions) (s : Schema) (state : σ) :
    ∃ components,
      ((s.components : Action σ GenerationError _).run state).result = .ok components ∧
      ((∃ e, ((Header.generate o s).run state).result = .error e) ↔
        ∃ entry ∈ components, Faulty o.strict (componentNodes entry.2)) ∧
      (∀ e, ((Header.generate o s).run state).result = .error e ↔
        FirstStopped o.strict components e) ∧
      (∀ r ∈ ((Header.generate o s).run state).journal, r.level = .error →
        ∃ enum label options, ((Header.generate o s).run state).result =
          .error (.caseCollision enum label options)) := by
  obtain ⟨components, hc⟩ := mergeComponents_ok s.modules [] state
  have herror : ∀ e, ((Header.generate o s).run state).result = .error e ↔
      FirstStopped o.strict components e := fun e => generate_error hc
  refine ⟨components, hc, ?_, herror, ?_⟩
  · rw [← exists_firstStopped_iff]
    exact exists_congr herror
  · intro r hr hlevel
    refine (unreported_generate o s state).resolve_right fun hquiet => ?_
    exact hquiet r hr hlevel

end

/-- A component without fault, another whose enum has two options of one label before a
property of a foreign kind, and a third with such a property alone. -/
def viewsByHand : Entries Component :=
  [("Plain", ⟨[⟨"onA", false, .direct, some [⟨"b", false, .object []⟩]⟩]⟩),
    ("Mixed", ⟨[⟨"onSelect", false, .direct,
      some [⟨"mode", false, .stringEnum ["a b", "a-b"]⟩,
        ⟨"range", false, .object [⟨"start", false, .foreign (.string "Function")⟩]⟩]⟩]⟩),
    ("Last", ⟨[⟨"onEnd", false, .direct, some [⟨"x", false, .foreign .null⟩]⟩]⟩)]

def foreignSchema : Schema := ⟨[("Views", ⟨"Component", some viewsByHand⟩)]⟩

def foreignOptions : GenerationOptions := ⟨"lib", none, false, true⟩

theorem generate_stops_at_first_fault_foreign :
    ((Header.generate foreignOptions foreignSchema).run ()).result =
      .error (.invalidType (.string "Function")) ∧
    FirstStopped true viewsByHand (.invalidType (.string "Function")) ∧
    ∀ r ∈ ((Header.generate foreignOptions foreignSchema).run ()).journal, r.level ≠ .error := by
  obtain ⟨components, hc, -, herror, hreports⟩ :=
    generate_stops_at_first_fault foreignOptions foreignSchema ()
  cases hc
  refine ⟨rfl, (herror _).mp rfl, fun r hr hlevel => ?_⟩
  obtain ⟨enum, label, options, h⟩ := hreports r hr hlevel
  cases h

end EventHeader.Payload
