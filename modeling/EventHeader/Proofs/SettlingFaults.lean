import EventHeader.Proofs.EnumLabels
import EventHeader.Proofs.PayloadNodes

/- What keeps nodes from being settled. A sequence of nodes is faulty if one of them is
   of a foreign kind, if the options of an enum among them share a label, or, with
   strict names, if two of them declare one name differently. All this can be said of
   the nodes alone (`Faulty`), and it is what decides whether they are settled
   (`settleAll_ok_iff`).

   Which fault stops the sequence depends on the order: the first node that is in the
   way of the nodes before it (`Node.Obstacle`). Where no kind is foreign, settling
   stops at this node and with its cause (`settleAll_error_iff`). -/
namespace EventHeader.Payload
open EventHeader.Declaration

/-- The kind of a node that is of none of the eight. -/
def Node.foreignKind? : Node → Option Json
  | .foreign _ kind => some kind
  | _ => none

/-- How nodes keep one another, or themselves, from being settled. -/
inductive Faulty (strict : Bool) (ns : List Node) : Prop
  /-- A property is of none of the eight kinds. -/
  | foreignKind {n kind} : n ∈ ns → n.foreignKind? = some kind → Faulty strict ns
  /-- Two options of an enum get one label. -/
  | sharedLabel {path options} : .stringEnum path options ∈ ns → ¬ (labels options).Nodup →
      Faulty strict ns
  /-- Two nodes have different declarations of one name, and names are strict. -/
  | takenName {m n d e} : strict = true → m ∈ ns → n ∈ ns → m.declaration = .ok d →
      n.declaration = .ok e → d.name = e.name → d ≠ e → Faulty strict ns

/-- Why a node cannot be settled after the nodes `before`, if it is not for its kind. -/
inductive Node.Obstacle (strict : Bool) (before : List Node) : Node → GenerationError → Prop
  | sharedLabel {path options label sharing} : SharedLabel options label sharing →
      Obstacle strict before (.stringEnum path options)
        (.caseCollision (Identifier.ofPath path) label sharing)
  | takenName {m n d e} : strict = true → m ∈ before → m.declaration = .ok e →
      n.declaration = .ok d → e.name = d.name → e ≠ d →
      Obstacle strict before n (.nameCollision d.name)

/-- The first node in the way of those before it, and the error it leads to. -/
def FirstObstacle (strict : Bool) (ns : List Node) (e : GenerationError) : Prop :=
  ∃ before n after, ns = before ++ n :: after ∧ ¬ Faulty strict before ∧ n.Obstacle strict before e

variable {strict : Bool} {ns ms before : List Node} {component : String} {e : GenerationError}

theorem Faulty.mono (h : Faulty strict ns) (hsub : ∀ n ∈ ns, n ∈ ms) : Faulty strict ms := by
  cases h with
  | foreignKind hn hk => exact .foreignKind (hsub _ hn) hk
  | sharedLabel hn hl => exact .sharedLabel (hsub _ hn) hl
  | takenName hs hm hn hd he hname hne =>
    exact .takenName hs (hsub _ hm) (hsub _ hn) hd he hname hne

/-! ## Nodes without a declaration -/

theorem Node.declaration_stringEnum_error {path options : List String} :
    (Node.stringEnum path options).declaration = .error e ↔ ∃ label sharing,
      SharedLabel options label sharing ∧
        e = .caseCollision (Identifier.ofPath path) label sharing := by
  simp only [declaration]
  constructor
  · intro h
    split at h
    · rename_i c hc
      cases h
      exact ⟨_, _, repeatedCase?_eq_some hc, rfl⟩
    · cases h
  · rintro ⟨label, sharing, hshared, rfl⟩
    obtain ⟨c, hc, rfl, hsharing⟩ := hshared.repeatedCase?
    rw [hc]
    exact congrArg Except.error (congrArg _ hsharing)

theorem Node.declared_iff {n : Node} : n.Declared ↔ n.foreignKind? = none ∧
    ∀ path options, n = .stringEnum path options → (labels options).Nodup := by
  cases n with
  | object path properties => exact ⟨fun _ => ⟨rfl, fun _ _ h => by cases h⟩, fun _ => ⟨_, rfl⟩⟩
  | stringEnum path options =>
    constructor
    · rintro ⟨d, hd⟩
      refine ⟨rfl, fun _ _ h => ?_⟩
      cases h
      exact repeatedCase?_eq_none.mp (declaration_stringEnum hd).1
    · rintro ⟨-, h⟩
      have hnone := repeatedCase?_eq_none.mpr (h path options rfl)
      exact ⟨.enum (Identifier.ofPath path) (enumCases options), by simp only [declaration, hnone]⟩
  | foreign path kind =>
    constructor
    · rintro ⟨d, hd⟩
      cases hd
    · rintro ⟨h, -⟩
      cases h

/-- Nodes without fault are those that have declarations, of which a strict registry
loses none. -/
theorem not_faulty_iff : ¬ Faulty strict ns ↔ (∀ n ∈ ns, n.Declared) ∧
    (strict = true → (Registry.empty strict).Admits (declarations ns)) := by
  constructor
  · intro h
    refine ⟨fun n hn => Node.declared_iff.mpr ⟨?_, ?_⟩, fun hs => ?_⟩
    · cases hk : n.foreignKind? with
      | none => rfl
      | some kind => exact absurd (.foreignKind hn hk) h
    · rintro path options rfl
      apply Classical.byContradiction
      intro hl
      exact h (.sharedLabel hn hl)
    -- Two declarations of one name that differ come from two nodes.
    · rw [Registry.admits_empty]
      intro d hd e he hname
      obtain ⟨m, hm, hd⟩ := mem_declarations.mp hd
      obtain ⟨n, hn, he⟩ := mem_declarations.mp he
      apply Classical.byContradiction
      intro hne
      exact h (.takenName hs hm hn hd he hname hne)
  · rintro ⟨hdecl, hadmits⟩ h
    cases h with
    | foreignKind hn hk =>
      have hnone := (Node.declared_iff.mp (hdecl _ hn)).1
      rw [hk] at hnone
      cases hnone
    | sharedLabel hn hl => exact hl ((Node.declared_iff.mp (hdecl _ hn)).2 _ _ rfl)
    | takenName hs hm hn hd he hname hne =>
      have hall := (Registry.admits_empty _).mp (hadmits hs)
      have hd := mem_declarations.mpr ⟨_, hm, hd⟩
      have he := mem_declarations.mpr ⟨_, hn, he⟩
      exact hne (hall _ hd _ he hname)

/-! ## Settling one node -/

/-- After nodes without fault, a node of a known kind stops just where it is in their
way. -/
theorem settle_error_iff {n : Node} (hbefore : ¬ Faulty strict before)
    (hn : n.foreignKind? = none) :
    ((n.settle component).run ((Registry.empty strict).placeAll (declarations before))).result =
        .error e ↔ n.Obstacle strict before e := by
  obtain ⟨-, hadmits⟩ := not_faulty_iff.mp hbefore
  generalize hr : (Registry.empty strict).placeAll (declarations before) = r
  -- A node without a declaration stops whatever came before; one with a declaration stops only
  -- if a strict registry has another one of its name, which then is that of a node before.
  have hstrict : r.strict = strict := by
    rw [← hr, Registry.strict_placeAll]
    rfl
  cases hd : n.declaration with
  | error cause =>
    obtain ⟨report, hs⟩ := Node.settle_of_error component hd
    rw [hs]
    constructor
    · intro h
      cases h
      cases n with
      | object path properties => cases hd
      | stringEnum path options =>
        obtain ⟨label, sharing, hshared, rfl⟩ := Node.declaration_stringEnum_error.mp hd
        exact .sharedLabel hshared
      | foreign path kind => cases hn
    · intro h
      cases h with
      | sharedLabel hshared =>
        rw [Node.declaration_stringEnum_error.mpr ⟨_, _, hshared, rfl⟩] at hd
        cases hd
        rfl
      | takenName _ _ _ hok _ _ => rw [hd] at hok; cases hok
  | ok d =>
    rw [Node.settle_of_ok component hd]
    constructor
    · intro h
      cases hc : r.clashes d with
      | false => rw [Registry.run_register_unopposed hc] at h; cases h
      | true =>
        cases hs : r.strict with
        | false => rw [Registry.run_register_overwriting hc hs] at h; cases h
        | true =>
          rw [Registry.run_register_refused hc hs] at h
          cases h
          have hs : strict = true := hstrict ▸ hs
          rw [← hr, Registry.clashes_placeAll (hadmits hs)] at hc
          obtain ⟨old, hold, hname, hne⟩ := hc
          obtain ⟨m, hm, hold⟩ := mem_declarations.mp hold
          exact .takenName hs hm hold hd hname hne
    · intro h
      cases h with
      | sharedLabel hshared =>
        rw [Node.declaration_stringEnum_error.mpr ⟨_, _, hshared, rfl⟩] at hd
        cases hd
      | takenName hs hm hold hok hname hne =>
        rw [hok] at hd
        cases hd
        have hc : r.clashes d = true := by
          rw [← hr, Registry.clashes_placeAll (hadmits hs)]
          exact ⟨_, mem_declarations.mpr ⟨_, hm, hold⟩, hname, hne⟩
        rw [Registry.run_register_refused hc (hstrict.trans hs)]

/-! ## Settling a sequence -/

theorem settleAll_error {r : Registry} :
    ((settleAll component ns).run r).result = .error e ↔ ∃ before n after,
      ns = before ++ n :: after ∧ ((settleAll component before).run r).result = .ok () ∧
      ((n.settle component).run ((settleAll component before).run r).state).result = .error e := by
  -- From the last node on, since what stops one depends on all that were settled before it.
  induction ns using List.reverseRecOn with
  | nil =>
    constructor
    · intro h
      cases h
    · rintro ⟨before, n, after, h, -⟩
      cases before <;> cases h
  | append_singleton ns m ih =>
    rw [settleAll_append, settleAll_singleton, Action.bind_error, ih]
    constructor
    · rintro (⟨before, n, after, rfl, hbefore, hn⟩ | ⟨_, hns, hm⟩)
      · exact ⟨before, n, after ++ [m], by simp, hbefore, hn⟩
      · exact ⟨ns, m, [], rfl, hns, hm⟩
    · rintro ⟨before, n, after, hsplit, hbefore, hn⟩
      rcases List.eq_nil_or_concat after with rfl | ⟨after, l, rfl⟩
      · obtain ⟨rfl, hm⟩ := List.append_inj' hsplit rfl
        cases hm
        exact Or.inr ⟨(), hbefore, hn⟩
      · rw [List.concat_eq_append, ← List.cons_append, ← List.append_assoc] at hsplit
        obtain ⟨rfl, -⟩ := List.append_inj' hsplit rfl
        exact Or.inl ⟨before, n, after, rfl, hbefore, hn⟩

/-- Nodes are settled exactly if they are not faulty. -/
theorem settleAll_ok_iff :
    ((settleAll component ns).run (Registry.empty strict)).result = .ok () ↔
      ¬ Faulty strict ns := by
  constructor
  · intro h
    obtain ⟨hdecl, -, hadmits⟩ := settleAll_ok h
    exact not_faulty_iff.mpr ⟨hdecl, hadmits⟩
  · intro h
    induction ns using List.reverseRecOn with
    | nil => rfl
    | append_singleton ns m ih =>
      have hns : ¬ Faulty strict ns := fun hf => h (hf.mono fun _ hn => List.mem_append_left _ hn)
      have hm : m.foreignKind? = none := by
        obtain ⟨hdecl, -⟩ := not_faulty_iff.mp h
        exact (Node.declared_iff.mp (hdecl m (by simp))).1
      cases hres : ((settleAll component (ns ++ [m])).run (Registry.empty strict)).result with
      | ok u => rfl
      | error e =>
        -- The last node alone could stop the sequence, and then it would be in the way.
        rw [settleAll_append, settleAll_singleton, Action.bind_error] at hres
        rw [ih hns] at hres
        rcases hres with hres | ⟨_, -, hres⟩
        · cases hres
        · rw [(settleAll_ok (ih hns)).2.1, settle_error_iff hns hm] at hres
          cases hres with
          | @sharedLabel path options label sharing hshared =>
            have hmem : .stringEnum path options ∈ ns ++ [.stringEnum path options] := by simp
            exact absurd (.sharedLabel hmem hshared.not_nodup) h
          | takenName hs hn hold hd hname hne =>
            exact absurd (.takenName hs (by simp [hn]) (by simp) hold hd hname hne) h

/-- Nodes of known kinds are stopped by the first in the way of those before it. -/
theorem settleAll_error_iff (hns : ∀ n ∈ ns, n.foreignKind? = none) :
    ((settleAll component ns).run (Registry.empty strict)).result = .error e ↔
      FirstObstacle strict ns e := by
  rw [settleAll_error]
  refine exists_congr fun before => exists_congr fun n => exists_congr fun after =>
    and_congr_right fun hsplit => ?_
  have hn : n.foreignKind? = none := hns n (by simp [hsplit])
  rw [settleAll_ok_iff]
  refine and_congr_right fun hbefore => ?_
  have hok : ((settleAll component before).run (Registry.empty strict)).result = .ok () :=
    settleAll_ok_iff.mpr hbefore
  rw [(settleAll_ok hok).2.1]
  exact settle_error_iff hbefore hn

end EventHeader.Payload
