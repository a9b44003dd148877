import EventHeader.Proofs.EnumLabels
import EventHeader.Proofs.RegistryCalls
import Mathlib.Data.List.Nodup

/- The registration of an enum from whatever registry. It comes to an end in one of three
   ways: options that share a label refuse it before the registry is asked
   (`registerEnum_shared`), a strict registry may refuse its declaration, and otherwise the
   declaration is put in its place (`registerEnum_distinct`). So each answer has its condition:
   the refusal over a label (`registerEnum_caseCollision_iff`), any refusal
   (`registerEnum_error`), and the registration (`registerEnum_ok_iff`).

   Labels are shared exactly if two positions of the options have one label
   (`not_nodup_labels_iff`), and the label that is told is the one that comes up first among
   those that come up again (`SharedLabel.earliest`), not the one that is the first to come up
   again. In `registerEnum_refuses_shared_labels` the three ways are told apart by the options
   and the registry alone. -/
namespace EventHeader.Payload
open EventHeader.Declaration

variable {r : Registry} {path options sharing : List String} {name label : String} {c : Case}
  {e : GenerationError}

/-! ## Labels by position -/

/-- Whether the options at two positions get one label. -/
def LabelRepeats (options : List String) : Prop :=
  ∃ (i j : Nat) (a b : String), i < j ∧ options[i]? = some a ∧ options[j]? = some b ∧
    Identifier.ofText a = Identifier.ofText b

theorem not_nodup_labels_iff : ¬ (labels options).Nodup ↔ LabelRepeats options := by
  have hlabel (i : Nat) : (labels options)[i]? = options[i]?.map Identifier.ofText := by
    rw [labels, List.getElem?_map]
  rw [List.nodup_iff_getElem?_ne_getElem?]
  push Not
  constructor
  · rintro ⟨i, j, hij, hj, heq⟩
    have hj : j < options.length := by rwa [labels, List.length_map] at hj
    have hi : i < options.length := Nat.lt_trans hij hj
    rw [hlabel, hlabel, List.getElem?_eq_getElem hi, List.getElem?_eq_getElem hj] at heq
    exact ⟨i, j, _, _, hij, List.getElem?_eq_getElem hi, List.getElem?_eq_getElem hj,
      Option.some.inj heq⟩
  · rintro ⟨i, j, a, b, hij, ha, hb, heq⟩
    obtain ⟨hj, -⟩ := List.getElem?_eq_some_iff.mp hb
    refine ⟨i, j, hij, by rwa [labels, List.length_map], ?_⟩
    rw [hlabel, hlabel, ha, hb, Option.map_some, Option.map_some, heq]

/-- One of the labels that are shared is the one that is told. -/
theorem exists_sharedLabel_iff :
    (∃ label sharing, SharedLabel options label sharing) ↔ ¬ (labels options).Nodup := by
  constructor
  · rintro ⟨_, _, h⟩
    exact h.not_nodup
  · intro h
    rw [← repeatedCase?_eq_none, ← ne_eq, Option.ne_none_iff_exists'] at h
    obtain ⟨c, hc⟩ := h
    exact ⟨_, _, repeatedCase?_eq_some hc⟩

/-- No label that is shared comes up earlier than the one that is told. -/
theorem SharedLabel.earliest (h : SharedLabel options label sharing) {l : String}
    (hl : 1 < (labels options).count l) :
    (labels options).idxOf label ≤ (labels options).idxOf l := by
  obtain ⟨before, after, hsplit, hbefore⟩ := h.first
  have habsent : ∀ {m}, 1 < (labels options).count m → m ∉ before :=
    fun hm hmem => absurd hm (Nat.not_lt.mpr (hbefore _ hmem))
  rw [hsplit, List.idxOf_append_of_notMem (habsent h.repeated),
    List.idxOf_append_of_notMem (habsent hl), List.idxOf_cons_self]
  exact Nat.add_le_add_left (Nat.zero_le _) _

/-! ## The three ways -/

/-- Options that share a label are reported and refused, whatever the registry holds. -/
theorem registerEnum_shared (r : Registry) (path : List String)
    (h : repeatedCase? (enumCases options) = some c) :
    ((registerEnum path options).run r).result = .error (.caseCollision (Identifier.ofPath path)
        c.label ((casesOf c.label (enumCases options)).map Case.literal)) ∧
      ((registerEnum path options).run r).state = r := by
  simp [registerEnum, h, Action.run_bind]

theorem registerEnum_distinct (r : Registry) (path : List String) (h : (labels options).Nodup) :
    (r.strict = true ∧ r.clashes (.enum (Identifier.ofPath path) (enumCases options)) = true ∧
      ((registerEnum path options).run r).result =
        .error (.nameCollision (Identifier.ofPath path)) ∧
      ((registerEnum path options).run r).state = r) ∨
    ((r.strict = true → r.clashes (.enum (Identifier.ofPath path) (enumCases options)) = false) ∧
      ((registerEnum path options).run r).result = .ok (Identifier.ofPath path) ∧
      ((registerEnum path options).run r).state =
        r.place (.enum (Identifier.ofPath path) (enumCases options))) := by
  have hmap : registerEnum path options = (fun _ => Identifier.ofPath path) <$>
      Registry.register (.enum (Identifier.ofPath path) (enumCases options)) := by
    simp [registerEnum, repeatedCase?_eq_none.mpr h]
  rw [hmap, Action.run_map]
  obtain ⟨hs, hc, hrun⟩ | ⟨hadmits, hok, hstate⟩ :=
    r.call_cases (.enum (Identifier.ofPath path) (enumCases options))
  · rw [hrun]
    exact Or.inl ⟨hs, hc, rfl, rfl⟩
  · rw [hok, hstate]
    exact Or.inr ⟨hadmits, rfl, rfl⟩

theorem registerEnum_caseCollision_iff : ((registerEnum path options).run r).result =
      .error (.caseCollision name label sharing) ↔
    name = Identifier.ofPath path ∧ SharedLabel options label sharing := by
  constructor
  · intro h
    cases hc : repeatedCase? (enumCases options) with
    | some c =>
      rw [(registerEnum_shared r path hc).1] at h
      cases h
      exact ⟨rfl, repeatedCase?_eq_some hc⟩
    | none =>
      obtain ⟨-, -, hresult, -⟩ | ⟨-, hresult, -⟩ :=
        registerEnum_distinct r path (repeatedCase?_eq_none.mp hc)
      · cases hresult.symm.trans h
      · cases hresult.symm.trans h
  · rintro ⟨rfl, h⟩
    obtain ⟨c, hc, rfl, rfl⟩ := h.repeatedCase?
    exact (registerEnum_shared r path hc).1

/-- A refusal leaves the registry as it was, and is over a label or over the name. -/
theorem registerEnum_error (h : ((registerEnum path options).run r).result = .error e) :
    ((registerEnum path options).run r).state = r ∧
      ((∃ name label sharing, e = .caseCollision name label sharing) ∨
        r.strict = true ∧ e = .nameCollision (Identifier.ofPath path) ∧
          ∃ old, r.find? (Identifier.ofPath path) = some old ∧
            old ≠ .enum (Identifier.ofPath path) (enumCases options)) := by
  cases hc : repeatedCase? (enumCases options) with
  | some c =>
    obtain ⟨hresult, hstate⟩ := registerEnum_shared r path hc
    cases hresult.symm.trans h
    exact ⟨hstate, Or.inl ⟨_, _, _, rfl⟩⟩
  | none =>
    obtain ⟨hs, hclash, hresult, hstate⟩ | ⟨-, hresult, -⟩ :=
      registerEnum_distinct r path (repeatedCase?_eq_none.mp hc)
    · cases hresult.symm.trans h
      exact ⟨hstate, Or.inr ⟨hs, rfl, Registry.clashes_iff.mp hclash⟩⟩
    · cases hresult.symm.trans h

theorem registerEnum_ok_iff :
    ((registerEnum path options).run r).result = .ok (Identifier.ofPath path) ↔
      (labels options).Nodup ∧
        (r.strict = true → ∀ old, r.find? (Identifier.ofPath path) = some old →
          old = .enum (Identifier.ofPath path) (enumCases options)) := by
  constructor
  · intro h
    have hdistinct : (labels options).Nodup := (registerEnum_ok h).2.1
    refine ⟨hdistinct, fun hs old hold => ?_⟩
    obtain ⟨-, -, hresult, -⟩ | ⟨hadmits, -, -⟩ := registerEnum_distinct r path hdistinct
    · cases hresult.symm.trans h
    · obtain hnone | hsame := Registry.clashes_eq_false.mp (hadmits hs)
      · cases hnone.symm.trans hold
      · exact Option.some.inj (hold.symm.trans hsame)
  · rintro ⟨hdistinct, hfree⟩
    obtain ⟨hs, hclash, -⟩ | ⟨-, hok, -⟩ := registerEnum_distinct r path hdistinct
    · obtain ⟨old, hold, hne⟩ := Registry.clashes_iff.mp hclash
      exact absurd (hfree hs old hold) hne
    · exact hok

/-- An enum is refused over its labels exactly if two positions of its options have one, and
then over the label that comes up first among those that come up again, with all options that
have it, in their order. It is registered exactly if its labels are all different and a strict
registry has no other declaration of its name. A refusal of either kind leaves the registry as
it was. -/
theorem registerEnum_refuses_shared_labels (r : Registry) (path options : List String) :
    let o := (registerEnum path options).run r
    let name := Identifier.ofPath path
    let declared : Declaration := .enum name (options.map fun a => ⟨Identifier.ofText a, a⟩)
    ((∃ enum label sharing, o.result = .error (.caseCollision enum label sharing)) ↔
      LabelRepeats options) ∧
    (∀ enum label sharing, o.result = .error (.caseCollision enum label sharing) →
      enum = name ∧ 1 < (labels options).count label ∧
      (∀ l, 1 < (labels options).count l →
        (labels options).idxOf label ≤ (labels options).idxOf l) ∧
      sharing = options.filter (fun a => Identifier.ofText a == label)) ∧
    (∀ e, o.result = .error e → o.state = r ∧
      ((∃ enum label sharing, e = .caseCollision enum label sharing) ∨
        r.strict = true ∧ e = .nameCollision name ∧
          ∃ old, r.find? name = some old ∧ old ≠ declared)) ∧
    (o.result = .ok name ↔ (labels options).Nodup ∧
      (r.strict = true → ∀ old, r.find? name = some old → old = declared)) ∧
    ∀ n, o.result = .ok n → n = name ∧ o.state = r.place declared ∧
      o.state.find? n = some declared := by
  intro o name declared
  -- The error names what `SharedLabel` describes, so each clause is one on shared labels.
  have hcollision : ∀ enum label sharing, o.result = .error (.caseCollision enum label sharing) ↔
      enum = name ∧ SharedLabel options label sharing :=
    fun _ _ _ => registerEnum_caseCollision_iff
  refine ⟨?_, ?_, fun e h => registerEnum_error h, registerEnum_ok_iff, ?_⟩
  · rw [← not_nodup_labels_iff, ← exists_sharedLabel_iff]
    simp [hcollision]
  · intro enum label sharing h
    obtain ⟨hname, hshared⟩ := (hcollision enum label sharing).mp h
    exact ⟨hname, hshared.repeated, fun l hl => hshared.earliest hl, hshared.shared⟩
  · intro n h
    obtain ⟨rfl, -, hstate⟩ := registerEnum_ok h
    exact ⟨rfl, hstate, (congrArg (Registry.find? · name) hstate).trans
      (Registry.find?_place_self r declared)⟩

/-- Options of which the second two are the first to share a label again, while the label of
the outer two comes up first. -/
def nestedOptions : List String := ["a b", "c", "C", "a-b"]

theorem registerEnum_refuses_shared_labels_nested :
    ((registerEnum ["onPick"] nestedOptions).run (Registry.empty true)).result =
      .error (.caseCollision "OnPick" "AB" ["a b", "a-b"]) ∧
    (∀ l, 1 < (labels nestedOptions).count l →
      (labels nestedOptions).idxOf "AB" ≤ (labels nestedOptions).idxOf l) ∧
    ((registerEnum ["onPick"] nestedOptions).run (Registry.empty true)).state =
      Registry.empty true ∧
    ((registerEnum ["onPick"] ["up"]).run (Registry.empty true)).result = .ok "OnPick" ∧
    ((registerEnum ["onPick"] ["up"]).run (Registry.empty true)).state.find? "OnPick" =
      some (.enum "OnPick" [⟨"Up", "up"⟩]) := by
  obtain ⟨-, hfirst, hrefused, -⟩ :=
    registerEnum_refuses_shared_labels (Registry.empty true) ["onPick"] nestedOptions
  obtain ⟨-, -, -, hok, hplaced⟩ :=
    registerEnum_refuses_shared_labels (Registry.empty true) ["onPick"] ["up"]
  have hresult := hok.mpr ⟨List.nodup_singleton _, fun _ old hold => by cases hold⟩
  refine ⟨rfl, (hfirst _ _ _ rfl).2.2.1, (hrefused _ rfl).1, hresult, ?_⟩
  exact (hplaced _ hresult).2.2

end EventHeader.Payload
