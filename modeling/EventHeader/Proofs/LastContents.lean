import EventHeader.Proofs.PayloadNodes
import Mathlib.Data.List.Basic

/- What a lax component comes to: names in the order in which they first came up, each
   with the contents it was given last.

   A registry that starts empty and takes one declaration after another has the names
   in the order of their first appearance (`names_placeAll`) and answers each with the
   last declaration of that name (`find?_placeAll_eq`); since a list without repeated
   names is determined by these two, what it holds is known (`declarations_placeAll`).
   It reports an overwritten declaration wherever one differs from the nearest before
   it of the same name (`warnings_settleAll`). With the nodes of a component in the
   order in which they are settled this gives the whole outcome of a lax component
   (`lax_component_keeps_last_contents`). -/
namespace EventHeader.Registry
variable {r : Registry} {d : Declaration} {ds : List Declaration} {n : String} {strict : Bool}

/-- The last of some declarations that has a name. -/
def lastOf (ds : List Declaration) (n : String) : Option Declaration := lookup ds.reverse n

/-- Some declarations with every name kept once, where it comes up first and with the
contents it comes up with last. -/
def lastContents (ds : List Declaration) : List Declaration :=
  (ds.map Declaration.name).eraseDups.filterMap (lastOf ds)

/-- Whether the declaration at a position differs from the nearest one before it that has
its name. -/
def overwritesAt (ds : List Declaration) (k : Nat) : Bool :=
  match ds[k]? with
  | none => false
  | some d =>
    match lastOf (ds.take k) d.name with
    | none => false
    | some previous => previous != d

/-! ## Names in order, contents by name -/

theorem lastOf_cons :
    lastOf (d :: ds) n = (lastOf ds n).or (if d.name = n then some d else none) := by
  unfold lastOf lookup
  rw [List.reverse_cons, List.find?_append]
  simp [List.find?_singleton]

/-- A name answers with the last declaration of that name that was put in. -/
theorem find?_placeAll_eq : (r.placeAll ds).find? n = (lastOf ds n).or (r.find? n) := by
  induction ds generalizing r with
  | nil => rfl
  | cons d rest ih =>
    rw [placeAll_cons, ih, lastOf_cons, Option.or_assoc]
    by_cases hn : d.name = n
    · subst hn
      simp [find?_place_self]
    · simp [find?_place_other hn, hn]

theorem eraseDups_concat (ns : List String) (n : String) : (ns ++ [n]).eraseDups =
    if n ∈ ns then ns.eraseDups else ns.eraseDups ++ [n] := by
  rw [List.eraseDups_append]
  by_cases hn : n ∈ ns
  · simp [List.removeAll, hn]
  · simp [List.removeAll, hn, List.eraseDups_cons]

theorem names_placeAll (ds : List Declaration) :
    ((empty strict).placeAll ds).names = (ds.map Declaration.name).eraseDups := by
  induction ds using List.reverseRecOn with
  | nil => rfl
  | append_singleton ds d ih =>
    rw [placeAll_append, List.map_append, List.map_singleton, eraseDups_concat]
    show (((empty strict).placeAll ds).place d).names = _
    rw [names_place, ih]
    simp only [List.mem_eraseDups]

theorem filterMap_lookup : ∀ {ds : List Declaration}, (ds.map Declaration.name).Nodup →
    (ds.map Declaration.name).filterMap (lookup ds) = ds
  | [], _ => rfl
  | d :: rest, h => by
    obtain ⟨hd, hrest⟩ := List.nodup_cons.mp h
    have hsame : ∀ n ∈ rest.map Declaration.name, lookup (d :: rest) n = lookup rest n := by
      intro n hn
      rw [lookup_cons, if_neg]
      rintro rfl
      exact hd hn
    rw [List.map_cons, List.filterMap_cons_some (lookup_cons.trans (if_pos rfl)),
      List.filterMap_congr hsame, filterMap_lookup hrest]

theorem declarations_placeAll (ds : List Declaration) :
    ((empty strict).placeAll ds).declarations = lastContents ds := by
  have hnodup : ((empty strict).placeAll ds).names.Nodup := nodup_names_placeAll List.nodup_nil
  rw [← filterMap_lookup hnodup]
  show ((empty strict).placeAll ds).names.filterMap ((empty strict).placeAll ds).find? = _
  rw [names_placeAll]
  unfold lastContents
  refine List.filterMap_congr fun n _ => ?_
  rw [find?_placeAll_eq]
  exact Option.or_none

/-! ## What is overwritten -/

theorem overwritesAt_concat : overwritesAt (ds ++ [d]) ds.length =
    ((empty strict).placeAll ds).clashes d := by
  unfold overwritesAt clashes
  rw [find?_placeAll_eq, List.getElem?_concat_length, List.take_left' rfl]
  simp only [show (empty strict).find? d.name = none from rfl, Option.or_none]
  cases lastOf ds d.name <;> rfl

theorem overwritesAt_append {es : List Declaration} {k : Nat} (hk : k < ds.length) :
    overwritesAt (ds ++ es) k = overwritesAt ds k := by
  unfold overwritesAt
  rw [List.getElem?_append_left hk, List.take_append_of_le_length (Nat.le_of_lt hk)]

/-- At how many positions a declaration is overwritten. -/
def overwritings (ds : List Declaration) : Nat := (List.range ds.length).countP (overwritesAt ds)

theorem overwritings_concat : overwritings (ds ++ [d]) =
    overwritings ds + if ((empty false).placeAll ds).clashes d then 1 else 0 := by
  unfold overwritings
  rw [List.length_append, List.length_singleton, List.range_succ, List.countP_append]
  congr 1
  · refine List.countP_congr fun k hk => ?_
    rw [overwritesAt_append (List.mem_range.mp hk)]
  · rw [List.countP_singleton, overwritesAt_concat]

def warnings (journal : List Record) : Nat := journal.countP (fun r => r.level == .warning)

theorem warnings_register (hr : r.strict = false) :
    warnings ((register d).run r).journal = if r.clashes d then 1 else 0 := by
  cases hc : r.clashes d with
  | false => rw [run_register_unopposed hc]; rfl
  | true => rw [run_register_overwriting hc hr]; rfl

theorem warning_register {w : Record} (hw : w ∈ ((register d).run r).journal)
    (hlevel : w.level = .warning) : w = overwritten d := by
  have hdebug : (registered d).level ≠ .warning := show Level.debug ≠ .warning by decide
  cases hc : r.clashes d with
  | false =>
    rw [run_register_unopposed hc, List.mem_singleton] at hw
    exact absurd (hw ▸ hlevel) hdebug
  | true =>
    cases hs : r.strict with
    | true => rw [run_register_refused hc hs] at hw; exact absurd hw List.not_mem_nil
    | false =>
      rw [run_register_overwriting hc hs] at hw
      rcases List.mem_cons.mp hw with hw | hw
      · exact hw
      · exact absurd (List.mem_singleton.mp hw ▸ hlevel) hdebug

end EventHeader.Registry

namespace EventHeader.Payload
open EventHeader.Declaration
open Registry (overwritings warnings lastContents)

variable {component : String} {ns : List Node}

theorem declarations_concat {n : Node} {d : Declaration} (h : n.declaration = .ok d)
    (ns : List Node) : declarations (ns ++ [n]) = declarations ns ++ [d] := by
  rw [declarations_append, declarations_cons_ok h]
  rfl

theorem map_declaration (h : ∀ n ∈ ns, n.Declared) :
    ns.map Node.declaration = (declarations ns).map .ok := by
  induction ns with
  | nil => rfl
  | cons n rest ih =>
    obtain ⟨⟨d, hd⟩, hrest⟩ := List.forall_mem_cons.mp h
    rw [List.map_cons, declarations_cons_ok hd, List.map_cons, hd, ih hrest]

/-- While nodes are settled, a lax registry warns of the declarations that it overwrites
and of nothing else. -/
theorem warnings_settleAll
    (h : ((settleAll component ns).run (Registry.empty false)).result = .ok ()) :
    warnings ((settleAll component ns).run (Registry.empty false)).journal =
        overwritings (declarations ns) ∧
      ∀ w ∈ ((settleAll component ns).run (Registry.empty false)).journal, w.level = .warning →
        ∃ d, w = Registry.overwritten d := by
  induction ns using List.reverseRecOn with
  | nil => exact ⟨rfl, fun _ hw => absurd hw List.not_mem_nil⟩
  | append_singleton ns n ih =>
    rw [settleAll_append, settleAll_singleton] at h ⊢
    obtain ⟨_, hns, hn, -⟩ := Action.bind_ok h
    obtain ⟨hcount, honly⟩ := ih hns
    obtain ⟨-, hstate, -⟩ := settleAll_ok hns
    obtain ⟨d, hd, -, -⟩ := settle_ok hn
    -- The last node meets the registry that the others leave behind.
    generalize ho : (settleAll component ns).run (Registry.empty false) = o at *
    obtain ⟨result, s, j⟩ := o
    cases hns
    cases hstate
    rw [Action.run_bind_ok ho, Node.settle_of_ok component hd, declarations_concat hd,
      Registry.overwritings_concat, ← hcount]
    constructor
    · rw [warnings, List.countP_append, ← Registry.warnings_register Registry.strict_placeAll]
      rfl
    · intro w hw hlevel
      rcases List.mem_append.mp hw with hw | hw
      · exact honly w hw hlevel
      · exact ⟨d, Registry.warning_register hw hlevel⟩

theorem journal_ofComponent {σ : Type} {c : Component} {strict : Bool} {s : σ}
    (h : ((settleAll component (componentNodes c)).run (Registry.empty strict)).result = .ok ()) :
    ∃ r, r.level = .debug ∧ ((EmitterClass.ofComponent component c strict).run s).journal =
      ((settleAll component (componentNodes c)).run (Registry.empty strict)).journal ++ [r] := by
  generalize ho : (settleAll component (componentNodes c)).run (Registry.empty strict) = o at h ⊢
  obtain ⟨result, r, j⟩ := o
  cases h
  have hdeclarations : (EmitterClass.payloadDeclarations component c.events).run
      (Registry.empty strict) = ⟨.ok r.declarations, r, j⟩ := by
    unfold EmitterClass.payloadDeclarations
    rw [registerPayloads_eq]
    rw [componentNodes] at ho
    rw [Action.run_bind_ok ho]
    simp
  have hown : ((EmitterClass.payloadDeclarations component c.events).onOwnState
      (Registry.empty strict) : Action σ _ _).run s = ⟨.ok r.declarations, s, j⟩ := by
    rw [Action.run_onOwnState, hdeclarations]
  unfold EmitterClass.ofComponent
  rw [Action.run_bind_ok hown]
  exact ⟨_, rfl, rfl⟩

/-- A component that succeeds with lax names holds the declarations of its nodes, each name
once, where it comes up first and with the contents it comes up with last; it has a method
for each event, and it warns wherever a declaration differs from the nearest one before it
of the same name. -/
theorem lax_component_keeps_last_contents {σ : Type} (component : String) (c : Component) (s : σ)
    (cls : EmitterClass)
    (h : ((EmitterClass.ofComponent component c false).run s).result = .ok cls) :
    (componentNodes c).map Node.declaration = (declarations (componentNodes c)).map .ok ∧
    cls.declarations = lastContents (declarations (componentNodes c)) ∧
    cls.methods = c.events.map Event.method ∧
    warnings ((EmitterClass.ofComponent component c false).run s).journal =
      overwritings (declarations (componentNodes c)) ∧
    ∀ w ∈ ((EmitterClass.ofComponent component c false).run s).journal, w.level = .warning →
      ∃ d, w = Registry.overwritten d := by
  obtain ⟨hsettled, -, hmethods⟩ := ofComponent_ok h
  have hrun : ((settleAll component (componentNodes c)).run (Registry.empty false)).result =
      .ok () := by
    obtain ⟨ds, hds, -, -⟩ := Action.bind_ok h
    obtain ⟨_, hsettle, -, -⟩ := Action.bind_ok (s := Registry.empty false) hds
    rwa [registerPayloads_eq] at hsettle
  obtain ⟨hcount, honly⟩ := warnings_settleAll hrun
  obtain ⟨r, hr, hjournal⟩ := journal_ofComponent (σ := σ) (s := s) hrun
  -- The last record of a component tells that it is done and is no warning.
  have hquiet : r.level ≠ .warning := by rw [hr]; decide
  refine ⟨map_declaration hsettled.declared, ?_, hmethods, ?_, ?_⟩
  · rw [hsettled.held, Registry.declarations_placeAll]
  · rw [hjournal, ← hcount, warnings, List.countP_append]
    simp [warnings, hquiet]
  · intro w hw hlevel
    rw [hjournal] at hw
    rcases List.mem_append.mp hw with hw | hw
    · exact honly w hw hlevel
    · exact absurd (List.mem_singleton.mp hw ▸ hlevel) hquiet

/-- Three events that share the name `OnAB`: it is that of the struct nested in the first,
of the payload of the second, and of the struct nested in the third, which has the contents
of the first again. -/
def crossingComponent : Component :=
  ⟨[⟨"onA", false, .direct, some [⟨"b", false, .object []⟩]⟩,
    ⟨"onAB", false, .direct, some [⟨"c", false, .stringEnum ["x"]⟩]⟩,
    ⟨"on", false, .bubble, some [⟨"aB", false, .object []⟩]⟩]⟩

def crossingClass : EmitterClass :=
  ⟨"MyView",
    [.struct "OnAB" [], .struct "OnA" [⟨"b", "OnAB"⟩], .enum "OnABC" [⟨"X", "x"⟩],
      .struct "On" [⟨"aB", "OnAB"⟩]],
    ["void onA(OnA value) const;", "void onAB(OnAB value) const;", "void on(On value) const;"]⟩

theorem lax_component_keeps_last_contents_crossing :
    ((EmitterClass.ofComponent "MyView" crossingComponent false).run ()).result =
      .ok crossingClass ∧
    crossingClass.declarations = lastContents (declarations (componentNodes crossingComponent)) ∧
    warnings ((EmitterClass.ofComponent "MyView" crossingComponent false).run ()).journal = 2 := by
  obtain ⟨-, hdeclarations, -, hcount, -⟩ :=
    lax_component_keeps_last_contents "MyView" crossingComponent () crossingClass rfl
  exact ⟨rfl, hdeclarations, hcount.trans (by decide)⟩

end EventHeader.Payload
