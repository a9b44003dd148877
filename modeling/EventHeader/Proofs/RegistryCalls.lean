import EventHeader.Proofs.LastContents

/- Registries under any sequence of calls. A call that a strict registry refuses is passed
   over and the sequence goes on, so what a registry holds is what the calls that were
   accepted have put in (`afterCalls_eq`). A lax registry accepts all of them, and a strict
   one those by which no declaration is lost, so each name keeps the declaration of its first
   call (`find?_afterCalls_strict`).

   The list of names, the declarations and the answers by name stay views of one thing
   (`Coherent`), since this only takes names that are all different. What a registry answers
   after some calls, and how it takes the next one, is put together in
   `registry_keeps_account`. -/
namespace EventHeader.Registry
variable {r : Registry} {d e : Declaration} {ds es : List Declaration} {n : String}
  {error : GenerationError}

/-- The registry after a call, be it refused or not. -/
def afterCall (r : Registry) (d : Declaration) : Registry := ((register d).run r).state

/-- The registry after a sequence of calls, which goes on after one that is refused. -/
def afterCalls (r : Registry) (ds : List Declaration) : Registry := ds.foldl afterCall r

/-- The declarations of the calls in a sequence that are not refused. -/
def accepted : Registry → List Declaration → List Declaration
  | _, [] => []
  | r, d :: rest =>
    match ((register d).run r).result with
    | .ok _ => d :: accepted (r.afterCall d) rest
    | .error _ => accepted (r.afterCall d) rest

/-- The views of a registry agree: its names are all different, each answers with the
declaration that stands at its place, and no other name is answered. -/
structure Coherent (r : Registry) : Prop where
  distinct : r.names.Nodup
  named : ∀ n d, r.find? n = some d → d.name = n
  listed : ∀ d, d ∈ r.declarations ↔ r.find? d.name = some d
  inOrder : r.names.map r.find? = r.declarations.map some
  contained : ∀ n, r.contains n = true ↔ n ∈ r.names
  counted : r.size = r.names.length

/-! ## One call -/

theorem clashes_iff : r.clashes d = true ↔ ∃ old, r.find? d.name = some old ∧ old ≠ d := by
  unfold clashes
  cases r.find? d.name with
  | none => simp
  | some old => simp

/-- A call is refused and leaves everything as it was, or its declaration is put in its
place. -/
theorem call_cases (r : Registry) (d : Declaration) :
    (r.strict = true ∧ r.clashes d = true ∧
      (register d).run r = ⟨.error (.nameCollision d.name), r, []⟩) ∨
    ((r.strict = true → r.clashes d = false) ∧ ((register d).run r).result = .ok () ∧
      ((register d).run r).state = r.place d) := by
  cases hc : r.clashes d with
  | false =>
    rw [run_register_unopposed hc]
    exact Or.inr ⟨fun _ => rfl, rfl, rfl⟩
  | true =>
    cases hs : r.strict with
    | false =>
      rw [run_register_overwriting hc hs]
      exact Or.inr ⟨nofun, rfl, rfl⟩
    | true => exact Or.inl ⟨rfl, rfl, run_register_refused hc hs⟩

theorem register_error_iff : ((register d).run r).result = .error error ↔
    r.strict = true ∧ error = .nameCollision d.name ∧
      ∃ old, r.find? d.name = some old ∧ old ≠ d := by
  rw [← clashes_iff]
  obtain ⟨hs, hc, hrun⟩ | ⟨hadmits, hok, -⟩ := call_cases r d
  · rw [hrun]
    simp [hs, hc, eq_comm]
  · rw [hok]
    constructor
    · intro h
      cases h
    · rintro ⟨hs, -, hc⟩
      rw [hadmits hs] at hc
      cases hc

theorem register_error_state (h : ((register d).run r).result = .error error) :
    ((register d).run r).state = r ∧ ((register d).run r).journal = [] := by
  obtain ⟨-, -, hrun⟩ | ⟨-, hok, -⟩ := call_cases r d
  · rw [hrun]
    exact ⟨rfl, rfl⟩
  · rw [hok] at h
    cases h

/-! ## Sequences of calls -/

theorem afterCalls_cons (r : Registry) (d : Declaration) (ds : List Declaration) :
    r.afterCalls (d :: ds) = (r.afterCall d).afterCalls ds := rfl

theorem afterCalls_append (r : Registry) (ds es : List Declaration) :
    r.afterCalls (ds ++ es) = (r.afterCalls ds).afterCalls es := List.foldl_append

theorem accepted_cons (r : Registry) (d : Declaration) (ds : List Declaration) :
    (r.strict = true ∧ r.clashes d = true ∧ r.afterCall d = r ∧
      r.accepted (d :: ds) = r.accepted ds) ∨
    ((r.strict = true → r.clashes d = false) ∧ r.afterCall d = r.place d ∧
      r.accepted (d :: ds) = d :: (r.place d).accepted ds) := by
  obtain ⟨hs, hc, hrun⟩ | ⟨hadmits, hok, hstate⟩ := call_cases r d
  · have hcall : r.afterCall d = r := congrArg Outcome.state hrun
    refine Or.inl ⟨hs, hc, hcall, ?_⟩
    rw [accepted, hrun, hcall]
  · have hcall : r.afterCall d = r.place d := hstate
    refine Or.inr ⟨hadmits, hcall, ?_⟩
    rw [accepted, hok, hcall]

/-- After a sequence of calls a registry holds what those that were accepted put in. -/
theorem afterCalls_eq (r : Registry) (ds : List Declaration) :
    r.afterCalls ds = r.placeAll (r.accepted ds) := by
  induction ds generalizing r with
  | nil => rfl
  | cons d rest ih =>
    rw [afterCalls_cons]
    obtain ⟨-, -, hcall, haccepted⟩ | ⟨-, hcall, haccepted⟩ := accepted_cons r d rest
    · rw [hcall, haccepted, ih]
    · rw [hcall, haccepted, placeAll_cons, ih]

@[simp] theorem strict_afterCalls : (r.afterCalls ds).strict = r.strict := by
  rw [afterCalls_eq, strict_placeAll]

/-- A sequence in which a strict registry loses no declaration is accepted as it is. -/
theorem accepted_of_admits (h : r.strict = true → r.Admits ds) : r.accepted ds = ds := by
  induction ds generalizing r with
  | nil => rfl
  | cons d rest ih =>
    obtain ⟨hs, hc, -⟩ | ⟨-, -, haccepted⟩ := accepted_cons r d rest
    · rw [(h hs).1] at hc
      cases hc
    · have hrest : (r.place d).strict = true → (r.place d).Admits rest := fun hs => (h hs).2
      rw [haccepted, ih hrest]

theorem admits_accepted (hs : r.strict = true) : ∀ ds, r.Admits (r.accepted ds) := by
  intro ds
  induction ds generalizing r with
  | nil => trivial
  | cons d rest ih =>
    obtain ⟨-, -, -, haccepted⟩ | ⟨hadmits, -, haccepted⟩ := accepted_cons r d rest
    · rw [haccepted]
      exact ih hs
    · have hplaced : (r.place d).strict = true := hs
      rw [haccepted]
      exact ⟨hadmits hs, ih hplaced⟩

/-- A strict registry is only ever added to: what it holds stays as it is and where it is. -/
theorem prefix_afterCalls (hs : r.strict = true) (ds : List Declaration) :
    r.declarations <+: (r.afterCalls ds).declarations := by
  induction ds generalizing r with
  | nil => exact List.prefix_rfl
  | cons d rest ih =>
    rw [afterCalls_cons]
    obtain ⟨-, -, hcall, -⟩ | ⟨hadmits, hcall, -⟩ := accepted_cons r d rest
    · rw [hcall]
      exact ih hs
    · have hplaced : (r.place d).strict = true := hs
      have hfirst : r.declarations <+: (r.place d).declarations := by
        unfold place
        obtain hnone | hsame := clashes_eq_false.mp (hadmits hs)
        · rw [placed_of_lookup_none hnone]
          exact List.prefix_append _ _
        · simp only [placed_of_lookup hsame, List.prefix_rfl]
      rw [hcall]
      exact hfirst.trans (ih hplaced)

/-! ## What is answered after a sequence of calls -/

theorem find?_afterCalls_strict (hs : r.strict = true) :
    (r.afterCalls ds).find? n = (r.find? n).or (lookup ds n) := by
  induction ds generalizing r with
  | nil => simp [afterCalls, lookup]
  | cons d rest ih =>
    rw [afterCalls_cons, lookup_cons]
    obtain ⟨-, hc, hcall, -⟩ | ⟨hadmits, hcall, -⟩ := accepted_cons r d rest
    · rw [hcall, ih hs]
      obtain ⟨old, hold, -⟩ := clashes_iff.mp hc
      split
      · rename_i hn
        subst hn
        simp [hold]
      · rfl
    · have hplaced : (r.place d).strict = true := hs
      rw [hcall, ih hplaced]
      split
      · rename_i hn
        subst hn
        -- The name is free, or it has this very declaration.
        rw [find?_place_self]
        obtain hf | hf := clashes_eq_false.mp (hadmits hs) <;> simp [hf]
      · rename_i hn
        rw [find?_place_other hn]

/-- What a name of a strict registry answers with, it answers with for good. -/
theorem find?_afterCalls_append (hs : r.strict = true)
    (h : (r.afterCalls ds).find? n = some d) :
    (r.afterCalls (ds ++ es)).find? n = some d := by
  have hstrict : (r.afterCalls ds).strict = true := strict_afterCalls.trans hs
  rw [afterCalls_append, find?_afterCalls_strict hstrict, h]
  rfl

/-! ## Views of a registry -/

theorem lookup_of_mem : ∀ {ds}, (ds.map Declaration.name).Nodup → d ∈ ds →
    lookup ds d.name = some d
  | [], _, hd => absurd hd List.not_mem_nil
  | e :: rest, h, hd => by
    obtain ⟨he, hrest⟩ := List.nodup_cons.mp h
    rw [lookup_cons]
    obtain rfl | hd := List.mem_cons.mp hd
    · rw [if_pos rfl]
    · rw [if_neg, lookup_of_mem hrest hd]
      intro hname
      exact he (hname ▸ List.mem_map_of_mem hd)

theorem coherent_of_nodup (h : r.names.Nodup) : r.Coherent where
  distinct := h
  named := by
    intro n d hd
    simpa using List.find?_some hd
  listed := fun d => ⟨lookup_of_mem h, List.mem_of_find?_eq_some⟩
  inOrder := by
    unfold names
    rw [List.map_map]
    exact List.map_congr_left fun d hd => lookup_of_mem h hd
  contained := by
    intro n
    have hnone : r.find? n = none ↔ n ∉ r.names := lookup_eq_none
    rw [contains, Option.isSome_iff_ne_none, ne_eq, hnone, not_not]
  counted := by rw [size, names, List.length_map]

theorem nodup_names_afterCalls (strict : Bool) (ds : List Declaration) :
    ((empty strict).afterCalls ds).names.Nodup := by
  rw [afterCalls_eq]
  exact nodup_names_placeAll List.nodup_nil

/-! ## The account of a sequence of calls -/

/-- After any calls on a fresh registry its names are all different, stand in the order in
which they were first accepted, and every view of it tells of the same declarations. With lax
names each answers with its last call. With strict names each answers with its first, whatever
is called later. The next call is refused exactly if names are strict and its name has another
declaration, as every struct is for an enum, and then nothing is changed or written. -/
theorem registry_keeps_account (strict : Bool) (before later : List Declaration) :
    let r := (empty strict).afterCalls before
    r.Coherent ∧
    r.names = (((empty strict).accepted before).map Declaration.name).eraseDups ∧
    (strict = false → ∀ n, r.find? n = lastOf before n) ∧
    (strict = true → ∀ n, r.find? n = lookup before n ∧
      ∀ d, r.find? n = some d → ((empty strict).afterCalls (before ++ later)).find? n = some d) ∧
    ∀ d,
      (∀ e, ((register d).run r).result = .error e ↔
        strict = true ∧ e = .nameCollision d.name ∧ ∃ old, r.find? d.name = some old ∧ old ≠ d) ∧
      (strict = true → ∀ old, r.find? d.name = some old → old.sort ≠ d.sort →
        ((register d).run r).result = .error (.nameCollision d.name)) ∧
      ∀ e, ((register d).run r).result = .error e →
        ((register d).run r).state = r ∧ ((register d).run r).journal = [] := by
  intro r
  have hmode : r.strict = strict := strict_afterCalls
  have hrefused : ∀ d e, ((register d).run r).result = .error e ↔ strict = true ∧
      e = .nameCollision d.name ∧ ∃ old, r.find? d.name = some old ∧ old ≠ d := by
    intro d e
    rw [register_error_iff, hmode]
  refine ⟨coherent_of_nodup (nodup_names_afterCalls strict before), ?_, ?_, ?_,
    fun d => ⟨hrefused d, ?_, fun e he => register_error_state he⟩⟩
  · show ((empty strict).afterCalls before).names = _
    rw [afterCalls_eq, names_placeAll]
  · rintro rfl n
    -- A lax registry refuses nothing, so the last call of a name is the last accepted.
    have haccepted : (empty false).accepted before = before :=
      accepted_of_admits nofun
    show ((empty false).afterCalls before).find? n = _
    rw [afterCalls_eq, haccepted, find?_placeAll_eq]
    exact Option.or_none
  · rintro rfl n
    exact ⟨find?_afterCalls_strict rfl, fun d hd => find?_afterCalls_append rfl hd⟩
  · intro hs old hold hsort
    refine (hrefused d _).mpr ⟨hs, rfl, old, hold, ?_⟩
    rintro rfl
    exact hsort rfl

/-- Calls that come to one name with a struct, an enum, and the struct again. -/
def contestedCalls : List Declaration :=
  [.struct "OnEnd" [⟨"at", "double"⟩], .enum "OnEnd" [⟨"Up", "up"⟩], .struct "OnTap" [],
    .struct "OnEnd" [⟨"at", "double"⟩]]

theorem registry_keeps_account_contested :
    ((empty true).afterCalls contestedCalls).names = ["OnEnd", "OnTap"] ∧
    ((empty true).afterCalls contestedCalls).find? "OnEnd" =
      some (.struct "OnEnd" [⟨"at", "double"⟩]) ∧
    ((empty true).afterCalls (contestedCalls ++ [.struct "OnTap" [⟨"x", "int"⟩]])).find? "OnTap" =
      some (.struct "OnTap" []) ∧
    ((register (.enum "OnTap" [])).run ((empty true).afterCalls contestedCalls)).result =
      .error (.nameCollision "OnTap") ∧
    ((empty false).afterCalls (contestedCalls.take 2)).find? "OnEnd" =
      some (.enum "OnEnd" [⟨"Up", "up"⟩]) := by
  obtain ⟨-, hnames, -, hstrict, hcall⟩ :=
    registry_keeps_account true contestedCalls [.struct "OnTap" [⟨"x", "int"⟩]]
  obtain ⟨-, -, hlax, -, -⟩ := registry_keeps_account false (contestedCalls.take 2) []
  refine ⟨hnames.trans (by decide), (hstrict rfl "OnEnd").1, ?_, ?_, hlax rfl "OnEnd"⟩
  · exact (hstrict rfl "OnTap").2 _ (hstrict rfl "OnTap").1
  · exact (hcall (.enum "OnTap" [])).2.1 rfl _ (hstrict rfl "OnTap").1 (by decide)

end EventHeader.Registry
