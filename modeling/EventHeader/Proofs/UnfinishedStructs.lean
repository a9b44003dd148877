import EventHeader.Proofs.RegistryCalls
import EventHeader.Proofs.SettlingFaults

/- What a struct that is not finished leaves in the registry. Its nodes are settled one after
   another, each after all nodes below it, until one is refused: because it has no declaration,
   or because a strict registry has another of its name (`Node.RefusedBy`). A refused node
   leaves the registry as it found it (`settle_error_state`), so what remains are the
   declarations of the nodes before it (`settleAll_stopped`).

   Which nodes these are follows from their order. The nodes settled up to any moment come with
   everything below them (`closedBelow_typeNodes`), so none of them can be an object around the
   refused node, which itself is not among them. `unfinished_struct_keeps_nodes_before` puts
   this together. -/
namespace EventHeader.Payload
open EventHeader.Declaration

variable {r : Registry} {component : String} {n : Node} {ms ns before after : List Node}
  {e : GenerationError}

def Node.below : Node → List Node
  | .object path properties => propertyNodes path properties
  | .stringEnum _ _ => []
  | .foreign _ _ => []

/-- Why a node cannot be settled in a registry: it has no declaration, or the registry is
strict and has another one of its name. -/
inductive Node.RefusedBy (r : Registry) (n : Node) : GenerationError → Prop
  | undeclared {cause} : n.declaration = .error cause → RefusedBy r n cause
  | taken {d old} : r.strict = true → n.declaration = .ok d → r.find? d.name = some old →
      old ≠ d → RefusedBy r n (.nameCollision d.name)

/-! ## The moment of the refusal -/

theorem settle_error_iff_refused :
    ((n.settle component).run r).result = .error e ↔ n.RefusedBy r e := by
  -- A node without a declaration never comes to the registry.
  cases hd : n.declaration with
  | error cause =>
    obtain ⟨report, hsettle⟩ := Node.settle_of_error component hd
    rw [hsettle]
    constructor
    · intro h
      cases h
      exact .undeclared hd
    · intro h
      cases h with
      | undeclared h =>
        rw [hd] at h
        cases h
        rfl
      | taken _ h => cases hd.symm.trans h
  | ok d =>
    rw [Node.settle_of_ok component hd, Registry.register_error_iff]
    constructor
    · rintro ⟨hs, rfl, old, hold, hne⟩
      exact .taken hs hd hold hne
    · intro h
      cases h with
      | undeclared h => cases hd.symm.trans h
      | taken hs h hold hne =>
        cases hd.symm.trans h
        exact ⟨hs, rfl, _, hold, hne⟩

theorem settle_error_state (h : ((n.settle component).run r).result = .error e) :
    ((n.settle component).run r).state = r := by
  cases hd : n.declaration with
  | error cause =>
    obtain ⟨report, hsettle⟩ := Node.settle_of_error component hd
    rw [hsettle]
    rfl
  | ok d =>
    rw [Node.settle_of_ok component hd] at h ⊢
    exact (Registry.register_error_state h).1

theorem settleAll_calls (h : ((settleAll component ns).run r).result = .ok ()) :
    r.accepted (declarations ns) = declarations ns ∧
      ((settleAll component ns).run r).state = r.afterCalls (declarations ns) := by
  obtain ⟨-, hstate, hadmits⟩ := settleAll_ok h
  have haccepted := Registry.accepted_of_admits hadmits
  exact ⟨haccepted, by rw [hstate, Registry.afterCalls_eq, haccepted]⟩

/-- A sequence that stops does so at one node, with the registry that the nodes before it
have made. -/
theorem settleAll_stopped (h : ((settleAll component ns).run r).result = .error e) :
    ∃ before n after, ns = before ++ n :: after ∧ (∀ m ∈ before, m.Declared) ∧
      r.accepted (declarations before) = declarations before ∧
      ((settleAll component ns).run r).state = r.afterCalls (declarations before) ∧
      n.RefusedBy (r.afterCalls (declarations before)) e := by
  obtain ⟨before, n, after, rfl, hbefore, hn⟩ := settleAll_error.mp h
  obtain ⟨haccepted, hstate⟩ := settleAll_calls hbefore
  refine ⟨before, n, after, rfl, (settleAll_ok hbefore).1, haccepted, ?_, ?_⟩
  · rw [settleAll_append, settleAll, Action.state_bind_ok hbefore, Action.state_bind_error hn,
      settle_error_state hn, hstate]
  · rw [← hstate]
    exact settle_error_iff_refused.mp hn

/-! ## The nodes before the refused one -/

/-- Whether a list of nodes has, with each of its nodes, all nodes below that. -/
def ClosedBelow (ns : List Node) : Prop := ∀ m ∈ ns, ∀ n ∈ m.below, n ∈ ns

theorem closedBelow_append (hms : ClosedBelow ms) (hns : ClosedBelow ns) :
    ClosedBelow (ms ++ ns) := by
  intro m hm n hn
  obtain hm | hm := List.mem_append.mp hm
  · exact List.mem_append_left _ (hms m hm n hn)
  · exact List.mem_append_right _ (hns m hm n hn)

theorem closedBelow_of_prefix_singleton (hn : n.below = []) (h : before <+: [n]) :
    ClosedBelow before := by
  intro m hm k hk
  rw [List.mem_singleton.mp (h.subset hm), hn] at hk
  exact absurd hk List.not_mem_nil

theorem prefix_append_cases (h : before <+: ms ++ ns) :
    before <+: ms ∨ ∃ rest, rest <+: ns ∧ before = ms ++ rest := by
  obtain h' | ⟨rest, rfl⟩ := List.prefix_or_prefix_of_prefix h (List.prefix_append ms ns)
  · exact Or.inl h'
  · exact Or.inr ⟨rest, (List.prefix_append_right_inj ms).mp h, rfl⟩

mutual
/-- Up to any moment, nodes come with everything below them. -/
theorem closedBelow_typeNodes : ∀ (type : PropertyType) (path : List String)
    {before : List Node}, before <+: typeNodes path type → ClosedBelow before
  | .primitive _, _, before, h => by
    rw [List.prefix_nil.mp h]
    exact fun _ hm => absurd hm List.not_mem_nil
  | .stringEnum _, _, _, h => closedBelow_of_prefix_singleton rfl h
  | .foreign _, _, _, h => closedBelow_of_prefix_singleton rfl h
  | .object properties, path, before, h => by
    obtain rfl | h := List.prefix_concat_iff.mp h
    · -- The object itself comes last, when all that is below it is there.
      intro m hm n hn
      obtain hm | hm := List.mem_append.mp hm
      · exact List.mem_append_left _
          (closedBelow_propertyNodes properties path List.prefix_rfl m hm n hn)
      · rw [List.mem_singleton.mp hm] at hn
        exact List.mem_append_left _ hn
    · exact closedBelow_propertyNodes properties path h

theorem closedBelow_propertyNodes : ∀ (properties : List Property) (path : List String)
    {before : List Node}, before <+: propertyNodes path properties → ClosedBelow before
  | [], _, before, h => by
    rw [List.prefix_nil.mp h]
    exact fun _ hm => absurd hm List.not_mem_nil
  | ⟨name, _, type⟩ :: rest, path, before, h => by
    obtain hfirst | ⟨others, hothers, rfl⟩ := prefix_append_cases h
    · exact closedBelow_typeNodes type (path ++ [name]) hfirst
    · exact closedBelow_append (closedBelow_typeNodes type (path ++ [name]) List.prefix_rfl)
        (closedBelow_propertyNodes rest path hothers)
end

theorem not_mem_of_refusedBy (hdecl : ∀ m ∈ before, m.Declared)
    (haccepted : r.accepted (declarations before) = declarations before)
    (hn : n.RefusedBy (r.afterCalls (declarations before)) e) : n ∉ before := by
  intro hmem
  obtain ⟨d, hd⟩ := hdecl n hmem
  cases hn with
  | undeclared h => cases hd.symm.trans h
  | taken hs h hold hne =>
    cases hd.symm.trans h
    have hstrict : r.strict = true := Registry.strict_afterCalls.symm.trans hs
    -- A strict registry answers with what it has accepted.
    have hfind := Registry.find?_placeAll_of_mem
      (haccepted ▸ Registry.admits_accepted hstrict (declarations before))
      (mem_declarations.mpr ⟨n, hmem, hd⟩)
    rw [Registry.afterCalls_eq, haccepted, hfind] at hold
    exact hne (Option.some.inj hold).symm

/-! ## A struct that is not finished -/

theorem registerStruct_error (path : List String) (properties : List Property) :
    ((registerStruct component path properties).run r).result = .error e ↔
      ((settleAll component (typeNodes path (.object properties))).run r).result = .error e := by
  rw [registerStruct_eq, Action.bind_error]
  simp

/-- A struct that is refused leaves the registry as the nodes before the refused one have made
it, each by one call that was accepted, in their order: objects after all that is below them.
Neither the refused node nor an object around it is among them, the struct itself least of all.
In a strict registry what was there before is still there, at its place. -/
theorem unfinished_struct_keeps_nodes_before (component : String) (path : List String)
    (properties : List Property) (r : Registry) (e : GenerationError)
    (h : ((registerStruct component path properties).run r).result = .error e) :
    ∃ before n after, typeNodes path (.object properties) = before ++ n :: after ∧
      (∀ m ∈ before, m.Declared) ∧
      r.accepted (declarations before) = declarations before ∧
      ((registerStruct component path properties).run r).state =
        r.afterCalls (declarations before) ∧
      n.RefusedBy (r.afterCalls (declarations before)) e ∧
      n ∉ before ∧ (∀ m, n ∈ m.below → m ∉ before) ∧ .object path properties ∉ before ∧
      (r.strict = true →
        r.declarations <+: ((registerStruct component path properties).run r).state.declarations) := by
  rw [registerStruct_error] at h
  obtain ⟨before, n, after, hsplit, hdecl, haccepted, hstate, hrefused⟩ := settleAll_stopped h
  have hrun : ((registerStruct component path properties).run r).state =
      r.afterCalls (declarations before) := by
    rw [registerStruct_eq, Action.state_bind_error h, hstate]
  -- With a node all that is below it has been settled, so none around the refused one has.
  have hclosed : ClosedBelow before :=
    closedBelow_typeNodes (.object properties) path ⟨n :: after, hsplit.symm⟩
  have hnotin : n ∉ before := not_mem_of_refusedBy hdecl haccepted hrefused
  have haround : ∀ m, n ∈ m.below → m ∉ before :=
    fun m hm hmem => hnotin (hclosed m hmem n hm)
  refine ⟨before, n, after, hsplit, hdecl, haccepted, hrun, hrefused, hnotin, haround, ?_, ?_⟩
  · have hmem : n ∈ propertyNodes path properties ++ [.object path properties] := by
      show n ∈ typeNodes path (.object properties)
      simp [hsplit]
    obtain hmem | hmem := List.mem_append.mp hmem
    · exact haround _ hmem
    · exact List.mem_singleton.mp hmem ▸ hnotin
  · intro hs
    rw [hrun]
    exact Registry.prefix_afterCalls hs (declarations before)

/-- A payload whose second object is refused for the enum in it, before the property of a
foreign kind is looked at. -/
def brokenPayload : List Property :=
  [⟨"range", false, .object [⟨"unit", false, .stringEnum ["px"]⟩]⟩,
    ⟨"source", false, .object [⟨"mode", false, .stringEnum ["a b", "a-b"]⟩]⟩,
    ⟨"rest", false, .foreign (.string "Function")⟩]

def brokenError : GenerationError := .caseCollision "OnMoveSourceMode" "AB" ["a b", "a-b"]

def startedRegistry : Registry := ⟨true, [.struct "OnTap" []]⟩

theorem unfinished_struct_keeps_nodes_before_broken :
    ((registerStruct "View" ["onMove"] brokenPayload).run startedRegistry).result =
      .error brokenError ∧
    ∃ before, before <+: typeNodes ["onMove"] (.object brokenPayload) ∧
      .object ["onMove"] brokenPayload ∉ before ∧
      startedRegistry.afterCalls (declarations before) = ⟨true,
        [.struct "OnTap" [], .enum "OnMoveRangeUnit" [⟨"Px", "px"⟩],
          .struct "OnMoveRange" [⟨"unit", "OnMoveRangeUnit"⟩]]⟩ := by
  have herror : ((registerStruct "View" ["onMove"] brokenPayload).run startedRegistry).result =
      .error brokenError := rfl
  obtain ⟨before, n, after, hsplit, -, -, hstate, -, -, -, hself, -⟩ :=
    unfinished_struct_keeps_nodes_before "View" ["onMove"] brokenPayload startedRegistry _ herror
  exact ⟨herror, before, ⟨n :: after, hsplit.symm⟩, hself, hstate.symm⟩

end EventHeader.Payload
