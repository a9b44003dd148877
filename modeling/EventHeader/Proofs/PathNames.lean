import EventHeader.Proofs.KeptCharacters
import EventHeader.Proofs.UnfinishedStructs

/- Names of paths. The name of a path that goes on begins with the name of the path
   (`ofPath_append`) and is longer, since every text leaves something in it. The nodes below
   a node of a payload have paths that go on from its path, so none of them is named like the
   node (`length_name_lt_of_below`), whatever the properties on the way are called.

   What is settled for the fields of an object is named like its nodes. So a registry still
   answers the names of the object and of the objects around it as it did before
   (`find?_structFields`), also where a field has been refused: what an object is declared
   as is never decided by what is nested in it. -/
namespace EventHeader.Payload
open EventHeader.Declaration
open Identifier (IsIdentifier ofPath ofText)

variable {r : Registry} {component t : String} {m n : Node} {ns : List Node}
  {path around deeper : List String} {properties : List Property}

/-! ## Nodes -/

theorem path_of_mem_below (h : n ∈ m.below) : ∃ name, m.path ++ [name] <+: n.path := by
  cases m with
  | object path properties => exact path_of_mem_propertyNodes properties path n h
  | stringEnum path options => exact absurd h List.not_mem_nil
  | foreign path kind => exact absurd h List.not_mem_nil

theorem length_ofPath_lt_of_prefix {name : String} (h : path ++ [name] <+: deeper) :
    (ofPath path).length < (ofPath deeper).length := by
  obtain ⟨more, rfl⟩ := h
  rw [List.append_assoc]
  exact Identifier.length_ofPath_lt (by simp)

theorem length_name_lt_of_below (h : n ∈ m.below) :
    (ofPath m.path).length < (ofPath n.path).length := by
  obtain ⟨name, hpath⟩ := path_of_mem_below h
  exact length_ofPath_lt_of_prefix hpath

/-! ## Runs -/

/-- A node that is settled, or refused, changes no name but its own. -/
theorem find?_settle (h : ofPath n.path ≠ t) :
    ((n.settle component).run r).state.find? t = r.find? t := by
  cases hresult : ((n.settle component).run r).result with
  | error e => rw [settle_error_state hresult]
  | ok =>
    -- What is put into the registry has the name of the node.
    obtain ⟨d, hd, hstate, -⟩ := settle_ok hresult
    rw [hstate]
    apply Registry.find?_place_other
    rw [Node.declaration_name hd]
    exact h

theorem find?_settleAll (h : ∀ n ∈ ns, ofPath n.path ≠ t) :
    ((settleAll component ns).run r).state.find? t = r.find? t := by
  induction ns generalizing r with
  | nil => rfl
  | cons n rest ih =>
    obtain ⟨hn, hrest⟩ := List.forall_mem_cons.mp h
    have hfirst : ((n.settle component).run r).state.find? t = r.find? t := find?_settle hn
    rw [settleAll]
    cases hresult : ((n.settle component).run r).result with
    | error e => rw [Action.state_bind_error hresult, hfirst]
    | ok => rw [Action.state_bind_ok hresult, ih hrest, hfirst]

/-- Settling the fields of an object leaves what is declared under its name, and under the
names of the objects around it, as it was. -/
theorem find?_structFields (h : around <+: path) :
    ((structFields component path properties).run r).state.find? (ofPath around) =
      r.find? (ofPath around) := by
  have hstate : ((structFields component path properties).run r).state =
      ((settleAll component (propertyNodes path properties)).run r).state := by
    rw [structFields_eq]
    cases hresult : ((settleAll component (propertyNodes path properties)).run r).result with
    | error e => rw [Action.state_bind_error hresult]
    | ok =>
      rw [Action.state_bind_ok hresult]
      rfl
  rw [hstate]
  apply find?_settleAll
  intro n hn heq
  obtain ⟨name, hpath⟩ := path_of_mem_propertyNodes properties path n hn
  have hlength := length_ofPath_lt_of_prefix hpath
  -- The object is at the path or further down, so its name is not shorter.
  obtain ⟨more, rfl⟩ := h
  rw [heq, Identifier.ofPath_append, String.length_append] at hlength
  omega

/-- The name of a path that goes on is the name of the path with the name of the rest after it,
and longer; the name of a path with anything in it is an identifier, and the identifier of
itself. So a node of a payload has a shorter name than all nodes below it, and never a
declaration of the same name; and whatever becomes of the fields of an object, they change
nothing of what a registry has under the name of the object or of an object around it. -/
theorem path_names_extend (p q : List String) :
    ofPath (p ++ q) = ofPath p ++ ofPath q ∧
    (q ≠ [] → (ofPath p).length < (ofPath (p ++ q)).length) ∧
    (p ≠ [] → IsIdentifier (ofPath p) ∧ ofText (ofPath p) = ofPath p) ∧
    (∀ m n : Node, n ∈ m.below →
      (ofPath m.path).length < (ofPath n.path).length ∧
      ∀ d e, m.declaration = .ok d → n.declaration = .ok e → d.name ≠ e.name) ∧
    ∀ component properties (r : Registry),
      ((structFields component (p ++ q) properties).run r).state.find? (ofPath p) =
        r.find? (ofPath p) := by
  refine ⟨Identifier.ofPath_append p q, Identifier.length_ofPath_lt, ?_, ?_, ?_⟩
  · intro hp
    have hidentifier := Identifier.isIdentifier_ofPath hp
    exact ⟨hidentifier, Identifier.ofText_of_isIdentifier hidentifier⟩
  · intro m n hn
    have hlength := length_name_lt_of_below hn
    refine ⟨hlength, ?_⟩
    intro d e hd he hname
    rw [Node.declaration_name hd, Node.declaration_name he] at hname
    rw [hname] at hlength
    exact Nat.lt_irrefl _ hlength
  · intro component properties r
    exact find?_structFields (List.prefix_append p q)

/-- An object whose only property has no character that is kept, with an enum in it. -/
def dashedProperties : List Property :=
  [⟨"---", false, .object [⟨"4k", false, .stringEnum ["on"]⟩]⟩]

theorem path_names_extend_dashed :
    ofPath (["onMove"] ++ ["---", "4k"]) = "OnMove" ++ ofPath ["---", "4k"] ∧
    ofPath ["---", "4k"] = "__4k" ∧
    (ofPath ["onMove"]).length < (ofPath (["onMove"] ++ ["---", "4k"])).length ∧
    ofText "OnMove" = "OnMove" ∧
    Node.stringEnum ["onMove", "---", "4k"] ["on"] ∈ (Node.object ["onMove"] dashedProperties).below ∧
    ∃ d e, (Node.object ["onMove"] dashedProperties).declaration = .ok d ∧
      (Node.stringEnum ["onMove", "---", "4k"] ["on"]).declaration = .ok e ∧ d.name ≠ e.name := by
  have hname : ofPath ["onMove"] = "OnMove" := by decide
  have hbelow : Node.stringEnum ["onMove", "---", "4k"] ["on"] ∈
      (Node.object ["onMove"] dashedProperties).below := List.mem_cons_self
  obtain ⟨hconcat, hlonger, hidentifier, hnodes, -⟩ := path_names_extend ["onMove"] ["---", "4k"]
  have hfixed := (hidentifier (by decide)).2
  rw [hname] at hconcat hfixed
  exact ⟨hconcat, by decide, hlonger (by decide), hfixed, hbelow, _, _, rfl, rfl,
    (hnodes _ _ hbelow).2 _ _ rfl rfl⟩

end EventHeader.Payload
