import EventHeader.Include
import EventHeader.Proofs.PropertyDepth
import Mathlib.Data.List.Basic

/- The include directives of payloads as sets. What is kept in the order of the code points
   is determined by its members (`IsSetOf.unique`), so that it makes no difference in what
   order directives were found. The members of the set of some events are the directives
   that the properties of their payloads need, at whatever depth these lie
   (`isSetOf_ofEvents`). -/
namespace EventHeader.Include

/-- A list that holds, in order and once each, the directives with a property. -/
structure IsSetOf (set : List String) (P : String → Prop) : Prop where
  sorted : set.Pairwise (· < ·)
  mem_iff : ∀ d, d ∈ set ↔ P d

variable {d directive : String} {set others : List String} {P Q : String → Prop}

/-! ## Ordered sets -/

theorem mem_insert : d ∈ insert directive set ↔ d = directive ∨ d ∈ set := by
  induction set with
  | nil => simp [insert]
  | cons first rest ih =>
    rw [insert]
    split
    · rename_i hfirst
      subst hfirst
      simp
    · split
      · exact List.mem_cons
      · simp only [List.mem_cons, ih, or_left_comm]

theorem sorted_insert (h : set.Pairwise (· < ·)) : (insert directive set).Pairwise (· < ·) := by
  induction set with
  | nil => exact List.pairwise_singleton _ _
  | cons first rest ih =>
    obtain ⟨hfirst, hrest⟩ := List.pairwise_cons.mp h
    rw [insert]
    split
    · exact h
    -- The new directive comes in front if it is less than the first, and else further on.
    · rename_i hne
      split
      · rename_i hlt
        apply List.pairwise_cons.mpr
        refine ⟨?_, h⟩
        intro other hother
        rcases List.mem_cons.mp hother with rfl | hother
        · exact hlt
        · exact String.lt_trans hlt (hfirst other hother)
      · rename_i hnlt
        apply List.pairwise_cons.mpr
        refine ⟨?_, ih hrest⟩
        intro other hother
        rcases mem_insert.mp hother with rfl | hother
        · -- Not equal to the first and not before it, the new directive comes after it.
          apply Classical.byContradiction
          intro hngt
          exact hne (String.le_antisymm (String.not_lt.mp hngt) (String.not_lt.mp hnlt))
        · exact hfirst other hother

theorem isSetOf_nil : IsSetOf [] (fun _ => False) where
  sorted := List.Pairwise.nil
  mem_iff := by simp

theorem IsSetOf.congr (h : IsSetOf set P) (hiff : ∀ d, P d ↔ Q d) : IsSetOf set Q where
  sorted := h.sorted
  mem_iff := fun d => (h.mem_iff d).trans (hiff d)

theorem IsSetOf.union (h : IsSetOf set P) (hothers : IsSetOf others Q) :
    IsSetOf (union set others) (fun d => P d ∨ Q d) := by
  have hunion : ∀ directives : List String,
      IsSetOf (Include.union directives others) (fun d => d ∈ directives ∨ Q d) := by
    intro directives
    induction directives with
    | nil => exact hothers.congr (by simp)
    | cons first rest ih =>
      constructor
      · exact sorted_insert ih.sorted
      · intro d
        show d ∈ Include.insert first (Include.union rest others) ↔ _
        rw [mem_insert, ih.mem_iff, List.mem_cons, or_assoc]
  exact (hunion set).congr fun d => or_congr_left (h.mem_iff d)

theorem IsSetOf.unique (h : IsSetOf set P) (h' : IsSetOf others P) : set = others := by
  have hnodup : ∀ {s : List String}, s.Pairwise (· < ·) → s.Nodup := by
    intro s hs
    apply hs.imp
    intro a b hab heq
    exact String.lt_irrefl b (heq ▸ hab)
  have hperm : set.Perm others := by
    apply (List.perm_ext_iff_of_nodup (hnodup h.sorted) (hnodup h'.sorted)).mpr
    intro d
    exact (h.mem_iff d).trans (h'.mem_iff d).symm
  apply hperm.eq_of_pairwise _ h.sorted h'.sorted
  intro a b _ _ hab hba
  exact absurd hba (String.lt_asymm hab)

/-! ## What payloads need -/

/-- A directive that a property needs for its own type. -/
def OwnNeed (type : PropertyType) (d : String) : Prop :=
  ∃ k, type = .primitive k ∧ k.include? = some d

/-- A directive that some properties need, at any depth. -/
def Needed (properties : List Property) (d : String) : Prop :=
  ∃ depth p, PropertyAt properties depth p ∧ OwnNeed p.type d

/-- A directive that a type needs, itself or for what lies inside of it. -/
def TypeNeed (type : PropertyType) (d : String) : Prop :=
  OwnNeed type d ∨ ∃ inner, type = .object inner ∧ Needed inner d

theorem needed_nil : ¬ Needed [] d := by
  intro ⟨_, _, hp, _⟩
  exact not_propertyAt_nil hp

theorem needed_cons {p : Property} {rest : List Property} :
    Needed (p :: rest) d ↔ TypeNeed p.type d ∨ Needed rest d := by
  constructor
  · intro ⟨depth, q, hq, hneed⟩
    cases hq with
    | own hmem =>
      rcases List.mem_cons.mp hmem with rfl | hmem
      · exact Or.inl (Or.inl hneed)
      · exact Or.inr ⟨1, q, .own hmem, hneed⟩
    | nested hmem hobject hinside =>
      rcases List.mem_cons.mp hmem with rfl | hmem
      · exact Or.inl (Or.inr ⟨_, hobject, _, q, hinside, hneed⟩)
      · exact Or.inr ⟨_, q, .nested hmem hobject hinside, hneed⟩
  · intro h
    rcases h with (hneed | ⟨inner, hobject, depth, q, hq, hneed⟩) | ⟨depth, q, hq, hneed⟩
    · exact ⟨1, p, .own List.mem_cons_self, hneed⟩
    · exact ⟨depth + 1, q, .nested List.mem_cons_self hobject hq, hneed⟩
    · cases hq with
      | own hmem => exact ⟨1, q, .own (List.mem_cons_of_mem p hmem), hneed⟩
      | nested hmem hobject hinside =>
        exact ⟨_, q, .nested (List.mem_cons_of_mem p hmem) hobject hinside, hneed⟩

theorem bind_eq_ok {α β : Type} {x : Except GenerationError α}
    {f : α → Except GenerationError β} {b : β} (h : (x >>= f) = .ok b) :
    ∃ a, x = .ok a ∧ f a = .ok b := by
  cases x with
  | error e => cases h
  | ok a => exact ⟨a, rfl, h⟩

theorem isSetOf_toList (k : Primitive) :
    IsSetOf k.include?.toList (fun d => k.include? = some d) := by
  constructor
  · cases k.include? with
    | none => exact List.Pairwise.nil
    | some directive => exact List.pairwise_singleton _ _
  · intro d
    exact Option.mem_toList

mutual
theorem isSetOf_ofType : ∀ (type : PropertyType) {set : List String},
    ofType type = .ok set → IsSetOf set (TypeNeed type)
  | .primitive k, _, h => by
    cases h
    apply (isSetOf_toList k).congr
    simp [TypeNeed, OwnNeed]
  | .stringEnum options, _, h => by
    cases h
    apply isSetOf_nil.congr
    simp [TypeNeed, OwnNeed]
  | .object properties, _, h => by
    apply (isSetOf_ofProperties properties h).congr
    simp [TypeNeed, OwnNeed]
  | .foreign kind, _, h => by cases h

theorem isSetOf_ofProperties : ∀ (properties : List Property) {set : List String},
    ofProperties properties = .ok set → IsSetOf set (Needed properties)
  | [], _, h => by
    cases h
    exact isSetOf_nil.congr fun d => (iff_false_intro needed_nil).symm
  | ⟨name, optional, type⟩ :: rest, _, h => by
    unfold ofProperties at h
    obtain ⟨here, hhere, h⟩ := bind_eq_ok h
    obtain ⟨more, hmore, h⟩ := bind_eq_ok h
    cases h
    apply ((isSetOf_ofType type hhere).union (isSetOf_ofProperties rest hmore)).congr
    intro d
    exact (needed_cons (p := ⟨name, optional, type⟩)).symm
end

/-- A directive that the payloads of some events need. -/
def NeededBy (events : List Event) (d : String) : Prop :=
  ∃ e ∈ events, ∃ payload, e.payload = some payload ∧ Needed payload d

theorem isSetOf_ofEvents {events : List Event} {set : List String}
    (h : ofEvents events = .ok set) : IsSetOf set (NeededBy events) := by
  induction events generalizing set with
  | nil =>
    cases h
    apply isSetOf_nil.congr
    simp [NeededBy]
  | cons e rest ih =>
    unfold ofEvents at h
    obtain ⟨here, hhere, h⟩ := bind_eq_ok h
    obtain ⟨more, hmore, h⟩ := bind_eq_ok h
    cases h
    apply ((isSetOf_ofProperties _ hhere).union (ih hmore)).congr
    intro d
    have hpayload : Needed (e.payload.getD []) d ↔
        ∃ payload, e.payload = some payload ∧ Needed payload d := by
      cases e.payload with
      | none => simp [needed_nil]
      | some payload => simp
    simp only [NeededBy, List.exists_mem_cons_iff, hpayload]

end EventHeader.Include
