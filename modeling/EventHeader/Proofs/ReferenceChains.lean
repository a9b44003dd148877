import EventHeader.Proofs.DeclarationOrder
import Mathlib.Logic.Relation

/- References between the declarations of a component. What a struct refers to is named by
   the name of the struct with the identifier of the field after it, since the nodes below
   a node have longer paths. This holds of every declaration that any node may have, so it
   does not matter which of them a registry has kept, in what order or over which others
   (`Settled.field_type`). Along a chain of references names get longer and longer; hence
   no chain comes back to where it began, and declarations put in order of the length of
   their names, longest first, are grounded, also where the registry has lost the order
   (`references_extend_names`).

   A field of a single value refers to nothing, also where an event hides its type
   (`declared_builtin_iff`). -/
namespace EventHeader.Payload
open EventHeader.Declaration

/-- Whether a declaration is a struct with a field whose type is another one. -/
def Refers (d e : Declaration) : Prop := e.name ∈ d.referencedTypes ∧ ¬ IsBuiltin e.name

/-- A chain of references among some declarations, of one reference at least. -/
def Chain (ds : List Declaration) : Declaration → Declaration → Prop :=
  Relation.TransGen fun d e => d ∈ ds ∧ e ∈ ds ∧ Refers d e

theorem mem_fieldsAt {path : List String} {properties : List Property} {f : Field}
    (h : f ∈ fieldsAt path properties) (hb : ¬ IsBuiltin f.type) :
    f.type = Identifier.ofPath path ++ Identifier.ofText f.name := by
  obtain ⟨⟨name, optional, type⟩, -, rfl⟩ := List.mem_map.mp h
  have hname : Identifier.ofPath path ++ Identifier.ofText name =
      Identifier.ofPath (path ++ [name]) := by
    rw [Identifier.ofPath_append, Identifier.ofPath_singleton]
  -- All but single values are named by the way to them.
  cases type with
  | primitive p => exact absurd ⟨p, rfl⟩ hb
  | _ => exact hname.symm

/-- A struct that any node may have declares its fields with types that extend its name. -/
theorem field_type_of_mem_declarations {ns : List Node} {name : String} {fields : List Field}
    (h : .struct name fields ∈ declarations ns) {f : Field} (hf : f ∈ fields)
    (hb : ¬ IsBuiltin f.type) : f.type = name ++ Identifier.ofText f.name := by
  obtain ⟨n, -, hdecl⟩ := mem_declarations.mp h
  cases n with
  | object path properties =>
    cases hdecl
    exact mem_fieldsAt hf hb
  | stringEnum path options =>
    obtain ⟨-, hd⟩ := Node.declaration_stringEnum hdecl
    cases hd
  | foreign path kind => cases hdecl

/-! ## Orders -/

/-- Declarations that refer to longer names only are grounded if those come first. -/
theorem grounded_of_sorted {known : List String} {ds : List Declaration}
    (hsorted : ds.Pairwise (fun d e => e.name.length ≤ d.name.length))
    (hlonger : ∀ d ∈ ds, ∀ t ∈ d.referencedTypes, IsBuiltin t ∨ t ∈ known ∨
      d.name.length < t.length ∧ t ∈ ds.map Declaration.name) : Grounded known ds := by
  induction ds generalizing known with
  | nil => trivial
  | cons d rest ih =>
    obtain ⟨hfirst, hrest⟩ := List.pairwise_cons.mp hsorted
    constructor
    · -- No name as long as that stands in the list, so it is one of those before.
      intro t ht
      rcases hlonger d List.mem_cons_self t ht with hb | hk | ⟨hlength, hmem⟩
      · exact Or.inl hb
      · exact Or.inr hk
      · obtain ⟨e, he, rfl⟩ := List.mem_map.mp hmem
        rcases List.mem_cons.mp he with rfl | he
        · exact absurd hlength (Nat.lt_irrefl _)
        · exact absurd hlength (Nat.not_lt.mpr (hfirst e he))
    · apply ih hrest
      intro e he t ht
      rcases hlonger e (List.mem_cons_of_mem d he) t ht with hb | hk | ⟨hlength, hmem⟩
      · exact Or.inl hb
      · exact Or.inr (Or.inl (List.mem_append_left _ hk))
      · rcases List.mem_cons.mp hmem with hname | hmem
        · exact Or.inr (Or.inl (List.mem_append_right _ (hname ▸ List.mem_singleton_self _)))
        · exact Or.inr (Or.inr ⟨hlength, hmem⟩)

/-- Some declarations, those with the longest names first. -/
def longestFirst (ds : List Declaration) : List Declaration :=
  ds.mergeSort fun d e => decide (e.name.length ≤ d.name.length)

theorem longestFirst_perm (ds : List Declaration) : (longestFirst ds).Perm ds :=
  List.mergeSort_perm ds _

theorem longestFirst_sorted (ds : List Declaration) :
    (longestFirst ds).Pairwise (fun d e => e.name.length ≤ d.name.length) := by
  have htrans : ∀ a b c : Declaration, decide (b.name.length ≤ a.name.length) = true →
      decide (c.name.length ≤ b.name.length) = true →
      decide (c.name.length ≤ a.name.length) = true := by
    intro a b c hab hbc
    simp only [decide_eq_true_eq] at hab hbc ⊢
    exact Nat.le_trans hbc hab
  have htotal : ∀ a b : Declaration, (decide (b.name.length ≤ a.name.length) ||
      decide (a.name.length ≤ b.name.length)) = true := by
    intro a b
    simp only [Bool.or_eq_true, decide_eq_true_eq]
    omega
  apply (List.pairwise_mergeSort htrans htotal ds).imp
  intro d e hde
  exact of_decide_eq_true hde

/-! ## Components -/

section
variable {strict : Bool} {events : List Event} {ds : List Declaration}

theorem Settled.field_type {ns : List Node} (h : Settled strict ns ds) {name : String}
    {fields : List Field} (hd : .struct name fields ∈ ds) {f : Field} (hf : f ∈ fields)
    (hb : ¬ IsBuiltin f.type) : f.type = name ++ Identifier.ofText f.name :=
  field_type_of_mem_declarations (h.mem hd) hf hb

theorem Settled.length_lt {ns : List Node} (h : Settled strict ns ds) {d : Declaration}
    (hd : d ∈ ds) {t : String} (ht : t ∈ d.referencedTypes) (hb : ¬ IsBuiltin t) :
    d.name.length < t.length := by
  cases d with
  | struct name fields =>
    obtain ⟨f, hf, rfl⟩ := List.mem_map.mp ht
    have hpos := Identifier.ofText_length_pos f.name
    rw [h.field_type hd hf hb, String.length_append]
    show name.length < _
    omega
  | enum name cases => exact absurd ht List.not_mem_nil

theorem Settled.chain_length_lt {ns : List Node} (h : Settled strict ns ds) {d e : Declaration}
    (hchain : Chain ds d e) : d.name.length < e.name.length := by
  induction hchain with
  | single hde => exact h.length_lt hde.1 hde.2.2.1 hde.2.2.2
  | tail _ hde ih => exact Nat.lt_trans ih (h.length_lt hde.1 hde.2.2.1 hde.2.2.2)

theorem Settled.grounded_longestFirst (h : Settled strict (events.flatMap eventNodes) ds) :
    Grounded [] (longestFirst ds) := by
  apply grounded_of_sorted (longestFirst_sorted ds)
  intro d hd t ht
  have hmem := (longestFirst_perm ds).mem_iff.mp hd
  by_cases hb : IsBuiltin t
  · exact Or.inl hb
  · right
    right
    refine ⟨h.length_lt hmem ht hb, ?_⟩
    have honce := h.referenced_declaredOnce hmem ht hb
    apply ((longestFirst_perm ds).map Declaration.name).mem_iff.mpr
    exact List.count_pos_iff.mp (honce ▸ Nat.one_pos)

end

/-- The type of a field that is not one of single values is the name of the struct with the
identifier of the field after it. So no chain of references comes back to its start, and the
declarations can be put in an order in which each refers only to those before it. -/
theorem references_extend_names {σ : Type} (component : String) (c : Component) (strict : Bool)
    (s : σ) (cls : EmitterClass)
    (h : ((EmitterClass.ofComponent component c strict).run s).result = .ok cls) :
    (∀ (name : String) (fields : List Field), .struct name fields ∈ cls.declarations →
      ∀ f ∈ fields, ¬ IsBuiltin f.type →
        f.type = name ++ Identifier.ofText f.name ∧ name.length < f.type.length) ∧
    (∀ d, ¬ Chain cls.declarations d d) ∧
    ∃ order : List Declaration, order.Perm cls.declarations ∧ Grounded [] order := by
  obtain ⟨hsettled, -, -⟩ := ofComponent_ok h
  refine ⟨?_, ?_, ?_⟩
  · intro name fields hd f hf hb
    exact ⟨hsettled.field_type hd hf hb, hsettled.length_lt hd (List.mem_map_of_mem hf) hb⟩
  · intro d hchain
    exact Nat.lt_irrefl _ (hsettled.chain_length_lt hchain)
  · exact ⟨_, longestFirst_perm cls.declarations, Settled.grounded_longestFirst hsettled⟩

/-- Two events of which the second declares the struct nested in the first once more. -/
def nestedTwice : Component :=
  ⟨[⟨"onA", false, .direct, some [⟨"b", false, .object []⟩]⟩,
    ⟨"onAB", false, .direct, some [⟨"c", false, .stringEnum ["x"]⟩]⟩]⟩

/-- Its class without strict names, in which a struct stands before the enum it refers to. -/
def nestedTwiceClass : EmitterClass :=
  ⟨"MyView",
    [.struct "OnAB" [⟨"c", "OnABC"⟩], .struct "OnA" [⟨"b", "OnAB"⟩],
      .enum "OnABC" [⟨"X", "x"⟩]],
    ["void onA(OnA value) const;", "void onAB(OnAB value) const;"]⟩

theorem references_extend_names_overwritten :
    ((EmitterClass.ofComponent "MyView" nestedTwice false).run ()).result = .ok nestedTwiceClass ∧
    "OnABC" = "OnAB" ++ Identifier.ofText "c" ∧
    (∀ d, ¬ Chain nestedTwiceClass.declarations d d) ∧
    ∃ order : List Declaration, order.Perm nestedTwiceClass.declarations ∧ Grounded [] order := by
  obtain ⟨htype, hchain, horder⟩ :=
    references_extend_names "MyView" nestedTwice false () nestedTwiceClass rfl
  have hb : ¬ IsBuiltin "OnABC" := by
    intro ⟨p, hp⟩
    cases p <;> exact absurd hp (by decide)
  have hfield := htype "OnAB" [⟨"c", "OnABC"⟩] List.mem_cons_self ⟨"c", "OnABC"⟩
    List.mem_cons_self hb
  exact ⟨rfl, hfield.1, hchain, horder⟩

end EventHeader.Payload
