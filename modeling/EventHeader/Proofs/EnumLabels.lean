import EventHeader.Payload
import EventHeader.Proofs.ActionLaws
import EventHeader.Proofs.RegistryPlaces
import Mathlib.Data.List.Nodup

/- The labels that the options of a string enum get. Different options may get one
   label, since making an identifier of a text loses much of it. An enum is refused
   exactly if its labels are not all different (`repeatedCase?_eq_none`), and then over
   the label that comes first among the repeated ones, together with all the options
   that share it (`repeatedCase?_eq_some`). An enum that is not refused is put into the
   registry (`registerEnum_ok`), and its lookup answers each label with the option that
   got it (`literalOf_ofText`). -/
namespace EventHeader.Payload
open EventHeader.Declaration

def labels (options : List String) : List String := options.map Identifier.ofText

/-- The first label that several options share, and the options that share it. -/
structure SharedLabel (options : List String) (label : String) (sharing : List String) : Prop where
  repeated : 1 < (labels options).count label
  first : ∃ before after, labels options = before ++ label :: after ∧
    ∀ l ∈ before, (labels options).count l ≤ 1
  shared : sharing = options.filter (fun o => Identifier.ofText o == label)

variable {options sharing : List String} {label : String} {c : Case}

theorem labels_enumCases (options : List String) :
    (enumCases options).map Case.label = labels options := by
  simp [enumCases, labels]

theorem literals_casesOf (label : String) (options : List String) :
    (casesOf label (enumCases options)).map Case.literal =
      options.filter (fun o => Identifier.ofText o == label) := by
  simp [casesOf, enumCases, List.filter_map, Function.comp_def]

theorem length_casesOf (label : String) (options : List String) :
    (casesOf label (enumCases options)).length = (labels options).count label := by
  rw [← labels_enumCases, List.count_eq_length_filter, List.filter_map, List.length_map]
  rfl

theorem label_repeatedCase? (options : List String) :
    (repeatedCase? (enumCases options)).map Case.label =
      (labels options).find? (fun l => 1 < (labels options).count l) := by
  rw [← labels_enumCases, List.find?_map]
  simp only [repeatedCase?, length_casesOf, ← labels_enumCases]
  rfl

theorem repeatedCase?_eq_none :
    repeatedCase? (enumCases options) = none ↔ (labels options).Nodup := by
  rw [← Option.map_eq_none_iff (f := Case.label), label_repeatedCase?, List.find?_eq_none,
    List.nodup_iff_count_le_one]
  constructor
  · intro h l
    by_cases hl : l ∈ labels options
    · simpa using h l hl
    · simp [List.count_eq_zero_of_not_mem hl]
  · intro h l _
    simpa using h l

theorem repeatedCase?_eq_some (h : repeatedCase? (enumCases options) = some c) :
    SharedLabel options c.label ((casesOf c.label (enumCases options)).map Case.literal) := by
  have hl := label_repeatedCase? options
  rw [h, Option.map_some, eq_comm, List.find?_eq_some_iff_append] at hl
  obtain ⟨hc, before, after, hsplit, hbefore⟩ := hl
  refine ⟨of_decide_eq_true hc, ⟨before, after, hsplit, ?_⟩, literals_casesOf _ _⟩
  intro l hl
  simpa using hbefore l hl

theorem SharedLabel.not_nodup (h : SharedLabel options label sharing) :
    ¬ (labels options).Nodup :=
  fun hn => absurd h.repeated (Nat.not_lt.mpr (List.nodup_iff_count_le_one.mp hn label))

/-- Options that share a label are refused over the first label that is shared. -/
theorem SharedLabel.repeatedCase? (h : SharedLabel options label sharing) :
    ∃ c, repeatedCase? (enumCases options) = some c ∧ c.label = label ∧
      (casesOf c.label (enumCases options)).map Case.literal = sharing := by
  have hfind : (labels options).find? (fun l => 1 < (labels options).count l) = some label := by
    obtain ⟨before, after, hsplit, hbefore⟩ := h.first
    rw [List.find?_eq_some_iff_append]
    refine ⟨decide_eq_true h.repeated, before, after, hsplit, ?_⟩
    intro l hl
    simpa using hbefore l hl
  rw [← label_repeatedCase?, Option.map_eq_some_iff] at hfind
  obtain ⟨c, hc, rfl⟩ := hfind
  exact ⟨c, hc, rfl, (literals_casesOf _ _).trans h.shared.symm⟩

/-! ## Enums that are not refused -/

variable {r : Registry} {path : List String} {n : String}

theorem registerEnum_ok (h : ((registerEnum path options).run r).result = .ok n) :
    n = Identifier.ofPath path ∧ (labels options).Nodup ∧
      ((registerEnum path options).run r).state = r.place (.enum n (enumCases options)) := by
  cases hc : repeatedCase? (enumCases options) with
  | some c =>
    simp only [registerEnum, hc] at h
    obtain ⟨_, _, hfail, -⟩ := Action.bind_ok h
    cases hfail
  | none =>
    simp only [registerEnum, hc] at h ⊢
    obtain ⟨_, hregister, hname, hstate⟩ := Action.bind_ok h
    cases hname
    refine ⟨rfl, repeatedCase?_eq_none.mp hc, ?_⟩
    rw [hstate]
    exact (Registry.register_ok hregister).1

/-- Where labels are all different, the lookup gives each option back. -/
theorem literalOf_ofText (n : String) (h : (labels options).Nodup) {o : String}
    (ho : o ∈ options) : (Declaration.enum n (enumCases options)).literalOf
      (Identifier.ofText o) = .ok o := by
  have hfind : ∀ options, (labels options).Nodup → o ∈ options →
      (enumCases options).find? (fun c => c.label == Identifier.ofText o) =
        some ⟨Identifier.ofText o, o⟩ := by
    intro options h ho
    induction options with
    | nil => exact absurd ho List.not_mem_nil
    | cons p options ih =>
      obtain ⟨hp, h⟩ := List.nodup_cons.mp h
      simp only [enumCases, List.map_cons, List.find?_cons]
      rcases List.mem_cons.mp ho with rfl | ho
      · rw [beq_self_eq_true]
      · have hne : Identifier.ofText p ≠ Identifier.ofText o :=
          fun he => hp (he ▸ List.mem_map_of_mem ho)
        rw [beq_false_of_ne hne]
        exact ih h ho
  simp only [literalOf, cases]
  rw [hfind options h ho]

end EventHeader.Payload
