import EventHeader.Registry
import Mathlib.Data.List.Induction

/- What a registry holds after declarations have been put into it.

   1. One declaration: its name answers with it and every other name answers as
      before (`find?_place_self`, `find?_place_other`); a new name comes last and a
      name that is there keeps its place (`names_place`).
   2. A sequence: the names are those of before and of the sequence, each once
      (`mem_names_placeAll`, `nodup_names_placeAll`), and nothing is held that was
      not put in (`mem_placeAll`).
   3. A sequence in which no declaration is lost to another (`Admits`), as a strict
      registry takes it: every declaration of the sequence is found under its name
      for good (`find?_placeAll_of_mem`), and an empty registry admits just the
      sequences in which a name has one declaration (`admits_empty`). -/
namespace EventHeader.Registry
variable {r : Registry} {d e : Declaration} {ds : List Declaration} {n : String}

/-! ## Looking up -/

def lookup (ds : List Declaration) (n : String) : Option Declaration :=
  ds.find? (fun d => d.name == n)

theorem lookup_cons : lookup (d :: ds) n = if d.name = n then some d else lookup ds n := by
  simp only [lookup, List.find?_cons]
  split <;> simp_all

theorem lookup_eq_none : lookup ds n = none ↔ n ∉ ds.map Declaration.name := by
  simp [lookup]

theorem clashes_eq_false :
    r.clashes d = false ↔ r.find? d.name = none ∨ r.find? d.name = some d := by
  unfold clashes
  cases r.find? d.name with
  | none => simp
  | some old => simp

/-! ## One declaration -/

theorem lookup_placed_self : ∀ ds, lookup (placed d ds) d.name = some d
  | [] => by simp [placed, lookup]
  | e :: rest => by
    simp only [placed]
    split
    · simp [lookup_cons]
    · rename_i hne
      rw [lookup_cons, if_neg hne]
      exact lookup_placed_self rest

theorem lookup_placed_other (h : d.name ≠ n) : ∀ ds, lookup (placed d ds) n = lookup ds n
  | [] => by simp [placed, lookup, h]
  | e :: rest => by
    simp only [placed]
    split
    · rename_i he
      rw [lookup_cons, lookup_cons, if_neg h, if_neg (he ▸ h)]
    · rw [lookup_cons, lookup_cons, lookup_placed_other h rest]

theorem names_placed : ∀ ds, (placed d ds).map Declaration.name =
    if d.name ∈ ds.map Declaration.name then ds.map Declaration.name
    else ds.map Declaration.name ++ [d.name]
  | [] => by simp [placed]
  | e :: rest => by
    simp only [placed]
    split
    · rename_i he
      simp [he]
    · rename_i hne
      rw [List.map_cons, names_placed rest, List.map_cons]
      by_cases hm : d.name ∈ rest.map Declaration.name
      · simp [hm]
      · simp [hm, Ne.symm hne]

theorem mem_placed : ∀ {ds}, e ∈ placed d ds → e = d ∨ e ∈ ds
  | [], h => Or.inl (by simpa [placed] using h)
  | f :: rest, h => by
    simp only [placed] at h
    split at h
    · rcases List.mem_cons.mp h with h | h
      · exact Or.inl h
      · exact Or.inr (List.mem_cons_of_mem _ h)
    · rcases List.mem_cons.mp h with h | h
      · exact Or.inr (h ▸ List.mem_cons_self)
      · exact (mem_placed h).imp_right (List.mem_cons_of_mem _)

theorem placed_of_lookup : ∀ {ds}, lookup ds d.name = some d → placed d ds = ds
  | [], h => by simp [lookup] at h
  | e :: rest, h => by
    rw [lookup_cons] at h
    simp only [placed]
    split at h
    · rename_i he
      rw [if_pos he, Option.some.inj h]
    · rename_i hne
      rw [if_neg hne, placed_of_lookup h]

theorem placed_of_lookup_none : ∀ {ds}, lookup ds d.name = none → placed d ds = ds ++ [d]
  | [], _ => rfl
  | e :: rest, h => by
    rw [lookup_cons] at h
    simp only [placed]
    split at h
    · cases h
    · rename_i hne
      rw [if_neg hne, placed_of_lookup_none h, List.cons_append]

theorem find?_place_self (r : Registry) (d : Declaration) : (r.place d).find? d.name = some d :=
  lookup_placed_self r.declarations

theorem find?_place_other (h : d.name ≠ n) : (r.place d).find? n = r.find? n :=
  lookup_placed_other h r.declarations

theorem names_place (r : Registry) (d : Declaration) :
    (r.place d).names = if d.name ∈ r.names then r.names else r.names ++ [d.name] :=
  names_placed r.declarations

theorem mem_names_place : n ∈ (r.place d).names ↔ n ∈ r.names ∨ n = d.name := by
  rw [names_place]
  split
  · rename_i h
    exact ⟨Or.inl, fun hn => hn.elim id (fun hn => hn ▸ h)⟩
  · simp

theorem nodup_names_place (h : r.names.Nodup) : (r.place d).names.Nodup := by
  rw [names_place]
  split
  · exact h
  · rename_i hn
    refine List.nodup_append.mpr ⟨h, by simp, ?_⟩
    intro a ha b hb hab
    rw [List.mem_singleton] at hb
    exact hn (hb ▸ hab ▸ ha)

/-! ## The three ways to register a declaration -/

theorem run_register_unopposed (h : r.clashes d = false) :
    (register d).run r = ⟨.ok (), r.place d, [registered d]⟩ := by
  simp [register, Action.run, h]

theorem run_register_overwriting (h : r.clashes d = true) (hs : r.strict = false) :
    (register d).run r = ⟨.ok (), r.place d, [overwritten d, registered d]⟩ := by
  simp [register, Action.run, h, hs]

theorem run_register_refused (h : r.clashes d = true) (hs : r.strict = true) :
    (register d).run r = ⟨.error (.nameCollision d.name), r, []⟩ := by
  simp [register, Action.run, h, hs]

/-- A declaration that has been registered is in its place, and a strict registry has
lost no other to it. -/
theorem register_ok (h : ((register d).run r).result = .ok ()) :
    ((register d).run r).state = r.place d ∧ (r.strict = true → r.clashes d = false) := by
  cases hc : r.clashes d with
  | false => rw [run_register_unopposed hc]; exact ⟨rfl, fun _ => rfl⟩
  | true =>
    cases hs : r.strict with
    | false =>
      rw [run_register_overwriting hc hs]
      exact ⟨rfl, fun h => by cases h⟩
    | true => rw [run_register_refused hc hs] at h; cases h

/-! ## Sequences of declarations -/

/-- The registry with some declarations put into it, one after another. -/
def placeAll (r : Registry) (ds : List Declaration) : Registry := ds.foldl place r

/-- Whether, put into a registry one after another, no declaration takes the place of a
different one. -/
def Admits : Registry → List Declaration → Prop
  | _, [] => True
  | r, d :: rest => r.clashes d = false ∧ Admits (r.place d) rest

theorem placeAll_cons (r : Registry) (d : Declaration) (ds : List Declaration) :
    r.placeAll (d :: ds) = (r.place d).placeAll ds := rfl

theorem mem_names_placeAll :
    n ∈ (r.placeAll ds).names ↔ n ∈ r.names ∨ n ∈ ds.map Declaration.name := by
  induction ds generalizing r with
  | nil => simp [placeAll]
  | cons d rest ih =>
    rw [placeAll_cons, ih, mem_names_place, List.map_cons, List.mem_cons, or_assoc]

theorem nodup_names_placeAll (h : r.names.Nodup) : (r.placeAll ds).names.Nodup := by
  induction ds generalizing r with
  | nil => exact h
  | cons d rest ih =>
    rw [placeAll_cons]
    exact ih (nodup_names_place h)

theorem mem_placeAll (h : e ∈ (r.placeAll ds).declarations) : e ∈ ds ∨ e ∈ r.declarations := by
  induction ds generalizing r with
  | nil => exact Or.inr h
  | cons d rest ih =>
    rw [placeAll_cons] at h
    rcases ih h with h | h
    · exact Or.inl (List.mem_cons_of_mem _ h)
    · rcases mem_placed h with rfl | h
      · exact Or.inl List.mem_cons_self
      · exact Or.inr h

theorem find?_place (hc : r.clashes d = false) (h : r.find? n = some e) :
    (r.place d).find? n = some e := by
  by_cases hn : d.name = n
  · subst hn
    rcases clashes_eq_false.mp hc with hf | hf
    · rw [hf] at h; cases h
    · rw [find?_place_self, ← hf, h]
  · rw [find?_place_other hn, h]

theorem find?_placeAll (ha : r.Admits ds) (h : r.find? n = some e) :
    (r.placeAll ds).find? n = some e := by
  induction ds generalizing r with
  | nil => exact h
  | cons d rest ih =>
    rw [placeAll_cons]
    exact ih ha.2 (find?_place ha.1 h)

/-- If none is lost to another, every declaration of a sequence is found under its name. -/
theorem find?_placeAll_of_mem (ha : r.Admits ds) (hd : d ∈ ds) :
    (r.placeAll ds).find? d.name = some d := by
  induction ds generalizing r with
  | nil => exact absurd hd List.not_mem_nil
  | cons e rest ih =>
    rw [placeAll_cons]
    rcases List.mem_cons.mp hd with rfl | hd
    · exact find?_placeAll ha.2 (find?_place_self r d)
    · exact ih ha.2 hd

theorem placeAll_append (r : Registry) (ds es : List Declaration) :
    r.placeAll (ds ++ es) = (r.placeAll ds).placeAll es := List.foldl_append

@[simp] theorem strict_placeAll : (r.placeAll ds).strict = r.strict := by
  induction ds generalizing r with
  | nil => rfl
  | cons d rest ih => rw [placeAll_cons, ih]; rfl

theorem admits_append {es : List Declaration} :
    r.Admits (ds ++ es) ↔ r.Admits ds ∧ (r.placeAll ds).Admits es := by
  induction ds generalizing r with
  | nil => simp [Admits, placeAll]
  | cons d rest ih => rw [List.cons_append, Admits, Admits, ih, placeAll_cons, and_assoc]

/-- Where a name has one declaration, a further one clashes if it is a second for its
name. -/
theorem clashes_placeAll {strict : Bool} (ha : (empty strict).Admits ds) :
    ((empty strict).placeAll ds).clashes d = true ↔ ∃ e ∈ ds, e.name = d.name ∧ e ≠ d := by
  constructor
  · intro hc
    unfold clashes at hc
    split at hc
    · rename_i old hold
      have hname : old.name = d.name := by simpa using List.find?_some hold
      have hmem := (mem_placeAll (List.mem_of_find?_eq_some hold)).resolve_right List.not_mem_nil
      exact ⟨old, hmem, hname, by simpa using hc⟩
    · cases hc
  · rintro ⟨e, he, hname, hne⟩
    have hfind := find?_placeAll_of_mem ha he
    rw [hname] at hfind
    simp [clashes, hfind, hne]

theorem admits_empty {strict : Bool} : ∀ ds, (empty strict).Admits ds ↔
    ∀ d ∈ ds, ∀ e ∈ ds, d.name = e.name → d = e := by
  intro ds
  induction ds using List.reverseRecOn with
  | nil => simp [Admits]
  | append_singleton ds c ih =>
    rw [admits_append, Admits, Admits, and_true]
    constructor
    · rintro ⟨ha, hc⟩ d hd e he hname
      have hall := ih.mp ha
      -- The last one has the name of another only if it is the same.
      have hlast : ∀ d ∈ ds, d.name = c.name → d = c := by
        intro d hd hname
        apply Classical.byContradiction
        intro hne
        rw [(clashes_placeAll ha).mpr ⟨d, hd, hname, hne⟩] at hc
        cases hc
      rcases List.mem_append.mp hd with hd | hd <;> rcases List.mem_append.mp he with he | he
      · exact hall d hd e he hname
      · rw [List.mem_singleton.mp he] at hname ⊢
        exact hlast d hd hname
      · rw [List.mem_singleton.mp hd] at hname ⊢
        exact (hlast e he hname.symm).symm
      · rw [List.mem_singleton.mp hd, List.mem_singleton.mp he]
    · intro hall
      have ha := ih.mpr fun d hd e he =>
        hall d (List.mem_append_left _ hd) e (List.mem_append_left _ he)
      refine ⟨ha, ?_⟩
      rw [Bool.eq_false_iff, Ne, clashes_placeAll ha]
      rintro ⟨e, he, hname, hne⟩
      exact hne (hall e (List.mem_append_left _ he) c (List.mem_append_right _ (by simp)) hname)

end EventHeader.Registry
