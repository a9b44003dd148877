import EventHeader.Entries

/- What becomes of the entries of maps. An entry of a map that another one has been merged
   into comes from one of the two (`mem_merge`). A key is looked up in whatever order the
   entries are (`find?_perm`) and whatever other keys are dropped (`find?_drop`) or put
   (`find?_put_other`). A value that is put makes no difference if its key comes again
   (`ofList_shadowed`). -/
namespace EventHeader.Keyed
variable {κ α : Type} [DecidableEq κ] {es fs : Keyed κ α} {key other : κ} {value : α} {e : κ × α}

theorem mem_put (h : e ∈ put es key value) : e = (key, value) ∨ e ∈ es := by
  induction es with
  | nil => exact Or.inl (List.mem_singleton.mp h)
  | cons first rest ih =>
    simp only [put] at h
    split at h
    · exact (List.mem_cons.mp h).imp_right (List.mem_cons_of_mem first)
    · rcases List.mem_cons.mp h with rfl | h
      · exact Or.inr List.mem_cons_self
      · exact (ih h).imp_right (List.mem_cons_of_mem first)

theorem mem_merge (h : e ∈ merge es fs) : e ∈ es ∨ e ∈ fs := by
  induction fs generalizing es with
  | nil => exact Or.inl h
  | cons f rest ih =>
    rcases ih h with h | h
    · rcases mem_put h with rfl | h
      · exact Or.inr List.mem_cons_self
      · exact Or.inl h
    · exact Or.inr (List.mem_cons_of_mem f h)

theorem keys_put (es : Keyed κ α) (key : κ) (value : α) :
    (put es key value).map Prod.fst =
      if key ∈ es.map Prod.fst then es.map Prod.fst else es.map Prod.fst ++ [key] := by
  induction es with
  | nil => rfl
  | cons first rest ih =>
    rw [put]
    by_cases hfirst : first.1 = key
    · simp [hfirst]
    · simp only [if_neg hfirst, List.map_cons, ih, List.mem_cons, Ne.symm hfirst, false_or]
      split <;> rfl

theorem nodup_put (h : (es.map Prod.fst).Nodup) : ((put es key value).map Prod.fst).Nodup := by
  rw [keys_put]
  split
  · exact h
  · rename_i hkey
    apply List.nodup_append.mpr
    refine ⟨h, List.pairwise_singleton _ key, ?_⟩
    intro k hk k' hk' heq
    exact hkey (List.mem_singleton.mp hk' ▸ heq ▸ hk)

/-! ## Looking up -/

theorem find?_cons (e : κ × α) (es : Keyed κ α) (key : κ) :
    find? (e :: es) key = if e.1 = key then some e.2 else find? es key := rfl

theorem mem_of_find? (h : find? es key = some value) : (key, value) ∈ es := by
  induction es with
  | nil => cases h
  | cons first rest ih =>
    rw [find?_cons] at h
    split at h
    · cases h
      rename_i hkey
      exact hkey ▸ List.mem_cons_self
    · exact List.mem_cons_of_mem first (ih h)

theorem find?_put_self : find? (put es key value) key = some value := by
  induction es with
  | nil => simp [put, find?_cons]
  | cons first rest ih =>
    rw [put]
    split
    · simp [find?_cons]
    · rw [find?_cons, if_neg ‹_›, ih]

theorem find?_put_other (h : other ≠ key) : find? (put es key value) other = find? es other := by
  induction es with
  | nil => simp [put, find?, h.symm]
  | cons first rest ih =>
    rw [put]
    split
    · rename_i hfirst
      rw [find?_cons, find?_cons, if_neg h.symm, if_neg (hfirst ▸ h.symm)]
    · rw [find?_cons, find?_cons, ih]

theorem find?_drop (h : other ≠ key) : find? (drop es key) other = find? es other := by
  induction es with
  | nil => rfl
  | cons first rest ih =>
    rw [drop, find?_cons]
    split
    · rename_i hfirst
      rw [ih, if_neg (hfirst ▸ h.symm)]
    · rw [find?_cons, ih]

theorem find?_drop_self : find? (drop es key) key = none := by
  induction es with
  | nil => rfl
  | cons first rest ih =>
    rw [drop]
    split
    · exact ih
    · rename_i hfirst
      rw [find?_cons, if_neg hfirst, ih]

theorem find?_perm (h : es.Perm fs) (distinct : (es.map Prod.fst).Nodup) (key : κ) :
    find? es key = find? fs key := by
  induction h with
  | nil => rfl
  | cons e _ ih => rw [find?_cons, find?_cons, ih (List.nodup_cons.mp distinct).2]
  | swap e e' rest =>
    have hne : e'.1 ≠ e.1 := fun h =>
      (List.nodup_cons.mp distinct).1 (h ▸ List.mem_cons_self)
    simp only [find?_cons]
    by_cases he : e'.1 = key
    · rw [if_pos he, if_pos he, if_neg (fun h => hne (he.trans h.symm))]
    · rw [if_neg he, if_neg he]
  | trans hfirst _ ih ih' =>
    exact (ih distinct).trans (ih' ((hfirst.map Prod.fst).nodup_iff.mp distinct))

/-! ## Putting again -/

theorem put_put (es : Keyed κ α) (key : κ) (value last : α) :
    put (put es key value) key last = put es key last := by
  induction es with
  | nil => simp [put]
  | cons first rest ih =>
    rw [put, put]
    split
    · simp [put]
    · rename_i hfirst
      rw [put, if_neg hfirst, ih]

/-- A key that is there already is replaced where it stands, before or after another. -/
theorem put_comm (hkey : key ∈ es.map Prod.fst) (hother : other ≠ key) (value v : α) :
    put (put es key value) other v = put (put es other v) key value := by
  induction es with
  | nil => exact absurd hkey List.not_mem_nil
  | cons first rest ih =>
    by_cases hfirst : first.1 = key
    · simp [put, hfirst, hother.symm]
    · have hrest : key ∈ rest.map Prod.fst := by
        rcases List.mem_cons.mp hkey with h | h
        · exact absurd h.symm hfirst
        · exact h
      by_cases hsame : first.1 = other
      · simp [put, hsame, hother]
      · simp [put, hfirst, hsame, ih hrest]

theorem merge_cons (es : Keyed κ α) (e : κ × α) (fs : Keyed κ α) :
    merge es (e :: fs) = merge (put es e.1 e.2) fs := rfl

theorem merge_append (es fs gs : Keyed κ α) : merge es (fs ++ gs) = merge (merge es fs) gs :=
  List.foldl_append

theorem key_mem_put (es : Keyed κ α) (key : κ) (value : α) :
    key ∈ (put es key value).map Prod.fst := by
  rw [keys_put]
  split
  · assumption
  · exact List.mem_append_right _ (List.mem_singleton_self key)

/-- The value of a key makes no difference if the key comes again. -/
theorem merge_put_shadowed (h : key ∈ fs.map Prod.fst) (es : Keyed κ α) (value last : α) :
    merge (put es key value) fs = merge (put es key last) fs := by
  -- Whatever stands before, the key is there when the rest is put.
  have hheld : ∀ es : Keyed κ α, key ∈ es.map Prod.fst → ∀ value last : α,
      merge (put es key value) fs = merge (put es key last) fs := by
    induction fs with
    | nil => exact absurd h List.not_mem_nil
    | cons f rest ih =>
      intro es hkey value last
      rw [merge_cons, merge_cons]
      by_cases hf : f.1 = key
      · rw [hf, put_put, put_put]
      · have hrest : key ∈ rest.map Prod.fst := by
          rcases List.mem_cons.mp h with h | h
          · exact absurd h.symm hf
          · exact h
        have hput : key ∈ (put es f.1 f.2).map Prod.fst := by
          rw [keys_put]
          split
          · exact hkey
          · exact List.mem_append_left _ hkey
        rw [put_comm hkey hf, put_comm hkey hf, ih hrest _ hput value last]
  calc merge (put es key value) fs
      = merge (put (put es key value) key value) fs := by rw [put_put]
    _ = merge (put (put es key value) key last) fs := hheld _ (key_mem_put es key value) _ _
    _ = merge (put es key last) fs := by rw [put_put]

theorem ofList_shadowed (h : key ∈ fs.map Prod.fst) (es : Keyed κ α) (value last : α) :
    ofList (es ++ (key, value) :: fs) = ofList (es ++ (key, last) :: fs) := by
  rw [ofList, ofList, merge_append, merge_append, merge_cons, merge_cons]
  exact merge_put_shadowed h _ value last

end EventHeader.Keyed
