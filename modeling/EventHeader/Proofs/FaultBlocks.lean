import EventHeader.Proofs.DistinctKeys
import EventHeader.Proofs.DocumentEdits
import EventHeader.Proofs.DocumentPlaces
import Mathlib.Data.List.Basic

/- Blocks of a report of faults. The stretches of the report of a place stand apart: they
   begin with different steps, the indices of a list, the keys of a map or those under which
   different members of a model may stand, as long as no object has a key twice
   (`Place.Shape.pairwise`). So what a place right below has on its own is one block: no fault
   before or after it is located there (`block_of_stretch`). A block of a block is a block
   again (`Block.trans`), so this goes for places any number of steps below. -/
namespace EventHeader.Document
open Schema.Decode

/-! ## The places below a place -/

theorem mem_of_member? {es : Entries Json} {key : String} {v : Json} :
    ∀ {keys : List String}, member? es keys = some (key, v) → (key, v) ∈ es
  | first :: others, h => by
    simp only [member?] at h
    split at h
    · cases h
      exact Keyed.mem_of_find? ‹_›
    · exact mem_of_member? h

/-- The stretch of a field that leads on leads to the member the field is read from. -/
theorem Model.stretch_part {m : Model} {levels : Nat} {es : Entries Json} {f : Field}
    {steps : List Step} {q : Place} (h : m.stretch levels es f = .part steps q) :
    ∃ key v, key ∈ f.1 ∧ (key, v) ∈ es ∧ steps = [.key key] ∧ q = ⟨f.2, levels, v⟩ := by
  unfold Model.stretch at h
  split at h
  · rename_i key v hmember
    cases h
    exact ⟨key, v, key_mem_of_member? hmember, mem_of_member? hmember, rfl, rfl⟩
  · cases h

/-- A place right below another one holds a value right inside that of the other, unless it is
what may also be null. -/
theorem Place.Shape.below_value {p q : Place} {ts : List Stretch} {steps : List Step}
    (h : p.Shape ts) (hq : .part steps q ∈ ts) :
    p.value.Holds q.value ∨ q.value = p.value ∧ p.part = .nullable q.part := by
  cases h with
  | own p => cases List.mem_singleton.mp hq
  | items item levels vs =>
    obtain ⟨⟨w, i⟩, hw, heq⟩ := List.mem_map.mp hq
    cases heq
    exact Or.inl (.item (List.fst_mem_of_mem_zipIdx hw))
  | entries value levels es =>
    obtain ⟨⟨key, w⟩, hw, heq⟩ := List.mem_map.mp hq
    cases heq
    exact Or.inl (.member hw)
  | null part levels => cases hq
  | nonNull part levels hv =>
    cases List.mem_singleton.mp hq
    exact Or.inr ⟨rfl, rfl⟩
  | @kind k es htag levels =>
    obtain ⟨f, -, hf⟩ := List.mem_map.mp hq
    -- The tag lies on the way to the member, but the member is one of the object itself.
    cases hs : Model.propertyType.stretch levels es f with
    | own fs => rw [hs] at hf; cases hf
    | part inner r =>
      rw [hs] at hf
      cases hf
      obtain ⟨key, w, -, hw, -, rfl⟩ := Model.stretch_part hs
      exact Or.inl (.member hw)
  | fields hm hbelow es =>
    obtain ⟨f, -, hf⟩ := List.mem_map.mp hq
    obtain ⟨key, w, -, hw, -, rfl⟩ := Model.stretch_part hf
    exact Or.inl (.member hw)

/-! ## Stretches that stand apart -/

/-- Every fault of the stretch, and the way to the place it leads to, begins with such a step. -/
structure Stretch.BeginsIn (t : Stretch) (P : Step → Prop) : Prop where
  faults : ∀ f ∈ t.faults, ∃ s, f.location.head? = some s ∧ P s
  steps : ∀ steps q, t = .part steps q → ∃ s, steps.head? = some s ∧ P s

/-- No fault of either stretch is located below the place that the other one leads to. -/
def Stretch.Apart (t u : Stretch) : Prop :=
  (∀ steps q, t = .part steps q → ∀ f ∈ u.faults, ¬ steps <+: f.location) ∧
    ∀ steps q, u = .part steps q → ∀ f ∈ t.faults, ¬ steps <+: f.location

theorem head?_of_leading {steps more : List Step} {s : Step} (h : steps <+: more)
    (hs : steps.head? = some s) : more.head? = some s := by
  obtain ⟨rest, rfl⟩ := h
  rw [List.head?_append, hs]
  rfl

theorem Stretch.BeginsIn.not_below {t u : Stretch} {P Q : Step → Prop} (ht : t.BeginsIn P)
    (hu : u.BeginsIn Q) (h : ∀ s, P s → ¬ Q s) :
    ∀ steps q, t = .part steps q → ∀ f ∈ u.faults, ¬ steps <+: f.location := by
  intro steps q hq f hf hprefix
  obtain ⟨s, hs, hP⟩ := ht.steps steps q hq
  obtain ⟨s', hs', hQ⟩ := hu.faults f hf
  rw [head?_of_leading hprefix hs] at hs'
  cases hs'
  exact h s hP hQ

theorem Stretch.BeginsIn.apart {t u : Stretch} {P Q : Step → Prop} (ht : t.BeginsIn P)
    (hu : u.BeginsIn Q) (h : ∀ s, P s → ¬ Q s) : t.Apart u :=
  ⟨ht.not_below hu h, hu.not_below ht fun s hQ hP => h s hP hQ⟩

theorem beginsIn_part {s : Step} {P : Step → Prop} (h : P s) (rest : List Step) (q : Place) :
    (Stretch.part (s :: rest) q).BeginsIn P := by
  constructor
  · intro f hf
    obtain ⟨g, -, rfl⟩ := List.mem_map.mp hf
    exact ⟨s, rfl, h⟩
  · intro steps r hr
    cases hr
    exact ⟨s, rfl, h⟩

theorem apart_of_ne {s s' : Step} (h : s ≠ s') (q q' : Place) :
    (Stretch.part [s] q).Apart (.part [s'] q') := by
  apply (beginsIn_part (P := (· = s)) rfl [] q).apart (beginsIn_part (P := (· = s')) rfl [] q')
  intro _ hs hs'
  exact h (hs.symm.trans hs')

theorem Model.required_ne_nil (m : Model) : ∀ keys ∈ m.required, keys ≠ [] := by
  cases m <;> decide

theorem beginsIn_stretch (m : Model) (levels : Nat) (es : Entries Json) (f : Field) :
    (m.stretch levels es f).BeginsIn (fun s => ∃ key ∈ f.1, s = .key key) := by
  unfold Model.stretch
  split
  · rename_i key v hmember
    exact beginsIn_part ⟨key, key_mem_of_member? hmember, rfl⟩ [] _
  · constructor
    · intro g hg
      simp only [Stretch.faults] at hg
      split at hg
      · rename_i hrequired
        rw [List.mem_singleton.mp hg]
        obtain ⟨keys, part⟩ := f
        cases keys with
        | nil => exact absurd rfl (m.required_ne_nil [] hrequired)
        | cons key others => exact ⟨.key key, rfl, key, List.mem_cons_self, rfl⟩
      · cases hg
    · intro steps q hq
      cases hq

theorem pairwise_zipIdx (vs : List Json) : vs.zipIdx.Pairwise (fun e e' => e.2 ≠ e'.2) := by
  have h : (vs.zipIdx.map Prod.snd).Nodup := by
    rw [List.zipIdx_map_snd]
    exact List.nodup_range'
  exact List.pairwise_map.mp h

theorem Model.pairwise_fields {m : Model} (hm : m ≠ .propertyType) (es : Entries Json) :
    (m.fields es).Pairwise (fun f g => ∀ key ∈ f.1, key ∉ g.1) := by
  cases m with
  | propertyType => exact absurd rfl hm
  | _ => simp only [Model.fields]; decide

theorem pairwise_kindStretches (tag : String) (levels : Nat) (es : Entries Json) :
    (kindStretches tag levels es).Pairwise Stretch.Apart := by
  unfold kindStretches kindFields
  split
  · exact List.pairwise_singleton _ _
  · split
    · exact List.pairwise_singleton _ _
    · exact List.Pairwise.nil

/-- The stretches of a place stand apart. -/
theorem Place.Shape.pairwise {p : Place} {ts : List Stretch} (h : p.Shape ts)
    (hp : p.value.distinctKeys = true) : ts.Pairwise Stretch.Apart := by
  cases h with
  | own p => exact List.pairwise_singleton _ _
  | items item levels vs =>
    apply List.pairwise_map.mpr
    apply (pairwise_zipIdx vs).imp
    intro e e' hne
    exact apart_of_ne (fun h => hne (Step.index.inj h)) _ _
  | entries value levels es =>
    apply List.pairwise_map.mpr
    apply (List.pairwise_map.mp (nodup_of_distinctKeys hp)).imp
    intro e e' hne
    exact apart_of_ne (fun h => hne (Step.key.inj h)) _ _
  | null part levels => exact List.Pairwise.nil
  | nonNull part levels hv => exact List.pairwise_singleton _ _
  | kind htag levels => exact pairwise_kindStretches _ _ _
  -- Two fields are read from different members, since they share no key.
  | @fields m hm levels below hbelow es =>
    apply List.pairwise_map.mpr
    apply (m.pairwise_fields hm es).imp
    intro f g hfg
    apply (beginsIn_stretch m below es f).apart (beginsIn_stretch m below es g)
    intro s hs hs'
    obtain ⟨key, hkey, rfl⟩ := hs
    obtain ⟨key', hkey', heq⟩ := hs'
    exact hfg key hkey (Step.key.inj heq ▸ hkey')

/-! ## Blocks -/

/-- The faults of a report that are located below some steps stand together, as this block. -/
def Block (report : List Fault) (steps : List Step) (block : List Fault) : Prop :=
  ∃ before after, report = before ++ block ++ after ∧ (∀ f ∈ block, steps <+: f.location) ∧
    ∀ f ∈ before ++ after, ¬ steps <+: f.location

theorem block_whole (report : List Fault) : Block report [] report :=
  ⟨[], [], (List.append_nil report).symm, fun _ _ => List.nil_prefix, fun _ h => nomatch h⟩

theorem prefix_of_mem_map_below {steps : List Step} {fs : List Fault} :
    ∀ f ∈ fs.map (Fault.below steps), steps <+: f.location := by
  intro f hf
  obtain ⟨g, -, rfl⟩ := List.mem_map.mp hf
  exact List.prefix_append steps g.location

theorem Block.trans {report block inner : List Fault} {steps more : List Step}
    (houter : Block report steps (block.map (Fault.below steps)))
    (hinner : Block block more (inner.map (Fault.below more))) :
    Block report (steps ++ more) (inner.map (Fault.below (steps ++ more))) := by
  obtain ⟨before, after, rfl, -, houtside⟩ := houter
  obtain ⟨before', after', rfl, -, hinside⟩ := hinner
  refine ⟨before ++ before'.map (Fault.below steps), after'.map (Fault.below steps) ++ after, ?_,
    prefix_of_mem_map_below, ?_⟩
  · simp only [List.map_append, Fault.map_below_below, List.append_assoc]
  · have outside : ∀ f ∈ before ++ after, ¬ steps ++ more <+: f.location := fun f hf hprefix =>
      houtside f hf ((List.prefix_append steps more).trans hprefix)
    have inside : ∀ f ∈ (before' ++ after').map (Fault.below steps),
        ¬ steps ++ more <+: f.location := by
      intro f hf hprefix
      obtain ⟨g, hg, rfl⟩ := List.mem_map.mp hf
      exact hinside g hg ((List.prefix_append_right_inj steps).mp hprefix)
    intro f hf
    simp only [List.map_append, List.mem_append] at outside inside hf
    rcases hf with (h | h) | h | h
    · exact outside f (Or.inl h)
    · exact inside f (Or.inl h)
    · exact inside f (Or.inr h)
    · exact outside f (Or.inr h)

/-- What a place right below has on its own is a block of the report. -/
theorem block_of_stretch {p q : Place} {steps : List Step} (hp : p.value.distinctKeys = true)
    (h : .part steps q ∈ p.stretches) :
    Block p.faults steps (q.faults.map (Fault.below steps)) := by
  have hapart := p.shape.pairwise hp
  rw [faults_eq_stretches]
  obtain ⟨before, after, heq⟩ := List.append_of_mem h
  rw [heq, List.pairwise_append, List.pairwise_cons] at hapart
  obtain ⟨-, ⟨hafter, -⟩, hbefore⟩ := hapart
  -- The block ends where the next stretch begins, and no other stretch leads there.
  refine ⟨before.flatMap Stretch.faults, after.flatMap Stretch.faults, ?_,
    prefix_of_mem_map_below, ?_⟩
  · simp [heq, Stretch.faults]
  · intro f hf
    rcases List.mem_append.mp hf with hf | hf
    · obtain ⟨t, ht, hf⟩ := List.mem_flatMap.mp hf
      exact (hbefore t ht _ List.mem_cons_self).2 steps q rfl f hf
    · obtain ⟨t, ht, hf⟩ := List.mem_flatMap.mp hf
      exact (hafter t ht).1 steps q rfl f hf

end EventHeader.Document
