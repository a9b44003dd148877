import EventHeader.FileSystem
import EventHeader.Proofs.ActionLaws
import EventHeader.Proofs.KeyedEntries

/- Where paths lead, and what the operations on files leave as it was. What a path leads to
   depends on directories alone: in a file system that keeps the directories of another, every
   path that led to a place there leads to the same place (`KeepsDirectories.locate`). Making
   the directories of a path keeps every entry and adds nothing but directories, each at a
   place that a beginning of the path leads to (`ensureDirectories_ok`). A file is written at
   one place, and all other places stay as they are (`write_ok`). -/
namespace EventHeader

def Path.upTo (p : Path) (n : Nat) : Path := ⟨p.root, p.parts.take n⟩

namespace FileSystem
variable {fs fs' fs'' : FileSystem} {p dir : Path} {place above other : List String}
  {e : FileEntry} {name : String} {names : List String}

/-! ## Entries -/

theorem entry?_put_self (h : place ≠ []) : entry? (fs.put place e) place = some e := by
  unfold entry?
  rw [if_neg h]
  exact Keyed.find?_put_self

theorem entry?_put_other (h : other ≠ place) : entry? (fs.put place e) other = fs.entry? other := by
  unfold entry?
  split
  · rfl
  · exact Keyed.find?_put_other h

theorem ne_root (h : fs.entry? place ≠ some .directory) : place ≠ [] := by
  intro hroot
  apply h
  unfold entry?
  rw [if_pos hroot]

/-- Whether a file system has the directories of another one, and its working directory. -/
structure KeepsDirectories (fs fs' : FileSystem) : Prop where
  cwd : fs'.cwd = fs.cwd
  directory : ∀ place, fs.entry? place = some .directory → fs'.entry? place = some .directory

theorem KeepsDirectories.put (h : fs.entry? place ≠ some .directory) (e : FileEntry) :
    fs.KeepsDirectories (fs.put place e) where
  cwd := rfl
  directory := by
    intro other hother
    have hne : other ≠ place := by
      intro heq
      exact h (heq ▸ hother)
    rw [entry?_put_other hne, hother]

/-! ## Following paths -/

theorem descend_dots : fs.descend place (".." :: names) = fs.descend place.dropLast names := by
  rw [descend, if_pos rfl]

theorem descend_cons_ok (hname : name ≠ "..") : fs.descend place (name :: names) = .ok above ↔
    ¬ maxNameSize < name.utf8ByteSize ∧ fs.entry? (place ++ [name]) = some .directory ∧
      fs.descend (place ++ [name]) names = .ok above := by
  rw [descend, if_neg hname]
  split
  · simp [*]
  · cases hentry : fs.entry? (place ++ [name]) with
    | none => simp
    | some e => cases e <;> simp [*]

theorem KeepsDirectories.descend (h : fs.KeepsDirectories fs')
    (hd : fs.descend place names = .ok above) : fs'.descend place names = .ok above := by
  induction names generalizing place with
  | nil => exact hd
  | cons name rest ih =>
    by_cases hname : name = ".."
    · rw [hname, descend_dots] at hd ⊢
      exact ih hd
    · rw [descend_cons_ok hname] at hd ⊢
      obtain ⟨hsize, hentry, hrest⟩ := hd
      exact ⟨hsize, h.directory _ hentry, ih hrest⟩

/-- Names are followed down to the last of them, which need not lead to anything. -/
theorem follow_concat_ok : fs.follow place (names ++ [name]) = .ok other ↔
    ∃ above, fs.descend place names = .ok above ∧ ¬ maxNameSize < name.utf8ByteSize ∧
      other = step above name := by
  simp only [follow, List.getLast?_concat, List.dropLast_concat]
  cases fs.descend place names with
  | error cause => simp
  | ok above =>
    simp only [Except.ok.injEq, exists_eq_left']
    split <;> simp [*, eq_comm]

theorem KeepsDirectories.follow (h : fs.KeepsDirectories fs')
    (hf : fs.follow place names = .ok other) : fs'.follow place names = .ok other := by
  rcases List.eq_nil_or_concat names with rfl | ⟨before, last, rfl⟩
  · exact hf
  · rw [List.concat_eq_append, follow_concat_ok] at hf ⊢
    obtain ⟨above, hd, hlast⟩ := hf
    exact ⟨above, h.descend hd, hlast⟩

/-- A path that leads to a place is a text of moderate length, followed from its start. -/
theorem locate_ok_iff : fs.locate p = .ok place ↔ p.text.toList.contains '\x00' = false ∧
    ¬ maxPathSize < p.text.utf8ByteSize ∧ fs.follow (fs.start p) p.parts = .ok place := by
  rw [locate]
  split
  · simp_all
  · split <;> simp_all

theorem find?_eq_some : fs.find? p = some e ↔
    ∃ place, fs.locate p = .ok place ∧ fs.entry? place = some e := by
  rw [find?]
  cases fs.locate p <;> simp

theorem read_ok_iff {bytes : List UInt8} :
    fs.read p = .ok bytes ↔ fs.find? p = some (.file bytes) := by
  rw [read, find?]
  cases fs.locate p with
  | error cause => simp
  | ok place =>
    simp only
    cases fs.entry? place with
    | none => simp
    | some e => cases e <;> simp

/-- Where the directories are kept, paths lead where they led. -/
theorem KeepsDirectories.locate (h : fs.KeepsDirectories fs') (hl : fs.locate p = .ok place) :
    fs'.locate p = .ok place := by
  have hstart : fs'.start p = fs.start p := by rw [start, start, h.cwd]
  obtain ⟨htext, hsize, hfollow⟩ := locate_ok_iff.mp hl
  exact locate_ok_iff.mpr ⟨htext, hsize, hstart ▸ h.follow hfollow⟩

theorem descend_append {more : List String} (hd : fs.descend place (names ++ more) = .ok other) :
    ∃ above, fs.descend place names = .ok above ∧ fs.descend above more = .ok other := by
  induction names generalizing place with
  | nil => exact ⟨place, rfl, hd⟩
  | cons name rest ih =>
    rw [List.cons_append] at hd
    by_cases hname : name = ".."
    · rw [hname, descend_dots] at hd ⊢
      exact ih hd
    · rw [descend_cons_ok hname] at hd
      obtain ⟨hsize, hentry, hrest⟩ := hd
      obtain ⟨above, habove, hmore⟩ := ih hrest
      exact ⟨above, (descend_cons_ok hname).mpr ⟨hsize, hentry, habove⟩, hmore⟩

theorem follow_of_descend (h : fs.descend place names = .ok other) :
    fs.follow place names = .ok other := by
  rcases List.eq_nil_or_concat names with rfl | ⟨before, last, rfl⟩
  · exact h
  · rw [List.concat_eq_append] at h ⊢
    obtain ⟨above, habove, hlast⟩ := descend_append h
    refine follow_concat_ok.mpr ⟨above, habove, ?_⟩
    by_cases hdots : last = ".."
    · rw [hdots, descend_dots] at hlast
      cases hlast
      rw [hdots]
      exact ⟨by decide, rfl⟩
    · obtain ⟨hsize, -, hnil⟩ := (descend_cons_ok hdots).mp hlast
      cases hnil
      exact ⟨hsize, by rw [step, if_neg hdots]⟩

theorem locate_child (hname : Path.ofText name = ⟨"", [name]⟩) (hdots : name ≠ "..")
    (hdir : fs.locate dir = .ok place) (hchild : fs.locate (dir.child name) = .ok other) :
    other = place ++ [name] := by
  have hpath : dir.child name = ⟨dir.root, dir.parts ++ [name]⟩ := by
    rw [Path.child, hname, Path.join, if_pos rfl]
  rw [hpath] at hchild
  obtain ⟨-, -, hdir⟩ := locate_ok_iff.mp hdir
  obtain ⟨-, -, hchild⟩ := locate_ok_iff.mp hchild
  obtain ⟨above, habove, -, rfl⟩ := follow_concat_ok.mp hchild
  have hsame : fs.start ⟨dir.root, dir.parts ++ [name]⟩ = fs.start dir := rfl
  rw [hsame] at habove
  rw [follow_of_descend habove] at hdir
  cases hdir
  rw [step, if_neg hdots]

/-! ## Operations -/

theorem run_perform (p : Path) (operation : FileSystem → Except FileErrorCause FileSystem)
    (fs : FileSystem) : (perform p operation).run fs = match operation fs with
      | .ok fs' => ⟨.ok (), fs', []⟩
      | .error cause => ⟨.error ⟨cause, p⟩, fs, []⟩ := rfl

theorem run_perform_ok {operation : FileSystem → Except FileErrorCause FileSystem}
    (h : ((perform p operation).run fs).result = .ok ()) :
    operation fs = .ok ((perform p operation).run fs).state := by
  rw [run_perform] at h ⊢
  cases hop : operation fs with
  | error cause =>
    rw [hop] at h
    cases h
  | ok fs' => rfl

theorem write_ok {bytes : List UInt8} (h : fs.write p bytes = .ok fs') :
    ∃ place, fs.locate p = .ok place ∧ fs.entry? place ≠ some .directory ∧
      fs' = fs.put place (.file bytes) := by
  unfold write at h
  split at h
  · cases h
  · rename_i place hl
    refine ⟨place, hl, ?_⟩
    split at h
    · cases h
    · rename_i hentry
      exact ⟨hentry, (Except.ok.inj h).symm⟩

theorem makeDirectory_ok (h : fs.makeDirectory p = .ok fs') :
    ∃ place, fs.locate p = .ok place ∧ fs.entry? place = none ∧
      fs' = fs.put place .directory := by
  unfold makeDirectory at h
  split at h
  · cases h
  · rename_i place hl
    refine ⟨place, hl, ?_⟩
    split at h
    · cases h
    · rename_i hentry
      exact ⟨hentry, (Except.ok.inj h).symm⟩

/-! ## Making directories -/

/-- What making the directories of a path leaves: every entry as it was, and besides only
directories that a beginning of the path leads to. -/
structure DirectoriesMade (p : Path) (fs fs' : FileSystem) : Prop where
  cwd : fs'.cwd = fs.cwd
  kept : ∀ place e, fs.entry? place = some e → fs'.entry? place = some e
  made : ∀ place e, fs'.entry? place = some e → fs.entry? place = none →
    e = .directory ∧ ∃ n, fs'.locate (p.upTo n) = .ok place

theorem DirectoriesMade.keepsDirectories (h : DirectoriesMade p fs fs') :
    fs.KeepsDirectories fs' where
  cwd := h.cwd
  directory := fun place => h.kept place .directory

theorem DirectoriesMade.refl (p : Path) (fs : FileSystem) : DirectoriesMade p fs fs where
  cwd := rfl
  kept := fun _ _ h => h
  made := by
    intro place e h hnone
    rw [hnone] at h
    cases h

theorem DirectoriesMade.trans (h : DirectoriesMade p fs fs') (h' : DirectoriesMade p fs' fs'') :
    DirectoriesMade p fs fs'' where
  cwd := h'.cwd.trans h.cwd
  kept := fun place e he => h'.kept place e (h.kept place e he)
  made := by
    intro place e he hnone
    cases hmiddle : fs'.entry? place with
    | none => exact h'.made place e he hmiddle
    | some e' =>
      obtain ⟨hdirectory, n, hn⟩ := h.made place e' hmiddle hnone
      have hsame : e = e' := Option.some.inj (he.symm.trans (h'.kept place e' hmiddle))
      exact ⟨hsame.trans hdirectory, n, h'.keepsDirectories.locate hn⟩

/-- What is on the way of a path is on the way of every path that goes on from there. -/
theorem DirectoriesMade.longer {root : String} {parts : List String} (more : List String)
    (h : DirectoriesMade ⟨root, parts⟩ fs fs') : DirectoriesMade ⟨root, parts ++ more⟩ fs fs' where
  cwd := h.cwd
  kept := h.kept
  made := by
    intro place e he hnone
    obtain ⟨hdirectory, n, hn⟩ := h.made place e he hnone
    refine ⟨hdirectory, min n parts.length, ?_⟩
    have htake : (parts ++ more).take (min n parts.length) = parts.take n := by
      rw [List.take_append_of_le_length (Nat.min_le_right n parts.length)]
      exact List.take_eq_take_min.symm
    rw [Path.upTo, htake]
    exact hn

theorem DirectoriesMade.put {place : List String} (hl : fs.locate p = .ok place)
    (hnone : fs.entry? place = none) : DirectoriesMade p fs (fs.put place .directory) where
  cwd := rfl
  kept := by
    intro other e he
    have hne : other ≠ place := by
      rintro rfl
      rw [hnone] at he
      cases he
    rw [entry?_put_other hne, he]
  made := by
    intro other e he hother
    have hkeeps : fs.KeepsDirectories (fs.put place .directory) :=
      .put (by rw [hnone]; simp) .directory
    by_cases heq : other = place
    · rw [heq, entry?_put_self (ne_root (by rw [hnone]; simp))] at he
      refine ⟨(Option.some.inj he).symm, p.parts.length, ?_⟩
      rw [Path.upTo, List.take_length, heq]
      exact hkeeps.locate hl
    · rw [entry?_put_other heq, hother] at he
      cases he

theorem ensureDirectory_ok (h : ((ensureDirectory p).run fs).result = .ok ()) :
    DirectoriesMade p fs ((ensureDirectory p).run fs).state ∧
      ((ensureDirectory p).run fs).state.find? p = some .directory := by
  have hstate := run_perform_ok h
  change _ = Except.ok ((ensureDirectory p).run fs).state at hstate
  generalize ((ensureDirectory p).run fs).state = fs' at hstate
  split at hstate
  · rename_i made hmake
    cases hstate
    obtain ⟨place, hl, hnone, rfl⟩ := makeDirectory_ok hmake
    have hmade := DirectoriesMade.put hl hnone
    refine ⟨hmade, ?_⟩
    rw [find?, hmade.keepsDirectories.locate hl]
    exact entry?_put_self (ne_root (by rw [hnone]; simp))
  · split at hstate
    · rename_i hdirectory
      cases hstate
      exact ⟨.refl p fs, beq_iff_eq.mp hdirectory⟩
    · cases hstate

theorem run_ensureDirectories_cons (root last : String) (before : List String)
    (fs : FileSystem) :
    (ensureDirectories root (last :: before)).run fs =
        (ensureDirectory ⟨root, (last :: before).reverse⟩).run fs ∨
      (ensureDirectories root (last :: before)).run fs =
        (ensureDirectories root before >>= fun _ =>
          ensureDirectory ⟨root, (last :: before).reverse⟩).run fs := by
  rw [ensureDirectories, Action.run_bind, Action.run_getState]
  simp only [List.nil_append]
  split
  · exact Or.inr rfl
  · exact Or.inl rfl

/-- The directory of a path is made with what is missing on the way to it, and nothing else. -/
theorem ensureDirectories_ok {root : String} {reversed : List String}
    (h : ((ensureDirectories root reversed).run fs).result = .ok ()) :
    DirectoriesMade ⟨root, reversed.reverse⟩ fs ((ensureDirectories root reversed).run fs).state ∧
      ((ensureDirectories root reversed).run fs).state.find? ⟨root, reversed.reverse⟩ =
        some .directory := by
  induction reversed generalizing fs with
  | nil => exact ensureDirectory_ok h
  | cons last before ih =>
    obtain hrun | hrun := run_ensureDirectories_cons root last before fs
    · rw [hrun] at h ⊢
      exact ensureDirectory_ok h
    · rw [hrun] at h ⊢
      obtain ⟨_, hbefore, hlast, hstate⟩ := Action.bind_ok h
      obtain ⟨hmade, -⟩ := ih hbefore
      obtain ⟨hmadeLast, hfind⟩ := ensureDirectory_ok hlast
      rw [hstate]
      have hway := hmade.longer [last]
      rw [← List.reverse_cons] at hway
      exact ⟨hway.trans hmadeLast, hfind⟩

end FileSystem
end EventHeader
