import EventHeader.Output
import EventHeader.Proofs.FilePlaces
import EventHeader.Proofs.GenerationFaults
import EventHeader.Proofs.Utf8Sequences

/- What a comparison of generated files says. Of a file on disk a comparison sees the text
   that its bytes are, with each line ending made a line feed (`textAt?`), and there are three
   ways in which it cannot get that far (`Hindered`). It stops at the first file that hinders
   it; else it gives the paths under which other texts or none are found (`run_check_of_free`).
   This is the comparison of bytes as long as the files on disk are texts without carriage
   returns (`check_compares_texts`), and in general it is not
   (`check_not_exact_on_bytes`). -/
namespace EventHeader

namespace Text
variable {cs : List Char}

/-! ## Line endings -/

theorem not_mem_universalNewlines (cs : List Char) : '\r' ∉ universalNewlines cs := by
  fun_induction universalNewlines cs with
  | case1 => exact List.not_mem_nil
  | case2 cs ih => simp [ih]
  | case3 c cs _ ih =>
    split
    · simp [ih]
    · simp [eq_comm, *]

theorem universalNewlines_eq_self : universalNewlines cs = cs ↔ '\r' ∉ cs := by
  constructor
  · intro h
    exact h ▸ not_mem_universalNewlines cs
  · intro h
    fun_induction universalNewlines cs with
    | case1 => rfl
    | case2 cs ih => exact absurd List.mem_cons_self h
    | case3 c cs _ ih =>
      obtain ⟨hc, hcs⟩ := List.ne_and_not_mem_of_not_mem_cons h
      rw [if_neg (Ne.symm hc), ih hcs]

end Text

namespace Output
open Text (universalNewlines)

/-- The text that a comparison finds at a path, if it finds one. -/
def textAt? (fs : FileSystem) (p : Path) : Option (List Char) :=
  match fs.find? p with
  | some (.file bytes) => (Text.Utf8.decode bytes).toOption.map universalNewlines
  | _ => none

/-- Why a comparison stops at a path. -/
inductive Hindered (fs : FileSystem) (p : Path) : Failure → Prop where
  | tooLong (path : fs.locate p = .error .tooLong) : Hindered fs p (.file ⟨.tooLong, p⟩)
  | directory (entry : fs.find? p = some .directory) : Hindered fs p (.file ⟨.isDirectory, p⟩)
  | notText {bytes : List UInt8} {f : Text.Utf8.Fault} (entry : fs.find? p = some (.file bytes))
      (fault : Text.Utf8.decode bytes = .error f) : Hindered fs p (.notText f)

/-- Whether a comparison gets to an answer at a path. -/
def Free (fs : FileSystem) (p : Path) : Prop := ∀ e, ¬ Hindered fs p e

/-- The paths below a directory at which other texts than those of the files are found, or
none. -/
def stalePaths (fs : FileSystem) (dir : Path) (files : Entries String) : List Path :=
  (files.filter (fun f => textAt? fs (dir.child f.1) != some f.2.toList)).map
    (fun f => dir.child f.1)

/-- Reports that a file is not as it would be generated. -/
def outOfDate (p : Path) : Record := ⟨.warning, "output", p.text ++ " is out of date"⟩

variable {fs : FileSystem} {dir p : Path} {e : Failure} {name contents : String}
  {files : Entries String}

/-! ## One file -/

theorem Hindered.matchesFile (h : Hindered fs p e) (contents : String) :
    matchesFile fs p contents = .error e := by
  unfold Output.matchesFile FileSystem.contains FileSystem.read
  cases h with
  | tooLong path => rw [path]
  | directory entry =>
    obtain ⟨place, hl, hentry⟩ := FileSystem.find?_eq_some.mp entry
    simp [hl, hentry]
  | notText entry fault =>
    obtain ⟨place, hl, hentry⟩ := FileSystem.find?_eq_some.mp entry
    simp [hl, hentry, fault]

/-- Where nothing hinders it, a comparison is one of texts. -/
theorem Free.matchesFile (h : Free fs p) (contents : String) :
    matchesFile fs p contents = .ok (textAt? fs p == some contents.toList) := by
  unfold Output.matchesFile FileSystem.contains FileSystem.read textAt?
  cases hfind : fs.find? p with
  | none =>
    cases hl : fs.locate p with
    | error cause =>
      cases cause with
      | tooLong => exact absurd (.tooLong hl) (h _)
      | _ => rfl
    | ok place =>
      have hentry : fs.entry? place = none := by rwa [FileSystem.find?, hl] at hfind
      simp [hentry]
  | some entry =>
    obtain ⟨place, hl, hentry⟩ := FileSystem.find?_eq_some.mp hfind
    cases entry with
    | directory => exact absurd (.directory hfind) (h _)
    | file bytes =>
      cases hdecode : Text.Utf8.decode bytes with
      | error f => exact absurd (.notText hfind hdecode) (h _)
      | ok cs => simp [hl, hentry, hdecode, Except.toOption]

theorem matchesFile_error (contents : String) :
    matchesFile fs p contents = .error e ↔ Hindered fs p e := by
  constructor
  · intro h
    by_cases hfree : Free fs p
    · rw [hfree.matchesFile] at h
      cases h
    · obtain ⟨e', he'⟩ := not_forall_not.mp hfree
      rw [he'.matchesFile] at h
      cases h
      exact he'
  · intro h
    exact h.matchesFile contents

/-! ## All files in order -/

theorem run_check_cons (fs : FileSystem) (dir : Path) (name contents : String)
    (rest : Entries String) : (check dir ((name, contents) :: rest)).run fs =
      match matchesFile fs (dir.child name) contents with
      | .error e => ⟨.error e, fs, []⟩
      | .ok true => (check dir rest).run fs
      | .ok false =>
        let o := (check dir rest).run fs
        ⟨o.result.map (dir.child name :: ·), o.state, outOfDate (dir.child name) :: o.journal⟩ := by
  rw [check, Action.run_bind]
  simp only [Action.run_getState, Action.run_bind, Action.run_ofExcept, List.nil_append]
  cases matchesFile fs (dir.child name) contents with
  | error e => rfl
  | ok upToDate =>
    cases upToDate with
    | true => simp
    | false => simp [Action.run_bind, outOfDate]

theorem stalePaths_cons (fs : FileSystem) (dir : Path) (f : String × String)
    (rest : Entries String) : stalePaths fs dir (f :: rest) =
      if textAt? fs (dir.child f.1) == some f.2.toList then stalePaths fs dir rest
      else dir.child f.1 :: stalePaths fs dir rest := by
  rw [stalePaths, List.filter_cons, bne]
  cases textAt? fs (dir.child f.1) == some f.2.toList <;> rfl

theorem run_check_of_free (h : ∀ f ∈ files, Free fs (dir.child f.1)) : (check dir files).run fs =
    ⟨.ok (stalePaths fs dir files), fs, (stalePaths fs dir files).map outOfDate⟩ := by
  induction files with
  | nil => rfl
  | cons f rest ih =>
    obtain ⟨hfree, hrest⟩ := List.forall_mem_cons.mp h
    rw [run_check_cons, hfree.matchesFile, stalePaths_cons, ih hrest]
    cases textAt? fs (dir.child f.1) == some f.2.toList <;> rfl

/-- A comparison stops at the first file that hinders it. -/
theorem check_error : ((check dir files).run fs).result = .error e ↔
    ∃ before f after, files = before ++ f :: after ∧ (∀ b ∈ before, Free fs (dir.child b.1)) ∧
      Hindered fs (dir.child f.1) e := by
  induction files with
  | nil =>
    constructor
    · nofun
    · intro ⟨before, f, after, h, _⟩
      cases before <;> cases h
  | cons f rest ih =>
    rw [Payload.exists_first_cons, ← ih, run_check_cons]
    by_cases hfree : Free fs (dir.child f.1)
    · have hnot : ¬ Hindered fs (dir.child f.1) e := hfree e
      rw [hfree.matchesFile]
      cases textAt? fs (dir.child f.1) == some f.2.toList <;> simp [hnot, hfree]
    · obtain ⟨e', he'⟩ := not_forall_not.mp hfree
      have hsame : Hindered fs (dir.child f.1) e ↔ e' = e := by
        rw [← matchesFile_error f.2, he'.matchesFile, Except.error.injEq]
      rw [he'.matchesFile]
      simp [hsame, hfree]

theorem check_state (dir : Path) (files : Entries String) (fs : FileSystem) :
    ((check dir files).run fs).state = fs := by
  induction files with
  | nil => rfl
  | cons f rest ih =>
    rw [run_check_cons]
    split
    · rfl
    · exact ih
    · exact ih

/-! ## Bytes -/

/-- Whether a path leads nowhere, or to a file whose bytes are a text without carriage
returns. -/
def Legible (fs : FileSystem) (p : Path) : Prop :=
  fs.locate p ≠ .error .tooLong ∧ ∀ entry, fs.find? p = some entry →
    ∃ s : String, entry = .file (Text.Utf8.encode s) ∧ '\r' ∉ s.toList

theorem free_of_file {s : String} (h : fs.find? p = some (.file (Text.Utf8.encode s))) :
    Free fs p := by
  intro e hindered
  cases hindered with
  | tooLong path =>
    rw [FileSystem.find?, path] at h
    cases h
  | directory entry => cases h.symm.trans entry
  | notText entry fault =>
    cases h.symm.trans entry
    rw [Text.Utf8.decode_eq_ok_iff.mpr rfl] at fault
    cases fault

theorem textAt?_of_file {s : String} (h : fs.find? p = some (.file (Text.Utf8.encode s))) :
    textAt? fs p = some (universalNewlines s.toList) := by
  simp [textAt?, h, Text.Utf8.decode_eq_ok_iff.mpr rfl, Except.toOption]

theorem Legible.free (h : Legible fs p) : Free fs p := by
  cases hfind : fs.find? p with
  | some entry =>
    obtain ⟨s, rfl, -⟩ := h.2 entry hfind
    exact free_of_file hfind
  | none =>
    intro e hindered
    cases hindered with
    | tooLong path => exact h.1 path
    | directory entry => cases hfind.symm.trans entry
    | notText entry _ => cases hfind.symm.trans entry

/-- Of a text without carriage returns a comparison is one of bytes. -/
theorem Legible.textAt?_iff (h : Legible fs p) (contents : String) :
    textAt? fs p = some contents.toList ↔
      fs.find? p = some (.file (Text.Utf8.encode contents)) := by
  cases hfind : fs.find? p with
  | none => simp [textAt?, hfind]
  | some entry =>
    obtain ⟨s, rfl, hs⟩ := h.2 entry hfind
    rw [textAt?_of_file hfind, Text.universalNewlines_eq_self.mpr hs]
    simp [Text.Utf8.encode_inj, String.toList_inj]

/-- A comparison of generated files changes nothing. It stops at the first path that is too
long, is that of a directory, or is that of a file that is no text. If there is none, it gives
the paths under which no file or a file with another text is found, where line endings count as
line feeds; and if the files that are there are texts without carriage returns, these are the
paths that are missing or whose bytes differ. -/
theorem check_compares_texts (dir : Path) (files : Entries String) (fs : FileSystem) :
    ((check dir files).run fs).state = fs ∧
    (∀ e, ((check dir files).run fs).result = .error e ↔
      ∃ before f after, files = before ++ f :: after ∧ (∀ b ∈ before, Free fs (dir.child b.1)) ∧
        Hindered fs (dir.child f.1) e) ∧
    ((∀ f ∈ files, Free fs (dir.child f.1)) →
      ((check dir files).run fs).result = .ok (stalePaths fs dir files) ∧
      ((check dir files).run fs).journal = (stalePaths fs dir files).map outOfDate) ∧
    ((∀ f ∈ files, Legible fs (dir.child f.1)) →
      ((check dir files).run fs).result = .ok ((files.filter (fun f =>
        fs.find? (dir.child f.1) != some (.file (Text.Utf8.encode f.2)))).map
          (fun f => dir.child f.1))) := by
  refine ⟨check_state dir files fs, fun _ => check_error, ?_, ?_⟩
  · intro hfree
    rw [run_check_of_free hfree]
    exact ⟨rfl, rfl⟩
  · intro hlegible
    rw [run_check_of_free fun f hf => (hlegible f hf).free]
    -- Without carriage returns the text that is read has the bytes on disk.
    show Except.ok (stalePaths fs dir files) = _
    rw [stalePaths, List.filter_congr]
    intro f hf
    have hiff := (hlegible f hf).textAt?_iff f.2
    rw [Bool.eq_iff_iff]
    simpa using not_congr hiff

/-- A directory `out` with one file. -/
def oneFile (bytes : List UInt8) : FileSystem :=
  ⟨[], [(["out"], .directory), (["out", "a.h"], .file bytes)]⟩

/-- Of two files, the first is as it should be and the second is missing. -/
theorem check_compares_texts_missing :
    ((check ⟨"", ["out"]⟩ [("a.h", "é\n"), ("b.h", "x\n")]).run
      (oneFile [0xC3, 0xA9, 0x0A])).result = .ok [⟨"", ["out", "b.h"]⟩] := by
  obtain ⟨-, -, -, hbytes⟩ := check_compares_texts ⟨"", ["out"]⟩ [("a.h", "é\n"), ("b.h", "x\n")]
    (oneFile [0xC3, 0xA9, 0x0A])
  have hfirst : Legible (oneFile [0xC3, 0xA9, 0x0A]) (Path.child ⟨"", ["out"]⟩ "a.h") := by
    refine ⟨by decide, ?_⟩
    intro entry h
    cases h
    exact ⟨"é\n", by decide, by decide⟩
  have hsecond : Legible (oneFile [0xC3, 0xA9, 0x0A]) (Path.child ⟨"", ["out"]⟩ "b.h") := by
    refine ⟨by decide, ?_⟩
    intro entry h
    cases h
  apply (hbytes ?_).trans
  · decide
  · simpa using ⟨hfirst, hsecond⟩

/-- The bytes on disk are not what is compared: a line ending of two characters is taken for a
line feed. -/
theorem check_not_exact_on_bytes :
    ¬ ∀ (dir : Path) (files : Entries String) (fs : FileSystem),
      (∀ f ∈ files, fs.find? (dir.child f.1) = none ∨
        ∃ bytes, fs.find? (dir.child f.1) = some (.file bytes)) →
      ((check dir files).run fs).result = .ok ((files.filter (fun f =>
        fs.find? (dir.child f.1) != some (.file (Text.Utf8.encode f.2)))).map
          (fun f => dir.child f.1)) := by
  intro h
  have hfile : ∀ f ∈ [("a.h", "x\n")],
      (oneFile (Text.Utf8.encode "x\r\n")).find? (Path.child ⟨"", ["out"]⟩ f.1) = none ∨
        ∃ bytes, (oneFile (Text.Utf8.encode "x\r\n")).find? (Path.child ⟨"", ["out"]⟩ f.1) =
          some (.file bytes) := by
    intro f hf
    rw [List.mem_singleton.mp hf]
    exact Or.inr ⟨_, rfl⟩
  have hcheck := h ⟨"", ["out"]⟩ [("a.h", "x\n")] (oneFile (Text.Utf8.encode "x\r\n")) hfile
  exact absurd hcheck (by decide)

/-- Bytes that are no text do not even get an answer. -/
example : ((check ⟨"", ["out"]⟩ [("a.h", "x\n")]).run (oneFile [0xFF])).result =
    .error (.notText ⟨0, 0xFF, 1, .startByte⟩) := by decide

end Output
end EventHeader
