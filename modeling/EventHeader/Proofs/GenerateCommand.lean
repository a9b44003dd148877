import EventHeader.Proofs.FilePlaces
import EventHeader.Proofs.HeaderContents
import EventHeader.Proofs.OutputChecks
import EventHeader.Proofs.QuietRuns

/- What the generate command does to the files. It loads a schema and generates the header,
   both without any change (`loadOrReport_quietly`, `generate_quietly`), so it has stopped
   before there was any change, or it goes on to write or compare the header in the files that
   it has found (`generate_delivers`). A comparison changes nothing, and a header is written at
   one place below a directory that is made with what is missing on the way
   (`write_singleton_ok`). So every refusal leaves the files alone (`generate_leaves_files`). -/
namespace EventHeader
open EventHeader.Action

namespace Output
variable {fs : FileSystem} {dir : Path} {name contents : String}

/-- What a file written below a directory leaves: the directory and the file in it are there, and
any other place is as it was but for directories made on the way. -/
structure WrittenBelow (dir : Path) (name contents : String) (fs fs' : FileSystem)
    (above : List String) : Prop where
  cwd : fs'.cwd = fs.cwd
  located : fs'.locate dir = .ok above
  directory : fs'.entry? above = some .directory
  target : fs'.locate (dir.child name) = .ok (above ++ [name])
  file : fs'.entry? (above ++ [name]) = some (.file (Text.Utf8.encode contents))
  replaced : fs.entry? (above ++ [name]) ≠ some .directory
  others : ∀ place, place ≠ above ++ [name] → fs'.entry? place = fs.entry? place ∨
    fs.entry? place = none ∧ fs'.entry? place = some .directory ∧
      ∃ n, fs'.locate (dir.upTo n) = .ok place

theorem WrittenBelow.keepsDirectories {fs' : FileSystem} {above : List String}
    (h : WrittenBelow dir name contents fs fs' above) : fs.KeepsDirectories fs' where
  cwd := h.cwd
  directory := by
    intro place hplace
    have hne : place ≠ above ++ [name] := fun heq => h.replaced (heq ▸ hplace)
    obtain hsame | ⟨hnone, -, -⟩ := h.others place hne
    · exact hsame.trans hplace
    · rw [hnone] at hplace
      cases hplace

theorem writtenBelow_of_put {fs₁ : FileSystem} {above : List String}
    (hmade : FileSystem.DirectoriesMade dir fs fs₁) (habove : fs₁.locate dir = .ok above)
    (hdirectory : fs₁.entry? above = some .directory)
    (htarget : fs₁.locate (dir.child name) = .ok (above ++ [name]))
    (hentry : fs₁.entry? (above ++ [name]) ≠ some .directory) :
    WrittenBelow dir name contents fs
      (fs₁.put (above ++ [name]) (.file (Text.Utf8.encode contents))) above := by
  have hkeeps := FileSystem.KeepsDirectories.put hentry (.file (Text.Utf8.encode contents))
  exact {
    cwd := hmade.cwd
    located := hkeeps.locate habove
    directory := hkeeps.directory above hdirectory
    target := hkeeps.locate htarget
    file := FileSystem.entry?_put_self (by simp)
    replaced := fun h => hentry (hmade.kept _ _ h)
    others := by
      intro place hne
      rw [FileSystem.entry?_put_other hne]
      -- What was not there before is one of the directories on the way.
      cases hbefore : fs.entry? place with
      | some e => exact Or.inl (hmade.kept place e hbefore)
      | none =>
        cases hafter : fs₁.entry? place with
        | none => exact Or.inl rfl
        | some e =>
          obtain ⟨rfl, n, hn⟩ := hmade.made place e hafter hbefore
          exact Or.inr ⟨rfl, rfl, n, hkeeps.locate hn⟩ }

/-- Files are written one after another, each into what the one before it has left. -/
theorem writeEach_cons_ok {rest : Entries String} {paths : List Path}
    (h : ((writeEach dir ((name, contents) :: rest)).run fs).result = .ok paths) :
    ∃ fs₁ more, fs.write (dir.child name) (Text.Utf8.encode contents) = .ok fs₁ ∧
      ((writeEach dir rest).run fs₁).result = .ok more ∧
      ((writeEach dir ((name, contents) :: rest)).run fs).state =
        ((writeEach dir rest).run fs₁).state := by
  rw [writeEach] at h ⊢
  obtain ⟨_, hput, h, hstate⟩ := Action.bind_ok h
  rw [mapError_state] at h hstate
  have hwrite := FileSystem.run_perform_ok (mapError_ok_iff.mp hput)
  generalize ((FileSystem.perform (dir.child name) _).run fs).state = fs₁ at hwrite h hstate
  obtain ⟨_, _, h, hlogged⟩ := Action.bind_ok h
  rw [run_write] at h hlogged
  obtain ⟨more, hmore, _, hlast⟩ := Action.bind_ok h
  exact ⟨fs₁, more, hwrite, hmore, hstate.trans (hlogged.trans hlast)⟩

/-- The name has to be that of a file: one part of a path, and not the two dots. -/
theorem write_singleton_ok (hname : Path.ofText name = ⟨"", [name]⟩) (hdots : name ≠ "..")
    {paths : List Path} (h : ((write dir [(name, contents)]).run fs).result = .ok paths) :
    ∃ above, WrittenBelow dir name contents fs
      ((write dir [(name, contents)]).run fs).state above := by
  rw [write] at h ⊢
  obtain ⟨_, hmake, heach, hstate⟩ := Action.bind_ok h
  obtain ⟨hmade, hdirectory⟩ := FileSystem.ensureDirectories_ok (mapError_ok_iff.mp hmake)
  rw [List.reverse_reverse] at hmade hdirectory
  change FileSystem.DirectoriesMade dir fs
    ((FileSystem.ensureDirectories dir.root dir.parts.reverse).run fs).state at hmade
  rw [mapError_state] at heach hstate
  generalize ((FileSystem.ensureDirectories dir.root dir.parts.reverse).run fs).state = fs₁ at *
  obtain ⟨_, _, hwrite, _, hwritten⟩ := writeEach_cons_ok heach
  obtain ⟨place, hplace, hentry, rfl⟩ := FileSystem.write_ok hwrite
  obtain ⟨above, habove, hisDirectory⟩ := FileSystem.find?_eq_some.mp hdirectory
  have hbelow := FileSystem.locate_child hname hdots habove hplace
  subst hbelow
  change _ = fs₁.put _ _ at hwritten
  rw [hstate, hwritten]
  exact ⟨above, writtenBelow_of_put hmade habove hisDirectory hplace hentry⟩

end Output

namespace CommandLine
variable {room : Nat} {fs : FileSystem} {p : Path} {s : Schema} {env : Environment}
  {r : GenerateRequest} {files : Entries String}

/-! ## Loading -/

/-- Whether the program reports an error, rather than being stopped by it. -/
def Foreseen : LoadError → Prop
  | .unreadable e => e.cause.isSystem = true
  | .notJson _ => True
  | .notSchema _ => True
  | .notText _ => False
  | .numberTooLong _ => False
  | .tooDeep _ => False

theorem run_load (room : Nat) (p : Path) (fs : FileSystem) : (Schema.load room p).run fs =
    ⟨Schema.inFile room fs p, fs, [⟨.debug, "schema", "Loading schema from " ++ p.text⟩]⟩ := by
  simp [Schema.load, Action.run_bind]

theorem loadOrReport_some (h : Schema.inFile room fs p = .ok s) :
    ((loadOrReport room p).run fs).result = .ok (some s) := by
  simp [loadOrReport, Action.run_bind, run_load, h]

/-- An error that is reported leaves no schema, any other error ends the command. -/
theorem loadOrReport_error {e : LoadError} (h : Schema.inFile room fs p = .error e) :
    (Foreseen e ∧ ((loadOrReport room p).run fs).result = .ok none) ∨
      (¬ Foreseen e ∧ ∃ crash, ((loadOrReport room p).run fs).result = .error crash) := by
  cases e with
  | unreadable e =>
    by_cases hsystem : e.cause.isSystem = true
    · simp [loadOrReport, Action.run_bind, run_load, h, Foreseen, hsystem, complain]
    · simp [loadOrReport, Action.run_bind, run_load, h, Foreseen, hsystem]
  | _ => simp [loadOrReport, Action.run_bind, run_load, h, Foreseen, complain]

/-! ## The stages of the command -/

def GenerateRequest.directory (r : GenerateRequest) (env : Environment) (fs : FileSystem) : Path :=
  Settings.outputDir env (workingDirectory fs) r.outputDir

/-- What is done with the files that were generated. -/
def deliver (env : Environment) (r : GenerateRequest) (fs : FileSystem) (files : Entries String) :
    Action FileSystem Crash Int :=
  if r.check then checkFiles (r.directory env fs) files
  else writeFiles (r.directory env fs) files

/-- A request that is refused: its schema cannot be loaded, there is no header for it, or the
header that is on disk is another one. -/
inductive Refused (room : Nat) (env : Environment) (r : GenerateRequest) (fs : FileSystem) :
    Prop where
  | unloaded {e : LoadError} (load : Schema.inFile room fs r.schema = .error e)
      (foreseen : Foreseen e)
  | ungenerated {s : Schema} {e : GenerationError} (load : Schema.inFile room fs r.schema = .ok s)
      (error : ((Header.generate (r.options env) s).run fs).result = .error e)
  | stale {s : Schema} {files : Entries String} {p : Path} {more : List Path}
      (load : Schema.inFile room fs r.schema = .ok s)
      (generated : ((Header.generate (r.options env) s).run fs).result = .ok files)
      (check : r.check = true)
      (differs : ((Output.check (r.directory env fs) files).run fs).result = .ok (p :: more))

theorem run_generate (room : Nat) (env : Environment) (r : GenerateRequest) (fs : FileSystem) :
    (generate room env r).run fs = (do
      match ← loadOrReport room r.schema with
      | none => return 1
      | some schema =>
        match ← (Header.generate (r.options env) schema).attempt with
        | .error e => do
          complain ("Generation aborted: " ++ e.message)
          return 1
        | .ok files => deliver env r fs files : Action FileSystem Crash Int).run fs := by
  rw [generate, Action.run_bind, run_getState]
  rfl

theorem generate_unloaded (env : Environment) {e : LoadError}
    (h : Schema.inFile room fs r.schema = .error e) :
    ((generate room env r).run fs).state = fs ∧
      (Foreseen e ∧ ((generate room env r).run fs).result = .ok 1 ∨
        ¬ Foreseen e ∧ ∃ crash, ((generate room env r).run fs).result = .error crash) := by
  have hquiet := loadOrReport_quietly room r.schema
  rw [run_generate]
  obtain ⟨hforeseen, hresult⟩ | ⟨hforeseen, crash, hresult⟩ := loadOrReport_error h
  · rw [hquiet.run_bind_ok hresult]
    exact ⟨rfl, Or.inl ⟨hforeseen, rfl⟩⟩
  · rw [hquiet.run_bind_error hresult]
    exact ⟨rfl, Or.inr ⟨hforeseen, crash, rfl⟩⟩

section
variable (hload : Schema.inFile room fs r.schema = .ok s)
include hload

theorem run_generate_loaded (env : Environment) : ∃ before : List Record,
    (∀ record ∈ before, record.NotOfOutput) ∧
    let next : Action FileSystem Crash Int :=
      match ((Header.generate (r.options env) s).run fs).result with
      | .error e => do
        complain ("Generation aborted: " ++ e.message)
        return 1
      | .ok files => deliver env r fs files
    (generate room env r).run fs =
      ⟨(next.run fs).result, (next.run fs).state, before ++ (next.run fs).journal⟩ := by
  -- Loading and generating leave the files alone, so what follows starts from them.
  have hquiet := loadOrReport_quietly room r.schema
  have hgenerates : Quietly Record.NotOfOutput
      ((Header.generate (r.options env) s).attempt : Action FileSystem Crash _) :=
    (Header.generate_quietly (r.options env) s).attempt
  refine ⟨((loadOrReport room r.schema).run fs).journal ++
    ((Header.generate (r.options env) s).run fs).journal, ?_, ?_⟩
  · intro record hrecord
    obtain hrecord | hrecord := List.mem_append.mp hrecord
    · exact hquiet.records fs record hrecord
    · exact hgenerates.records fs record hrecord
  · rw [run_generate, hquiet.run_bind_ok (loadOrReport_some hload)]
    simp only
    rw [hgenerates.run_bind_ok rfl, List.append_assoc]
    rfl

/-- With files generated, a request comes to their delivery, and until then nothing has been
changed or said on files. -/
theorem generate_delivers
    (hfiles : ((Header.generate (r.options env) s).run fs).result = .ok files) :
    ∃ before : List Record, (∀ record ∈ before, record.NotOfOutput) ∧
      (generate room env r).run fs = ⟨((deliver env r fs files).run fs).result,
        ((deliver env r fs files).run fs).state,
        before ++ ((deliver env r fs files).run fs).journal⟩ := by
  obtain ⟨before, hbefore, hrun⟩ := run_generate_loaded hload env
  rw [hfiles] at hrun
  exact ⟨before, hbefore, hrun⟩

theorem generate_ungenerated {e : GenerationError}
    (herror : ((Header.generate (r.options env) s).run fs).result = .error e) :
    ((generate room env r).run fs).state = fs ∧ ((generate room env r).run fs).result = .ok 1 := by
  obtain ⟨before, hbefore, hrun⟩ := run_generate_loaded hload env
  rw [herror] at hrun
  rw [hrun]
  exact ⟨rfl, rfl⟩

end

/-! ## Delivery -/

theorem run_checkFiles (dir : Path) (files : Entries String) (fs : FileSystem) :
    (checkFiles dir files).run fs =
      match ((Output.check dir files).run fs).result with
      | .error e => ⟨.error (.ofOutput e), fs, ((Output.check dir files).run fs).journal⟩
      | .ok [] => ⟨.ok 0, fs, ((Output.check dir files).run fs).journal ++
          [⟨.info, "cli", "Generated files in " ++ dir.text ++ " are up to date"⟩]⟩
      | .ok (p :: more) => ⟨.ok 1, fs, ((Output.check dir files).run fs).journal ++
          [⟨.error, "cli",
            toString (p :: more).length ++ " generated file(s) out of date in " ++ dir.text⟩]⟩ := by
  have hstate := Output.check_state dir files fs
  rw [checkFiles, Action.run_bind, run_mapError]
  rcases hrun : (Output.check dir files).run fs with ⟨result, fs', journal⟩
  rw [hrun] at hstate
  change fs' = fs at hstate
  subst hstate
  cases result with
  | error e => rfl
  | ok stale => cases stale <;> rfl

theorem writeFiles_result (dir : Path) (files : Entries String) (fs : FileSystem) :
    (∃ crash, ((writeFiles dir files).run fs).result = .error crash) ∨
      ((writeFiles dir files).run fs).result = .ok 0 ∧
        ((writeFiles dir files).run fs).state = ((Output.write dir files).run fs).state ∧
        ∃ paths, ((Output.write dir files).run fs).result = .ok paths := by
  rw [writeFiles, Action.run_bind, run_mapError]
  rcases (Output.write dir files).run fs with ⟨_ | paths, fs', journal⟩
  · exact Or.inl ⟨_, rfl⟩
  · exact Or.inr ⟨rfl, rfl, paths, rfl⟩

theorem refused_iff_foreseen {e : LoadError} (h : Schema.inFile room fs r.schema = .error e) :
    Refused room env r fs ↔ Foreseen e := by
  constructor
  · intro hrefused
    cases hrefused with
    | unloaded load foreseen =>
      cases h.symm.trans load
      exact foreseen
    | ungenerated load _ => cases h.symm.trans load
    | stale load _ _ _ => cases h.symm.trans load
  · exact .unloaded h

theorem refused_iff_stale (hload : Schema.inFile room fs r.schema = .ok s)
    (hfiles : ((Header.generate (r.options env) s).run fs).result = .ok files) :
    Refused room env r fs ↔ r.check = true ∧
      ∃ p more, ((Output.check (r.directory env fs) files).run fs).result = .ok (p :: more) := by
  constructor
  · intro hrefused
    cases hrefused with
    | unloaded load _ => cases hload.symm.trans load
    | ungenerated load error =>
      cases hload.symm.trans load
      cases hfiles.symm.trans error
    | stale load generated check differs =>
      cases hload.symm.trans load
      cases hfiles.symm.trans generated
      exact ⟨check, _, _, differs⟩
  · intro ⟨hcheck, p, more, hdiffers⟩
    exact .stale hload hfiles hcheck hdiffers

/-- A request is refused, stopped, or found to be met, in which cases it leaves the files as they
were; or it has a header and goes on to write it. -/
theorem generate_outcome (room : Nat) (env : Environment) (r : GenerateRequest) (fs : FileSystem) :
    ((generate room env r).run fs).state = fs ∧
      (Refused room env r fs ∧ ((generate room env r).run fs).result = .ok 1 ∨
        ¬ Refused room env r fs ∧ ((∃ crash, ((generate room env r).run fs).result = .error crash) ∨
          r.check = true ∧ ((generate room env r).run fs).result = .ok 0)) ∨
    ¬ Refused room env r fs ∧ r.check = false ∧
      ((∃ crash, ((generate room env r).run fs).result = .error crash) ∨
        ((generate room env r).run fs).result = .ok 0 ∧ ∃ s contents above,
          Schema.inFile room fs r.schema = .ok s ∧
          ((Header.generate (r.options env) s).run fs).result =
            .ok [(Header.fileName, contents)] ∧
          Output.WrittenBelow (r.directory env fs) Header.fileName contents fs
            ((generate room env r).run fs).state above) := by
  cases hload : Schema.inFile room fs r.schema with
  | error e =>
    obtain ⟨hstate, hresult⟩ := generate_unloaded env hload
    rw [refused_iff_foreseen hload]
    refine Or.inl ⟨hstate, ?_⟩
    obtain ⟨hforeseen, hresult⟩ | ⟨hforeseen, hcrash⟩ := hresult
    · exact Or.inl ⟨hforeseen, hresult⟩
    · exact Or.inr ⟨hforeseen, Or.inl hcrash⟩
  | ok s =>
    -- From here on it is the options and the components that decide, and then the files.
    cases hfiles : ((Header.generate (r.options env) s).run fs).result with
    | error e =>
      obtain ⟨hstate, hresult⟩ := generate_ungenerated hload hfiles
      exact Or.inl ⟨hstate, Or.inl ⟨.ungenerated hload hfiles, hresult⟩⟩
    | ok files =>
      obtain ⟨before, -, hrun⟩ := generate_delivers hload hfiles
      rw [refused_iff_stale hload hfiles, hrun, deliver]
      cases hcheck : r.check with
      | true =>
        rw [if_pos rfl, run_checkFiles]
        cases ((Output.check (r.directory env fs) files).run fs).result with
        | error e => simp
        | ok stale => cases stale <;> simp
      | false =>
        obtain ⟨-, includes, -, rfl⟩ := Header.generate_ok hfiles
        rw [if_neg Bool.false_ne_true]
        -- Only here may files have changed when the program is stopped.
        refine Or.inr ⟨by simp, rfl, ?_⟩
        obtain hcrash | ⟨hresult, hstate, paths, hwrite⟩ := writeFiles_result (r.directory env fs)
          [(Header.fileName, Header.assemble _ includes)] fs
        · exact Or.inl hcrash
        · obtain ⟨above, hwritten⟩ := Output.write_singleton_ok (by decide) (by decide) hwrite
          exact Or.inr ⟨hresult, s, _, above, rfl, hfiles, hstate ▸ hwritten⟩

theorem generate_written (hcheck : r.check = false)
    (hresult : ((generate room env r).run fs).result = .ok 0) : ∃ s contents above,
      Schema.inFile room fs r.schema = .ok s ∧
      ((Header.generate (r.options env) s).run fs).result = .ok [(Header.fileName, contents)] ∧
      Output.WrittenBelow (r.directory env fs) Header.fileName contents fs
        ((generate room env r).run fs).state above := by
  obtain ⟨-, ⟨-, hone⟩ | ⟨-, ⟨crash, hcrash⟩ | ⟨htrue, -⟩⟩⟩ |
    ⟨-, -, ⟨crash, hcrash⟩ | ⟨-, hwritten⟩⟩ := generate_outcome room env r fs
  · cases hresult.symm.trans hone
  · cases hresult.symm.trans hcrash
  · cases hcheck.symm.trans htrue
  · cases hresult.symm.trans hcrash
  · exact hwritten

/-- A request is answered with the exit code 1 exactly if it is refused, and with 0 otherwise, if
it is answered at all. A refused request leaves the files as they were, and so does a check,
however it ends. A request that is met without a check leaves the generated header in the
directory, and everything else as it was but for directories made on the way there. -/
theorem generate_leaves_files (room : Nat) (env : Environment) (r : GenerateRequest)
    (fs : FileSystem) :
    (((generate room env r).run fs).result = .ok 1 ↔ Refused room env r fs) ∧
    (∀ code, ((generate room env r).run fs).result = .ok code → code = 0 ∨ code = 1) ∧
    (((generate room env r).run fs).result = .ok 1 → ((generate room env r).run fs).state = fs) ∧
    (r.check = true → ((generate room env r).run fs).state = fs) ∧
    (r.check = false → ((generate room env r).run fs).result = .ok 0 → ∃ s contents above,
      Schema.inFile room fs r.schema = .ok s ∧
      ((Header.generate (r.options env) s).run fs).result = .ok [(Header.fileName, contents)] ∧
      Output.WrittenBelow (r.directory env fs) Header.fileName contents fs
        ((generate room env r).run fs).state above) := by
  obtain ⟨hstate, ⟨hrefused, hresult⟩ | ⟨hrefused, ⟨crash, hresult⟩ | ⟨hcheck, hresult⟩⟩⟩ |
    ⟨hrefused, hcheck, ⟨crash, hresult⟩ | ⟨hresult, hwritten⟩⟩ := generate_outcome room env r fs
  · simp [hresult, hrefused, hstate]
  · simp [hresult, hrefused, hstate]
  · simp [hresult, hrefused, hstate, hcheck]
  · simp [hresult, hrefused, hcheck]
  · exact ⟨by simp [hresult, hrefused], by simp [hresult], by simp [hresult], by simp [hcheck],
      fun _ _ => hwritten⟩

/-- A working directory with a schema file, whose only component has a name and no events. -/
def schemaFiles (component : String) : FileSystem :=
  ⟨["w"], [(["w"], .directory), (["w", "s.json"], .file (Text.Utf8.encode
    ("\x7b\"modules\":\x7b\"M\":\x7b\"type\":\"Component\",\"components\":\x7b\"" ++ component ++
      "\":\x7b\"events\":[]\x7d\x7d\x7d\x7d\x7d")))]⟩

/-- A request for the header of that schema. -/
def schemaRequest : GenerateRequest :=
  ⟨⟨"", ["s.json"]⟩, none, none, false, false, none, false⟩

theorem generate_leaves_files_tap :
    ((generate usualRoom [] schemaRequest).run (schemaFiles "Tap")).result = .ok 0 ∧
    ∃ contents above, Output.WrittenBelow ⟨"/", ["w", "generated"]⟩ "EventEmitters.h" contents
      (schemaFiles "Tap") ((generate usualRoom [] schemaRequest).run (schemaFiles "Tap")).state
      above := by
  have hresult :
      ((generate usualRoom [] schemaRequest).run (schemaFiles "Tap")).result = .ok 0 := by
    decide +kernel
  obtain ⟨-, -, -, -, hwritten⟩ :=
    generate_leaves_files usualRoom [] schemaRequest (schemaFiles "Tap")
  obtain ⟨_, contents, above, -, -, hbelow⟩ := hwritten rfl hresult
  have hdirectory : schemaRequest.directory [] (schemaFiles "Tap") =
      ⟨"/", ["w", "generated"]⟩ := by decide
  exact ⟨hresult, contents, above, hdirectory ▸ hbelow⟩

end CommandLine
end EventHeader
