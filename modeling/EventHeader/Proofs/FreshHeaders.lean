import EventHeader.Proofs.CarriageReturns
import EventHeader.Proofs.GenerateCommand

/- A header checked after it was written. Writing a header leaves the schema as it was, as long as
   the two are not one file (`WrittenBelow.read_other`), and from the same schema the same header
   comes (`generate_anyState`). So the check compares the header with what was written of it, and
   since line endings are read as line feeds, this is the same text exactly if there is no
   carriage return in it (`run_check_written`). These come from names that stand in the header as
   they are, and only where there is none does a header that was written count as up to date
   (`check_after_generate`). -/
namespace EventHeader
open EventHeader.Action

theorem Header.generate_anyState {σ τ : Type} {o : GenerationOptions} {s : Schema} {state : σ}
    {files : Entries String} (h : ((generate o s).run state).result = .ok files) (state' : τ) :
    ((generate o s).run state').result = .ok files :=
  (generate_congr rfl rfl).trans h

namespace Output
variable {fs fs' : FileSystem} {dir p : Path} {name contents : String} {above : List String}

theorem WrittenBelow.read_other (h : WrittenBelow dir name contents fs fs' above)
    (hother : fs'.locate (dir.child name) ≠ fs'.locate p) {bytes : List UInt8}
    (hread : fs.read p = .ok bytes) : fs'.read p = .ok bytes := by
  rw [FileSystem.read_ok_iff, FileSystem.find?_eq_some] at hread ⊢
  obtain ⟨place, hl, hentry⟩ := hread
  have hl' := h.keepsDirectories.locate hl
  have hne : place ≠ above ++ [name] := by
    intro heq
    rw [h.target, hl', heq] at hother
    exact hother rfl
  obtain hsame | ⟨hnone, -, -⟩ := h.others place hne
  · exact ⟨place, hl', hsame.trans hentry⟩
  · rw [hnone] at hentry
    cases hentry

/-- A file that was written is up to date exactly if its text has no carriage return. -/
theorem run_check_written (h : WrittenBelow dir name contents fs fs' above) :
    (check dir [(name, contents)]).run fs' =
      if Text.HasReturn contents then
        ⟨.ok [dir.child name], fs', [outOfDate (dir.child name)]⟩
      else ⟨.ok [], fs', []⟩ := by
  have hfind : fs'.find? (dir.child name) = some (.file (Text.Utf8.encode contents)) :=
    FileSystem.find?_eq_some.mpr ⟨_, h.target, h.file⟩
  have hfree : ∀ f ∈ [(name, contents)], Free fs' (dir.child f.1) := by
    intro f hf
    rw [List.mem_singleton.mp hf]
    exact free_of_file hfind
  rw [run_check_of_free hfree, stalePaths_cons, textAt?_of_file hfind]
  by_cases hreturn : Text.HasReturn contents
  · have hdiffers : Text.universalNewlines contents.toList ≠ contents.toList :=
      fun h => Text.universalNewlines_eq_self.mp h hreturn
    simp [hreturn, hdiffers, stalePaths]
  · have hsame := Text.universalNewlines_eq_self.mpr hreturn
    simp [hreturn, hsame, stalePaths]

end Output

namespace CommandLine
variable {room : Nat} {env : Environment} {r : GenerateRequest} {fs fs' : FileSystem}

theorem inFile_ok_iff {p : Path} {s : Schema} : Schema.inFile room fs p = .ok s ↔
    ∃ bytes, fs.read p = .ok bytes ∧ Schema.ofBytes room bytes = .ok s := by
  rw [Schema.inFile]
  cases fs.read p <;> simp

/-- How a check ends once the header was written: with the files as they were, and well unless
the header has a carriage return. -/
theorem run_check_again (hcheck : r.check = false)
    (hstate : ((generate room env r).run fs).state = fs')
    (hresult : ((generate room env r).run fs).result = .ok 0)
    (hother : fs'.locate ((r.directory env fs).child Header.fileName) ≠ fs'.locate r.schema) :
    ∃ s contents, Schema.inFile room fs r.schema = .ok s ∧
      ((Header.generate (r.options env) s).run fs).result = .ok [(Header.fileName, contents)] ∧
      ∃ before : List Record, (∀ record ∈ before, record.NotOfOutput) ∧
        (generate room env { r with check := true }).run fs' =
          if Text.HasReturn contents then
            ⟨.ok 1, fs', before ++
              [Output.outOfDate ((r.directory env fs).child Header.fileName),
                ⟨.error, "cli", toString 1 ++ " generated file(s) out of date in " ++
                  (r.directory env fs).text⟩]⟩
          else ⟨.ok 0, fs', before ++ [⟨.info, "cli", "Generated files in " ++
            (r.directory env fs).text ++ " are up to date"⟩]⟩ := by
  obtain ⟨s, contents, above, hload, hfiles, hbelow⟩ := generate_written hcheck hresult
  rw [hstate] at hbelow
  refine ⟨s, contents, hload, hfiles, ?_⟩
  have hload' : Schema.inFile room fs' r.schema = .ok s := by
    obtain ⟨bytes, hread, hs⟩ := inFile_ok_iff.mp hload
    exact inFile_ok_iff.mpr ⟨bytes, hbelow.read_other hother hread, hs⟩
  have hdirectory : GenerateRequest.directory { r with check := true } env fs' =
      r.directory env fs := by
    rw [GenerateRequest.directory, GenerateRequest.directory, workingDirectory, hbelow.cwd]
    rfl
  have hfiles' := Header.generate_anyState hfiles fs'
  obtain ⟨before, hbefore, hrun⟩ :=
    generate_delivers (r := { r with check := true }) hload' hfiles'
  refine ⟨before, hbefore, ?_⟩
  rw [hrun, deliver, if_pos rfl, hdirectory, run_checkFiles, Output.run_check_written hbelow]
  by_cases hreturn : Text.HasReturn contents
  · rw [if_pos hreturn, if_pos hreturn]
    rfl
  · rw [if_neg hreturn, if_neg hreturn]
    rfl

/-- The names that stand in the header of a schema as they are. -/
def verbatimNames (strict : Bool) (s : Schema) : List String :=
  (Keyed.ofList s.definitions).flatMap (Header.verbatimNames strict)

theorem hasReturn_header {σ : Type} {o : GenerationOptions} {s : Schema} {state : σ}
    {contents : String}
    (h : ((Header.generate o s).run state).result = .ok [(Header.fileName, contents)]) :
    Text.HasReturn contents ↔ ∃ name ∈ verbatimNames o.strict s, '\r' ∈ name.toList := by
  obtain ⟨hclasses, includes, hincludes, hassemble⟩ := Header.generate_ok h
  obtain rfl : contents = _ := (Prod.mk.inj (List.cons.inj hassemble).1).2
  rw [Header.hasReturn_assemble hclasses hincludes, verbatimNames, exists_mem_flatMap]
  rfl

/-- A header that was written, and is not the schema itself, is checked without any change. It
counts as up to date exactly if no name that stands in it as it is has a carriage return; else
the check reports it as out of date and is refused. -/
theorem check_after_generate (room : Nat) (env : Environment) (r : GenerateRequest)
    (fs fs' : FileSystem)
    (hcheck : r.check = false) (hstate : ((generate room env r).run fs).state = fs')
    (hresult : ((generate room env r).run fs).result = .ok 0)
    (hother : fs'.locate ((r.directory env fs).child Header.fileName) ≠ fs'.locate r.schema) :
    ((generate room env { r with check := true }).run fs').state = fs' ∧
    ∃ s, Schema.inFile room fs r.schema = .ok s ∧
      ((∀ name ∈ verbatimNames (r.options env).strict s, '\r' ∉ name.toList) →
        ((generate room env { r with check := true }).run fs').result = .ok 0 ∧
        ∀ record ∈ ((generate room env { r with check := true }).run fs').journal,
          record.part ≠ "output") ∧
      ((∃ name ∈ verbatimNames (r.options env).strict s, '\r' ∈ name.toList) →
        ((generate room env { r with check := true }).run fs').result = .ok 1 ∧
        Output.outOfDate ((r.directory env fs).child Header.fileName) ∈
          ((generate room env { r with check := true }).run fs').journal) := by
  obtain ⟨s, contents, hload, hfiles, before, hbefore, hrun⟩ :=
    run_check_again hcheck hstate hresult hother
  rw [hrun, hload]
  refine ⟨by split <;> rfl, s, rfl, ?_, ?_⟩
  · intro hnames
    have hplain : ¬ Text.HasReturn contents := by
      rw [hasReturn_header hfiles]
      intro ⟨name, hname, h⟩
      exact hnames name hname h
    rw [if_neg hplain]
    refine ⟨rfl, ?_⟩
    -- Until the comparison nothing was said on files, and after it only the last record comes.
    intro record hrecord
    obtain hrecord | hrecord := List.mem_append.mp hrecord
    · exact hbefore record hrecord
    · rw [List.mem_singleton.mp hrecord]
      show "cli" ≠ "output"
      decide
  · intro hnames
    rw [if_pos ((hasReturn_header hfiles).mpr hnames)]
    exact ⟨rfl, List.mem_append_right _ List.mem_cons_self⟩

/-- Whether a schema file was read and holds, of the names that stand in its header as they are,
one with a carriage return. -/
def schemaHasReturn (fs : FileSystem) : Bool :=
  match Schema.inFile usualRoom fs schemaRequest.schema with
  | .ok s =>
    (verbatimNames (schemaRequest.options []).strict s).any fun name => decide ('\r' ∈ name.toList)
  | .error _ => false

theorem check_after_generate_tap :
    ((generate usualRoom [] { schemaRequest with check := true }).run
      ((generate usualRoom [] schemaRequest).run (schemaFiles "Tap")).state).result = .ok 0 := by
  have hresult :
      ((generate usualRoom [] schemaRequest).run (schemaFiles "Tap")).result = .ok 0 := by
    decide +kernel
  have hnames : schemaHasReturn (schemaFiles "Tap") = false := by decide +kernel
  obtain ⟨-, s, hload, hfresh, -⟩ := check_after_generate usualRoom [] schemaRequest
    (schemaFiles "Tap") _ rfl rfl hresult (by decide +kernel)
  rw [schemaHasReturn, hload] at hnames
  apply (hfresh ?_).1
  simpa using hnames

/-- A header is written and then found out of date where the name of a component has a carriage
return in it. -/
theorem written_header_out_of_date :
    ¬ ∀ (env : Environment) (r : GenerateRequest) (fs : FileSystem), r.check = false →
      ((generate usualRoom env r).run fs).result = .ok 0 →
      ((generate usualRoom env r).run fs).state.locate
          ((r.directory env fs).child Header.fileName) ≠
        ((generate usualRoom env r).run fs).state.locate r.schema →
      ((generate usualRoom env { r with check := true }).run
        ((generate usualRoom env r).run fs).state).result = .ok 0 := by
  intro h
  have hresult :
      ((generate usualRoom [] schemaRequest).run (schemaFiles "A\\rB")).result = .ok 0 := by
    decide +kernel
  have hother : ((generate usualRoom [] schemaRequest).run (schemaFiles "A\\rB")).state.locate
      ((schemaRequest.directory [] (schemaFiles "A\\rB")).child Header.fileName) ≠
      ((generate usualRoom [] schemaRequest).run (schemaFiles "A\\rB")).state.locate
        schemaRequest.schema := by
    decide +kernel
  have hnames : schemaHasReturn (schemaFiles "A\\rB") = true := by decide +kernel
  obtain ⟨s, contents, hload, hfiles, before, -, hrun⟩ := run_check_again rfl rfl hresult hother
  have hreturn : Text.HasReturn contents := by
    rw [hasReturn_header hfiles]
    rw [schemaHasReturn, hload] at hnames
    simpa using hnames
  have hagain := h [] schemaRequest (schemaFiles "A\\rB") rfl hresult hother
  rw [hrun, if_pos hreturn] at hagain
  cases hagain

end CommandLine
end EventHeader
