import EventHeader.Proofs.GenerateCommand
import EventHeader.Proofs.ReaderStops

/- What comes of loading a schema from whatever is at a path. The schema that is read is given
   on; a failure is reported by one error of the command line, or it stops the program without a
   report (`run_loadOrReport`). The latter befalls paths that no operating system takes, files
   that are no text, numbers with too many digits, and documents nested too deep for the calls
   that are left, and nothing else (`unforeseen_iff`). So a path without a file, a directory, and
   a file whose text has no such run of digits and is nested less deep never stop the program, as
   `loading_reports_or_stops` puts together; a single byte that starts no character does
   (`loading_stopped_by_stray_byte`), and so do more opening brackets than there are calls left
   (`loading_stopped_by_brackets`). -/
namespace EventHeader

namespace Json
variable {cs : List Char} {e : NumberTooLong}

/-! ## Line endings -/

theorem prefix_of_universalNewlines (cs : List Char) {ds : List Char}
    (hds : ∀ c ∈ ds, isDigit c = true) (h : ds <+: Text.universalNewlines cs) : ds <+: cs := by
  fun_induction Text.universalNewlines cs generalizing ds with
  | case1 => exact h
  | case2 cs ih =>
    obtain rfl | ⟨more, rfl, -⟩ := List.prefix_cons_iff.mp h
    · exact List.nil_prefix
    · exact absurd (hds '\n' List.mem_cons_self) (by decide)
  | case3 c cs hpair ih =>
    obtain rfl | ⟨more, rfl, hmore⟩ := List.prefix_cons_iff.mp h
    · exact List.nil_prefix
    · obtain ⟨hfirst, hdigits⟩ := List.forall_mem_cons.mp hds
      by_cases hc : c = '\r'
      · rw [if_pos hc] at hfirst
        exact absurd hfirst (by decide)
      · rw [if_neg hc]
        exact List.cons_prefix_cons.mpr ⟨rfl, ih hdigits hmore⟩

theorem infix_of_universalNewlines {ds : List Char} (hds : ∀ c ∈ ds, isDigit c = true)
    (h : ds <:+: Text.universalNewlines cs) : ds <:+: cs := by
  fun_induction Text.universalNewlines cs with
  | case1 => exact h
  | case2 cs ih =>
    obtain h | h := List.infix_cons_iff.mp h
    · exact (prefix_of_universalNewlines ('\r' :: '\n' :: cs) hds h).isInfix
    · exact (ih h).trans ⟨['\r', '\n'], [], List.append_nil _⟩
  | case3 c cs hpair ih =>
    obtain h | h := List.infix_cons_iff.mp h
    · rw [← Text.universalNewlines.eq_3 c cs hpair] at h
      exact (prefix_of_universalNewlines (c :: cs) hds h).isInfix
    · exact (ih h).trans (List.suffix_cons c cs).isInfix

/-- Line endings are no digits, and none of the digits around one come together. -/
theorem LongNumber.of_universalNewlines (h : LongNumber (Text.universalNewlines cs) e) :
    LongNumber cs e := by
  obtain ⟨ds, hds, hdigits, hlength⟩ := h
  exact ⟨ds, infix_of_universalNewlines hdigits hds, hdigits, hlength⟩

namespace Scan

theorem step_carriageReturn (s : Scan) : s.step '\r' = s.step '\n' := by
  obtain ⟨zone, depth⟩ := s
  cases zone <;> rfl

theorem step_lineFeed_twice (s : Scan) : (s.step '\n').step '\n' = s.step '\n' := by
  obtain ⟨zone, depth⟩ := s
  cases zone <;> rfl

theorem depth_lineFeed (s : Scan) : (s.step '\n').depth = s.depth := by
  obtain ⟨zone, depth⟩ := s
  cases zone <;> rfl

theorem deepest_universalNewlines (s : Scan) (cs : List Char) :
    s.deepest (Text.universalNewlines cs) = s.deepest cs := by
  fun_induction Text.universalNewlines cs generalizing s with
  | case1 => rfl
  | case2 cs ih =>
    -- Two line endings in a row take a scan as far as one, and never open a bracket.
    have hreturn := step_carriageReturn s
    have hdepth := depth_lineFeed s
    simp only [deepest, ih, hreturn, step_lineFeed_twice, hdepth]
    omega
  | case3 c cs hpair ih =>
    simp only [deepest, ih]
    split
    · rename_i hc
      rw [hc, step_carriageReturn]
    · rfl

end Scan

theorem nesting_universalNewlines (cs : List Char) :
    nesting (Text.universalNewlines cs) = nesting cs :=
  Scan.deepest_universalNewlines _ cs

end Json

/-! ## Paths that no operating system takes -/

namespace FileSystem
variable {fs : FileSystem} {p : Path}

theorem descend_ne_zeroCharacter (names place : List String) :
    fs.descend place names ≠ .error .zeroCharacter := by
  intro h
  induction names generalizing place with
  | nil => cases h
  | cons name rest ih =>
    unfold descend at h
    split at h
    · exact ih _ h
    · split at h
      · cases h
      · split at h
        · cases h
        · cases h
        · exact ih _ h

theorem follow_ne_zeroCharacter (place names : List String) :
    fs.follow place names ≠ .error .zeroCharacter := by
  unfold follow
  split
  · nofun
  · split
    · rename_i last cause hcause
      rintro ⟨⟩
      exact descend_ne_zeroCharacter _ _ hcause
    · split <;> nofun

/-- Only the character that ends texts for an operating system is refused as that. -/
theorem read_zeroCharacter_iff :
    fs.read p = .error .zeroCharacter ↔ '\x00' ∈ p.text.toList := by
  have hlocate : fs.locate p = .error .zeroCharacter ↔ '\x00' ∈ p.text.toList := by
    unfold locate
    split
    · simp_all
    · split
      · simp_all
      · simp_all [follow_ne_zeroCharacter]
  rw [← hlocate]
  unfold read
  cases fs.locate p with
  | error cause => simp
  | ok place =>
    simp only [reduceCtorEq, iff_false]
    split <;> nofun

end FileSystem

namespace CommandLine
open EventHeader.Action

variable {room : Nat} {fs : FileSystem} {p : Path} {crash : Crash}

/-! ## How loading ends -/

/-- What is said of an error in loading the schema at a path, or how it stops the program. -/
def report (p : Path) : LoadError → Except Crash String
  | .unreadable e =>
    if e.cause.isSystem then .ok ("Cannot read schema " ++ p.text ++ ": " ++ e.message)
    else .error (.file e)
  | .notText f => .error (.notText f)
  | .notJson e => .ok ("Schema " ++ p.text ++ " is not valid JSON: " ++ e.message)
  | .numberTooLong e => .error (.numberTooLong e)
  | .tooDeep e => .error (.tooDeep e)
  | .notSchema faults => .ok ("Schema " ++ p.text ++ " is invalid:\n" ++ Schema.Report.text faults)

/-- The record that the loading of a schema begins with. -/
def loading (p : Path) : Record := ⟨.debug, "schema", "Loading schema from " ++ p.text⟩

theorem run_loadOrReport (room : Nat) (p : Path) (fs : FileSystem) :
    (loadOrReport room p).run fs =
    match Schema.inFile room fs p with
    | .ok s => ⟨.ok (some s), fs, [loading p]⟩
    | .error e =>
      match report p e with
      | .ok message => ⟨.ok none, fs, [loading p, ⟨.error, "cli", message⟩]⟩
      | .error crash => ⟨.error crash, fs, [loading p]⟩ := by
  cases h : Schema.inFile room fs p with
  | ok s => simp [loadOrReport, Action.run_bind, run_load, h, loading]
  | error e =>
    cases e with
    | unreadable e =>
      by_cases hsystem : e.cause.isSystem = true <;>
        simp [loadOrReport, Action.run_bind, run_load, h, report, hsystem, complain, loading]
    | _ => simp [loadOrReport, Action.run_bind, run_load, h, report, complain, loading]

/-! ## What stops the program -/

/-- What stops the program while it loads a schema with `room` for so many nested calls. -/
inductive Unforeseen (room : Nat) (fs : FileSystem) (p : Path) : Crash → Prop where
  /-- No operating system takes the path. -/
  | zeroCharacter : '\x00' ∈ p.text.toList → Unforeseen room fs p (.file ⟨.zeroCharacter, p⟩)
  /-- The bytes of the file are those of no text. -/
  | notText {bytes f} : fs.read p = .ok bytes → (∀ s, bytes ≠ Text.Utf8.encode s) →
      Text.Utf8.decode bytes = .error f → Unforeseen room fs p (.notText f)
  /-- The reader of the document comes upon a number with too many digits. -/
  | numberTooLong {s e} : fs.read p = .ok (Text.Utf8.encode s) →
      Json.parse room (Text.universalNewlines s.toList) = .error (.numberTooLong e) →
      Unforeseen room fs p (.numberTooLong e)
  /-- The reader of the document has no call left for a list or an object in it, or for a number
  written by a name or a fault that it comes upon inside of so many of them. -/
  | tooDeep {s e} : fs.read p = .ok (Text.Utf8.encode s) →
      Json.parse room (Text.universalNewlines s.toList) = .error (.tooDeep e) →
      Unforeseen room fs p (.tooDeep e)

theorem isSystem_eq_false_iff {cause : FileErrorCause} :
    cause.isSystem = false ↔ cause = .zeroCharacter := by
  cases cause <;> simp [FileErrorCause.isSystem]

theorem ofBytes_notText {bytes : List UInt8} {f : Text.Utf8.Fault}
    (h : Text.Utf8.decode bytes = .error f) : Schema.ofBytes room bytes = .error (.notText f) := by
  rw [Schema.ofBytes, h]

theorem ofBytes_encode (room : Nat) (s : String) : Schema.ofBytes room (Text.Utf8.encode s) =
    match Json.parse room (Text.universalNewlines s.toList) with
    | .error (.malformed e) => .error (.notJson e)
    | .error (.numberTooLong e) => .error (.numberTooLong e)
    | .error (.tooDeep e) => .error (.tooDeep e)
    | .ok v => (Schema.ofJson v).mapError .notSchema := by
  have hdecode : Text.Utf8.decode (Text.Utf8.encode s) = .ok s.toList :=
    Text.Utf8.decode_eq_ok_iff.mpr rfl
  cases hparse : Json.parse room (Text.universalNewlines s.toList) with
  | ok v => simp only [Schema.ofBytes, hdecode, hparse]
  | error stop => cases stop <;> simp only [Schema.ofBytes, hdecode, hparse]

theorem text_or_fault (bytes : List UInt8) : (∃ s, bytes = Text.Utf8.encode s) ∨
    (∀ s, bytes ≠ Text.Utf8.encode s) ∧ ∃ f, Text.Utf8.decode bytes = .error f := by
  cases h : Text.Utf8.decode bytes with
  | ok cs =>
    rw [← String.toList_ofList (l := cs)] at h
    exact Or.inl ⟨_, Text.Utf8.decode_eq_ok_iff.mp h⟩
  | error f =>
    refine Or.inr ⟨?_, f, rfl⟩
    rintro s rfl
    cases h.symm.trans (Text.Utf8.decode_eq_ok_iff.mpr rfl)

/-- A file that can be read stops the program over its bytes, a number or its nesting. -/
theorem unforeseen_of_ofBytes {bytes : List UInt8} {e : LoadError} (hread : fs.read p = .ok bytes)
    (h : Schema.ofBytes room bytes = .error e) (hreport : report p e = .error crash) :
    Unforeseen room fs p crash := by
  -- By the stage that fails; a fault of the text and faults of the document are reported.
  obtain ⟨s, rfl⟩ | ⟨hnone, f, hdecode⟩ := text_or_fault bytes
  · rw [ofBytes_encode] at h
    split at h
    · cases h
      cases hreport
    · rename_i e' hparse
      cases h
      cases hreport
      exact .numberTooLong hread hparse
    · rename_i e' hparse
      cases h
      cases hreport
      exact .tooDeep hread hparse
    · rename_i v _
      cases hjson : Schema.ofJson v with
      | ok schema =>
        rw [hjson] at h
        cases h
      | error faults =>
        rw [hjson] at h
        cases h
        cases hreport
  · cases (ofBytes_notText hdecode).symm.trans h
    cases hreport
    exact .notText hread hnone hdecode

theorem unforeseen_iff : Unforeseen room fs p crash ↔
    ∃ e, Schema.inFile room fs p = .error e ∧ report p e = .error crash := by
  constructor
  · intro h
    cases h with
    | zeroCharacter hzero =>
      have hread : fs.read p = .error .zeroCharacter :=
        FileSystem.read_zeroCharacter_iff.mpr hzero
      exact ⟨.unreadable ⟨.zeroCharacter, p⟩, by rw [Schema.inFile, hread], rfl⟩
    | @notText bytes f hread _ hdecode =>
      exact ⟨.notText f, by rw [Schema.inFile, hread]; exact ofBytes_notText hdecode, rfl⟩
    | @numberTooLong s e hread hparse =>
      refine ⟨.numberTooLong e, ?_, rfl⟩
      rw [Schema.inFile, hread]
      simp only
      rw [ofBytes_encode, hparse]
    | @tooDeep s e hread hparse =>
      refine ⟨.tooDeep e, ?_, rfl⟩
      rw [Schema.inFile, hread]
      simp only
      rw [ofBytes_encode, hparse]
  · rintro ⟨e, hload, hreport⟩
    unfold Schema.inFile at hload
    cases hread : fs.read p with
    | ok bytes =>
      rw [hread] at hload
      exact unforeseen_of_ofBytes hread hload hreport
    | error cause =>
      rw [hread] at hload
      cases hload
      cases hsystem : cause.isSystem with
      | true => simp [report, hsystem] at hreport
      | false =>
        obtain rfl := isSystem_eq_false_iff.mp hsystem
        cases hreport
        exact .zeroCharacter (FileSystem.read_zeroCharacter_iff.mp hread)

/-- Whether what is at a path is no file, or a text without so many digits in a row that they
are too long for a number, whose brackets are nested no deeper than leaves calls to tell of a
fault. -/
def ModestText (room : Nat) (fs : FileSystem) (p : Path) : Prop :=
  ∀ bytes, fs.read p = .ok bytes → ∃ s, bytes = Text.Utf8.encode s ∧
    (∀ ds, ds <:+: s.toList → (∀ c ∈ ds, Json.isDigit c = true) → ds.length ≤ Json.maxDigits) ∧
    Json.nesting s.toList + Json.faultCalls ≤ room

theorem not_unforeseen (hpath : '\x00' ∉ p.text.toList) (htext : ModestText room fs p) :
    ¬ Unforeseen room fs p crash := by
  intro h
  cases h with
  | zeroCharacter hzero => exact hpath hzero
  | notText hread hnone _ =>
    obtain ⟨s, hs, -⟩ := htext _ hread
    exact hnone s hs
  | numberTooLong hread hparse =>
    obtain ⟨s, hs, hshort, -⟩ := htext _ hread
    obtain rfl := Text.Utf8.encode_inj.mp hs
    -- The reader sees the text with other line endings than the file has.
    have hnumber := (Json.longNumber_of_parse hparse).of_universalNewlines
    obtain ⟨ds, hds, hdigits, hlength, hlong⟩ := hnumber
    exact Nat.not_le.mpr (hlength ▸ hlong) (hshort ds hds hdigits)
  | tooDeep hread hparse =>
    obtain ⟨s, hs, -, hflat⟩ := htext _ hread
    obtain rfl := Text.Utf8.encode_inj.mp hs
    have hnesting := Json.nesting_of_parse hparse
    rw [Json.nesting_universalNewlines] at hnesting
    exact Nat.not_le.mpr hnesting hflat

/-! ## Loading from whatever is at a path -/

def errors (journal : List Record) : List Record := journal.filter (fun r => r.level == .error)

/-- Loading from a path changes nothing. It gives the schema that is there, without any error;
or it gives none, with one error of the command line; or it stops the program without any error,
and this exactly for a path that no operating system takes, for bytes of no text, for a number
with too many digits, and for a document nested too deep for the calls that are left. So whatever
is at a path but a file, and every file with a text in which no run of digits is too long and
brackets are not nested so deep, is loaded or reported. -/
theorem loading_reports_or_stops (room : Nat) (p : Path) (fs : FileSystem) :
    let o := (loadOrReport room p).run fs
    let load := ((Schema.load room p).run fs).result
    o.state = fs ∧
    ((∃ s, o.result = .ok (some s) ∧ errors o.journal = [] ∧ load = .ok s) ∨
      (∃ e message, o.result = .ok none ∧ errors o.journal = [⟨.error, "cli", message⟩] ∧
        load = .error e) ∨
      (∃ e crash, o.result = .error crash ∧ errors o.journal = [] ∧ load = .error e)) ∧
    (∀ crash, o.result = .error crash ↔ Unforeseen room fs p crash) ∧
    ('\x00' ∉ p.text.toList → ModestText room fs p → ∀ crash, o.result ≠ .error crash) := by
  intro o load
  have hload : load = Schema.inFile room fs p := congrArg Outcome.result (run_load room p fs)
  have hstops : ∀ crash, o.result = .error crash ↔ Unforeseen room fs p crash := by
    intro crash
    rw [unforeseen_iff]
    show ((loadOrReport room p).run fs).result = _ ↔ _
    rw [run_loadOrReport]
    cases Schema.inFile room fs p with
    | ok s => simp
    | error e => cases hreport : report p e <;> simp [hreport]
  have hbegins : errors [loading p] = [] := rfl
  have hends (message : String) : errors [loading p, ⟨.error, "cli", message⟩] =
      [⟨.error, "cli", message⟩] := rfl
  refine ⟨(loadOrReport_quietly room p).state fs, ?_, hstops,
    fun hpath htext crash hcrash => not_unforeseen hpath htext ((hstops crash).mp hcrash)⟩
  have hrun : o = _ := run_loadOrReport room p fs
  rw [hrun, hload]
  cases Schema.inFile room fs p with
  | ok s => exact Or.inl ⟨s, rfl, hbegins, rfl⟩
  | error e =>
    cases hreport : report p e with
    | ok message => exact Or.inr (Or.inl ⟨e, message, by simp [hreport, hends]⟩)
    | error crash => exact Or.inr (Or.inr ⟨e, crash, by simp [hreport, hbegins]⟩)

theorem universalNewlines_brackets (n : Nat) :
    Text.universalNewlines (List.replicate n '[') = List.replicate n '[' := by
  induction n with
  | zero => rfl
  | succ n ih =>
    rw [List.replicate_succ, Text.universalNewlines.eq_3 _ _ (by nofun), ih]
    rfl

/-- A file of more opening brackets than there are calls left stops the program: nothing is
given, and no error is reported. -/
theorem loading_stopped_by_brackets {n : Nat} (hn : room < n)
    (hread : fs.read p = .ok (Text.Utf8.encode (String.ofList (List.replicate n '[')))) :
    ((loadOrReport room p).run fs).result = .error (.tooDeep .array) ∧
      errors ((loadOrReport room p).run fs).journal = [] := by
  have hload : Schema.inFile room fs p = .error (.tooDeep .array) := by
    rw [Schema.inFile, hread]
    simp only
    rw [ofBytes_encode, String.toList_ofList, universalNewlines_brackets, Json.parse_brackets hn]
  rw [run_loadOrReport, hload]
  exact ⟨rfl, rfl⟩

/-- A directory with a document that is cut off, with one of four lists in one another, and with
a byte that starts no character. -/
def looseFiles : FileSystem :=
  ⟨["work"], [(["work"], .directory), (["work", "cut.json"], .file [0x5B]),
    (["work", "deep.json"], .file [0x5B, 0x5B, 0x5B, 0x5B]),
    (["work", "stray.json"], .file [0xFF])]⟩

theorem modestText_cut : ModestText 4 looseFiles ⟨"", ["cut.json"]⟩ := by
  intro bytes hbytes
  have hread : looseFiles.read ⟨"", ["cut.json"]⟩ = .ok (Text.Utf8.encode "[") := by decide
  cases hread.symm.trans hbytes
  exact ⟨"[", rfl, fun ds hds _ => hds.length_le.trans (by decide), by decide⟩

theorem unforeseen_deep : Unforeseen 3 looseFiles ⟨"", ["deep.json"]⟩ (.tooDeep .array) := by
  have hread : looseFiles.read ⟨"", ["deep.json"]⟩ = .ok (Text.Utf8.encode "[[[[") := by decide
  exact .tooDeep hread (Json.parse_brackets (by decide : 3 < 4))

theorem loading_reports_or_stops_loose :
    (∀ crash, ((loadOrReport 4 ⟨"", ["cut.json"]⟩).run looseFiles).result ≠ .error crash) ∧
    ((loadOrReport 4 ⟨"", ["none.json"]⟩).run looseFiles).result = .ok none ∧
    (∃ message, errors ((loadOrReport 4 ⟨"", ["none.json"]⟩).run looseFiles).journal =
      [⟨.error, "cli", message⟩]) ∧
    Unforeseen 4 looseFiles ⟨"", ["stray.json"]⟩ (.notText ⟨0, 0xFF, 1, .startByte⟩) ∧
    ((loadOrReport 3 ⟨"", ["deep.json"]⟩).run looseFiles).result = .error (.tooDeep .array) := by
  obtain ⟨-, -, -, hcut⟩ := loading_reports_or_stops 4 ⟨"", ["cut.json"]⟩ looseFiles
  obtain ⟨-, hnone, -, -⟩ := loading_reports_or_stops 4 ⟨"", ["none.json"]⟩ looseFiles
  obtain ⟨-, -, hstray, -⟩ := loading_reports_or_stops 4 ⟨"", ["stray.json"]⟩ looseFiles
  obtain ⟨-, -, hdeep, -⟩ := loading_reports_or_stops 3 ⟨"", ["deep.json"]⟩ looseFiles
  refine ⟨hcut (by decide) modestText_cut, rfl, ?_, (hstray _).mp rfl,
    (hdeep _).mpr unforeseen_deep⟩
  obtain ⟨s, hs, -⟩ | ⟨e, message, -, herrors, -⟩ | ⟨e, crash, hcrash, -⟩ := hnone
  · cases hs
  · exact ⟨message, herrors⟩
  · cases hcrash

/-- A file of one byte that starts no character stops the program: nothing is given, and no
error is reported. -/
theorem loading_stopped_by_stray_byte :
    ((loadOrReport usualRoom ⟨"", ["stray.json"]⟩).run looseFiles).result =
      .error (.notText ⟨0, 0xFF, 1, .startByte⟩) ∧
    errors ((loadOrReport usualRoom ⟨"", ["stray.json"]⟩).run looseFiles).journal = [] :=
  ⟨rfl, by decide⟩

end CommandLine
end EventHeader
