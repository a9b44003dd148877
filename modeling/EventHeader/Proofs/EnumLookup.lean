import EventHeader.Proofs.DeclarationLines
import EventHeader.Proofs.EnumLabels

/- The lookup of an enum, read back from the text. A reader takes a line of the lookup
   apart by itself: it wants the margin, the name of the enum, a label, and a literal
   that is undone by the reader of literals. Of the lines of an enum it accepts those of
   the lookup only, and reads from them the label and the text of every option in
   order (`readLookup_enumLines`); the margin that a surrounding text puts before the
   lines makes no difference (`readLookup_indentLine`). What a registered enum answers,
   what it is written as, and where it stands in the text of a class is put together in
   `registered_enum_reads_back`. -/
namespace EventHeader.Declaration
open Identifier (IsIdentifier isWordChar)

/-- Reads a line of a lookup at a margin: the label it is for and the text it gives. -/
def readBranch (margin : Nat) (enum line : String) : Option (String × String) := do
  let rest ← line.toList.dropPrefix? (Text.spaces (margin + 4) ++ "case " ++ enum ++ "::").toList
  let behind ← (rest.dropWhile isWordChar).dropPrefix? ": return ".toList
  let (literal, last) ← Text.readLiteral behind
  if last = [';'] then some (String.ofList (rest.takeWhile isWordChar), literal) else none

/-- Reads the lines of a lookup and passes over all others. -/
def readLookup (margin : Nat) (enum : String) (ls : List String) : List (String × String) :=
  ls.filterMap (readBranch margin enum)

variable {n : String} {cs : List Case} {c : Case} {margin k : Nat} {line : String}

theorem span_label {l : String} (h : IsIdentifier l) (behind : List Char) :
    (l.toList ++ ':' :: behind).takeWhile isWordChar = l.toList ∧
      (l.toList ++ ':' :: behind).dropWhile isWordChar = ':' :: behind := by
  have hcolon : isWordChar ':' = false := by decide
  rw [List.takeWhile_append_of_pos h.wordChars, List.dropWhile_append_of_pos h.wordChars]
  simp [hcolon]

theorem readBranch_branch (h : IsIdentifier c.label) :
    readBranch 0 n (c.branch n) = some (c.label, c.literal) := by
  obtain ⟨behind, hbehind⟩ : ∃ behind,
      ": return ".toList ++ ((Text.literal c.literal).toList ++ [';']) = ':' :: behind := ⟨_, rfl⟩
  have hchars : (c.branch n).toList =
      (Text.spaces (0 + 4) ++ "case " ++ n ++ "::").toList ++ (c.label.toList ++ ':' :: behind) := by
    have hmargin : "    case " = Text.spaces (0 + 4) ++ "case " := rfl
    simp [Case.branch, hmargin, ← hbehind, -String.reduceAppend]
  obtain ⟨hlabel, hrest⟩ := span_label h behind
  simp only [readBranch]
  rw [hchars, List.dropPrefix?_append_of_beq _ (beq_self_eq_true _)]
  simp only [Option.bind_eq_bind, Option.bind_some]
  rw [hlabel, hrest, ← hbehind, List.dropPrefix?_append_of_beq _ (beq_self_eq_true _)]
  simp only [Option.bind_some]
  rw [Text.readLiteral_literal]
  simp

/-! ## Lines that are passed over -/

theorem readBranch_eq_none (h : ¬ (Text.spaces (margin + 4)).toList <+: line.toList) :
    readBranch margin n line = none := by
  unfold readBranch
  cases hrest : line.toList.dropPrefix?
      (Text.spaces (margin + 4) ++ "case " ++ n ++ "::").toList with
  | none => rfl
  | some rest =>
    obtain ⟨start, hline, hstart⟩ := List.dropPrefix?_eq_some_iff.mp hrest
    rw [eq_of_beq hstart, String.append_assoc, String.append_assoc, String.toList_append,
      List.append_assoc] at hline
    exact absurd ⟨_, hline.symm⟩ h

theorem of_mem_enumeratorLines : ∀ {labels : List String}, line ∈ enumeratorLines labels →
    ∃ l ∈ labels, ∃ behind, line = "  " ++ l ++ behind
  | [], h => absurd h List.not_mem_nil
  | [l], h => ⟨l, List.mem_cons_self, "", by simpa [enumeratorLines] using h⟩
  | l :: m :: rest, h => by
    rcases List.mem_cons.mp h with rfl | h
    · exact ⟨l, List.mem_cons_self, ",", rfl⟩
    · obtain ⟨l', hl', hline⟩ := of_mem_enumeratorLines h
      exact ⟨l', List.mem_cons_of_mem l hl', hline⟩

/-- An enumerator stands two columns to the left of the lookup. -/
theorem readBranch_of_mem_enumeratorLines {labels : List String}
    (h : ∀ l ∈ labels, IsIdentifier l) (hline : line ∈ enumeratorLines labels) :
    readBranch 0 n line = none := by
  obtain ⟨l, hl, behind, rfl⟩ := of_mem_enumeratorLines hline
  obtain ⟨c, rest, hchars, hc⟩ := (h l hl).initial
  have hspace : ' ' ≠ c := by
    rintro rfl
    exact absurd hc (by decide)
  apply readBranch_eq_none
  simp [Text.spaces, List.replicate_succ, List.cons_prefix_cons, hchars, hspace]

/-- From the lines of an enum its cases are read, one line for each, in their order. -/
theorem readLookup_enumLines (h : ∀ c ∈ cs, IsIdentifier c.label) :
    readLookup 0 n (enumLines n cs) = cs.map fun c => (c.label, c.literal) := by
  -- Of the five stretches of lines only that of the branches is read.
  have hhead : readBranch 0 n ("enum class " ++ n ++ " \x7b") = none :=
    readBranch_eq_none (by simp [Text.spaces, List.replicate_succ, List.cons_prefix_cons])
  have henumerators : (enumeratorLines (cs.map Case.label)).filterMap (readBranch 0 n) = [] := by
    rw [List.filterMap_eq_nil_iff]
    intro line hline
    exact readBranch_of_mem_enumeratorLines (List.forall_mem_map.mpr h) hline
  have hmiddle : ["\x7d;", "", "static char const *toString(const " ++ n ++ " value) \x7b",
      "  switch (value) \x7b"].filterMap (readBranch 0 n) = [] := by
    rw [List.filterMap_eq_nil_iff]
    intro line hline
    apply readBranch_eq_none
    revert line
    simp [Text.spaces, List.replicate_succ, List.cons_prefix_cons]
  have hbranches : (cs.map (Case.branch n)).filterMap (readBranch 0 n) =
      cs.map fun c => (c.label, c.literal) := by
    rw [List.filterMap_map, ← List.filterMap_eq_map]
    exact List.filterMap_congr fun c hc => readBranch_branch (h c hc)
  have hend : ["  \x7d", "\x7d"].filterMap (readBranch 0 n) = [] := by
    rw [List.filterMap_eq_nil_iff]
    intro line hline
    apply readBranch_eq_none
    revert line
    decide
  unfold readLookup enumLines
  rw [List.filterMap_append, List.filterMap_append, List.filterMap_append,
    List.filterMap_cons_none hhead, henumerators, hmiddle, hbranches, hend, List.nil_append,
    List.nil_append, List.append_nil]

/-! ## Lines moved to the right -/

theorem dropPrefix?_append_append (front start l : List Char) :
    (front ++ l).dropPrefix? (front ++ start) = l.dropPrefix? start := by
  induction front with
  | nil => rfl
  | cons c front ih => simp [List.dropPrefix?, ih]

theorem readBranch_indentLine :
    readBranch (margin + k) n (Text.indentLine k line) = readBranch margin n line := by
  by_cases hline : line = ""
  · subst hline
    have hnone (margin : Nat) : readBranch margin n "" = none :=
      readBranch_eq_none (by simp [Text.spaces, List.replicate_succ])
    rw [Text.indentLine_empty, hnone, hnone]
  · have hmargin : Text.spaces (margin + k + 4) = Text.spaces k ++ Text.spaces (margin + 4) := by
      rw [← Text.spaces_add]
      congr 1
      omega
    unfold readBranch
    rw [Text.indentLine_of_ne hline, hmargin]
    simp only [String.toList_append, List.append_assoc, dropPrefix?_append_append]

theorem readLookup_indentLine (margin k : Nat) (ls : List String) :
    readLookup (margin + k) n (ls.map (Text.indentLine k)) = readLookup margin n ls := by
  unfold readLookup
  rw [List.filterMap_map]
  exact List.filterMap_congr fun line _ => readBranch_indentLine

end EventHeader.Declaration

namespace EventHeader.Payload
open EventHeader.Declaration

/-- Whenever the enum of some options is registered, its lookup gives each option back for
its label, and the labels are identifiers, all different. In its text there is one line for
each label and one for each case of the lookup, from which the labels and options are read
again; and in the text of a class with the enum among its declarations these lines are one
block, two columns further to the right, which is read the same. -/
theorem registered_enum_reads_back (r : Registry) (path options : List String) (n : String)
    (h : ((registerEnum path options).run r).result = .ok n) :
    ∃ d, ((registerEnum path options).run r).state.find? n = some d ∧
      n = Identifier.ofPath path ∧ (path ≠ [] → Identifier.IsIdentifier n) ∧ d.name = n ∧
      (∀ o ∈ options, d.literalOf (Identifier.ofText o) = .ok o) ∧
      d.cases.map Case.label = labels options ∧ (labels options).Nodup ∧
      (∀ l ∈ labels options, Identifier.IsIdentifier l) ∧
      Text.lines d.render =
        ("enum class " ++ n ++ " \x7b") :: enumeratorLines (labels options) ++
          ["\x7d;", "", "static char const *toString(const " ++ n ++ " value) \x7b",
            "  switch (value) \x7b"] ++
          options.map (fun o => "    case " ++ n ++ "::" ++ Identifier.ofText o ++ ": return " ++
            Text.literal o ++ ";") ++ ["  \x7d", "\x7d"] ∧
      (∀ o ∈ options, Text.readLiteral (Text.literal o).toList = some (o, [])) ∧
      readLookup 0 n (Text.lines d.render) = options.map (fun o => (Identifier.ofText o, o)) ∧
      ∀ cls : EmitterClass, d ∈ cls.declarations →
        (Text.lines d.render).map (Text.indentLine 2) <:+: Text.lines cls.render ∧
        readLookup 2 n ((Text.lines d.render).map (Text.indentLine 2)) =
          options.map (fun o => (Identifier.ofText o, o)) := by
  obtain ⟨hname, hdistinct, hstate⟩ := registerEnum_ok h
  -- Neither the name nor a label can break a line, so the lines are those that are written.
  have hn : '\n' ∉ n.toList := by
    rw [hname]
    exact Identifier.newline_not_mem (Identifier.isWordChar_of_mem_ofPath path)
  have hlabels : ∀ l ∈ labels options, Identifier.IsIdentifier l := by
    intro l hl
    obtain ⟨o, -, rfl⟩ := List.mem_map.mp hl
    exact Identifier.isIdentifier_ofText o
  have hcases : ∀ c ∈ enumCases options, Identifier.IsIdentifier c.label := by
    intro c hc
    obtain ⟨o, -, rfl⟩ := List.mem_map.mp hc
    exact Identifier.isIdentifier_ofText o
  have hlines := lines_render_enum hn hcases
  have hread : readLookup 0 n (enumLines n (enumCases options)) =
      options.map (fun o => (Identifier.ofText o, o)) := by
    rw [readLookup_enumLines hcases, enumCases, List.map_map]
    rfl
  refine ⟨.enum n (enumCases options), ?_, hname,
    fun hpath => hname ▸ Identifier.isIdentifier_ofPath hpath, rfl,
    fun o ho => literalOf_ofText n hdistinct ho, labels_enumCases options, hdistinct, hlabels,
    ?_, ?_, ?_, fun cls hd => ⟨?_, ?_⟩⟩
  · rw [hstate]
    exact Registry.find?_place_self r (.enum n (enumCases options))
  · rw [hlines, enumLines, labels_enumCases, enumCases, List.map_map]
    rfl
  · intro o _
    simpa using Text.readLiteral_literal o []
  · rw [hlines, hread]
  · exact EmitterClass.lines_render_of_mem hd
  · rw [hlines, ← hread]
    exact readLookup_indentLine 0 2 (enumLines n (enumCases options))

/-- Options that would leave their literals if they were written as they are. -/
def unrulyOptions : List String :=
  ["say \"hi\"", "back\\slash", "two\nlines", "x\"; case SayHi: return \"y"]

theorem registered_enum_reads_back_unruly :
    ((registerEnum ["onPick", "side"] unrulyOptions).run (Registry.empty true)).result =
      .ok "OnPickSide" ∧
    ∃ d, ((registerEnum ["onPick", "side"] unrulyOptions).run (Registry.empty true)).state.find?
        "OnPickSide" = some d ∧
      d.literalOf "TwoLines" = .ok "two\nlines" ∧
      readLookup 2 "OnPickSide" ((Text.lines d.render).map (Text.indentLine 2)) =
        [("SayHi", "say \"hi\""), ("BackSlash", "back\\slash"), ("TwoLines", "two\nlines"),
          ("XCaseSayHiReturnY", "x\"; case SayHi: return \"y")] := by
  have hok : ((registerEnum ["onPick", "side"] unrulyOptions).run (Registry.empty true)).result =
      .ok "OnPickSide" := rfl
  obtain ⟨d, hfind, -, -, -, hliteral, -, -, -, -, -, -, hclass⟩ :=
    registered_enum_reads_back (Registry.empty true) ["onPick", "side"] unrulyOptions
      "OnPickSide" hok
  refine ⟨hok, d, hfind, ?_, ?_⟩
  · have htwo : Identifier.ofText "two\nlines" = "TwoLines" := by decide +kernel
    exact htwo ▸ hliteral "two\nlines" (by simp [unrulyOptions])
  · have hread := (hclass ⟨"Picker", [d], []⟩ List.mem_cons_self).2
    rw [hread]
    decide +kernel

end EventHeader.Payload
