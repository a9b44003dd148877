import EventHeader.Proofs.DeclarationLines
import EventHeader.Proofs.RewordedRuns

/- The headers of schemas whose options are worded differently, line by line. A line of one
   header is the same in the other, or both give the text of an option back, in its place in
   the lookup of an enum, and differ in the literal of this text alone (`RewordedLine`).

   This holds of the declarations of an enum, since no literal has a line feed in it, and is
   kept by everything that puts texts together: by lines written below one another
   (`reworded_unlines`), by empty lines between texts (`reworded_intercalate`) and by moving
   a text to the right (`RewordedLine.indent`). -/
namespace EventHeader
open Payload

/-- The line of a lookup that gives the text of an option back for its label. -/
def optionLine (margin : Nat) (enum label o : String) : String :=
  Text.spaces margin ++ "case " ++ enum ++ "::" ++ label ++ ": return " ++ Text.literal o ++ ";"

/-- Lines that are the same, or that give back related options for the label of both. -/
inductive RewordedLine (C : String → String → String → Prop) (margin : Nat) : String → String → Prop
  | same (line : String) : RewordedLine C margin line line
  | option {enum label o o' : String} (related : C enum o o') (first : Identifier.ofText o = label)
      (second : Identifier.ofText o' = label) :
      RewordedLine C margin (optionLine margin enum label o) (optionLine margin enum label o')

/-- Texts of as many lines that are reworded line by line. -/
def RewordedText (C : String → String → String → Prop) (margin : Nat) (t t' : String) : Prop :=
  List.Forall₂ (RewordedLine C margin) (Text.lines t) (Text.lines t')

section
variable {C : String → String → String → Prop} {margin n : Nat}

theorem forall₂_sameLine (ls : List String) : List.Forall₂ (RewordedLine C margin) ls ls :=
  List.forall₂_same.mpr fun line _ => .same line

theorem RewordedText.refl (t : String) : RewordedText C margin t t := forall₂_sameLine _

theorem forall₂_sameText (ts : List String) : List.Forall₂ (RewordedText C margin) ts ts :=
  List.forall₂_same.mpr fun t _ => .refl t

/-! ## Texts put together -/

theorem reworded_unlines {ts ts' : List String} (h : List.Forall₂ (RewordedText C margin) ts ts') :
    RewordedText C margin (Text.unlines ts) (Text.unlines ts') := by
  cases h with
  | nil => exact .refl _
  | cons first rest =>
    unfold RewordedText
    rw [Text.lines_unlines (List.cons_ne_nil _ _), Text.lines_unlines (List.cons_ne_nil _ _)]
    exact List.rel_flatMap (.cons first rest) fun _ _ h => h

theorem reworded_intercalate {ts ts' : List String}
    (h : List.Forall₂ (RewordedText C margin) ts ts') :
    RewordedText C margin ("\n\n".intercalate ts) ("\n\n".intercalate ts') := by
  rw [Text.intercalate_blank, Text.intercalate_blank]
  apply reworded_unlines
  induction h with
  | nil => exact .nil
  | cons first rest ih =>
    cases rest with
    | nil => exact .cons first .nil
    | cons second others => exact .cons first (.cons (.refl "") ih)

theorem indentLine_optionLine (enum label o : String) :
    Text.indentLine n (optionLine margin enum label o) = optionLine (n + margin) enum label o := by
  have hfull : optionLine margin enum label o ≠ "" := by
    simp [optionLine]
  rw [Text.indentLine_of_ne hfull]
  simp [optionLine, Text.spaces_add, String.append_assoc]

theorem RewordedLine.indent {line line' : String} (h : RewordedLine C margin line line') :
    RewordedLine C (n + margin) (Text.indentLine n line) (Text.indentLine n line') := by
  cases h with
  | same => exact .same _
  | option related first second =>
    rw [indentLine_optionLine, indentLine_optionLine]
    exact .option related first second

/-! ## Declarations and classes -/

theorem branch_eq_optionLine (enum : String) (c : Declaration.Case) :
    c.branch enum = optionLine 4 enum c.label c.literal := by
  have hmargin : Text.spaces 4 ++ "case " = "    case " := rfl
  rw [optionLine, hmargin]
  rfl

theorem isIdentifier_label {options : List String} :
    ∀ c ∈ enumCases options, Identifier.IsIdentifier c.label := by
  intro c hc
  obtain ⟨o, -, rfl⟩ := List.mem_map.mp hc
  exact Identifier.isIdentifier_ofText o

theorem reworded_branches {enum : String} {options options' : List String}
    (labels : SameLabels options options') (related : List.Forall₂ (C enum) options options') :
    List.Forall₂ (RewordedLine C 4) ((enumCases options).map (Declaration.Case.branch enum))
      ((enumCases options').map (Declaration.Case.branch enum)) := by
  induction related with
  | nil => exact .nil
  | @cons o o' _ _ ho _ ih =>
    cases labels with
    | cons first others =>
      refine .cons ?_ (ih others)
      rw [branch_eq_optionLine, branch_eq_optionLine]
      show RewordedLine C 4 (optionLine 4 enum (Identifier.ofText o) o)
        (optionLine 4 enum (Identifier.ofText o') o')
      rw [← first]
      exact .option ho rfl first.symm

theorem reworded_render {d d' : Declaration} (h : d.Reworded C d') :
    RewordedText C 4 d.render d'.render := by
  cases h with
  | struct => exact .refl _
  | @enum path options options' same related =>
    have hname := Identifier.newline_not_mem (Identifier.isWordChar_of_mem_ofPath path)
    unfold RewordedText
    rw [Declaration.lines_render_enum hname isIdentifier_label,
      Declaration.lines_render_enum hname isIdentifier_label, Declaration.enumLines,
      Declaration.enumLines, labels_enumCases, labels_enumCases, labels_eq_of_sameLabels same]
    exact List.rel_append (List.rel_append (forall₂_sameLine _) (reworded_branches same related))
      (forall₂_sameLine _)

theorem reworded_bodySection {ds ds' : List Declaration}
    (h : List.Forall₂ (Declaration.Reworded C) ds ds') :
    List.Forall₂ (RewordedText C 6)
      (EmitterClass.bodySection ("\n\n".intercalate (ds.map Declaration.render)))
      (EmitterClass.bodySection ("\n\n".intercalate (ds'.map Declaration.render))) := by
  cases h with
  | nil => exact .nil
  | @cons d d' ds ds' first rest =>
    have hall : List.Forall₂ (Declaration.Reworded C) (d :: ds) (d' :: ds') := .cons first rest
    have hfull := EmitterClass.firstLineFull_declarations (List.cons_ne_nil d ds)
    have hfull' := EmitterClass.firstLineFull_declarations (List.cons_ne_nil d' ds')
    have hrenders : List.Forall₂ (RewordedText C 4) ((d :: ds).map Declaration.render)
        ((d' :: ds').map Declaration.render) := List.rel_map (fun _ _ h => reworded_render h) hall
    have hsection {s : String} (hs : Text.FirstLineFull s) :
        EmitterClass.bodySection s = ["", Text.spaces 2 ++ Text.indent 2 s] := by
      rw [EmitterClass.bodySection, if_neg (by simpa using hs.ne_empty)]
      rfl
    rw [hsection hfull, hsection hfull']
    -- An empty line comes first, which is the same, and then the declarations as one text.
    refine .cons (.refl "") (.cons ?_ .nil)
    unfold RewordedText
    rw [Text.lines_indent_whole hfull, Text.lines_indent_whole hfull']
    exact List.rel_map (fun _ _ h => h.indent) (reworded_intercalate hrenders)

theorem reworded_class {c c' : EmitterClass} (h : c.Reworded C c') :
    RewordedText C 6 c.render c'.render := by
  unfold EmitterClass.render EmitterClass.name
  rw [← h.component, ← h.methods]
  apply reworded_unlines
  -- What stands around the declarations is the same in both classes.
  exact List.rel_append (List.rel_append (List.rel_append (forall₂_sameText _)
    (reworded_bodySection h.declarations)) (forall₂_sameText _)) (forall₂_sameText _)

theorem reworded_assemble {classes classes' : List EmitterClass}
    (h : List.Forall₂ (EmitterClass.Reworded C) classes classes') (includes : List String) :
    RewordedText C 6 (Header.assemble classes includes) (Header.assemble classes' includes) := by
  have hclasses : List.Forall₂ (RewordedText C 6) (classes.map EmitterClass.render)
      (classes'.map EmitterClass.render) := List.rel_map (fun _ _ h => reworded_class h) h
  have hend (t : String) : Text.lines (t ++ "\n") = Text.lines t ++ Text.lines "" := by
    rw [← Text.lines_newline, String.append_empty]
  unfold Header.assemble RewordedText
  rw [hend, hend]
  refine List.rel_append (reworded_intercalate ?_) (RewordedText.refl "")
  exact List.rel_append (List.rel_append (forall₂_sameText _) hclasses) (forall₂_sameText _)

end

/-! ## Whole headers -/

section
variable {σ τ : Type}

/-- Without strict names, two schemas that are the same but for the wording of their options
fail both, with errors of one kind, or both give a header; then the headers have equally many
lines and are equal line by line, except that where the one gives the text of an option back,
as a literal behind its label in the lookup of an enum, the other so gives back the option in
its place. -/
theorem option_texts_stay_in_literals (o : GenerationOptions) (lax : o.strict = false)
    (s s' : Schema) (reworded : s.Reworded s') (state : σ) (state' : τ) :
    (∃ e e', ((Header.generate o s).run state).result = .error e ∧
      ((Header.generate o s').run state').result = .error e' ∧ e.SameKind e') ∨
    ∃ header header', ((Header.generate o s).run state).result = .ok [(Header.fileName, header)] ∧
      ((Header.generate o s').run state').result = .ok [(Header.fileName, header')] ∧
      (Text.lines header).length = (Text.lines header').length ∧
      List.Forall₂ (RewordedLine (Corresponding s s') 6) (Text.lines header)
        (Text.lines header') := by
  have hruns : Action.Parallel (fun (_ : σ) (_ : τ) => True) _ _ (Header.generate o s)
      (Header.generate o s') := parallel_generate o lax reworded
  have hresults := (hruns state state' trivial).1
  generalize ((Header.generate o s).run state).result = result,
    ((Header.generate o s').run state').result = result' at hresults ⊢
  cases hresults with
  | error hkind => exact .inl ⟨_, _, rfl, rfl, hkind⟩
  | ok hfiles =>
    obtain ⟨classes, classes', includes, hclasses, rfl, rfl⟩ := hfiles
    have hlines := reworded_assemble hclasses includes
    exact .inr ⟨_, _, rfl, rfl, hlines.length_eq, hlines⟩

/-- An event whose payload is one enum. -/
def toneEvent (options : List String) : Event :=
  ⟨"onTone", false, .direct, some [⟨"tone", false, .stringEnum options⟩]⟩

/-- A schema of one component that emits this event. -/
def toneSchema (options : List String) : Schema :=
  ⟨[("Views", ⟨"Component", some [("Lamp", ⟨[toneEvent options]⟩)]⟩)]⟩

theorem reworded_toneSchema {options options' : List String} (h : SameLabels options options') :
    (toneSchema options).Reworded (toneSchema options') := by
  have hevent : (toneEvent options).Reworded (toneEvent options') :=
    ⟨rfl, rfl, rfl, .some (.cons _ _ (.stringEnum h) .nil)⟩
  exact .cons ⟨rfl, rfl, .some (.cons ⟨rfl, .cons hevent .nil⟩ .nil)⟩ .nil

/-- An option that closes a literal and begins a line is written on the line of the option in
whose place it is. -/
theorem option_texts_stay_in_literals_tone :
    let plain := toneSchema ["warm white", "cold"]
    let hostile := toneSchema ["warm\";\nwhite", "Cold"]
    Corresponding plain hostile "OnToneTone" "warm white" "warm\";\nwhite" ∧
    ∃ header header',
      ((Header.generate ⟨"lib", none, false, false⟩ plain).run ()).result =
        .ok [(Header.fileName, header)] ∧
      ((Header.generate ⟨"lib", none, false, false⟩ hostile).run ()).result =
        .ok [(Header.fileName, header')] ∧
      (Text.lines header).length = (Text.lines header').length ∧
      List.Forall₂ (RewordedLine (Corresponding plain hostile) 6) (Text.lines header)
        (Text.lines header') := by
  intro plain hostile
  have hlabels : SameLabels ["warm white", "cold"] ["warm\";\nwhite", "Cold"] :=
    .cons (by decide) (.cons (by decide) .nil)
  refine ⟨⟨["onTone", "tone"], _, _, List.mem_cons_self, rfl, List.mem_cons_self⟩, ?_⟩
  have h := option_texts_stay_in_literals ⟨"lib", none, false, false⟩ rfl plain hostile
    (reworded_toneSchema hlabels) () ()
  refine h.resolve_left ?_
  rintro ⟨e, e', herror, -⟩
  cases herror

end

end EventHeader
