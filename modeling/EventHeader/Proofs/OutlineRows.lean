import EventHeader.Proofs.IdentifierShape
import EventHeader.Proofs.PayloadUnfolding
import EventHeader.Proofs.PropertyDepth
import EventHeader.Proofs.TextLines
import EventHeader.Schema.Outline

/- The rows of an outline. Components without foreign kinds can always be outlined, and the rows
   are those of each component, event and property in turn (`componentLines_eq`). They are plain
   if their names are words and the options of their enums have neither commas nor line feeds in
   them; then no row has a line feed in it (`newline_not_mem_componentRows`), and a row shows how
   far it is moved to the right, whether more items follow, the name, and a word that tells the
   kinds apart and gives the options of an enum away (`propertyRow_inj`, `eventRow_inj`). Only the
   marks of optional properties and of bubbling are left out (`componentRows_map_bare`). -/
namespace EventHeader.Schema.Outline
open Payload (required allRequired)

/-! ## Plain outlines -/

/-- Whether a text is a word: there is something in it, and nothing but letters, digits and
underscores of ASCII. -/
def IsName (s : String) : Prop := s ≠ "" ∧ ∀ c ∈ s.toList, Identifier.isWordChar c = true

/-- Whether an option can be told apart from its neighbours in a line. -/
def IsOption (s : String) : Prop := s ≠ "" ∧ ',' ∉ s.toList ∧ '\n' ∉ s.toList

instance : DecidablePred IsName := fun s =>
  decidable_of_iff (s ≠ "" ∧ s.toList.all Identifier.isWordChar = true) (by
    rw [List.all_eq_true, IsName])

instance : DecidablePred IsOption := fun _ => inferInstanceAs (Decidable (_ ∧ _))

mutual
/-- A type of one of the eight kinds, with plain names and options in it. -/
def PlainType : PropertyType → Prop
  | .primitive _ => True
  | .stringEnum options => ∀ o ∈ options, IsOption o
  | .object properties => PlainProperties properties
  | .foreign _ => False

def PlainProperties : List Property → Prop
  | [] => True
  | ⟨name, _, type⟩ :: rest => IsName name ∧ PlainType type ∧ PlainProperties rest
end

def PlainEvent (e : Event) : Prop := IsName e.name ∧ PlainProperties (e.payload.getD [])

def PlainComponent (entry : String × Component) : Prop :=
  IsName entry.1 ∧ ∀ e ∈ entry.2.events, PlainEvent e

/-! ## Rows -/

def word (type : PropertyType) : String := (describe type).toOption.getD ""

def propertyRow (margin : String) (more : Bool) (name : String) (type : PropertyType) : String :=
  margin ++ branch more ++ name ++ ": " ++ word type

mutual
def typeRows (margin : String) : PropertyType → List String
  | .object properties => propertyRows margin properties
  | _ => []

def propertyRows (margin : String) : List Property → List String
  | [] => []
  | ⟨name, _, type⟩ :: rest =>
    propertyRow margin (!rest.isEmpty) name type ::
      (typeRows (margin ++ trunk (!rest.isEmpty)) type ++ propertyRows margin rest)
end

def eventRow (more : Bool) (e : Event) : String :=
  branch more ++ (e.name ++ if e.payload.isNone then "()" else "")

def eventRows : List Event → List String
  | [] => []
  | e :: rest =>
    eventRow (!rest.isEmpty) e ::
      (propertyRows (trunk (!rest.isEmpty)) (e.payload.getD []) ++ eventRows rest)

def componentRows : Entries Component → List String
  | [] => []
  | (name, c) :: rest => name :: (eventRows c.events ++ componentRows rest)

variable {margin : String} {more : Bool} {type : PropertyType} {e : Event}

/-! ## An outline consists of its rows -/

theorem describe_eq (h : ∀ kind, type ≠ .foreign kind) : describe type = .ok (word type) := by
  cases type with
  | foreign kind => exact absurd rfl (h kind)
  | _ => rfl

mutual
theorem typeLines_eq : ∀ (type : PropertyType),
    (∀ inner, type = .object inner → Known inner) → ∀ margin,
      typeLines margin type = .ok (typeRows margin type)
  | .primitive _, _, _ => rfl
  | .stringEnum _, _, _ => rfl
  | .object properties, h, margin => propertyLines_eq properties (h properties rfl) margin
  | .foreign _, _, _ => rfl

theorem propertyLines_eq : ∀ (properties : List Property), Known properties → ∀ margin,
    propertyLines margin properties = .ok (propertyRows margin properties)
  | [], _, _ => rfl
  | ⟨name, _, type⟩ :: rest, h, margin => by
    obtain ⟨hknown, hinner, hrest⟩ := known_cons h
    simp only [propertyLines, describe_eq hknown, typeLines_eq type hinner,
      propertyLines_eq rest hrest]
    rfl
end

theorem eventLines_eq : ∀ {events : List Event}, (∀ e ∈ events, Known (e.payload.getD [])) →
    eventLines events = .ok (eventRows events)
  | [], _ => rfl
  | e :: rest, h => by
    obtain ⟨he, hrest⟩ := List.forall_mem_cons.mp h
    have hpayload := propertyLines_eq _ he
    simp only [eventLines, eventLines_eq hrest, eventRows, eventRow]
    cases hp : e.payload with
    | none => simp [String.append_assoc, propertyRows, pure, Except.pure, bind, Except.bind]
    | some properties =>
      rw [hp] at hpayload
      simp only [Option.getD_some] at hpayload
      simp [hpayload, Except.map, pure, Except.pure, bind, Except.bind]

/-- There is an outline of components without foreign kinds, and it consists of their rows. -/
theorem componentLines_eq : ∀ {components : Entries Component},
    (∀ c ∈ components, ∀ e ∈ c.2.events, Known (e.payload.getD [])) →
      componentLines components = .ok (componentRows components)
  | [], _ => rfl
  | (name, c) :: rest, h => by
    obtain ⟨hc, hrest⟩ := List.forall_mem_cons.mp h
    simp only [componentLines, eventLines_eq hc, componentLines_eq hrest]
    rfl

/-! ## What is plain is known -/

theorem plainType_of_mem {properties : List Property} (h : PlainProperties properties) :
    ∀ p ∈ properties, PlainType p.type := by
  induction properties with
  | nil => exact fun _ hp => absurd hp List.not_mem_nil
  | cons q rest ih =>
    obtain ⟨name, optional, type⟩ := q
    obtain ⟨-, htype, hrest⟩ := h
    exact List.forall_mem_cons.mpr ⟨htype, ih hrest⟩

theorem plainType_of_propertyAt {properties : List Property} {depth : Nat} {p : Property}
    (hat : PropertyAt properties depth p) (h : PlainProperties properties) : PlainType p.type := by
  induction hat with
  | own mem => exact plainType_of_mem h _ mem
  | nested mem object _ ih =>
    have hinner := plainType_of_mem h _ mem
    rw [object] at hinner
    exact ih hinner

theorem known_of_plain {properties : List Property} (h : PlainProperties properties) :
    Known properties := by
  intro depth p hat kind hkind
  have hplain := plainType_of_propertyAt hat h
  rw [hkind] at hplain
  exact hplain

/-! ## No row has a line feed in it -/

theorem newline_not_mem_branch (more : Bool) : '\n' ∉ (branch more).toList := by
  cases more <;> decide

theorem newline_not_mem_trunk (more : Bool) : '\n' ∉ (trunk more).toList := by
  cases more <;> decide

theorem newline_not_mem_intercalate {options : List String} (h : ∀ o ∈ options, IsOption o) :
    '\n' ∉ (", ".intercalate options).toList := by
  induction options with
  | nil => exact List.not_mem_nil
  | cons o options ih =>
    obtain ⟨ho, hrest⟩ := List.forall_mem_cons.mp h
    cases options with
    | nil => simpa using ho.2.2
    | cons p options =>
      have hcomma : '\n' ∉ ", ".toList := by decide
      rw [String.intercalate_cons_cons, String.toList_append, String.toList_append]
      simp only [List.mem_append, not_or]
      exact ⟨⟨ho.2.2, hcomma⟩, ih hrest⟩

theorem newline_not_mem_word (h : PlainType type) : '\n' ∉ (word type).toList := by
  cases type with
  | primitive kind => cases kind <;> decide
  | stringEnum options =>
    have hoptions := newline_not_mem_intercalate h
    show '\n' ∉ ("enum[" ++ ", ".intercalate options ++ "]").toList
    rw [String.toList_append, String.toList_append]
    simp only [List.mem_append, not_or]
    exact ⟨⟨by decide, hoptions⟩, by decide⟩
  | object properties => show '\n' ∉ "object".toList; decide
  | foreign kind => exact h.elim

theorem newline_not_mem_propertyRow (hmargin : '\n' ∉ margin.toList) {name : String}
    (hname : IsName name) (h : PlainType type) :
    '\n' ∉ (propertyRow margin more name type).toList := by
  have hbranch := newline_not_mem_branch more
  have hname := Identifier.newline_not_mem hname.2
  have hword := newline_not_mem_word h
  simp [propertyRow, hmargin, hbranch, hname, hword]

mutual
theorem newline_not_mem_typeRows : ∀ (type : PropertyType), PlainType type → ∀ margin : String,
    '\n' ∉ margin.toList → ∀ row ∈ typeRows margin type, '\n' ∉ row.toList
  | .primitive _, _, _, _, _, hrow => absurd hrow List.not_mem_nil
  | .stringEnum _, _, _, _, _, hrow => absurd hrow List.not_mem_nil
  | .object properties, h, margin, hmargin, row, hrow =>
    newline_not_mem_propertyRows properties h margin hmargin row hrow
  | .foreign _, h, _, _, _, _ => h.elim

theorem newline_not_mem_propertyRows : ∀ (properties : List Property),
    PlainProperties properties → ∀ margin : String, '\n' ∉ margin.toList →
      ∀ row ∈ propertyRows margin properties, '\n' ∉ row.toList
  | [], _, _, _, _, hrow => absurd hrow List.not_mem_nil
  | ⟨name, _, type⟩ :: rest, h, margin, hmargin, row, hrow => by
    obtain ⟨hname, htype, hrest⟩ := h
    have hdeeper : '\n' ∉ (margin ++ trunk (!rest.isEmpty)).toList := by
      simp [hmargin, newline_not_mem_trunk]
    obtain rfl | hrow := List.mem_cons.mp hrow
    · exact newline_not_mem_propertyRow hmargin hname htype
    · obtain hrow | hrow := List.mem_append.mp hrow
      · exact newline_not_mem_typeRows type htype _ hdeeper row hrow
      · exact newline_not_mem_propertyRows rest hrest margin hmargin row hrow
end

theorem newline_not_mem_eventRow (h : PlainEvent e) : '\n' ∉ (eventRow more e).toList := by
  have hname := Identifier.newline_not_mem h.1.2
  cases hp : e.payload <;> simp [eventRow, newline_not_mem_branch, hname, hp]

theorem newline_not_mem_eventRows {events : List Event} (h : ∀ e ∈ events, PlainEvent e) :
    ∀ row ∈ eventRows events, '\n' ∉ row.toList := by
  induction events with
  | nil => exact fun row hrow => absurd hrow List.not_mem_nil
  | cons e rest ih =>
    obtain ⟨he, hrest⟩ := List.forall_mem_cons.mp h
    intro row hrow
    obtain rfl | hrow := List.mem_cons.mp hrow
    · exact newline_not_mem_eventRow he
    · obtain hrow | hrow := List.mem_append.mp hrow
      · exact newline_not_mem_propertyRows _ he.2 _ (newline_not_mem_trunk _) row hrow
      · exact ih hrest row hrow

theorem newline_not_mem_componentRows {components : Entries Component}
    (h : ∀ c ∈ components, PlainComponent c) :
    ∀ row ∈ componentRows components, '\n' ∉ row.toList := by
  induction components with
  | nil => exact fun row hrow => absurd hrow List.not_mem_nil
  | cons entry rest ih =>
    obtain ⟨hc, hrest⟩ := List.forall_mem_cons.mp h
    intro row hrow
    obtain rfl | hrow := List.mem_cons.mp hrow
    · exact Identifier.newline_not_mem hc.1.2
    · obtain hrow | hrow := List.mem_append.mp hrow
      · exact newline_not_mem_eventRows hc.2 row hrow
      · exact ih hrest row hrow

/-! ## What a row shows -/

/-- Two texts that go on, if at all, with a character that they cannot have. -/
theorem append_inj_of_stop {p : Char → Bool} {cs cs' ds ds' : List Char}
    (hcs : ∀ c ∈ cs, p c = true) (hcs' : ∀ c ∈ cs', p c = true) (hds : ∀ d ∈ ds.head?, p d = false)
    (hds' : ∀ d ∈ ds'.head?, p d = false) (heq : cs ++ ds = cs' ++ ds') : cs = cs' ∧ ds = ds' := by
  have hstop : ∀ ds : List Char, (∀ d ∈ ds.head?, p d = false) → ds.takeWhile p = [] := by
    intro ds h
    cases ds with
    | nil => rfl
    | cons d ds => simp [h d rfl]
  have hfront := congrArg (List.takeWhile p) heq
  rw [List.takeWhile_append_of_pos hcs, List.takeWhile_append_of_pos hcs', hstop ds hds,
    hstop ds' hds', List.append_nil, List.append_nil] at hfront
  subst hfront
  exact ⟨rfl, List.append_cancel_left heq⟩

theorem branch_inj {more more' : Bool} {cs cs' : List Char}
    (h : (branch more).toList ++ cs = (branch more').toList ++ cs') : more = more' ∧ cs = cs' := by
  cases more <;> cases more' <;> simp_all [branch]

/-- What is put behind the first option of an enum. -/
def furtherOptions : List String → List Char
  | [] => []
  | o :: options => ',' :: ' ' :: (", ".intercalate (o :: options)).toList

theorem toList_intercalate_cons (o : String) (options : List String) :
    (", ".intercalate (o :: options)).toList = o.toList ++ furtherOptions options := by
  cases options with
  | nil => simp [furtherOptions]
  | cons p options =>
    rw [String.intercalate_cons_cons, String.toList_append, String.toList_append,
      List.append_assoc]
    rfl

theorem intercalate_cons_ne_empty {o : String} (ho : IsOption o) (options : List String) :
    ", ".intercalate (o :: options) ≠ "" := by
  intro hempty
  have hchars := congrArg String.toList hempty
  rw [toList_intercalate_cons] at hchars
  exact ho.1 (String.toList_inj.mp (List.append_eq_nil_iff.mp hchars).1)

theorem options_of_intercalate : ∀ {options options' : List String},
    (∀ o ∈ options, IsOption o) → (∀ o ∈ options', IsOption o) →
      ", ".intercalate options = ", ".intercalate options' → options = options'
  | [], [], _, _, _ => rfl
  | [], o :: options, _, h', heq =>
    absurd heq.symm (intercalate_cons_ne_empty (h' o List.mem_cons_self) options)
  | o :: options, [], h, _, heq =>
    absurd heq (intercalate_cons_ne_empty (h o List.mem_cons_self) options)
  | o :: options, o' :: options', h, h', heq => by
    obtain ⟨ho, hrest⟩ := List.forall_mem_cons.mp h
    obtain ⟨ho', hrest'⟩ := List.forall_mem_cons.mp h'
    have hplain : ∀ o : String, IsOption o → ∀ c ∈ o.toList, (c != ',') = true := by
      intro o ho c hc
      rw [bne_iff_ne]
      rintro rfl
      exact ho.2.1 hc
    have hcomma : ∀ (options : List String), ∀ d ∈ (furtherOptions options).head?,
        (d != ',') = false := by
      intro options
      cases options <;> simp [furtherOptions]
    have hchars := congrArg String.toList heq
    rw [toList_intercalate_cons, toList_intercalate_cons] at hchars
    -- The first option ends at the first comma, if there is one.
    obtain ⟨hfirst, hothers⟩ := append_inj_of_stop (hplain o ho) (hplain o' ho') (hcomma options)
      (hcomma options') hchars
    rw [String.toList_inj.mp hfirst]
    cases options with
    | nil =>
      cases options' with
      | nil => rfl
      | cons p' options' => exact nomatch hothers
    | cons p options =>
      cases options' with
      | nil => exact nomatch hothers
      | cons p' options' =>
        have hothers := (List.cons.inj (List.cons.inj hothers).2).2
        rw [options_of_intercalate hrest hrest' (String.toList_inj.mp hothers)]

/-- Types of one kind, with the same options if they are enums. -/
inductive SameKind : PropertyType → PropertyType → Prop where
  | primitive (kind : Primitive) : SameKind (.primitive kind) (.primitive kind)
  | stringEnum (options : List String) : SameKind (.stringEnum options) (.stringEnum options)
  | object (properties properties' : List Property) :
    SameKind (.object properties) (.object properties')

theorem primitive_word_inj {kind kind' : Primitive} (h : kind.word = kind'.word) :
    kind = kind' := by
  cases kind <;> cases kind' <;> first | rfl | exact absurd h (by decide)

theorem head_word_primitive (kind : Primitive) :
    (word (.primitive kind)).toList.head? ≠ some 'e' ∧
      (word (.primitive kind)).toList.head? ≠ some 'o' := by
  cases kind <;> decide

theorem toList_word_stringEnum (options : List String) :
    (word (.stringEnum options)).toList =
      "enum[".toList ++ ((", ".intercalate options).toList ++ "]".toList) := by
  show ("enum[" ++ ", ".intercalate options ++ "]").toList = _
  rw [String.toList_append, String.toList_append, List.append_assoc]

theorem head_word_stringEnum (options : List String) :
    (word (.stringEnum options)).toList.head? = some 'e' := by
  rw [toList_word_stringEnum]
  rfl

theorem head_word_object (properties : List Property) :
    (word (.object properties)).toList.head? = some 'o' := by
  show "object".toList.head? = some 'o'
  decide

/-- The words of plain types tell their kinds apart: only that of an enum begins with an `e`, and
only that of an object with an `o`. -/
theorem sameKind_of_word {type type' : PropertyType} (h : PlainType type) (h' : PlainType type')
    (heq : word type = word type') : SameKind type type' := by
  -- The first letters part the kinds; within one kind the rest of the word is compared.
  have hhead := congrArg (·.toList.head?) heq
  cases type with
  | primitive kind =>
    cases type' with
    | primitive kind' =>
      rw [primitive_word_inj heq]
      exact .primitive kind'
    | stringEnum options' =>
      exact absurd (hhead.trans (head_word_stringEnum options')) (head_word_primitive kind).1
    | object properties' =>
      exact absurd (hhead.trans (head_word_object properties')) (head_word_primitive kind).2
    | foreign _ => exact h'.elim
  | stringEnum options =>
    cases type' with
    | primitive kind' =>
      exact absurd (hhead.symm.trans (head_word_stringEnum options)) (head_word_primitive kind').1
    | stringEnum options' =>
      have hchars := congrArg String.toList heq
      rw [toList_word_stringEnum, toList_word_stringEnum] at hchars
      have hoptions := List.append_cancel_right (List.append_cancel_left hchars)
      rw [options_of_intercalate h h' (String.toList_inj.mp hoptions)]
      exact .stringEnum options'
    | object properties' =>
      exact absurd ((head_word_stringEnum options).symm.trans
        (hhead.trans (head_word_object properties'))) (by decide)
    | foreign _ => exact h'.elim
  | object properties =>
    cases type' with
    | primitive kind' =>
      exact absurd (hhead.symm.trans (head_word_object properties)) (head_word_primitive kind').2
    | stringEnum options' =>
      exact absurd ((head_word_object properties).symm.trans
        (hhead.trans (head_word_stringEnum options'))) (by decide)
    | object properties' => exact .object properties properties'
    | foreign _ => exact h'.elim
  | foreign _ => exact h.elim

/-- The row of a property says whether more follow, how it is called and of which kind it is. -/
theorem propertyRow_inj {more more' : Bool} {name name' : String} {type type' : PropertyType}
    (hname : IsName name) (hname' : IsName name') (htype : PlainType type)
    (htype' : PlainType type')
    (heq : propertyRow margin more name type = propertyRow margin more' name' type') :
    more = more' ∧ name = name' ∧ SameKind type type' := by
  have hcolon (type : PropertyType) :
      ∀ d ∈ (": ".toList ++ (word type).toList).head?, Identifier.isWordChar d = false := by
    intro d hd
    obtain rfl : ':' = d := Option.some.inj hd
    decide
  have hchars := congrArg String.toList heq
  simp only [propertyRow, String.toList_append, List.append_assoc] at hchars
  obtain ⟨hmore, hbehind⟩ := branch_inj (List.append_cancel_left hchars)
  obtain ⟨hnames, hbehind⟩ :=
    append_inj_of_stop hname.2 hname'.2 (hcolon type) (hcolon type') hbehind
  have hword := String.toList_inj.mp (List.append_cancel_left hbehind)
  exact ⟨hmore, String.toList_inj.mp hnames, sameKind_of_word htype htype' hword⟩

theorem eventRow_inj {more more' : Bool} {e e' : Event} (hname : IsName e.name)
    (hname' : IsName e'.name) (heq : eventRow more e = eventRow more' e') :
    more = more' ∧ e.name = e'.name ∧ e.payload.isNone = e'.payload.isNone := by
  have hbrackets (absent : Bool) :
      ∀ d ∈ (if absent then "()" else "").toList.head?, Identifier.isWordChar d = false := by
    intro d hd
    cases absent with
    | false => exact nomatch hd
    | true =>
      obtain rfl : '(' = d := Option.some.inj hd
      decide
  have hchars := congrArg String.toList heq
  simp only [eventRow, String.toList_append] at hchars
  obtain ⟨hmore, hbehind⟩ := branch_inj hchars
  obtain ⟨hnames, hbehind⟩ := append_inj_of_stop hname.2 hname'.2 (hbrackets e.payload.isNone)
    (hbrackets e'.payload.isNone) hbehind
  refine ⟨hmore, String.toList_inj.mp hnames, ?_⟩
  cases hp : e.payload.isNone <;> cases hp' : e'.payload.isNone <;> simp_all

/-! ## What no row shows -/

theorem isEmpty_allRequired (properties : List Property) :
    (allRequired properties).isEmpty = properties.isEmpty := by
  obtain - | ⟨⟨_, _, _⟩, _⟩ := properties <;> rfl

theorem word_required (type : PropertyType) : word (required type) = word type := by
  cases type <;> rfl

mutual
theorem typeRows_required : ∀ (type : PropertyType) (margin : String),
    typeRows margin (required type) = typeRows margin type
  | .primitive _, _ => rfl
  | .stringEnum _, _ => rfl
  | .object properties, margin => propertyRows_allRequired properties margin
  | .foreign _, _ => rfl

theorem propertyRows_allRequired : ∀ (properties : List Property) (margin : String),
    propertyRows margin (allRequired properties) = propertyRows margin properties
  | [], _ => rfl
  | ⟨name, _, type⟩ :: rest, margin => by
    simp only [allRequired, propertyRows, propertyRow, isEmpty_allRequired, word_required,
      typeRows_required type, propertyRows_allRequired rest]
end

def bareEvent (e : Event) : Event := ⟨e.name, false, .direct, e.payload.map allRequired⟩

/-- A component without what its rows do not show. -/
def bare (entry : String × Component) : String × Component :=
  (entry.1, ⟨entry.2.events.map bareEvent⟩)

theorem eventRow_bareEvent (more : Bool) (e : Event) :
    eventRow more (bareEvent e) = eventRow more e := by
  simp [eventRow, bareEvent]

theorem eventRows_map_bareEvent (events : List Event) :
    eventRows (events.map bareEvent) = eventRows events := by
  induction events with
  | nil => rfl
  | cons e rest ih =>
    have hpayload (margin : String) : propertyRows margin ((bareEvent e).payload.getD []) =
        propertyRows margin (e.payload.getD []) := by
      cases hp : e.payload with
      | none => simp [bareEvent, hp]
      | some properties => simp [bareEvent, hp, propertyRows_allRequired]
    simp only [List.map_cons, eventRows, List.isEmpty_map, eventRow_bareEvent, hpayload, ih]

theorem componentRows_map_bare (components : Entries Component) :
    componentRows (components.map bare) = componentRows components := by
  induction components with
  | nil => rfl
  | cons entry rest ih =>
    simp only [List.map_cons, bare, componentRows, eventRows_map_bareEvent, ih]

end EventHeader.Schema.Outline
