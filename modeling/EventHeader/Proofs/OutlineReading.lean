import EventHeader.Proofs.OutlineRows

/- Outlines read back. Where the items of a property end is shown by the margin alone: the next
   row is not moved as far to the right, or there is a branch where the margin of a deeper row has
   a trunk. So the rows of properties can be told from those that come after them if these begin
   outside of their margin (`propertyRows_inj`). The same holds of the rows of events, after which
   there is nothing or the name of a component (`eventRows_inj`). Since no row has a line feed in
   it, two plain outlines with the same text have the same rows, and then they are the same but
   for the marks that no row shows (`text_eq_iff`). -/
namespace EventHeader.Schema.Outline
open Payload (required allRequired)

variable {margin : String} {more : Bool} {after after' : List String}

/-! ## Where the rows below a margin end -/

/-- What comes next, if anything, does not begin with a margin. -/
def Outside (margin : String) (rows : List String) : Prop :=
  ∀ row ∈ rows.head?, ¬ margin.toList <+: row.toList

theorem Outside.deeper (h : Outside margin after) (s : String) : Outside (margin ++ s) after := by
  intro row hrow hbegin
  rw [String.toList_append] at hbegin
  exact h row hrow ((List.prefix_append margin.toList s.toList).trans hbegin)

theorem propertyRow_eq (margin : String) (more : Bool) (name : String) (type : PropertyType) :
    propertyRow margin more name type = margin ++ (branch more ++ (name ++ (": " ++ word type))) := by
  simp only [propertyRow, String.append_assoc]

theorem Outside.ne_propertyRow (h : Outside margin after) {name : String} {type : PropertyType}
    (rows : List String) : after ≠ propertyRow margin more name type :: rows := by
  rintro rfl
  apply h _ rfl
  rw [propertyRow_eq, String.toList_append]
  exact List.prefix_append _ _

theorem trunk_not_prefix (more more' : Bool) (s : String) :
    ¬ (trunk more).toList <+: (branch more' ++ s).toList := by
  rw [String.toList_append]
  cases more <;> cases more' <;> simp [trunk, branch]

theorem outside_propertyRows (h : Outside margin after) (more : Bool) (rest : List Property) :
    Outside (margin ++ trunk more) (propertyRows margin rest ++ after) := by
  cases rest with
  | nil => exact h.deeper (trunk more)
  | cons p rest =>
    obtain ⟨name, optional, type⟩ := p
    intro row hrow hbegin
    obtain rfl : propertyRow margin (!rest.isEmpty) name type = row := Option.some.inj hrow
    rw [propertyRow_eq, String.toList_append, String.toList_append,
      List.prefix_append_right_inj] at hbegin
    exact trunk_not_prefix _ _ _ hbegin

mutual
theorem typeRows_inj : ∀ (type type' : PropertyType) {margin : String} {after after' : List String},
    PlainType type → PlainType type' → SameKind type type' →
    Outside margin after → Outside margin after' →
    typeRows margin type ++ after = typeRows margin type' ++ after' →
    required type = required type' ∧ after = after'
  | .primitive _, _, _, _, _, _, _, hkind, _, _, heq => by
    cases hkind
    exact ⟨rfl, heq⟩
  | .stringEnum _, _, _, _, _, _, _, hkind, _, _, heq => by
    cases hkind
    exact ⟨rfl, heq⟩
  | .object properties, _, _, _, _, h, h', hkind, hafter, hafter', heq => by
    cases hkind with
    | object _ properties' =>
      obtain ⟨hproperties, hnext⟩ := propertyRows_inj properties properties' h h' hafter hafter' heq
      exact ⟨congrArg PropertyType.object hproperties, hnext⟩
  | .foreign _, _, _, _, _, h, _, _, _, _, _ => h.elim

/-- Properties can be read from their rows, whatever comes next outside of their margin. -/
theorem propertyRows_inj : ∀ (properties properties' : List Property) {margin : String}
    {after after' : List String}, PlainProperties properties → PlainProperties properties' →
    Outside margin after → Outside margin after' →
    propertyRows margin properties ++ after = propertyRows margin properties' ++ after' →
    allRequired properties = allRequired properties' ∧ after = after'
  | [], [], _, _, _, _, _, _, _, heq => ⟨rfl, heq⟩
  | [], ⟨_, _, _⟩ :: _, _, _, _, _, _, hafter, _, heq => by
    simp only [propertyRows, List.nil_append, List.cons_append] at heq
    exact absurd heq (hafter.ne_propertyRow _)
  | ⟨_, _, _⟩ :: _, [], _, _, _, _, _, _, hafter', heq => by
    simp only [propertyRows, List.nil_append, List.cons_append] at heq
    exact absurd heq.symm (hafter'.ne_propertyRow _)
  | ⟨name, _, type⟩ :: rest, ⟨name', _, type'⟩ :: rest', margin, after, after', h, h', hafter,
      hafter', heq => by
    obtain ⟨hname, htype, hrest⟩ := h
    obtain ⟨hname', htype', hrest'⟩ := h'
    simp only [propertyRows, List.cons_append, List.append_assoc] at heq
    obtain ⟨hrow, hbelow⟩ := List.cons.inj heq
    obtain ⟨hmore, hnames, hkind⟩ := propertyRow_inj hname hname' htype htype' hrow
    -- Both rows say whether more follow, so what is below them has one margin.
    rw [← hmore] at hbelow
    obtain ⟨htypes, hnext⟩ := typeRows_inj type type' htype htype' hkind
      (outside_propertyRows hafter _ rest) (outside_propertyRows hafter' _ rest') hbelow
    obtain ⟨hothers, hend⟩ := propertyRows_inj rest rest' hrest hrest' hafter hafter' hnext
    refine ⟨?_, hend⟩
    rw [allRequired, allRequired, hnames, htypes, hothers]
end

/-! ## Where the rows of events end -/

/-- What comes next, if anything, is the name of a component. -/
def Named (rows : List String) : Prop := ∀ row ∈ rows.head?, IsName row

theorem not_isName_branch (more : Bool) (s : String) : ¬ IsName (branch more ++ s) := by
  rintro ⟨-, hchars⟩
  rw [String.toList_append] at hchars
  cases more
  · exact absurd (hchars '└' (List.mem_append_left _ (by decide))) (by decide)
  · exact absurd (hchars '├' (List.mem_append_left _ (by decide))) (by decide)

theorem Named.ne_eventRow (h : Named after) {e : Event} (rows : List String) :
    after ≠ eventRow more e :: rows := by
  rintro rfl
  exact not_isName_branch _ _ (h _ rfl)

theorem Named.outside (h : Named after) (more : Bool) (rest : List Event) :
    Outside (trunk more) (eventRows rest ++ after) := by
  cases rest with
  | nil =>
    intro row hrow hbegin
    obtain ⟨-, hchars⟩ := h row hrow
    obtain ⟨c, hc, hword⟩ : ∃ c ∈ (trunk more).toList, Identifier.isWordChar c = false := by
      cases more with
      | false => exact ⟨' ', by decide, by decide⟩
      | true => exact ⟨'│', by decide, by decide⟩
    exact absurd (hchars c (hbegin.subset hc)) (by simp [hword])
  | cons e rest =>
    intro row hrow
    obtain rfl : eventRow (!rest.isEmpty) e = row := Option.some.inj hrow
    exact trunk_not_prefix _ _ _

theorem bareEvent_eq {e e' : Event} (hname : e.name = e'.name)
    (hnone : e.payload.isNone = e'.payload.isNone)
    (hpayload : allRequired (e.payload.getD []) = allRequired (e'.payload.getD [])) :
    bareEvent e = bareEvent e' := by
  unfold bareEvent
  rw [hname]
  cases hp : e.payload <;> cases hp' : e'.payload <;> simp_all

/-- Events can be read from their rows, whatever component comes next. -/
theorem eventRows_inj : ∀ {events events' : List Event} {after after' : List String},
    (∀ e ∈ events, PlainEvent e) → (∀ e ∈ events', PlainEvent e) → Named after → Named after' →
    eventRows events ++ after = eventRows events' ++ after' →
    events.map bareEvent = events'.map bareEvent ∧ after = after'
  | [], [], _, _, _, _, _, _, heq => ⟨rfl, heq⟩
  | [], _ :: _, _, _, _, _, hafter, _, heq => by
    simp only [eventRows, List.nil_append, List.cons_append] at heq
    exact absurd heq (hafter.ne_eventRow _)
  | _ :: _, [], _, _, _, _, _, hafter', heq => by
    simp only [eventRows, List.nil_append, List.cons_append] at heq
    exact absurd heq.symm (hafter'.ne_eventRow _)
  | e :: rest, e' :: rest', after, after', h, h', hafter, hafter', heq => by
    obtain ⟨he, hrest⟩ := List.forall_mem_cons.mp h
    obtain ⟨he', hrest'⟩ := List.forall_mem_cons.mp h'
    simp only [eventRows, List.cons_append, List.append_assoc] at heq
    obtain ⟨hrow, hbelow⟩ := List.cons.inj heq
    -- The row says by its branch whether more events follow, so both margins are the same.
    obtain ⟨hmore, hname, hnone⟩ := eventRow_inj he.1 he'.1 hrow
    rw [← hmore] at hbelow
    obtain ⟨hpayload, hnext⟩ := propertyRows_inj _ _ he.2 he'.2 (hafter.outside _ rest)
      (hafter'.outside _ rest') hbelow
    obtain ⟨hothers, hend⟩ := eventRows_inj hrest hrest' hafter hafter' hnext
    refine ⟨?_, hend⟩
    rw [List.map_cons, List.map_cons, bareEvent_eq hname hnone hpayload, hothers]

/-! ## Whole outlines -/

variable {components components' : Entries Component}

theorem named_componentRows (h : ∀ c ∈ components, PlainComponent c) :
    Named (componentRows components) := by
  cases components with
  | nil => exact fun row hrow => nomatch hrow
  | cons entry rest =>
    intro row hrow
    obtain rfl : entry.1 = row := Option.some.inj hrow
    exact (h entry List.mem_cons_self).1

theorem componentRows_inj : ∀ {components components' : Entries Component},
    (∀ c ∈ components, PlainComponent c) → (∀ c ∈ components', PlainComponent c) →
    componentRows components = componentRows components' →
    components.map bare = components'.map bare
  | [], [], _, _, _ => rfl
  | [], _ :: _, _, _, heq => nomatch heq
  | _ :: _, [], _, _, heq => nomatch heq
  | (name, c) :: rest, (name', c') :: rest', h, h', heq => by
    obtain ⟨hc, hrest⟩ := List.forall_mem_cons.mp h
    obtain ⟨hc', hrest'⟩ := List.forall_mem_cons.mp h'
    obtain ⟨hname, hbelow⟩ := List.cons.inj heq
    obtain ⟨hevents, hnext⟩ := eventRows_inj hc.2 hc'.2 (named_componentRows hrest)
      (named_componentRows hrest') hbelow
    have hothers := componentRows_inj hrest hrest' hnext
    rw [List.map_cons, List.map_cons, hothers, bare, bare, hname, hevents]

theorem text_eq_unlines (h : ∀ c ∈ components, PlainComponent c) :
    text components = .ok (Text.unlines (componentRows components)) := by
  rw [text, componentLines_eq fun c hc e he => known_of_plain ((h c hc).2 e he).2]
  rfl

theorem lines_unlines_componentRows (h : ∀ c ∈ components, PlainComponent c)
    (hne : components ≠ []) :
    Text.lines (Text.unlines (componentRows components)) = componentRows components := by
  refine Text.lines_unlines_of_lines ?_ (newline_not_mem_componentRows h)
  obtain ⟨entry, rest, rfl⟩ := List.exists_cons_of_ne_nil hne
  exact List.cons_ne_nil _ _

theorem unlines_componentRows_ne_empty (h : ∀ c ∈ components, PlainComponent c)
    (hne : components ≠ []) : Text.unlines (componentRows components) ≠ "" := by
  intro hempty
  have hlines := lines_unlines_componentRows h hne
  rw [hempty] at hlines
  have hname : IsName "" := named_componentRows h "" (by rw [← hlines]; decide)
  exact hname.1 rfl

/-- The lines of an outline are its rows, of which an outline of nothing has none. -/
theorem componentRows_of_unlines (h : ∀ c ∈ components, PlainComponent c)
    (h' : ∀ c ∈ components', PlainComponent c)
    (heq : Text.unlines (componentRows components) = Text.unlines (componentRows components')) :
    componentRows components = componentRows components' := by
  by_cases hne : components = []
  · by_cases hne' : components' = []
    · rw [hne, hne']
    · refine absurd ?_ (unlines_componentRows_ne_empty h' hne')
      rw [← heq, hne]
      rfl
  · by_cases hne' : components' = []
    · refine absurd ?_ (unlines_componentRows_ne_empty h hne)
      rw [heq, hne']
      rfl
    · rw [← lines_unlines_componentRows h hne, heq, lines_unlines_componentRows h' hne']

/-- Plain components have outlines, and two of these are the same text just when the components
are the same but for what is optional and how events bubble. -/
theorem text_eq_iff (components components' : Entries Component)
    (h : ∀ c ∈ components, PlainComponent c) (h' : ∀ c ∈ components', PlainComponent c) :
    (∃ t, text components = .ok t) ∧
      (text components = text components' ↔ components.map bare = components'.map bare) := by
  refine ⟨⟨_, text_eq_unlines h⟩, ?_⟩
  rw [text_eq_unlines h, text_eq_unlines h', Except.ok.injEq]
  constructor
  · intro heq
    exact componentRows_inj h h' (componentRows_of_unlines h h' heq)
  · intro heq
    rw [← componentRows_map_bare components, heq, componentRows_map_bare]

/-- Two components, with objects in one another, nothing to choose from and nothing carried. -/
def shelves (optional : Bool) (bubbling : Bubbling) : Entries Component :=
  [("Drawer", ⟨[
      ⟨"onMove", optional, bubbling, some [
        ⟨"from", optional, .object [⟨"x", false, .primitive .float⟩,
          ⟨"mode", optional, .stringEnum []⟩]⟩,
        ⟨"edge", false, .stringEnum ["left", "right side"]⟩]⟩,
      ⟨"onTouch", false, bubbling, some []⟩,
      ⟨"on_close", optional, .direct, none⟩]⟩),
    ("Shelf", ⟨[]⟩)]

theorem text_eq_iff_shelves :
    (∀ c ∈ shelves true .bubble, PlainComponent c) ∧
    (∀ c ∈ shelves false .direct, PlainComponent c) ∧
    (∃ t, text (shelves true .bubble) = .ok t) ∧
    (text (shelves true .bubble) = text (shelves false .direct) ↔
      (shelves true .bubble).map bare = (shelves false .direct).map bare) ∧
    text (shelves true .bubble) = text (shelves false .direct) := by
  have hplain (optional : Bool) (bubbling : Bubbling) :
      ∀ c ∈ shelves optional bubbling, PlainComponent c := by
    simp +decide [shelves, PlainComponent, PlainEvent, PlainProperties, PlainType]
  have hboth := text_eq_iff _ _ (hplain true .bubble) (hplain false .direct)
  exact ⟨hplain _ _, hplain _ _, hboth.1, hboth.2, hboth.2.mpr rfl⟩

end EventHeader.Schema.Outline
