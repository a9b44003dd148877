import EventHeader.Proofs.BuiltinTypes

/- The order of declarations. A list of declarations is grounded if each refers only
   to types of single values and to what stands before it. The declarations of nodes
   are grounded in the order in which nodes are settled, since a node comes after all
   nodes below it (`grounded_propertyNodes`).

   A registry may hold them in another order, because a name that comes again keeps
   its place. With strict names it comes again only with the same contents, so the
   registry leaves out what it has and stays grounded (`grounded_placeAll`). Without,
   a struct may end up before what it refers to; but every name that has been
   registered stays declared, once, so that no type is left without a declaration
   (`referenced_types_declared`). -/
namespace EventHeader.Payload
open EventHeader.Declaration

/-- Whether each declaration refers only to types of single values, to `known` names and
to declarations before it. -/
def Grounded : List String → List Declaration → Prop
  | _, [] => True
  | known, d :: rest =>
    (∀ t ∈ d.referencedTypes, IsBuiltin t ∨ t ∈ known) ∧ Grounded (known ++ [d.name]) rest

theorem grounded_append {known : List String} {ds es : List Declaration} :
    Grounded known (ds ++ es) ↔
      Grounded known ds ∧ Grounded (known ++ ds.map Declaration.name) es := by
  induction ds generalizing known with
  | nil => simp [Grounded]
  | cons d rest ih =>
    simp only [List.cons_append, Grounded, ih, List.map_cons, List.append_assoc, List.nil_append,
      and_assoc]

theorem Grounded.mono {known more : List String} {ds : List Declaration} (h : Grounded known ds)
    (hsub : ∀ t ∈ known, t ∈ more) : Grounded more ds := by
  induction ds generalizing known more with
  | nil => trivial
  | cons d rest ih =>
    refine ⟨fun t ht => (h.1 t ht).imp_right (hsub t), ih h.2 ?_⟩
    intro t ht
    rcases List.mem_append.mp ht with ht | ht
    · exact List.mem_append_left _ (hsub t ht)
    · exact List.mem_append_right _ ht

theorem Grounded.earlier {known : List String} {ds : List Declaration} (h : Grounded known ds)
    {i : Nat} {d : Declaration} (hd : ds[i]? = some d) {t : String} (ht : t ∈ d.referencedTypes) :
    IsBuiltin t ∨ t ∈ known ∨ ∃ j, j < i ∧ ∃ e, ds[j]? = some e ∧ e.name = t := by
  induction ds generalizing known i with
  | nil => simp at hd
  | cons c rest ih =>
    cases i with
    | zero =>
      rw [List.getElem?_cons_zero] at hd
      cases hd
      exact (h.1 t ht).imp_right Or.inl
    | succ i =>
      rw [List.getElem?_cons_succ] at hd
      rcases ih h.2 hd with hb | hk | ⟨j, hj, e, he, hname⟩
      · exact Or.inl hb
      · rcases List.mem_append.mp hk with hk | hk
        · exact Or.inr (Or.inl hk)
        · rw [List.mem_singleton] at hk
          exact Or.inr (Or.inr ⟨0, Nat.succ_pos i, c, rfl, hk.symm⟩)
      · exact Or.inr (Or.inr ⟨j + 1, Nat.succ_lt_succ hj, e, by rwa [List.getElem?_cons_succ], hname⟩)

/-! ## Nodes come after the nodes below them -/

mutual
/-- The nodes of a property are grounded, and they declare its type if it is not one of
single values. -/
theorem grounded_typeNodes : ∀ (type : PropertyType) (path known : List String),
    (∀ n ∈ typeNodes path type, n.Declared) →
    Grounded known (declarations (typeNodes path type)) ∧
      (IsBuiltin (typeNameAt path type) ∨
        typeNameAt path type ∈ (declarations (typeNodes path type)).map Declaration.name)
  | .primitive p, _, _, _ => ⟨trivial, Or.inl ⟨p, rfl⟩⟩
  | .stringEnum options, path, known, hn => by
    obtain ⟨d, hd⟩ := hn (.stringEnum path options) (List.mem_singleton_self _)
    have hds : declarations (typeNodes path (.stringEnum options)) = [d] :=
      declarations_cons_ok hd []
    have hname : d.name = Identifier.ofPath path := Node.declaration_name hd
    rw [hds]
    refine ⟨⟨?_, trivial⟩, Or.inr ?_⟩
    · -- An enum is built from texts and refers to nothing.
      intro t ht
      obtain ⟨-, rfl⟩ := Node.declaration_stringEnum hd
      exact absurd ht List.not_mem_nil
    · have htype : typeNameAt path (.stringEnum options) = d.name := hname.symm
      rw [htype]
      exact List.mem_singleton_self _
  | .object properties, path, known, hn => by
    obtain ⟨hbelow, hfields⟩ := grounded_propertyNodes properties path known
      (fun n h => hn n (List.mem_append_left _ h))
    have hds : declarations (typeNodes path (.object properties)) =
        declarations (propertyNodes path properties) ++
          [.struct (Identifier.ofPath path) (fieldsAt path properties)] := by
      simp only [typeNodes, declarations_append]
      rfl
    rw [hds]
    refine ⟨grounded_append.mpr ⟨hbelow, ?_, trivial⟩, Or.inr ?_⟩
    · -- A struct refers to the types of its fields, which are declared in front of it.
      intro t ht
      obtain ⟨f, hf, rfl⟩ := List.mem_map.mp ht
      exact (hfields f hf).imp_right (List.mem_append_right _)
    · simp [typeNameAt, Declaration.name]
  | .foreign kind, path, _, hn => by
    obtain ⟨d, hd⟩ := hn (.foreign path kind) (List.mem_singleton_self _)
    cases hd

theorem grounded_propertyNodes : ∀ (properties : List Property) (path known : List String),
    (∀ n ∈ propertyNodes path properties, n.Declared) →
    Grounded known (declarations (propertyNodes path properties)) ∧
      ∀ f ∈ fieldsAt path properties, IsBuiltin f.type ∨
        f.type ∈ (declarations (propertyNodes path properties)).map Declaration.name
  | [], _, _, _ => ⟨trivial, fun _ hf => absurd hf List.not_mem_nil⟩
  | ⟨name, _, type⟩ :: rest, path, known, hn => by
    obtain ⟨htype, hname⟩ := grounded_typeNodes type (path ++ [name]) known
      (fun n h => hn n (List.mem_append_left _ h))
    obtain ⟨hrest, hfields⟩ := grounded_propertyNodes rest path
      (known ++ (declarations (typeNodes (path ++ [name]) type)).map Declaration.name)
      (fun n h => hn n (List.mem_append_right _ h))
    simp only [propertyNodes, declarations_append]
    refine ⟨grounded_append.mpr ⟨htype, hrest⟩, ?_⟩
    intro f hf
    rw [List.map_append, List.mem_append]
    rcases List.mem_cons.mp hf with rfl | hf
    · exact hname.imp_right Or.inl
    · exact (hfields f hf).imp_right Or.inr
end

theorem grounded_eventNodes (e : Event) (known : List String)
    (hn : ∀ n ∈ eventNodes e, n.Declared) : Grounded known (declarations (eventNodes e)) := by
  unfold eventNodes at hn ⊢
  cases hp : e.payload with
  | none => trivial
  | some properties =>
    rw [hp] at hn
    exact (grounded_typeNodes (.object properties) [e.name] known hn).1

theorem grounded_events (events : List Event) (known : List String)
    (hn : ∀ n ∈ events.flatMap eventNodes, n.Declared) :
    Grounded known (declarations (events.flatMap eventNodes)) := by
  induction events generalizing known with
  | nil => trivial
  | cons e rest ih =>
    simp only [List.flatMap_cons, List.mem_append] at hn
    rw [List.flatMap_cons, declarations_append]
    exact grounded_append.mpr ⟨grounded_eventNodes e known (fun n h => hn n (Or.inl h)),
      ih _ (fun n h => hn n (Or.inr h))⟩

/-! ## What the registry makes of the order -/

/-- A registry that loses no declaration stays grounded: a name that comes again changes
nothing, and a new one comes after all it refers to. -/
theorem grounded_placeAll {ds : List Declaration} {r : Registry} (ha : r.Admits ds)
    (hr : Grounded [] r.declarations) (hds : Grounded r.names ds) :
    Grounded [] (r.placeAll ds).declarations := by
  induction ds generalizing r with
  | nil => exact hr
  | cons d rest ih =>
    obtain ⟨hclash, ha⟩ := ha
    obtain ⟨hd, hrest⟩ := hds
    rw [Registry.placeAll_cons]
    rcases Registry.clashes_eq_false.mp hclash with hf | hf
    · -- A new name: all that the declaration refers to is in the registry by now.
      have hplace : (r.place d).declarations = r.declarations ++ [d] :=
        Registry.placed_of_lookup_none hf
      apply ih ha
      · rw [hplace]
        exact grounded_append.mpr ⟨hr, hd, trivial⟩
      · show Grounded ((r.place d).declarations.map Declaration.name) rest
        rw [hplace, List.map_append]
        exact hrest
    · -- A known name: it has the same contents, so nothing moves and nothing is new.
      have hplace : (r.place d).declarations = r.declarations := Registry.placed_of_lookup hf
      have hknown : d.name ∈ r.names := by
        apply Classical.byContradiction
        intro hn
        have hnone : r.find? d.name = none := Registry.lookup_eq_none.mpr hn
        rw [hnone] at hf
        cases hf
      apply ih ha
      · rw [hplace]
        exact hr
      · show Grounded ((r.place d).declarations.map Declaration.name) rest
        rw [hplace]
        apply hrest.mono
        intro t ht
        rcases List.mem_append.mp ht with ht | ht
        · exact ht
        · exact List.mem_singleton.mp ht ▸ hknown

section
variable {strict : Bool} {events : List Event} {ds : List Declaration}

theorem Settled.grounded (h : Settled true (events.flatMap eventNodes) ds) : Grounded [] ds := by
  rw [h.held]
  exact grounded_placeAll (h.admits rfl) trivial (grounded_events events [] h.declared)

/-- Whether a name is that of exactly one declaration. -/
def DeclaredOnce (ds : List Declaration) (t : String) : Prop :=
  (ds.map Declaration.name).count t = 1

theorem Settled.declaredOnce {ns : List Node} (h : Settled strict ns ds) {t : String}
    (ht : t ∈ (declarations ns).map Declaration.name) : DeclaredOnce ds t := by
  unfold DeclaredOnce
  rw [h.nodup_names.count, if_pos (h.mem_names.mpr ht)]

/-- What a declaration refers to has been registered, whatever has become of the order. -/
theorem Settled.referenced_declaredOnce (h : Settled strict (events.flatMap eventNodes) ds)
    {d : Declaration} (hd : d ∈ ds) {t : String} (ht : t ∈ d.referencedTypes)
    (hb : ¬ IsBuiltin t) : DeclaredOnce ds t := by
  have hg := grounded_events events [] h.declared
  obtain ⟨i, hi⟩ := List.getElem?_of_mem (h.mem hd)
  rcases hg.earlier hi ht with hbuiltin | hk | ⟨j, -, e, he, hname⟩
  · exact absurd hbuiltin hb
  · exact absurd hk List.not_mem_nil
  · exact h.declaredOnce (hname ▸ List.mem_map_of_mem (List.mem_of_getElem? he))

end

/-- Every type that a field or the method of an event needs is declared, once; with strict
names each is declared before the struct that has the field. -/
theorem referenced_types_declared {σ : Type} (component : String) (c : Component) (strict : Bool)
    (s : σ) (cls : EmitterClass)
    (h : ((EmitterClass.ofComponent component c strict).run s).result = .ok cls) :
    (strict = true → ∀ (i : Nat) (name : String) (fields : List Field),
      cls.declarations[i]? = some (.struct name fields) → ∀ f ∈ fields, ¬ IsBuiltin f.type →
        ∃ j, j < i ∧ ∃ d, cls.declarations[j]? = some d ∧ d.name = f.type) ∧
    (∀ (name : String) (fields : List Field), Declaration.struct name fields ∈ cls.declarations →
      ∀ f ∈ fields, ¬ IsBuiltin f.type → DeclaredOnce cls.declarations f.type) ∧
    (∀ e ∈ c.events, e.payload.isSome = true →
      ∃ T, e.method = "void " ++ e.name ++ "(" ++ T ++ " value) const;" ∧
        DeclaredOnce cls.declarations T) := by
  obtain ⟨hsettled, -, -⟩ := ofComponent_ok h
  refine ⟨?_, ?_, ?_⟩
  -- Strict names lose nothing, so the order in which the nodes are settled is that of the text.
  · rintro rfl i name fields hi f hf hb
    have ht : f.type ∈ (Declaration.struct name fields).referencedTypes := List.mem_map_of_mem hf
    rcases (Settled.grounded hsettled).earlier hi ht with hbuiltin | hk | hj
    · exact absurd hbuiltin hb
    · exact absurd hk List.not_mem_nil
    · exact hj
  · intro name fields hd f hf hb
    exact Settled.referenced_declaredOnce hsettled hd (List.mem_map_of_mem hf) hb
  · intro e he hp
    obtain ⟨properties, hp⟩ := Option.isSome_iff_exists.mp hp
    refine ⟨Identifier.ofPath [e.name], by simp only [Event.method, hp], ?_⟩
    have hroot : Node.object [e.name] properties ∈ componentNodes c :=
      List.mem_flatMap.mpr ⟨e, he, root_mem_eventNodes hp⟩
    exact hsettled.declaredOnce (List.mem_map.mpr ⟨_, mem_declarations.mpr ⟨_, hroot, rfl⟩, rfl⟩)

/-- An event whose payload needs an enum and a struct. -/
def selectEvent : Event :=
  ⟨"onSelect", false, .direct,
    some [⟨"mode", false, .stringEnum ["single", "multiple"]⟩,
      ⟨"range", false, .object [⟨"start", false, .primitive .int32⟩]⟩]⟩

def selectClass : EmitterClass :=
  ⟨"MyView",
    [.enum "OnSelectMode" [⟨"Single", "single"⟩, ⟨"Multiple", "multiple"⟩],
      .struct "OnSelectRange" [⟨"start", "int"⟩],
      .struct "OnSelect" [⟨"mode", "OnSelectMode"⟩, ⟨"range", "OnSelectRange"⟩]],
    ["void onSelect(OnSelect value) const;"]⟩

theorem referenced_types_declared_nested :
    ((EmitterClass.ofComponent "MyView" ⟨[selectEvent]⟩ true).run ()).result = .ok selectClass ∧
    (∃ j, j < 2 ∧ ∃ d, selectClass.declarations[j]? = some d ∧ d.name = "OnSelectRange") ∧
    DeclaredOnce selectClass.declarations "OnSelectRange" ∧
    (∃ T, selectEvent.method = "void " ++ selectEvent.name ++ "(" ++ T ++ " value) const;" ∧
      DeclaredOnce selectClass.declarations T) := by
  obtain ⟨hbefore, honce, hmethod⟩ :=
    referenced_types_declared "MyView" ⟨[selectEvent]⟩ true () selectClass rfl
  have hb : ¬ IsBuiltin "OnSelectRange" := by
    rintro ⟨p, hp⟩
    cases p <;> exact absurd hp (by decide)
  have hf : (⟨"range", "OnSelectRange"⟩ : Field) ∈
      [(⟨"mode", "OnSelectMode"⟩ : Field), ⟨"range", "OnSelectRange"⟩] := by simp
  refine ⟨rfl, hbefore rfl 2 "OnSelect" _ rfl _ hf hb, ?_, ?_⟩
  · exact honce "OnSelect" _ (by simp [selectClass]) _ hf hb
  · exact hmethod selectEvent List.mem_cons_self rfl

/-- Without strict names the order is lost: the second event takes the place of the
struct nested in the first, before the enum that it needs. -/
example : (((EmitterClass.ofComponent "MyView"
      ⟨[⟨"onA", false, .direct, some [⟨"b", false, .object []⟩]⟩,
        ⟨"onAB", false, .direct, some [⟨"c", false, .stringEnum ["x"]⟩]⟩]⟩ false).run
      ()).result.toOption.map EmitterClass.declarations) =
    some [.struct "OnAB" [⟨"c", "OnABC"⟩], .struct "OnA" [⟨"b", "OnAB"⟩],
      .enum "OnABC" [⟨"X", "x"⟩]] := rfl

end EventHeader.Payload
