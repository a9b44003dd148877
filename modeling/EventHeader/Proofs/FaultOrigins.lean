import EventHeader.Proofs.FaultBlocks

/- Where the faults of a document come from. `Place.Reaches` walks from a place down to the
   places below it; the items of the lists and the maps that it comes by are those of
   `Place.HasItem`. What an item has on its own is one block of the report of the document,
   and the blocks of the items of one list or map follow one another in the order of the
   items; every fault of the report is one that some place has of its own, and a report is
   empty when those of all items are and no value around them is at fault
   (`schemaFaults_localised`). This takes that no object has a key twice, which holds of a
   value that was read (`localised_of_parse`). -/
namespace EventHeader.Document

/-- The faults about the value of a place itself. -/
def Stretch.ownFaults : Stretch → List Fault
  | .own fs => fs
  | .part _ _ => []

/-- The faults that a place has of its own, not through a place below it. -/
def Place.ownFaults (p : Place) : List Fault := p.stretches.flatMap Stretch.ownFaults

/-- The items of a list or the values of a map, each with the step to it. -/
def Place.items? (p : Place) : Option (List (Step × Place)) :=
  match p.part, p.value with
  | .list item, .array vs => some (vs.zipIdx.map fun e => (.index e.2, ⟨item, p.levels, e.1⟩))
  | .map value, .object es => some (es.map fun e => (.key e.1, ⟨value, p.levels, e.2⟩))
  | _, _ => none

/-- The places at or below a place, with the steps down to each. -/
inductive Place.Reaches : Place → List Step → Place → Prop where
  | here (p : Place) : Reaches p [] p
  | down {p q r : Place} {steps more : List Step} :
      .part steps q ∈ p.stretches → Reaches q more r → Reaches p (steps ++ more) r

/-- The places at or below a place that are no items and lie in none. -/
inductive Place.Encloses : Place → List Step → Place → Prop where
  | here (p : Place) : Encloses p [] p
  | down {p q r : Place} {steps more : List Step} :
      p.items? = none → .part steps q ∈ p.stretches → Encloses q more r →
      Encloses p (steps ++ more) r

/-- The items of the lists and the maps at or below a place. -/
inductive Place.HasItem (p : Place) : List Step → Place → Prop where
  | mk {q item : Place} {steps : List Step} {s : Step} {items : List (Step × Place)} :
      p.Reaches steps q → q.items? = some items → (s, item) ∈ items → HasItem p (steps ++ [s]) item

/-- The place of a whole document, where no property has been read yet. -/
def Place.document (v : Json) : Place := ⟨.model .schema, Schema.Decode.maxDepth, v⟩

theorem schemaFaults_document (v : Json) : schemaFaults v = (Place.document v).faults :=
  schemaFaults_eq v

variable {p q r : Place} {steps more : List Step}

/-! ## Walking down -/

/-- What holds of a place if it holds of the places right below holds of all places. -/
theorem Place.induction {motive : Place → Prop}
    (place : ∀ p : Place, (∀ steps q, .part steps q ∈ p.stretches → motive q) → motive p)
    (p : Place) : motive p := by
  apply place
  intro steps q hq
  have hsmaller : sizeOf q.value < sizeOf p.value ∨
      sizeOf q.value = sizeOf p.value ∧ sizeOf q.part < sizeOf p.part := by
    rcases p.shape.below_value hq with h | ⟨hvalue, hpart⟩
    · exact Or.inl h.sizeOf_lt
    · -- The value stays the same, so it is the part that gets smaller.
      rw [hvalue, hpart]
      exact Or.inr ⟨rfl, by simp only [Part.nullable.sizeOf_spec]; omega⟩
  exact Place.induction place q
termination_by (sizeOf p.value, sizeOf p.part)
decreasing_by
  apply Prod.lex_def.mpr
  exact hsmaller

theorem distinctKeys_below (hp : p.value.distinctKeys = true) (h : .part steps q ∈ p.stretches) :
    q.value.distinctKeys = true := by
  rcases p.shape.below_value h with h | ⟨hvalue, -⟩
  · exact h.distinctKeys hp
  · exact hvalue ▸ hp

theorem Place.Reaches.trans (h : p.Reaches steps q) (h' : q.Reaches more r) :
    p.Reaches (steps ++ more) r := by
  induction h with
  | here p => exact h'
  | down hq _ ih =>
    rw [List.append_assoc]
    exact .down hq (ih h')

theorem stretches_of_items {items : List (Step × Place)} (h : p.items? = some items) :
    p.stretches = items.map fun e => .part [e.1] e.2 := by
  obtain ⟨part, levels, v⟩ := p
  unfold Place.items? at h
  split at h
  · rename_i hpart hvalue
    cases hpart
    cases hvalue
    cases h
    simp [Place.stretches]
  · rename_i hpart hvalue
    cases hpart
    cases hvalue
    cases h
    simp [Place.stretches]
  · cases h

theorem Place.Reaches.item {items : List (Step × Place)} {s : Step} (hitems : p.items? = some items)
    (hmem : (s, q) ∈ items) (h : q.Reaches more r) : p.Reaches (s :: more) r := by
  have hstretch : .part [s] q ∈ p.stretches := by
    rw [stretches_of_items hitems]
    exact List.mem_map_of_mem hmem
  exact .down hstretch h

theorem Place.Reaches.field {m : Model} (hm : m ≠ .propertyType) {levels below : Nat}
    (hbelow : m.levelsBelow levels = some below) {es : Entries Json} {f : Field}
    (hf : f ∈ m.fields es) {key : String} {v : Json}
    (hmember : Schema.Decode.member? es f.1 = some (key, v))
    (h : Reaches ⟨f.2, below, v⟩ more r) :
    Reaches ⟨.model m, levels, .object es⟩ (.key key :: more) r := by
  have hstretch : .part [.key key] ⟨f.2, below, v⟩ ∈
      (⟨.model m, levels, .object es⟩ : Place).stretches := by
    rw [stretches_model hm, hbelow]
    apply List.mem_map.mpr
    refine ⟨f, hf, ?_⟩
    rw [Model.stretch, hmember]
  exact .down hstretch h

theorem Place.Reaches.nullable {part : Part} {levels : Nat} {v : Json} (hv : v ≠ .null)
    (h : Reaches ⟨part, levels, v⟩ more r) : Reaches ⟨.nullable part, levels, v⟩ more r := by
  have hstretch : .part [] ⟨part, levels, v⟩ ∈
      (⟨.nullable part, levels, v⟩ : Place).stretches := by
    cases v with
    | null => exact absurd rfl hv
    | _ => exact List.mem_cons_self
  exact .down hstretch h

theorem Place.HasItem.reaches (h : p.HasItem steps q) : p.Reaches steps q := by
  cases h with
  | mk hreach hitems hmem => exact hreach.trans (.item hitems hmem (.here q))

/-- A place that is walked to lies around all items or in one. -/
theorem Place.Reaches.encloses_or_inItem (h : p.Reaches steps q) :
    p.Encloses steps q ∨
      ∃ up item down, p.HasItem up item ∧ item.Reaches down q ∧ steps = up ++ down := by
  induction h with
  | here p => exact Or.inl (.here p)
  | @down p q r steps more hq hreach ih =>
    -- The first list or map on the way decides.
    cases hitems : p.items? with
    | some items =>
      right
      have hmem := hq
      rw [stretches_of_items hitems] at hmem
      obtain ⟨⟨s, item⟩, hitem, heq⟩ := List.mem_map.mp hmem
      cases heq
      exact ⟨[s], item, more, .mk (.here p) hitems hitem, hreach, rfl⟩
    | none =>
      rcases ih with h | ⟨up, item, down, ⟨hup, hsome, hitem⟩, hdown, rfl⟩
      · exact Or.inl (.down hitems hq h)
      · right
        refine ⟨_, item, down, .mk (.down hq hup) hsome hitem, hdown, ?_⟩
        simp only [List.append_assoc]

/-! ## Blocks of places and of items -/

theorem Place.Reaches.block (h : p.Reaches steps q) (hp : p.value.distinctKeys = true) :
    Block p.faults steps (q.faults.map (Fault.below steps)) := by
  induction h with
  | here p =>
    rw [Fault.map_below_nil]
    exact block_whole p.faults
  | down hq _ ih => exact (block_of_stretch hp hq).trans (ih (distinctKeys_below hp hq))

theorem faults_of_items {items : List (Step × Place)} (h : p.items? = some items) :
    p.faults = items.flatMap fun e => e.2.faults.map (Fault.below [e.1]) := by
  rw [faults_eq_stretches, stretches_of_items h, List.flatMap_map]
  rfl

theorem Place.Reaches.block_items (h : p.Reaches steps q) (hp : p.value.distinctKeys = true)
    {items : List (Step × Place)} (hitems : q.items? = some items) :
    Block p.faults steps
      (items.flatMap fun e => e.2.faults.map (Fault.below (steps ++ [e.1]))) := by
  have hblock := h.block hp
  rw [faults_of_items hitems, List.map_flatMap] at hblock
  simpa only [Fault.map_below_below] using hblock

/-! ## Where faults come from -/

theorem mem_faults_iff_below {f : Fault} : f ∈ p.faults ↔
    f ∈ p.ownFaults ∨ ∃ steps q, .part steps q ∈ p.stretches ∧ ∃ g ∈ q.faults, f = g.below steps := by
  rw [faults_eq_stretches, Place.ownFaults]
  simp only [List.mem_flatMap]
  constructor
  · intro ⟨t, ht, hf⟩
    cases t with
    | own fs => exact Or.inl ⟨.own fs, ht, hf⟩
    | part steps q =>
      obtain ⟨g, hg, rfl⟩ := List.mem_map.mp hf
      exact Or.inr ⟨steps, q, ht, g, hg, rfl⟩
  · intro h
    rcases h with ⟨t, ht, hf⟩ | ⟨steps, q, hq, g, hg, rfl⟩
    · cases t with
      | own fs => exact ⟨.own fs, ht, hf⟩
      | part steps q => cases hf
    · exact ⟨.part steps q, hq, List.mem_map_of_mem hg⟩

/-- A place has the faults that the places at or below it have of their own. -/
theorem mem_faults {f : Fault} : f ∈ p.faults ↔
    ∃ steps q, p.Reaches steps q ∧ ∃ g ∈ q.ownFaults, f = g.below steps := by
  constructor
  · -- Downwards, since the places below are not known yet; upwards the walk is given.
    intro h
    induction p using Place.induction generalizing f with
    | place p ih =>
      rcases mem_faults_iff_below.mp h with hown | ⟨steps, q, hq, g, hg, rfl⟩
      · exact ⟨[], p, .here p, f, hown, rfl⟩
      · obtain ⟨more, r, hr, k, hk, rfl⟩ := ih steps q hq hg
        refine ⟨steps ++ more, r, .down hq hr, k, hk, ?_⟩
        simp only [Fault.below, List.append_assoc]
  · rintro ⟨steps, q, hreach, g, hg, heq⟩
    induction hreach generalizing f with
    | here p => exact mem_faults_iff_below.mpr (Or.inl (heq ▸ hg))
    | @down p q r steps more hq _ ih =>
      apply mem_faults_iff_below.mpr
      refine Or.inr ⟨steps, q, hq, g.below more, ih hg rfl, ?_⟩
      rw [heq]
      simp only [Fault.below, List.append_assoc]

theorem Place.Encloses.reaches (h : p.Encloses steps q) : p.Reaches steps q := by
  induction h with
  | here p => exact .here p
  | down _ hq _ ih => exact .down hq ih

theorem ownFaults_eq_nil_of_reaches (h : p.faults = []) (hreach : p.Reaches steps q) :
    q.ownFaults = [] := by
  apply List.eq_nil_iff_forall_not_mem.mpr
  intro g hg
  have hmem : g.below steps ∈ p.faults := mem_faults.mpr ⟨steps, q, hreach, g, hg, rfl⟩
  rw [h] at hmem
  cases hmem

/-- A place without faults is one whose items have none and around them is none. -/
theorem faults_eq_nil_iff : p.faults = [] ↔
    (∀ steps item, p.HasItem steps item → item.faults = []) ∧
      ∀ steps q, p.Encloses steps q → q.ownFaults = [] := by
  constructor
  · intro h
    constructor
    · intro steps item hitem
      apply List.eq_nil_iff_forall_not_mem.mpr
      intro f hf
      obtain ⟨more, r, hr, g, hg, rfl⟩ := mem_faults.mp hf
      rw [ownFaults_eq_nil_of_reaches h (hitem.reaches.trans hr)] at hg
      cases hg
    · exact fun steps q hq => ownFaults_eq_nil_of_reaches h hq.reaches
  · intro ⟨hitems, hown⟩
    apply List.eq_nil_iff_forall_not_mem.mpr
    intro f hf
    obtain ⟨steps, q, hreach, g, hg, rfl⟩ := mem_faults.mp hf
    rcases hreach.encloses_or_inItem with hq | ⟨up, item, down, hitem, hdown, -⟩
    · rw [hown steps q hq] at hg
      cases hg
    · rw [ownFaults_eq_nil_of_reaches (hitems up item hitem) hdown] at hg
      cases hg

/-- How the report of a document is made up of what is wrong with its parts. -/
structure Localised (v : Json) : Prop where
  item : ∀ steps item, (Place.document v).HasItem steps item →
    Block (schemaFaults v) steps (item.faults.map (Fault.below steps))
  items : ∀ steps p items, (Place.document v).Reaches steps p → p.items? = some items →
    Block (schemaFaults v) steps
      (items.flatMap fun e => e.2.faults.map (Fault.below (steps ++ [e.1])))
  origin : ∀ f, f ∈ schemaFaults v ↔
    ∃ steps p, (Place.document v).Reaches steps p ∧ ∃ g ∈ p.ownFaults, f = g.below steps
  empty : schemaFaults v = [] ↔
    (∀ steps item, (Place.document v).HasItem steps item → item.faults = []) ∧
      ∀ steps p, (Place.document v).Encloses steps p → p.ownFaults = []

theorem localised {v : Json} (hv : v.distinctKeys = true) : Localised v where
  item := by
    intro steps item hitem
    rw [schemaFaults_document]
    exact hitem.reaches.block hv
  items := by
    intro steps p items hreach hitems
    rw [schemaFaults_document]
    exact hreach.block_items hv hitems
  origin := by
    intro f
    rw [schemaFaults_document]
    exact mem_faults
  empty := by
    rw [schemaFaults_document]
    exact faults_eq_nil_iff

/-- The report of a document that was read is made up like that, where no name in it has the
character that halves of surrogate pairs are replaced by. -/
theorem localised_of_parse {room : Nat} {cs : List Char} {v : Json}
    (h : Json.parse room cs = .ok v) (hnames : v.NamesWhole) : Localised v :=
  localised (Json.distinctKeys_of_parse h hnames)

/-- What each item of a document has on its own is one block of the report, with the way down
to the item in front of it. The blocks of the items of a list or a map stand in the order of the
items. A report has the faults that the places of the document have of their own, and none
exactly if no item and no value around the items has any. -/
theorem schemaFaults_localised {v : Json} (hv : v.distinctKeys = true) :
    (∀ steps item, (Place.document v).HasItem steps item →
      Block (schemaFaults v) steps (item.faults.map (Fault.below steps))) ∧
    (∀ steps p items, (Place.document v).Reaches steps p → p.items? = some items →
      Block (schemaFaults v) steps
        (items.flatMap fun e => e.2.faults.map (Fault.below (steps ++ [e.1])))) ∧
    (∀ f, f ∈ schemaFaults v ↔
      ∃ steps p, (Place.document v).Reaches steps p ∧ ∃ g ∈ p.ownFaults, f = g.below steps) ∧
    (schemaFaults v = [] ↔
      (∀ steps item, (Place.document v).HasItem steps item → item.faults = []) ∧
        ∀ steps p, (Place.document v).Encloses steps p → p.ownFaults = []) := by
  have h := localised hv
  exact ⟨h.item, h.items, h.origin, h.empty⟩

/-- A document with a module that has no type and three events, two of which are at fault. -/
def untypedDrawer : Json :=
  .object [("modules", .object [("Views", .object [("components", .object [("Drawer",
    .object [("events", .array [.null, .object [("name", .string "open")], .object []])])])])])]

def drawerEvents : List Step :=
  [.key "modules", .key "Views", .key "components", .key "Drawer", .key "events"]

def drawerItems : List (Step × Place) :=
  [(.index 0, ⟨.model .event, Schema.Decode.maxDepth, .null⟩),
    (.index 1, ⟨.model .event, Schema.Decode.maxDepth, .object [("name", .string "open")]⟩),
    (.index 2, ⟨.model .event, Schema.Decode.maxDepth, .object []⟩)]

/-- The blocks of the first and of the last event stand one after the other below the events. -/
theorem schemaFaults_localised_drawer :
    untypedDrawer.distinctKeys = true ∧
      Block (schemaFaults untypedDrawer) drawerEvents
        [⟨drawerEvents ++ [.index 0], .notModel "EventTypeShape", .null⟩,
          ⟨drawerEvents ++ [.index 2, .key "name"], .missing, .object []⟩] := by
  have hkeys : untypedDrawer.distinctKeys = true := by decide
  have hreach : (Place.document untypedDrawer).Reaches drawerEvents
      ⟨.list (.model .event), Schema.Decode.maxDepth,
        .array [.null, .object [("name", .string "open")], .object []]⟩ := by
    apply Place.Reaches.field (by decide) rfl (.head _) rfl
    apply Place.Reaches.item rfl (.head _)
    apply Place.Reaches.field (by decide) rfl (.tail _ (.head _)) rfl
    apply Place.Reaches.nullable (by nofun)
    apply Place.Reaches.item rfl (.head _)
    exact .field (by decide) rfl (.head _) rfl (.here _)
  exact ⟨hkeys, (schemaFaults_localised hkeys).2.1 drawerEvents _ drawerItems hreach rfl⟩

end EventHeader.Document
