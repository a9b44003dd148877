import EventHeader.Json.Reader
import EventHeader.Proofs.KeyedEntries
import Mathlib.Data.List.Nodup
import Mathlib.Logic.Relation

/- Values in which no object has a key twice. Every value inside such a value is one as well. The
   reader puts a member whose name came up before in the place of the one before, by the pieces
   of its name; so what it gives for a text is such a value (`distinctKeys_of_parse`), unless
   names differ in halves of surrogate pairs only, which a key does not keep. -/
namespace EventHeader

mutual
/-- Whether no object in a value has a key twice, as in every value that stands for a
document. -/
def Json.distinctKeys : Json → Bool
  | .array vs => itemsDistinctKeys vs
  | .object es => decide (es.map Prod.fst).Nodup && membersDistinctKeys es
  | _ => true

def itemsDistinctKeys : List Json → Bool
  | [] => true
  | v :: rest => v.distinctKeys && itemsDistinctKeys rest

def membersDistinctKeys : List (String × Json) → Bool
  | [] => true
  | (_, v) :: rest => v.distinctKeys && membersDistinctKeys rest
end

/-- A value right inside another one. -/
inductive Json.Holds : Json → Json → Prop where
  | item {vs : List Json} {v : Json} : v ∈ vs → Holds (.array vs) v
  | member {es : Entries Json} {key : String} {v : Json} : (key, v) ∈ es → Holds (.object es) v

theorem Json.Holds.sizeOf_lt {v w : Json} (h : v.Holds w) : sizeOf w < sizeOf v := by
  cases h with
  | item h =>
    have := List.sizeOf_lt_of_mem h
    simp only [Json.array.sizeOf_spec]
    omega
  | member h =>
    have := List.sizeOf_lt_of_mem h
    simp only [Prod.mk.sizeOf_spec, Json.object.sizeOf_spec] at this ⊢
    omega

theorem itemsDistinctKeys_iff (vs : List Json) :
    itemsDistinctKeys vs = true ↔ ∀ v ∈ vs, v.distinctKeys = true := by
  induction vs with
  | nil => simp [itemsDistinctKeys]
  | cons v rest ih => simp [itemsDistinctKeys, ih]

theorem membersDistinctKeys_iff (es : Entries Json) :
    membersDistinctKeys es = true ↔ ∀ e ∈ es, e.2.distinctKeys = true := by
  induction es with
  | nil => simp [membersDistinctKeys]
  | cons e rest ih => simp [membersDistinctKeys, ih]

theorem nodup_of_distinctKeys {es : Entries Json} (h : (Json.object es).distinctKeys = true) :
    (es.map Prod.fst).Nodup :=
  of_decide_eq_true (Bool.and_eq_true_iff.mp h).1

theorem Json.Holds.distinctKeys {v w : Json} (h : v.Holds w) (hv : v.distinctKeys = true) :
    w.distinctKeys = true := by
  cases h with
  | item h => exact (itemsDistinctKeys_iff _).mp hv _ h
  | member h => exact (membersDistinctKeys_iff _).mp (Bool.and_eq_true_iff.mp hv).2 _ h

/-! ## Names and their pieces -/

/-- Whether no key of an object in a value has the character that halves of surrogate pairs are
replaced by. -/
def Json.NamesWhole (v : Json) : Prop :=
  ∀ es, Relation.ReflTransGen Holds v (.object es) → ∀ e ∈ es, '\ufffd' ∉ e.1.toList

theorem Json.Holds.namesWhole {v w : Json} (h : v.Holds w) (hv : v.NamesWhole) : w.NamesWhole :=
  fun es hes => hv es (.head h hes)

namespace Json

theorem pieces_of_text {ps : List Text.Piece} (h : '\ufffd' ∉ (Text.textOfPieces ps).toList) :
    ps = (Text.textOfPieces ps).toList.map .char := by
  rw [Text.textOfPieces, String.toList_ofList] at *
  induction ps with
  | nil => rfl
  | cons p ps ih =>
    simp only [List.map_cons, List.mem_cons, not_or] at h ⊢
    rw [← ih h.2]
    cases p with
    | char c => rfl
    | half unit => exact absurd rfl h.1

/-- No object in a value has a key twice, if no name in it had a half in it. -/
def KeysApart (v : Json) : Prop := v.NamesWhole → v.distinctKeys = true

theorem keysApart_ofPieces (ps : List Text.Piece) : (ofPieces ps).KeysApart := by
  intro _
  unfold ofPieces
  split <;> rfl

theorem keysApart_array {vs : List Json} (h : ∀ v ∈ vs, v.KeysApart) :
    (Json.array vs).KeysApart :=
  fun hnames => (itemsDistinctKeys_iff vs).mpr fun v hv =>
    h v hv (Holds.namesWhole (.item hv) hnames)

/-- Names without that character are told apart by their texts as by their pieces. -/
theorem keysApart_ofMembers {ms : Keyed (List Text.Piece) Json} (hkeys : (ms.map Prod.fst).Nodup)
    (hvalues : ∀ m ∈ ms, m.2.KeysApart) : (ofMembers ms).KeysApart := by
  intro hnames
  have hwhole : ∀ ps ∈ ms.map Prod.fst, '\ufffd' ∉ (Text.textOfPieces ps).toList := by
    intro ps hps
    obtain ⟨m, hm, rfl⟩ := List.mem_map.mp hps
    exact hnames _ .refl _ (List.mem_map_of_mem hm)
  apply Bool.and_eq_true_iff.mpr
  constructor
  -- A key is the text of a name, so two names that differ might still give one key.
  · apply decide_eq_true
    have htexts : ((ms.map Prod.fst).map Text.textOfPieces).Nodup := by
      apply List.Nodup.map_on _ hkeys
      intro ps hps qs hqs heq
      rw [pieces_of_text (hwhole ps hps), heq, ← pieces_of_text (hwhole qs hqs)]
    rwa [List.map_map] at htexts ⊢
  · apply (membersDistinctKeys_iff _).mpr
    intro e he
    have hheld : (ofMembers ms).Holds e.2 := .member he
    obtain ⟨m, hm, rfl⟩ := List.mem_map.mp he
    exact hvalues m hm (hheld.namesWhole hnames)

/-! ## Values that were read -/

/-- Whatever value a reader gives has its keys apart. -/
def ReadsApart (x : Except Stop (Json × List Char)) : Prop :=
  ∀ v rest, x = .ok (v, rest) → v.KeysApart

namespace ReadsApart
variable {room : Nat} {cs rest : List Char} {v : Json}

theorem ok (hv : v.KeysApart) : ReadsApart (.ok (v, rest)) := by
  rintro _ _ ⟨⟩
  exact hv

theorem error (s : Stop) : ReadsApart (.error s) := nofun

theorem bind {α : Type} {x : Except Stop (α × List Char)}
    {f : α × List Char → Except Stop (Json × List Char)}
    (h : ∀ a rest, x = .ok (a, rest) → ReadsApart (f (a, rest))) : ReadsApart (x >>= f) := by
  cases x with
  | error s => exact .error s
  | ok found => exact h found.1 found.2 rfl

theorem unsigned (negative : Bool) (start cs : List Char) :
    ReadsApart (readUnsigned negative start cs) := by
  unfold readUnsigned
  split
  · exact .error _
  · simp only
    split
    · split
      · exact .ok fun _ => rfl
      · exact .error _
    · exact .ok fun _ => rfl

theorem named (x : Number.Binary64) : ReadsApart (readNamed room x rest) := by
  unfold readNamed
  split
  · exact .error _
  · exact .ok fun _ => rfl

theorem scalar (cs : List Char) : ReadsApart (readScalar room cs) := by
  unfold readScalar
  split
  case h_4 => exact named _
  case h_5 => exact named _
  case h_6 => exact named _
  case h_7 => exact unsigned _ _ _
  case h_8 => exact unsigned _ _ _
  all_goals exact .ok fun _ => rfl

section Steps
variable {fuel : Nat}
  (hvalue : ∀ room cs, ReadsApart (readValue room fuel cs))
  (hitems : ∀ room done cs, (∀ w ∈ done, w.KeysApart) → ReadsApart (readItems room fuel done cs))
  (hmembers : ∀ room done cs, (done.map Prod.fst).Nodup → (∀ m ∈ done, m.2.KeysApart) →
    ReadsApart (readMembers room fuel done cs))

include hitems hmembers in
theorem value_succ (room : Nat) (cs : List Char) : ReadsApart (readValue room (fuel + 1) cs) := by
  unfold readValue
  split
  · apply bind
    intro ps rest _
    exact .ok (keysApart_ofPieces ps)
  · split
    · exact .error _
    · split
      · exact .ok fun _ => rfl
      · exact hitems _ [] _ (List.forall_mem_nil _)
  · split
    · exact .error _
    · split
      · exact .ok fun _ => rfl
      · exact hmembers _ [] _ List.nodup_nil (List.forall_mem_nil _)
  · exact scalar cs

include hvalue hitems in
theorem items_succ (room : Nat) (done : List Json) (cs : List Char)
    (hdone : ∀ w ∈ done, w.KeysApart) : ReadsApart (readItems room (fuel + 1) done cs) := by
  unfold readItems
  apply bind
  intro item rest hitem
  have hall : ∀ w ∈ item :: done, w.KeysApart :=
    List.forall_mem_cons.mpr ⟨hvalue room cs item rest hitem, hdone⟩
  simp only
  split
  · exact .ok (keysApart_array fun w hw => hall w (List.mem_reverse.mp hw))
  · exact hitems room _ _ hall
  · exact .error _

include hvalue hmembers in
theorem members_succ (room : Nat) (done : Keyed (List Text.Piece) Json) (cs : List Char)
    (hkeys : (done.map Prod.fst).Nodup) (hdone : ∀ m ∈ done, m.2.KeysApart) :
    ReadsApart (readMembers room (fuel + 1) done cs) := by
  unfold readMembers
  apply bind
  intro name more _
  apply bind
  intro value rest hread
  -- The value of a name that came up before takes the place of the one before.
  have hput : ((done.put name value).map Prod.fst).Nodup := Keyed.nodup_put hkeys
  have hall : ∀ m ∈ done.put name value, m.2.KeysApart := by
    intro m hm
    rcases Keyed.mem_put hm with rfl | hm
    · exact hvalue room more value rest hread
    · exact hdone m hm
  simp only
  split
  · exact .ok (keysApart_ofMembers hput hall)
  · exact hmembers room _ _ hput hall
  · exact .error _

end Steps

/-- The readers of values, of items and of members, for any fuel. -/
theorem read (fuel : Nat) :
    (∀ room cs, ReadsApart (readValue room fuel cs)) ∧
    (∀ room done cs, (∀ w ∈ done, w.KeysApart) → ReadsApart (readItems room fuel done cs)) ∧
    (∀ room done cs, (done.map Prod.fst).Nodup → (∀ m ∈ done, m.2.KeysApart) →
      ReadsApart (readMembers room fuel done cs)) := by
  -- All three at once, since they call each other with less fuel.
  induction fuel with
  | zero => exact ⟨fun _ _ => .error _, fun _ _ _ _ => .error _, fun _ _ _ _ _ => .error _⟩
  | succ fuel ih =>
    obtain ⟨hvalue, hitems, hmembers⟩ := ih
    exact ⟨value_succ hitems hmembers, items_succ hvalue hitems, members_succ hvalue hmembers⟩

theorem whole (room : Nat) (cs : List Char) : ReadsApart (readWhole room cs) := by
  unfold readWhole
  apply bind
  intro value rest hread
  simp only
  split
  · exact .ok ((read _).1 room _ value rest hread)
  · exact .error _

end ReadsApart

/-- No object in a value that was read has a key twice, unless as the text of different names. -/
theorem distinctKeys_of_parse {room : Nat} {cs : List Char} {v : Json}
    (h : parse room cs = .ok v) (hnames : v.NamesWhole) : v.distinctKeys = true := by
  unfold parse at h
  split at h
  · cases h
  · split at h
    · rename_i value rest hread
      cases h
      exact ReadsApart.whole room cs v rest hread hnames
    · cases h

end Json
end EventHeader
