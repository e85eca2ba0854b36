import Mathlib.Data.List.Nodup
import Mathlib.Data.List.Perm.Subperm
import ObjectCatalog.Proofs.Database.Names
import ObjectCatalog.Proofs.Search.LoadedMetadata

/-!
# Lists of rows

A search lists rows in the order of a sort and loads a part of the list. Two things about such lists do
not depend on what is searched for.

The order is strict. For a sort by ids this is so since ids are keys, and for a sort by names since no
two rows have names that are the same to the table (`ObjectTable.pairwise_sorted`).

And a list is shorter than the greatest offset, so there is an offset behind its end. Ids are positive,
as new ones come after a highest one that starts at zero, and there are no more positive ids than that
(`ObjectTable.Positive.length_le`).
-/

namespace ObjectCatalog

/-! ## 1. Positive ids -/

namespace ObjectTable

variable {t t' : ObjectTable} {ids : List Int64}

/-- All ids are positive, those to come as well. -/
structure Positive (t : ObjectTable) : Prop where
  highest : 0 ≤ t.highestId
  ids : ∀ {id : Int64}, t.Has id → 0 < id

theorem positive_empty (c : Collation) : (empty c).Positive where
  highest := Int64.le_refl 0
  ids h := by
    obtain ⟨name, hrow⟩ := h
    simp [empty] at hrow

theorem Positive.put (h : t.Positive) {id highest : Int64} (hid : 0 < id) (hhighest : 0 ≤ highest)
    (name : String) :
    Positive { t with rows := t.rows.insert id name, highestId := highest } := by
  refine ⟨hhighest, ?_⟩
  rintro id' ⟨name', hrow⟩
  rw [getElem?_put] at hrow
  split at hrow
  · rename_i heq
    exact heq ▸ hid
  · exact h.ids ⟨name', hrow⟩

/-- A new row has an id above the highest, and the others keep theirs. -/
theorem Changes.positive (h : t.Changes t') (ht : t.Positive) : t'.Positive := by
  cases h with
  | @insert _ _ new h =>
    obtain ⟨hlt, -, rfl⟩ := insert_eq_ok h
    have hnew : 0 < new := Int64.lt_of_le_of_lt ht.highest hlt
    exact ht.put hnew (Int64.le_of_lt hnew) _
  | rename h =>
    rcases rename_eq_ok h with ⟨-, rfl⟩ | ⟨old, hold, -, rfl⟩
    · exact ht
    · exact ht.put (ht.ids ⟨old, hold⟩) ht.highest _
  | delete h =>
    subst h
    refine ⟨ht.highest, ?_⟩
    rintro id ⟨name, hrow⟩
    rw [getElem?_delete] at hrow
    split at hrow
    · cases hrow
    · exact ht.ids ⟨name, hrow⟩

/-- Not more objects can be listed than there are positive ids. -/
theorem Positive.length_le (h : t.Positive) (hnodup : ids.Nodup) (hthere : ∀ id ∈ ids, t.Has id) :
    (ids.length : Int) ≤ Int64.maxValue.toInt := by
  -- As natural numbers the ids are different ones of those from one to the greatest.
  let positive := List.range' 1 Int64.maxValue.toInt.toNat
  have hpos : ∀ id ∈ ids, 0 < id.toInt := fun id hid => Int64.lt_iff_toInt_lt.1 (h.ids (hthere id hid))
  have hdistinct : (ids.map fun id => id.toInt.toNat).Nodup := by
    refine List.Nodup.map_on (fun a ha b hb heq => ?_) hnodup
    have hposA := hpos a ha
    have hposB := hpos b hb
    exact Int64.toInt_inj.1 (by omega)
  have hsubset : (ids.map fun id => id.toInt.toNat) ⊆ positive := by
    intro n hn
    obtain ⟨id, hid, rfl⟩ := List.mem_map.1 hn
    have hposId := hpos id hid
    have hleId := Int64.toInt_le id
    rw [List.mem_range'_1]
    omega
  have hlength := (List.subperm_of_subset hdistinct hsubset).length_le
  rw [List.length_map, List.length_range'] at hlength
  have hmax : 0 ≤ Int64.maxValue.toInt := by decide
  omega

end ObjectTable

/-! ## 2. Orders -/

/-- Whether an object comes before another one by the column of a sort: the id, or what a collation
compares of the name. -/
def SortField.Less (c : Collation) (field : SortField) (a b : Int64 × String) : Prop :=
  match field with
  | .id => a.1 < b.1
  | .name => c.key a.2 < c.key b.2

/-- The same in the direction of the sort. -/
def SortField.Before (c : Collation) (field : SortField) (direction : SortDirection)
    (a b : Int64 × String) : Prop :=
  match direction with
  | .ascending => field.Less c a b
  | .descending => field.Less c b a

namespace ObjectTable

variable {t : ObjectTable} {c : Collation} {field : SortField} {direction : SortDirection}
  {a b : Int64 × String} {l : List (Int64 × String)}

theorem mayPrecede_trans {d : Int64 × String} (hab : mayPrecede c field a b = true)
    (hbd : mayPrecede c field b d = true) : mayPrecede c field a d = true := by
  cases field with
  | id => exact decide_eq_true (Int64.le_trans (of_decide_eq_true hab) (of_decide_eq_true hbd))
  | name => exact decide_eq_true (String.le_trans (of_decide_eq_true hab) (of_decide_eq_true hbd))

theorem mayPrecede_total (a b : Int64 × String) :
    (mayPrecede c field a b || mayPrecede c field b a) = true := by
  rw [Bool.or_eq_true]
  cases field with
  | id => exact (Int64.le_total a.1 b.1).imp decide_eq_true decide_eq_true
  | name => exact (String.le_total (c.key a.2) (c.key b.2)).imp decide_eq_true decide_eq_true

/-- Whether two rows differ in both columns, so that every sort tells them apart. -/
def Differ (c : Collation) (a b : Int64 × String) : Prop :=
  a.1 ≠ b.1 ∧ c.key a.2 ≠ c.key b.2

theorem Differ.symm (h : Differ c a b) : Differ c b a :=
  ⟨h.1.symm, h.2.symm⟩

theorem less_of_mayPrecede (h : mayPrecede c field a b = true) (hdiffer : Differ c a b) :
    field.Less c a b := by
  cases field with
  | id => exact Int64.lt_of_le_of_ne (of_decide_eq_true h) hdiffer.1
  | name =>
    have hle : c.key a.2 ≤ c.key b.2 := of_decide_eq_true h
    exact String.not_le.1 fun hge => hdiffer.2 (String.le_antisymm hle hge)

theorem Sound.pairwise_differ (h : t.Sound) : t.toList.Pairwise (Differ t.collation) := by
  have hids : t.toList.Pairwise fun a b => a.1 ≠ b.1 := List.pairwise_map.1 t.nodup_ids
  refine hids.imp₂ (fun a b hid hname => ⟨hid, ?_⟩) h.pairwise_names
  exact beq_eq_false_iff_ne.1 hname

theorem pairwise_differ_sorted (h : l.Pairwise (Differ c)) (field : SortField)
    (direction : SortDirection) : (sorted c field direction l).Pairwise (Differ c) :=
  ((List.mergeSort_perm l _).pairwise_iff Differ.symm).2 h

/-- Rows that differ in both columns are sorted in a strict order. -/
theorem pairwise_sorted (h : l.Pairwise (Differ c)) (field : SortField) (direction : SortDirection) :
    (sorted c field direction l).Pairwise (field.Before c direction) := by
  have hdiffer := pairwise_differ_sorted h field direction
  -- A sort keeps the rows, so they still differ, and what may come before does come before.
  unfold sorted at hdiffer ⊢
  refine (List.pairwise_mergeSort ?_ ?_ l).imp₂ ?_ hdiffer
  · cases direction with
    | ascending => exact fun _ _ _ => mayPrecede_trans
    | descending => exact fun _ _ _ hab hbd => mayPrecede_trans hbd hab
  · cases direction with
    | ascending => exact mayPrecede_total
    | descending => exact fun a b => mayPrecede_total b a
  · cases direction with
    | ascending => exact fun _ _ => less_of_mayPrecede
    | descending => exact fun _ _ hle hne => less_of_mayPrecede hle hne.symm

end ObjectTable

/-! ## 3. Parts of a list -/

/-- What an offset and a limit select of a list. A negative number counts as zero. -/
def part {α : Type} (offset limit : Int64) (l : List α) : List α :=
  (l.drop (max offset 0).toInt.toNat).take (max limit 0).toInt.toNat

theorem toInt_max_zero (n : Int64) : (max n 0).toInt = max n.toInt 0 := by
  have hle : n ≤ 0 ↔ n.toInt ≤ 0 := Int64.le_iff_toInt_le
  show (if n ≤ 0 then 0 else n).toInt = max n.toInt 0
  by_cases h : n ≤ 0
  · have hneg := hle.1 h
    rw [if_pos h, Int64.toInt_zero]
    omega
  · have hpos := mt hle.2 h
    rw [if_neg h]
    omega

theorem length_part {α : Type} (offset limit : Int64) (l : List α) :
    ((part offset limit l).length : Int) =
      min (max limit.toInt 0) (max (l.length - max offset.toInt 0) 0) := by
  rw [part, List.length_take, List.length_drop, toInt_max_zero, toInt_max_zero]
  omega

theorem part_of_toInt_eq {α : Type} {offset limit : Int64} {n k : Nat} (hoffset : offset.toInt = n)
    (hlimit : limit.toInt = k) (l : List α) : part offset limit l = (l.drop n).take k := by
  have hdrop : (max offset 0).toInt.toNat = n := by
    rw [toInt_max_zero]
    omega
  have htake : (max limit 0).toInt.toNat = k := by
    rw [toInt_max_zero]
    omega
  rw [part, hdrop, htake]

theorem mem_of_mem_part {α : Type} {offset limit : Int64} {l : List α} {x : α}
    (h : x ∈ part offset limit l) : x ∈ l :=
  List.mem_of_mem_drop (List.mem_of_mem_take h)

/-- Two numbers are added without overflow if their sum is small enough. -/
theorem toInt_add_eq {a b : Int64} {n k : Nat} (ha : a.toInt = n) (hb : b.toInt = k)
    (hsum : ((n + k : Nat) : Int) ≤ Int64.maxValue.toInt) : (a + b).toInt = (n + k : Nat) := by
  have hmax : Int64.maxValue.toInt = 2 ^ 63 - 1 := by decide
  rw [Int64.toInt_add, ha, hb, Int.bmod_eq_of_le (by omega) (by omega)]
  exact (Int.natCast_add n k).symm

namespace ObjectTable

variable {t : ObjectTable} {rows : List MetadataRow} {ids : List Int64} {object : NamedObject}

/-- The objects with the ids of a list, in its order, without those that are not there. -/
def load (t : ObjectTable) (rows : List MetadataRow) (ids : List Int64) : List NamedObject :=
  ids.filterMap fun id => t.rows[id]?.map fun name => .stored rows (id, name)

theorem mem_load :
    object ∈ t.load rows ids ↔
      ∃ id name, t.rows[id]? = some name ∧ id ∈ ids ∧ object = .stored rows (id, name) := by
  simp only [load, List.mem_filterMap, Option.map_eq_some_iff]
  constructor
  · rintro ⟨id, hid, name, hrow, rfl⟩
    exact ⟨id, name, hrow, hid, rfl⟩
  · rintro ⟨id, name, hrow, hid, rfl⟩
    exact ⟨id, hid, name, hrow, rfl⟩

/-- Where all of them are there, one object is loaded for each id. -/
theorem load_eq_map (h : ∀ id ∈ ids, t.Has id) :
    t.load rows ids = ids.map fun id => .stored rows (id, t.rows[id]?.getD "") := by
  rw [load, ← List.filterMap_eq_map]
  refine List.filterMap_congr fun id hid => ?_
  obtain ⟨name, hrow⟩ := h id hid
  rw [Function.comp_apply, hrow]
  rfl

/-- So a part of the ids is loaded as the same part of the objects. -/
theorem load_part (h : ∀ id ∈ ids, t.Has id) (offset limit : Int64) :
    t.load rows (part offset limit ids) = part offset limit (t.load rows ids) := by
  rw [load_eq_map h, load_eq_map fun id hid => h id (mem_of_mem_part hid), part, part,
    List.map_take, List.map_drop]

theorem ids_load (h : ∀ id ∈ ids, t.Has id) : (t.load rows ids).map (·.id) = ids :=
  NamedObject.map_id_stored rows h

theorem load_map_fst {l : List (Int64 × String)} (h : ∀ row ∈ l, t.rows[row.1]? = some row.2) :
    t.load rows (l.map (·.1)) = l.map (.stored rows) := by
  rw [load, List.filterMap_map, ← List.filterMap_eq_map]
  refine List.filterMap_congr fun row hrow => ?_
  rw [Function.comp_apply, h row hrow]
  rfl

end ObjectTable

end ObjectCatalog
