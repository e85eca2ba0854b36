import Mathlib.Data.List.Sort
import ObjectCatalog.Proofs.Object.Delta

/-!
# The least difference

What a difference of two maps has to be is said here without the function that computes it
(`MetadataDelta.IsDifference`): it leads from the one map to the other, it holds what has to be written
and no more, and each of its parts is listed once and in order. There is one such difference
(`MetadataDelta.IsDifference.unique`), and `NamedObject.metadataDelta` is it.

The work is in `getElem?_applyTo`, which says what any difference whatsoever makes of a key. That no
other difference can do with less is read off it: where the maps differ at a key, something has to be
written under it.
-/

namespace ObjectCatalog

namespace MetadataDelta

/-- The difference between what is stored and what is to be stored. -/
structure IsDifference (delta : MetadataDelta) (stored current : Metadata) : Prop where
  applies : delta.applyTo stored = current
  /-- What is set are the entries that are not stored with the same value. -/
  mem_upserts : ∀ key value, (key, value) ∈ delta.upserts ↔
    current[key]? = some value ∧ stored[key]? ≠ some value
  /-- What is removed are the keys that are no longer there. -/
  mem_removals : ∀ key, key ∈ delta.removals ↔ key ∈ stored ∧ key ∉ current
  upserts_increasing : delta.upserts.Pairwise fun entry later => entry.1 < later.1
  removals_increasing : delta.removals.Pairwise (· < ·)
  disjoint : ∀ entry ∈ delta.upserts, entry.1 ∉ delta.removals
  isEmpty_iff : delta.isEmpty = true ↔ stored = current
  /-- Whatever else leads from the one to the other writes this much at least. -/
  least : ∀ other : MetadataDelta, other.applyTo stored = current →
    delta.upserts ⊆ other.upserts ∧ delta.removals ⊆ other.removals

/-! ## 1. What a difference makes of a key -/

/-- The last value that is set under a key stands. Without one the key is gone if it is removed, and
otherwise it is as it was. -/
theorem getElem?_applyTo (delta : MetadataDelta) (stored : Metadata) (key : String) :
    (delta.applyTo stored)[key]? =
      match (delta.upserts.filter (·.1 == key)).getLast? with
      | some entry => some entry.2
      | none => if key ∈ delta.removals then none else stored[key]? := by
  refine (getElem?_foldl_insert _ _ key).trans ?_
  cases (delta.upserts.filter (·.1 == key)).getLast? with
  | none => exact getElem?_foldl_erase _ _ key
  | some entry => rfl

/-- A value that was not stored before has been set. -/
theorem mem_upserts_of_applyTo {delta : MetadataDelta} {stored : Metadata} {key value : String}
    (hset : (delta.applyTo stored)[key]? = some value) (hnew : stored[key]? ≠ some value) :
    (key, value) ∈ delta.upserts := by
  rw [getElem?_applyTo] at hset
  cases hlast : (delta.upserts.filter (·.1 == key)).getLast? with
  | none =>
    simp only [hlast] at hset
    split at hset
    · cases hset
    · exact absurd hset hnew
  | some entry =>
    simp only [hlast, Option.some.injEq] at hset
    obtain ⟨hmem, hkey⟩ := List.mem_filter.1 (List.mem_of_getLast? hlast)
    rw [beq_iff_eq] at hkey
    rwa [← hkey, ← hset]

/-- A key that was stored and is not there any more has been removed. -/
theorem mem_removals_of_applyTo {delta : MetadataDelta} {stored : Metadata} {key : String}
    (hnone : (delta.applyTo stored)[key]? = none) (hstored : stored[key]? ≠ none) :
    key ∈ delta.removals := by
  rw [getElem?_applyTo] at hnone
  cases hlast : (delta.upserts.filter (·.1 == key)).getLast? with
  | none =>
    simp only [hlast] at hnone
    by_contra hkept
    rw [if_neg hkept] at hnone
    exact hstored hnone
  | some entry =>
    -- A key that is set is there afterwards.
    simp only [hlast] at hnone
    cases hnone

/-! ## 2. There is one difference -/

/-- Both parts are known by what is in them, because they are in strict order. -/
theorem IsDifference.unique {delta delta' : MetadataDelta} {stored current : Metadata}
    (h : delta.IsDifference stored current) (h' : delta'.IsDifference stored current) :
    delta = delta' := by
  have hupserts : delta.upserts = delta'.upserts := by
    have hirrefl : Std.Irrefl fun entry later : String × String => entry.1 < later.1 :=
      ⟨fun entry => String.lt_irrefl entry.1⟩
    have hantisymm : Std.Antisymm fun entry later : String × String => entry.1 < later.1 :=
      ⟨fun _ _ hlt hgt => absurd hgt (String.lt_asymm hlt)⟩
    apply List.Pairwise.eq_of_mem_iff h.upserts_increasing h'.upserts_increasing
    rintro ⟨key, value⟩
    rw [h.mem_upserts, h'.mem_upserts]
  have hremovals : delta.removals = delta'.removals := by
    have hirrefl : Std.Irrefl fun key later : String => key < later := ⟨String.lt_irrefl⟩
    have hantisymm : Std.Antisymm fun key later : String => key < later :=
      ⟨fun _ _ hlt hgt => absurd hgt (String.lt_asymm hlt)⟩
    apply List.Pairwise.eq_of_mem_iff h.removals_increasing h'.removals_increasing
    intro key
    rw [h.mem_removals, h'.mem_removals]
  cases delta
  cases delta'
  congr

end MetadataDelta

namespace NamedObject

/-! ## 3. The difference that an object saves -/

/-- Keys are in the order of their characters. -/
theorem compare_eq_lt_iff {key later : String} : compare key later = .lt ↔ key < later :=
  compareOfLessAndEq_eq_lt

theorem isDifference_metadataDelta (object : NamedObject) :
    object.metadataDelta.IsDifference object.persistedMetadata object.metadata where
  applies := object.applyTo_metadataDelta
  mem_upserts _ _ := mem_upserts
  mem_removals key := by
    rw [mem_removals, ← Option.not_isSome_iff_eq_none, Std.ExtTreeMap.isSome_getElem?_iff_mem,
      Std.ExtTreeMap.isSome_getElem?_iff_mem]
  upserts_increasing := by
    -- The listing of a map is in order, and a part of it is too.
    apply List.Pairwise.filter
    exact Std.ExtTreeMap.ordered_keys_toList.imp compare_eq_lt_iff.1
  removals_increasing := by
    apply List.Pairwise.filter
    exact Std.ExtTreeMap.ordered_keys.imp compare_eq_lt_iff.1
  disjoint := by
    rintro ⟨key, value⟩ hset hremoved
    have hthere := (mem_upserts.1 hset).1
    have hgone := (mem_removals.1 hremoved).2
    rw [hthere] at hgone
    cases hgone
  isEmpty_iff := isEmpty_metadataDelta_iff
  least other hother := by
    constructor
    · rintro ⟨key, value⟩ hset
      obtain ⟨hcurrent, hnew⟩ := mem_upserts.1 hset
      exact MetadataDelta.mem_upserts_of_applyTo (hother ▸ hcurrent) hnew
    · intro key hremoved
      obtain ⟨hstored, hgone⟩ := mem_removals.1 hremoved
      apply MetadataDelta.mem_removals_of_applyTo (hother ▸ hgone)
      exact Option.isSome_iff_ne_none.1 hstored

/-- What an object that was just loaded would save after edits is the difference between what was
loaded and what it has now. -/
theorem isDifference_editAll (object : NamedObject) (stored : Metadata) (edits : List Edit) :
    ((object.hydrate stored).editAll edits).metadataDelta.IsDifference stored
      ((object.hydrate stored).editAll edits).metadata := by
  have hdifference := isDifference_metadataDelta ((object.hydrate stored).editAll edits)
  rwa [persistedMetadata_editAll] at hdifference

/-- **What is saved is the one least difference.** Whatever the two maps of an object are, its
difference leads from the one that is stored to the one that it has, with nothing written twice, in
order and without need, and there is no other that does. After edits of an object that was just loaded
it does not matter which edits these were: the same map in the end gives the same difference, and
nothing is written if it is the map that was loaded. -/
theorem metadataDelta_is_least_difference :
    (∀ (object : NamedObject) (delta : MetadataDelta),
      delta.IsDifference object.persistedMetadata object.metadata ↔ delta = object.metadataDelta) ∧
    (∀ (stored : Metadata) (object object' : NamedObject) (edits edits' : List Edit),
      ((object.hydrate stored).editAll edits).metadata =
          ((object'.hydrate stored).editAll edits').metadata →
        ((object.hydrate stored).editAll edits).metadataDelta =
          ((object'.hydrate stored).editAll edits').metadataDelta) ∧
    ∀ (stored : Metadata) (object : NamedObject) (edits : List Edit),
      ((object.hydrate stored).editAll edits).metadata = stored →
        ((object.hydrate stored).editAll edits).metadataDelta = ⟨[], []⟩ := by
  refine ⟨fun object delta => ?_, fun stored object object' edits edits' hsame => ?_,
    fun stored object edits hsame => ?_⟩
  · constructor
    · intro h
      exact h.unique object.isDifference_metadataDelta
    · rintro rfl
      exact object.isDifference_metadataDelta
  · have h := isDifference_editAll object stored edits
    have h' := isDifference_editAll object' stored edits'
    rw [← hsame] at h'
    exact h.unique h'
  · have hempty := (isDifference_editAll object stored edits).isEmpty_iff.2 hsame.symm
    rw [MetadataDelta.isEmpty, Bool.and_eq_true, List.isEmpty_iff, List.isEmpty_iff] at hempty
    obtain ⟨hupserts, hremovals⟩ := hempty
    generalize ((object.hydrate stored).editAll edits).metadataDelta = delta at hupserts hremovals ⊢
    cases delta
    congr

theorem metadataDelta_is_least_difference_lamp :
    let stored : Metadata := .ofList [("color", "red"), ("shape", "round"), ("size", "L")]
    let lamp := (fresh 7 "lamp").hydrate stored
    let back := [Edit.setMeta "color" "blue", .removeMeta "size", .setMeta "color" "red",
      .setMeta "size" "L"]
    let edited := lamp.editAll [.setMeta "color" "blue", .removeMeta "size",
      .setMeta "weight" "2kg", .setMeta "shape" "round"]
    (lamp.editAll back).metadata = stored ∧ (lamp.editAll back).metadataDelta = ⟨[], []⟩ ∧
    MetadataDelta.IsDifference ⟨[("color", "blue"), ("weight", "2kg")], ["size"]⟩
      edited.persistedMetadata edited.metadata := by
  intro stored lamp back edited
  have hback : (lamp.editAll back).metadata = stored := by decide +kernel
  exact ⟨hback, metadataDelta_is_least_difference.2.2 stored _ back hback,
    (metadataDelta_is_least_difference.1 edited _).2 (by decide +kernel)⟩

end NamedObject

end ObjectCatalog
