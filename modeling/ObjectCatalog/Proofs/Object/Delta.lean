import ObjectCatalog.Object.Basic

/-!
# The difference that is saved

A save does not write the metadata of an object but the difference from what was stored last. Applied
to that, the difference gives the metadata of the object (`NamedObject.applyTo_metadataDelta`), and it
is empty exactly if nothing has to be written (`NamedObject.isEmpty_metadataDelta_iff`). Whatever the
holder of an object did to it before does not matter: edits leave alone what the object remembers
(`NamedObject.persistedMetadata_editAll`).

Maps are compared key by key throughout. Setting many values in a row leaves, under each key, the last
of the values that were set under it (`getElem?_foldl_insert`), and this one fact also says what
reading rows back amounts to.
-/

namespace ObjectCatalog

/-! ## Many keys at once -/

theorem getElem?_insert (m : Metadata) (key value k : String) :
    (m.insert key value)[k]? = if key = k then some value else m[k]? := by
  rw [Std.ExtTreeMap.getElem?_insert]
  simp only [Std.compare_eq_iff_eq]

theorem getElem?_erase (m : Metadata) (key k : String) :
    (m.erase key)[k]? = if key = k then none else m[k]? := by
  rw [Std.ExtTreeMap.getElem?_erase]
  simp only [Std.compare_eq_iff_eq]

theorem getElem?_foldl_erase (keys : List String) (m : Metadata) (k : String) :
    (keys.foldl (fun m key => m.erase key) m)[k]? = if k ∈ keys then none else m[k]? := by
  induction keys generalizing m with
  | nil => rw [List.foldl_nil, if_neg List.not_mem_nil]
  | cons key rest ih =>
    rw [List.foldl_cons, ih, getElem?_erase]
    by_cases hkey : key = k
    · rw [if_pos hkey, ite_self, if_pos (hkey ▸ List.mem_cons_self)]
    · rw [if_neg hkey]
      simp only [List.mem_cons, Ne.symm hkey, false_or]

/-- Of the values that are set under a key the last one stands; without any the key is as it was. -/
theorem getElem?_foldl_insert (entries : List (String × String)) (m : Metadata) (k : String) :
    (entries.foldl (fun m (key, value) => m.insert key value) m)[k]? =
      match (entries.filter (·.1 == k)).getLast? with
      | some entry => some entry.2
      | none => m[k]? := by
  induction entries generalizing m with
  | nil => rfl
  | cons entry rest ih =>
    rw [List.foldl_cons, ih, List.filter_cons]
    by_cases hkey : entry.1 = k
    · -- The value that is set first stands only if no other is set after it.
      rw [if_pos (beq_iff_eq.2 hkey), List.getLast?_cons]
      cases (rest.filter (·.1 == k)).getLast? with
      | none => rw [getElem?_insert, if_pos hkey, Option.getD_none]
      | some last => rw [Option.getD_some]
    · rw [if_neg (by simpa using hkey), getElem?_insert, if_neg hkey]

/-- A key under which nothing is set is as it was. -/
theorem getElem?_foldl_insert_of_forall_ne {entries : List (String × String)} {k : String}
    (h : ∀ entry ∈ entries, entry.1 ≠ k) (m : Metadata) :
    (entries.foldl (fun m (key, value) => m.insert key value) m)[k]? = m[k]? := by
  have hnone : entries.filter (·.1 == k) = [] := by
    rw [List.filter_eq_nil_iff]
    intro entry hentry
    simpa using h entry hentry
  rw [getElem?_foldl_insert, hnone]
  rfl

/-- If one value is set under a key, however often, then it stands. -/
theorem getElem?_foldl_insert_of_mem {entries : List (String × String)} {k v : String}
    (hmem : (k, v) ∈ entries) (hone : ∀ w, (k, w) ∈ entries → w = v) (m : Metadata) :
    (entries.foldl (fun m (key, value) => m.insert key value) m)[k]? = some v := by
  have hown : (k, v) ∈ entries.filter (·.1 == k) :=
    List.mem_filter.2 ⟨hmem, beq_iff_eq.2 rfl⟩
  rw [getElem?_foldl_insert]
  cases hlast : (entries.filter (·.1 == k)).getLast? with
  | none =>
    rw [List.getLast?_eq_none_iff] at hlast
    rw [hlast] at hown
    cases hown
  | some entry =>
    obtain ⟨hentry, hkey⟩ := List.mem_filter.1 (List.mem_of_getLast? hlast)
    obtain ⟨key, value⟩ := entry
    obtain rfl : key = k := beq_iff_eq.1 hkey
    exact congrArg some (hone value hentry)

namespace NamedObject

/-! ## The difference -/

variable {object : NamedObject}

theorem mem_upserts {key value : String} :
    (key, value) ∈ object.metadataDelta.upserts ↔
      object.metadata[key]? = some value ∧ object.persistedMetadata[key]? ≠ some value := by
  rw [metadataDelta, List.mem_filter, Std.ExtTreeMap.mem_toList_iff_getElem?_eq_some, bne_iff_ne]

theorem mem_removals {key : String} :
    key ∈ object.metadataDelta.removals ↔
      (object.persistedMetadata[key]?).isSome = true ∧ object.metadata[key]? = none := by
  rw [metadataDelta, List.mem_filter, Std.ExtTreeMap.mem_keys,
    Std.ExtTreeMap.isSome_getElem?_iff_mem, Bool.not_eq_true',
    Std.ExtTreeMap.contains_eq_isSome_getElem?, Option.isSome_eq_false_iff,
    Option.isNone_iff_eq_none]

/-- **What is saved makes of the stored metadata that of the object.** The maps are compared at each
key: it is removed, or set, or the same in both. -/
theorem applyTo_metadataDelta (object : NamedObject) :
    object.metadataDelta.applyTo object.persistedMetadata = object.metadata := by
  apply Std.ExtTreeMap.ext_getElem?
  intro key
  rw [MetadataDelta.applyTo]
  by_cases hupsert : ∃ value, (key, value) ∈ object.metadataDelta.upserts
  · obtain ⟨value, hvalue⟩ := hupsert
    have hset := (mem_upserts.1 hvalue).1
    rw [hset]
    apply getElem?_foldl_insert_of_mem hvalue
    intro other hother
    have hother := (mem_upserts.1 hother).1
    rw [hset] at hother
    exact (Option.some.inj hother).symm
  · have hne : ∀ entry ∈ object.metadataDelta.upserts, entry.1 ≠ key := by
      rintro ⟨k, value⟩ hentry rfl
      exact hupsert ⟨value, hentry⟩
    rw [getElem?_foldl_insert_of_forall_ne hne, getElem?_foldl_erase]
    by_cases hremoved : key ∈ object.metadataDelta.removals
    · rw [if_pos hremoved, (mem_removals.1 hremoved).2]
    · rw [if_neg hremoved]
      cases hvalue : object.metadata[key]? with
      | none =>
        cases hstored : object.persistedMetadata[key]? with
        | none => rfl
        | some value => exact absurd (mem_removals.2 ⟨by rw [hstored]; rfl, hvalue⟩) hremoved
      | some value =>
        by_cases hstored : object.persistedMetadata[key]? = some value
        · exact hstored
        · exact absurd ⟨value, mem_upserts.2 ⟨hvalue, hstored⟩⟩ hupsert

/-- There is nothing to save exactly if the metadata is what was stored last. -/
theorem isEmpty_metadataDelta_iff :
    object.metadataDelta.isEmpty = true ↔ object.persistedMetadata = object.metadata := by
  rw [MetadataDelta.isEmpty, Bool.and_eq_true, List.isEmpty_iff, List.isEmpty_iff]
  constructor
  · rintro ⟨hupserts, hremovals⟩
    have happly := object.applyTo_metadataDelta
    rw [MetadataDelta.applyTo, hupserts, hremovals] at happly
    exact happly
  · intro hsame
    constructor
    · rw [List.eq_nil_iff_forall_not_mem]
      rintro ⟨key, value⟩ hentry
      obtain ⟨hset, hne⟩ := mem_upserts.1 hentry
      rw [hsame] at hne
      exact hne hset
    · rw [List.eq_nil_iff_forall_not_mem]
      intro key hkey
      obtain ⟨hstored, hnone⟩ := mem_removals.1 hkey
      rw [hsame, hnone] at hstored
      cases hstored

theorem markSaved_of_isEmpty (h : object.metadataDelta.isEmpty = true) :
    object.markSaved = object := by
  have hsame := isEmpty_metadataDelta_iff.1 h
  obtain ⟨id, name, metadata, persistedName, persistedMetadata⟩ := object
  obtain rfl : persistedMetadata = metadata := hsame
  rfl

/-! ## Edits -/

/-- What the holder of an object can do to it without storing anything. -/
inductive Edit where
  | setName (name : String)
  | setMeta (key value : String)
  | removeMeta (key : String)
  deriving DecidableEq

def edit (object : NamedObject) : Edit → NamedObject
  | .setName name => object.setName name
  | .setMeta key value => object.setMeta key value
  | .removeMeta key => object.removeMeta key

def editAll (object : NamedObject) (edits : List Edit) : NamedObject :=
  edits.foldl edit object

/-- Edits change the name and the metadata and nothing else. -/
theorem editAll_eq (object : NamedObject) (edits : List Edit) :
    object.editAll edits = { object with
      name := (object.editAll edits).name, metadata := (object.editAll edits).metadata } := by
  induction edits generalizing object with
  | nil => rfl
  | cons change rest ih =>
    rw [editAll, List.foldl_cons]
    refine (ih (object.edit change)).trans ?_
    cases change with
    | setName name => rfl
    | setMeta key value => rfl
    | removeMeta key => rfl

@[simp] theorem id_editAll (object : NamedObject) (edits : List Edit) :
    (object.editAll edits).id = object.id := by
  rw [editAll_eq]

@[simp] theorem persistedName_editAll (object : NamedObject) (edits : List Edit) :
    (object.editAll edits).persistedName = object.persistedName := by
  rw [editAll_eq]

@[simp] theorem persistedMetadata_editAll (object : NamedObject) (edits : List Edit) :
    (object.editAll edits).persistedMetadata = object.persistedMetadata := by
  rw [editAll_eq]

end NamedObject

end ObjectCatalog
