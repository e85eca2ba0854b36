import Mathlib.Data.List.Basic
import ObjectCatalog.Proofs.Database.Metadata

/-!
# What a difference makes of the rows, key by key

A save was computed against the metadata its object remembers, and the rows it meets may be others by
then: another holder wrote some of them, and some keys may have several rows. `MetadataTable.Merged`
says what it makes of them. Under a key that the object changed there is one row with its value, under
a key that it removed there is none, and under every other key the rows are those that were there.

Which rows a touched key gets does not depend on those it had (`MetadataTable.Merged.under_eq`), and an
untouched key keeps its rows. So two differences without a common key make the same of a table in
either order (`MetadataTable.Merged.perm`).
-/

namespace ObjectCatalog

/-! ## 1. The keys of a difference -/

/-- The keys that a difference touches. -/
def MetadataDelta.keys (delta : MetadataDelta) : List String :=
  delta.removals ++ delta.upserts.map (·.1)

theorem MetadataDelta.mem_keys {delta : MetadataDelta} {key : String} :
    key ∈ delta.keys ↔ key ∈ delta.removals ∨ ∃ value, (key, value) ∈ delta.upserts := by
  rw [keys, List.mem_append, List.mem_map]
  constructor
  · rintro (hremoved | ⟨⟨k, value⟩, hset, rfl⟩)
    · exact .inl hremoved
    · exact .inr ⟨value, hset⟩
  · rintro (hremoved | ⟨value, hset⟩)
    · exact .inl hremoved
    · exact .inr ⟨(key, value), hset, rfl⟩

/-- A key is touched exactly if its value is not the one that is remembered. -/
theorem NamedObject.mem_keys_metadataDelta {object : NamedObject} {key : String} :
    key ∈ object.metadataDelta.keys ↔ object.metadata[key]? ≠ object.persistedMetadata[key]? := by
  rw [MetadataDelta.mem_keys]
  simp only [mem_removals, mem_upserts]
  cases hset : object.metadata[key]? with
  | none =>
    cases hstored : object.persistedMetadata[key]? with
    | none => simp
    | some stored => simp
  | some value =>
    constructor
    · rintro (⟨-, habsurd⟩ | ⟨v, hv, hne⟩)
      · cases habsurd
      · exact fun heq => hne (heq ▸ hv)
    · exact fun hne => .inr ⟨value, rfl, Ne.symm hne⟩

namespace MetadataTable

variable {rows : List MetadataRow} {id : Int64} {key : String}

/-! ## 2. The rows under one key -/

/-- The rows that an object has under a key, in their order. -/
def under (rows : List MetadataRow) (id : Int64) (key : String) : List MetadataRow :=
  rows.filter fun row => row.object == id && row.key == key

theorem under_eq_self (value : String) : under [⟨id, key, value⟩] id key = [⟨id, key, value⟩] := by
  rw [under, List.filter_cons_of_pos (by simp), List.filter_nil]

theorem under_withoutEntry_self (rows : List MetadataRow) (id : Int64) (key : String) :
    under (withoutEntry rows id key) id key = [] := by
  rw [under, List.filter_eq_nil_iff]
  intro row hrow
  rw [Bool.and_eq_true, beq_iff_eq, beq_iff_eq]
  exact (mem_withoutEntry.1 hrow).2

theorem under_withoutEntry_of_ne {k : String} (hne : key ≠ k) (rows : List MetadataRow) (id : Int64) :
    under (withoutEntry rows id key) id k = under rows id k := by
  rw [under, withoutEntry, List.filter_filter, under]
  refine List.filter_congr fun row _ => ?_
  by_cases hkey : row.key = k
  · simp [hkey, Ne.symm hne]
  · simp [hkey]

theorem under_put_self (rows : List MetadataRow) (id : Int64) (key value : String) :
    under (put rows id key value) id key = [⟨id, key, value⟩] := by
  have happend := List.filter_append (p := fun row : MetadataRow => row.object == id && row.key == key)
    (withoutEntry rows id key) [⟨id, key, value⟩]
  exact happend.trans (congrArg₂ _ (under_withoutEntry_self rows id key) (under_eq_self value))

theorem under_put_of_ne {k : String} (hne : key ≠ k) (rows : List MetadataRow) (id : Int64)
    (value : String) : under (put rows id key value) id k = under rows id k := by
  rw [put, under, List.filter_append, List.filter_cons_of_neg (by simp [hne]), List.filter_nil,
    List.append_nil]
  exact under_withoutEntry_of_ne hne rows id

/-- What is under a key after keys were deleted. The induction is on the keys. -/
theorem under_foldl_withoutEntry (keys : List String) (rows : List MetadataRow) :
    under (keys.foldl (fun rows key => withoutEntry rows id key) rows) id key =
      if key ∈ keys then [] else under rows id key := by
  induction keys generalizing rows with
  | nil => rw [List.foldl_nil, if_neg List.not_mem_nil]
  | cons first rest ih =>
    rw [List.foldl_cons, ih]
    by_cases hkey : first = key
    · rw [hkey, under_withoutEntry_self, ite_self, if_pos List.mem_cons_self]
    · rw [under_withoutEntry_of_ne hkey]
      simp only [List.mem_cons, Ne.symm hkey, false_or]

theorem under_foldl_put_of_forall_ne {entries : List (String × String)}
    (h : ∀ entry ∈ entries, entry.1 ≠ key) (rows : List MetadataRow) :
    under (entries.foldl (fun rows (key, value) => put rows id key value) rows) id key =
      under rows id key := by
  induction entries generalizing rows with
  | nil => rfl
  | cons entry rest ih =>
    rw [List.foldl_cons, ih fun e he => h e (List.mem_cons_of_mem _ he)]
    exact under_put_of_ne (h entry List.mem_cons_self) rows id entry.2

/-- If one value is set under a key, however often, then its row is all there is. Once it is set, it
stays through the rest of the entries, so the induction carries that it is set or yet to be set. -/
theorem under_foldl_put_of_mem {entries : List (String × String)} {value : String}
    (hone : ∀ w, (key, w) ∈ entries → w = value)
    (hset : under rows id key = [⟨id, key, value⟩] ∨ (key, value) ∈ entries) :
    under (entries.foldl (fun rows (key, value) => put rows id key value) rows) id key =
      [⟨id, key, value⟩] := by
  induction entries generalizing rows with
  | nil => exact hset.resolve_right List.not_mem_nil
  | cons entry rest ih =>
    rw [List.foldl_cons]
    apply ih fun w hw => hone w (List.mem_cons_of_mem _ hw)
    by_cases hkey : entry.1 = key
    · obtain ⟨k, w⟩ := entry
      obtain rfl : k = key := hkey
      rw [hone w List.mem_cons_self]
      exact .inl (under_put_self rows id k value)
    · rw [under_put_of_ne hkey]
      refine hset.imp_right fun hmem => ?_
      exact (List.mem_cons.1 hmem).resolve_left fun heq => hkey (heq ▸ rfl)

/-! ## 3. The rows of other objects -/

theorem withoutObject_withoutEntry (rows : List MetadataRow) (id : Int64) (key : String) :
    withoutObject (withoutEntry rows id key) id = withoutObject rows id := by
  rw [withoutObject, withoutEntry, List.filter_filter, withoutObject]
  refine List.filter_congr fun row _ => ?_
  by_cases hid : row.object = id
  · simp [hid]
  · simp [hid]

theorem withoutObject_put (rows : List MetadataRow) (id : Int64) (key value : String) :
    withoutObject (put rows id key value) id = withoutObject rows id := by
  rw [put, withoutObject, List.filter_append, List.filter_cons_of_neg (by simp), List.filter_nil,
    List.append_nil]
  exact withoutObject_withoutEntry rows id key

theorem withoutObject_afterSave (rows : List MetadataRow) (id : Int64) (delta : MetadataDelta) :
    withoutObject (afterSave rows id delta) id = withoutObject rows id := by
  have hremovals : withoutObject
      (delta.removals.foldl (fun rows key => withoutEntry rows id key) rows) id =
        withoutObject rows id :=
    List.foldlRecOn (motive := fun after => withoutObject after id = withoutObject rows id) _ _ rfl
      fun rows' h key _ => (withoutObject_withoutEntry rows' id key).trans h
  exact List.foldlRecOn (motive := fun after => withoutObject after id = withoutObject rows id) _ _
    hremovals fun rows' h entry _ => (withoutObject_put rows' id entry.1 entry.2).trans h

/-! ## 4. The merge -/

/-- The rows are merged with what an object has: what it changed or removed since it was stored last
is as the object has it, and everything else is as it was. -/
structure Merged (object : NamedObject) (before after : List MetadataRow) : Prop where
  written : ∀ {key value}, object.metadata[key]? = some value →
    object.persistedMetadata[key]? ≠ some value → under after object.id key = [⟨object.id, key, value⟩]
  removed : ∀ {key}, (object.persistedMetadata[key]?).isSome = true → object.metadata[key]? = none →
    under after object.id key = []
  kept : ∀ {key}, object.metadata[key]? = object.persistedMetadata[key]? →
    under after object.id key = under before object.id key
  others : withoutObject after object.id = withoutObject before object.id

/-- Rows under a key of the object are reached by the removals or by the new values, but never by
both: a key that is removed has no value. -/
theorem merged_afterSave (object : NamedObject) (rows : List MetadataRow) :
    Merged object rows (afterSave rows object.id object.metadataDelta) where
  written {key value} hset hne := by
    have hvalue := NamedObject.mem_upserts.2 ⟨hset, hne⟩
    apply under_foldl_put_of_mem ?_ (.inr hvalue)
    intro w hw
    have hw := (NamedObject.mem_upserts.1 hw).1
    rw [hset] at hw
    exact (Option.some.inj hw).symm
  removed {key} hstored hnone := by
    have hne : ∀ entry ∈ object.metadataDelta.upserts, entry.1 ≠ key := by
      rintro ⟨k, value⟩ hentry rfl
      have hset := (NamedObject.mem_upserts.1 hentry).1
      rw [hnone] at hset
      cases hset
    rw [afterSave, under_foldl_put_of_forall_ne hne, under_foldl_withoutEntry,
      if_pos (NamedObject.mem_removals.2 ⟨hstored, hnone⟩)]
  kept {key} hsame := by
    have huntouched : key ∉ object.metadataDelta.keys :=
      fun hkey => NamedObject.mem_keys_metadataDelta.1 hkey hsame
    rw [MetadataDelta.mem_keys, not_or, not_exists] at huntouched
    have hne : ∀ entry ∈ object.metadataDelta.upserts, entry.1 ≠ key := by
      rintro ⟨k, value⟩ hentry rfl
      exact huntouched.2 value hentry
    rw [afterSave, under_foldl_put_of_forall_ne hne, under_foldl_withoutEntry,
      if_neg huntouched.1]
  others := withoutObject_afterSave rows object.id object.metadataDelta

/-- Under a touched key the rows after a merge are the same whatever they were before. -/
theorem Merged.under_eq {object : NamedObject} {s t s' t' : List MetadataRow}
    (h : Merged object s t) (h' : Merged object s' t') (hkey : key ∈ object.metadataDelta.keys) :
    under t object.id key = under t' object.id key := by
  rcases MetadataDelta.mem_keys.1 hkey with hremoved | ⟨value, hvalue⟩
  · obtain ⟨hstored, hnone⟩ := NamedObject.mem_removals.1 hremoved
    rw [h.removed hstored hnone, h'.removed hstored hnone]
  · obtain ⟨hset, hne⟩ := NamedObject.mem_upserts.1 hvalue
    rw [h.written hset hne, h'.written hset hne]

theorem Merged.under_of_not_mem {object : NamedObject} {s t : List MetadataRow}
    (h : Merged object s t) (hkey : key ∉ object.metadataDelta.keys) :
    under t object.id key = under s object.id key :=
  h.kept (not_not.1 fun hne => hkey (NamedObject.mem_keys_metadataDelta.2 hne))

/-- A table is determined up to its order by the rows of one object, key by key, and those of the
others. -/
theorem perm_of_under {s t : List MetadataRow} (hothers : withoutObject s id = withoutObject t id)
    (hunder : ∀ key, under s id key = under t id key) : s.Perm t := by
  rw [List.perm_iff_count]
  intro row
  by_cases hid : row.object = id
  · have hown : ∀ l : List MetadataRow, (under l id row.key).count row = l.count row :=
      fun _ => List.count_filter (by simp [hid])
    rw [← hown s, ← hown t, hunder]
  · have hother : ∀ l : List MetadataRow, (withoutObject l id).count row = l.count row :=
      fun _ => List.count_filter (by simp [hid])
    rw [← hother s, ← hother t, hothers]

/-- **Merges that touch different keys of one object can be done in either order.** Each key is touched
by one of them at most, and this one decides its rows. -/
theorem Merged.perm {first second : NamedObject} {s t u t' u' : List MetadataRow}
    (hid : first.id = second.id)
    (hdisjoint : first.metadataDelta.keys.Disjoint second.metadataDelta.keys)
    (h₁ : Merged first s t) (h₂ : Merged second t u) (h₂' : Merged second s t')
    (h₁' : Merged first t' u') : u'.Perm u := by
  have hothers : withoutObject u' first.id = withoutObject u first.id := by
    have hfirst := h₁'.others.trans (hid ▸ h₂'.others)
    have hsecond : withoutObject u first.id = withoutObject t first.id := hid ▸ h₂.others
    rw [hfirst, hsecond, h₁.others]
  refine perm_of_under hothers fun key => ?_
  by_cases hfirst : key ∈ first.metadataDelta.keys
  · have hsecond : key ∉ second.metadataDelta.keys := fun h => hdisjoint hfirst h
    have hlast : under u first.id key = under t first.id key := hid ▸ h₂.under_of_not_mem hsecond
    rw [hlast]
    exact h₁'.under_eq h₁ hfirst
  · rw [h₁'.under_of_not_mem hfirst, hid]
    by_cases hsecond : key ∈ second.metadataDelta.keys
    · exact h₂'.under_eq h₂ hsecond
    · rw [h₂.under_of_not_mem hsecond, h₂'.under_of_not_mem hsecond, ← hid]
      exact (h₁.under_of_not_mem hfirst).symm

end MetadataTable

end ObjectCatalog
