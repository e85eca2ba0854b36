import Mathlib.Data.List.Pairwise
import ObjectCatalog.Proofs.Database.Effects
import ObjectCatalog.Proofs.Object.Delta
import ObjectCatalog.Proofs.Search.ObjectLevel

/-!
# The rows of a metadata table

A metadata table may hold several rows under one key of one object. A read folds them into a map, and
of several values under a key the greatest stands (`MetadataTable.getElem?_loaded_eq_some_iff`), so
what is read depends on which rows there are and not on their order.

To delete a key takes it out of the map that is read, and to delete it and insert a value sets this
value (`MetadataTable.loaded_withoutEntry`, `MetadataTable.loaded_put`). So what a save makes of the
rows is, read back, what the difference makes of the map (`MetadataTable.loaded_afterSave`). The same
order of the two statements is why no key ever gets a second row (`MetadataTable.Unique.append`).
-/

namespace ObjectCatalog

namespace MetadataTable

variable {rows : List MetadataRow} {id : Int64} {key value : String}

/-! ## Reading rows back -/

/-- The metadata of an object as it is read from its rows. -/
def loaded (rows : List MetadataRow) (id : Int64) : Metadata :=
  MetadataStore.gather (entriesOf rows id)

@[simp] theorem loaded_nil (id : Int64) : loaded [] id = ∅ := by
  rw [loaded, entriesOf, List.filter_nil, List.map_nil, List.mergeSort_nil]
  rfl

theorem pairwise_entriesOf (rows : List MetadataRow) (id : Int64) :
    (entriesOf rows id).Pairwise fun a b => a.1 < b.1 ∨ (a.1 = b.1 ∧ a.2 ≤ b.2) := by
  have hsorted : (entriesOf rows id).Pairwise fun a b =>
      (decide (a.1 < b.1) || (a.1 == b.1 && decide (a.2 ≤ b.2))) = true := by
    apply List.pairwise_mergeSort
    · intro a b c hab hbc
      simp only [Bool.or_eq_true, Bool.and_eq_true, decide_eq_true_eq, beq_iff_eq] at hab hbc ⊢
      rcases hab with hab | ⟨hab, hab'⟩
      · rcases hbc with hbc | ⟨hbc, -⟩
        · exact .inl (String.lt_trans hab hbc)
        · exact .inl (hbc ▸ hab)
      · rcases hbc with hbc | ⟨hbc, hbc'⟩
        · exact .inl (hab ▸ hbc)
        · exact .inr ⟨hab.trans hbc, String.le_trans hab' hbc'⟩
    · intro a b
      simp only [Bool.or_eq_true, Bool.and_eq_true, decide_eq_true_eq, beq_iff_eq]
      by_cases hkey : a.1 = b.1
      · rcases String.le_total a.2 b.2 with hle | hle
        · exact .inl (.inr ⟨hkey, hle⟩)
        · exact .inr (.inr ⟨hkey.symm, hle⟩)
      · by_cases hlt : a.1 < b.1
        · exact .inl (.inl hlt)
        · exact .inr (.inl (Std.lt_of_le_of_ne (String.not_lt.1 hlt) (Ne.symm hkey)))
  refine hsorted.imp fun {a b} hab => ?_
  simpa only [Bool.or_eq_true, Bool.and_eq_true, decide_eq_true_eq, beq_iff_eq] using hab

theorem mem_ownEntries {entry : String × String} :
    entry ∈ (entriesOf rows id).filter (·.1 == key) ↔
      entry.1 = key ∧ ⟨id, key, entry.2⟩ ∈ rows := by
  rw [List.mem_filter, mem_entriesOf, beq_iff_eq]
  constructor
  · rintro ⟨⟨⟨object, k, v⟩, hrow, rfl, rfl⟩, rfl⟩
    exact ⟨rfl, hrow⟩
  · rintro ⟨rfl, hrow⟩
    exact ⟨⟨⟨id, entry.1, entry.2⟩, hrow, rfl, rfl⟩, rfl⟩

/-- A read finds under a key the greatest of the values that are stored under it. -/
theorem getElem?_loaded_eq_some_iff :
    (loaded rows id)[key]? = some value ↔
      ⟨id, key, value⟩ ∈ rows ∧ ∀ other, ⟨id, key, other⟩ ∈ rows → other ≤ value := by
  rw [loaded, MetadataStore.gather, getElem?_foldl_insert]
  have hown : ∀ other, ⟨id, key, other⟩ ∈ rows ↔
      (key, other) ∈ (entriesOf rows id).filter (·.1 == key) := by
    intro other
    rw [mem_ownEntries, and_iff_right rfl]
  have hsorted := (pairwise_entriesOf rows id).filter (·.1 == key)
  cases hlast : ((entriesOf rows id).filter (·.1 == key)).getLast? with
  | none =>
    rw [List.getLast?_eq_none_iff] at hlast
    constructor
    · intro habsurd
      rw [Std.ExtTreeMap.getElem?_empty] at habsurd
      cases habsurd
    · intro h
      have hmem := (hown value).1 h.1
      rw [hlast] at hmem
      cases hmem
  | some last =>
    -- The values under the key are sorted, so the last of them is the greatest.
    obtain ⟨before, hsplit⟩ := List.getLast?_eq_some_iff.1 hlast
    have hmem : last ∈ (entriesOf rows id).filter (·.1 == key) := List.mem_of_getLast? hlast
    obtain ⟨hkey, hrow⟩ := mem_ownEntries.1 hmem
    have hgreatest : ∀ other, ⟨id, key, other⟩ ∈ rows → other ≤ last.2 := by
      intro other hother
      rw [hown, hsplit, List.mem_append, List.mem_singleton] at hother
      rcases hother with hbefore | heq
      · rw [hsplit, List.pairwise_append] at hsorted
        rcases hsorted.2.2 _ hbefore _ List.mem_cons_self with hlt | ⟨-, hle⟩
        · exact absurd (hkey ▸ hlt) (String.lt_irrefl _)
        · exact hle
      · exact heq ▸ String.le_refl _
    constructor
    · intro h
      cases h
      exact ⟨hrow, hgreatest⟩
    · rintro ⟨hvalue, hothers⟩
      exact congrArg some (String.le_antisymm (hothers _ hrow) (hgreatest _ hvalue))

theorem getElem?_loaded_eq_none_iff :
    (loaded rows id)[key]? = none ↔ ∀ value, ⟨id, key, value⟩ ∉ rows := by
  rw [loaded, MetadataStore.gather, getElem?_foldl_insert]
  constructor
  · intro h value hrow
    have hmem : (key, value) ∈ (entriesOf rows id).filter (·.1 == key) :=
      mem_ownEntries.2 ⟨rfl, hrow⟩
    cases hlast : ((entriesOf rows id).filter (·.1 == key)).getLast? with
    | none =>
      rw [List.getLast?_eq_none_iff] at hlast
      rw [hlast] at hmem
      cases hmem
    | some last =>
      rw [hlast] at h
      cases h
  · intro h
    have hnone : (entriesOf rows id).filter (·.1 == key) = [] := by
      rw [List.eq_nil_iff_forall_not_mem]
      intro entry hentry
      exact h entry.2 (mem_ownEntries.1 hentry).2
    rw [hnone]
    exact Std.ExtTreeMap.getElem?_empty

/-- What is read depends on the rows of the object that are there, not on their order. -/
theorem getElem?_loaded_congr {rows' : List MetadataRow}
    (h : ∀ value, ⟨id, key, value⟩ ∈ rows' ↔ ⟨id, key, value⟩ ∈ rows) :
    (loaded rows' id)[key]? = (loaded rows id)[key]? := by
  apply Option.ext
  intro value
  rw [getElem?_loaded_eq_some_iff, getElem?_loaded_eq_some_iff]
  simp only [h]

/-! ## Deleting and setting a key -/

/-- The rows with one value under a key of an object in place of all that the key had. -/
def put (rows : List MetadataRow) (id : Int64) (key value : String) : List MetadataRow :=
  withoutEntry rows id key ++ [⟨id, key, value⟩]

theorem mem_withoutEntry {row : MetadataRow} :
    row ∈ withoutEntry rows id key ↔ row ∈ rows ∧ ¬ (row.object = id ∧ row.key = key) := by
  rw [withoutEntry, List.mem_filter, Bool.not_eq_true', ← Bool.not_eq_true, Bool.and_eq_true,
    beq_iff_eq, beq_iff_eq]

theorem mem_put {row : MetadataRow} :
    row ∈ put rows id key value ↔
      (row ∈ rows ∧ ¬ (row.object = id ∧ row.key = key)) ∨ row = ⟨id, key, value⟩ := by
  rw [put, List.mem_append, mem_withoutEntry, List.mem_singleton]

theorem loaded_withoutEntry (rows : List MetadataRow) (id : Int64) (key : String) :
    loaded (withoutEntry rows id key) id = (loaded rows id).erase key := by
  apply Std.ExtTreeMap.ext_getElem?
  intro k
  rw [getElem?_erase]
  by_cases hkey : key = k
  · rw [if_pos hkey, getElem?_loaded_eq_none_iff]
    intro value hmem
    exact (mem_withoutEntry.1 hmem).2 ⟨rfl, hkey.symm⟩
  · rw [if_neg hkey]
    apply getElem?_loaded_congr
    intro value
    rw [mem_withoutEntry]
    exact and_iff_left fun h => hkey h.2.symm

theorem loaded_put (rows : List MetadataRow) (id : Int64) (key value : String) :
    loaded (put rows id key value) id = (loaded rows id).insert key value := by
  apply Std.ExtTreeMap.ext_getElem?
  intro k
  rw [getElem?_insert]
  by_cases hkey : key = k
  · subst hkey
    rw [if_pos rfl, getElem?_loaded_eq_some_iff]
    refine ⟨mem_put.2 (.inr rfl), fun other hother => ?_⟩
    rcases mem_put.1 hother with ⟨-, hne⟩ | heq
    · exact absurd ⟨rfl, rfl⟩ hne
    · cases heq
      exact String.le_refl _
  · rw [if_neg hkey]
    apply getElem?_loaded_congr
    intro other
    rw [mem_put]
    constructor
    · rintro (⟨hrow, -⟩ | heq)
      · exact hrow
      · cases heq
        exact absurd rfl hkey
    · exact fun hrow => .inl ⟨hrow, fun h => hkey h.2.symm⟩

/-! ## Saves -/

/-- The rows after a difference was written: first the removals, then the new values. -/
def afterSave (rows : List MetadataRow) (id : Int64) (delta : MetadataDelta) : List MetadataRow :=
  delta.upserts.foldl (fun rows (key, value) => put rows id key value)
    (delta.removals.foldl (fun rows key => withoutEntry rows id key) rows)

/-- What is read after a save is what the difference makes of what was read before it. Both parts of
the difference are folds, and reading goes through each of their steps. -/
theorem loaded_afterSave (rows : List MetadataRow) (id : Int64) (delta : MetadataDelta) :
    loaded (afterSave rows id delta) id = delta.applyTo (loaded rows id) := by
  have hremovals : loaded (delta.removals.foldl (fun rows key => withoutEntry rows id key) rows) id =
      delta.removals.foldl (fun m key => m.erase key) (loaded rows id) :=
    (List.foldl_hom (loaded · id) fun rows key => (loaded_withoutEntry rows id key).symm).symm
  rw [afterSave, MetadataDelta.applyTo, ← hremovals]
  exact (List.foldl_hom (loaded · id) fun rows entry =>
    (loaded_put rows id entry.1 entry.2).symm).symm

/-! ## One row for a key -/

/-- No two rows are under the same key of the same object. -/
def Unique (rows : List MetadataRow) : Prop :=
  rows.Pairwise fun a b => ¬ (a.object = b.object ∧ a.key = b.key)

theorem unique_nil : Unique [] := List.Pairwise.nil

theorem Unique.sublist {rows' : List MetadataRow} (h : Unique rows) (hsub : rows'.Sublist rows) :
    Unique rows' :=
  List.Pairwise.sublist hsub h

/-- A row can be added under a key that has none. -/
theorem Unique.append (h : Unique rows)
    (habsent : ∀ row ∈ rows, ¬ (row.object = id ∧ row.key = key)) (value : String) :
    Unique (rows ++ [⟨id, key, value⟩]) := by
  rw [Unique, List.pairwise_append]
  refine ⟨h, List.pairwise_singleton _ _, fun row hrow new hnew => ?_⟩
  rw [List.mem_singleton] at hnew
  rw [hnew]
  exact habsent row hrow

/-- Where each key has one row, a read finds under it the value of this row. -/
theorem Unique.getElem?_loaded_eq_some_iff (h : Unique rows) :
    (loaded rows id)[key]? = some value ↔ ⟨id, key, value⟩ ∈ rows := by
  rw [MetadataTable.getElem?_loaded_eq_some_iff]
  refine ⟨And.left, fun hrow => ⟨hrow, fun other hother => ?_⟩⟩
  by_cases hne : (⟨id, key, other⟩ : MetadataRow) = ⟨id, key, value⟩
  · cases hne
    exact String.le_refl _
  · -- Two different rows under the key could not be in one table.
    have : Std.Symm fun a b : MetadataRow => ¬ (a.object = b.object ∧ a.key = b.key) :=
      ⟨fun a b hab hba => hab ⟨hba.1.symm, hba.2.symm⟩⟩
    exact absurd ⟨rfl, rfl⟩ (List.Pairwise.forall h hother hrow hne)

end MetadataTable

/-! ## Statements -/

namespace Database

variable {db db' : Database} {name : String} {rows : List MetadataRow}

theorem metadata_setTable_self (db : Database) (name : String) (rows : List MetadataRow) :
    (db.setTable name (.metadata rows)).metadata name = .ok rows := by
  rw [metadata_eq_ok_iff, table?_setTable, if_pos rfl]

theorem entries_eq_of_metadata (h : db.metadata name = .ok rows) : db.entries name = rows :=
  entries_of_table? (metadata_eq_ok_iff.1 h)

theorem rows_of_updateMetadata {change : List MetadataRow → List MetadataRow}
    (h : db.updateMetadata name change = .ok db') :
    ∃ rows, db.metadata name = .ok rows ∧ db' = db.setTable name (.metadata (change rows)) := by
  obtain ⟨rows, hrows, hdb⟩ := bind_eq_ok_iff_exists.1 h
  cases hdb
  exact ⟨rows, hrows, rfl⟩

theorem rows_of_deleteEntry {id : Int64} {key : String} {answer : Unit}
    (h : db.run (.deleteEntry name id key) = .ok (answer, db')) :
    ∃ rows, db.metadata name = .ok rows ∧
      db' = db.setTable name (.metadata (MetadataTable.withoutEntry rows id key)) := by
  obtain ⟨next, hnext, hpair⟩ := bind_eq_ok_iff_exists.1 (run_eq_ok_iff.1 h).2
  cases hpair
  exact rows_of_updateMetadata hnext

theorem rows_of_insertEntry {id : Int64} {key value : String} {answer : Unit}
    (h : db.run (.insertEntry name id key value) = .ok (answer, db')) :
    ∃ rows, db.metadata name = .ok rows ∧
      db' = db.setTable name (.metadata (rows ++ [⟨id, key, value⟩])) := by
  obtain ⟨next, hnext, hpair⟩ := bind_eq_ok_iff_exists.1 (run_eq_ok_iff.1 h).2
  cases hpair
  exact rows_of_updateMetadata hnext

/-- A statement that writes no metadata leaves every table of metadata as it is. -/
theorem metadata_of_run {s : Statement} {answer : s.Answer} (hs : ¬ s.WritesEntries)
    (h : db.run s = .ok (answer, db')) (hrows : db.metadata name = .ok rows) :
    db'.metadata name = .ok rows := by
  rw [metadata_eq_ok_iff] at hrows ⊢
  -- What is put in under another key leaves the table where it is.
  have hother : ∀ {other : String} {table : Table}, db.table? other ≠ some (.metadata rows) →
      (db.setTable other table).table? name = some (.metadata rows) := by
    intro other table hne
    rw [table?_setTable, if_neg, hrows]
    exact fun hkey => hne ((table?_congr hkey).trans hrows)
  cases run_effect h with
  | nothing hdb =>
    rw [hdb]
    exact hrows
  | creation _ _ hnone hadd =>
    obtain ⟨-, rfl⟩ := addTable_eq_ok hadd
    apply hother
    rw [hnone]
    exact Option.some_ne_none _ ∘ Eq.symm
  | objects _ ht _ hdb =>
    subst hdb
    apply hother
    rw [ht]
    intro habsurd
    cases habsurd
  | metadata _ _ _ _ hwrites => exact absurd hwrites hs
  | index _ _ _ hdb =>
    subst hdb
    exact hrows

/-- What a statement that adds no row leaves in a metadata table was in it before, in its order. -/
theorem entries_sublist_of_run {s : Statement} {answer : s.Answer} (hs : ¬ s.AddsEntry)
    (h : db.run s = .ok (answer, db')) : (db'.entries name).Sublist (db.entries name) := by
  have hput : ∀ {other : String} {table : Table}, table.entries.Sublist (db.entries other) →
      ((db.setTable other table).entries name).Sublist (db.entries name) := by
    intro other table htable
    rw [entries_setTable]
    split
    · rename_i hkey
      rw [entries, ← table?_congr hkey]
      exact htable
    · exact List.Sublist.refl _
  cases run_effect h with
  | nothing hdb =>
    subst hdb
    exact List.Sublist.refl _
  | creation _ hempty _ hadd =>
    obtain ⟨-, rfl⟩ := addTable_eq_ok hadd
    apply hput
    rcases hempty with rfl | rfl
    · exact List.nil_sublist _
    · exact List.nil_sublist _
  | objects _ _ _ hdb =>
    subst hdb
    exact hput (List.nil_sublist _)
  | metadata _ hrows hfewer hdb =>
    subst hdb
    apply hput
    rw [entries_of_table? hrows]
    exact hfewer hs
  | index _ _ _ hdb =>
    subst hdb
    exact List.Sublist.refl _

end Database

end ObjectCatalog
