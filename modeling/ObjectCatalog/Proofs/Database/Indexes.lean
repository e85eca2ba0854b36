import ObjectCatalog.Database.Edit
import ObjectCatalog.Proofs.Database.Effects

/-!
# Indexes

Indexes find no rows here that would not be found without them. They matter for one thing only: their
names are taken, so that no table can be created under the name of an index. A statement that creates
nothing, and an edit, does the same on the database without its indexes
(`Database.run_withoutIndexes`).

Where every table has one use and the names that the indexes need are free (`Layout.Apart`), this is true
of the creation of tables as well, and an index can always be created. What has to be known of the
database for it (`Layout.Fits`) is kept by every statement that keeps to the layout.
-/

namespace ObjectCatalog

/-! ## 1. The database without its indexes -/

namespace Database

variable {db db' : Database} {name : String}

def withoutIndexes (db : Database) : Database :=
  { db with indexes := ∅ }

@[simp] theorem table?_withoutIndexes (db : Database) (name : String) :
    db.withoutIndexes.table? name = db.table? name := rfl

@[simp] theorem objects_withoutIndexes (db : Database) (name : String) :
    db.withoutIndexes.objects name = db.objects name := rfl

@[simp] theorem metadata_withoutIndexes (db : Database) (name : String) :
    db.withoutIndexes.metadata name = db.metadata name := rfl

theorem updateObjects_withoutIndexes (db : Database) (name : String)
    (change : ObjectTable → Except Refusal ObjectTable) :
    db.withoutIndexes.updateObjects name change =
      (db.updateObjects name change).map withoutIndexes := by
  unfold updateObjects
  rw [objects_withoutIndexes]
  cases db.objects name with
  | error refusal => rfl
  | ok t =>
    show (change t >>= _) = (change t >>= _).map _
    cases change t <;> rfl

theorem updateMetadata_withoutIndexes (db : Database) (name : String)
    (change : List MetadataRow → List MetadataRow) :
    db.withoutIndexes.updateMetadata name change =
      (db.updateMetadata name change).map withoutIndexes := by
  unfold updateMetadata
  rw [metadata_withoutIndexes]
  cases db.metadata name <;> rfl

theorem insertObject_withoutIndexes (db : Database) (name value : String) :
    db.withoutIndexes.insertObject name value =
      (db.insertObject name value).map fun done => (done.1, done.2.withoutIndexes) := by
  unfold insertObject
  rw [objects_withoutIndexes]
  cases db.objects name with
  | error refusal => rfl
  | ok t =>
    show (t.insert name value >>= _) = (t.insert name value >>= _).map _
    cases t.insert name value <;> rfl

/-- A statement that creates nothing does not see the indexes. -/
theorem carryOut_withoutIndexes {s : Statement} (hs : ¬ s.Creates) (db : Database) :
    db.withoutIndexes.carryOut s =
      (db.carryOut s).map fun done => (done.1, done.2.withoutIndexes) := by
  cases s with
  | createObjects | createMetadata | createIndex => exact absurd trivial hs
  | insertObject table value =>
    rw [carryOut, carryOut, table?_withoutIndexes, insertObject_withoutIndexes]
    split
    · rfl
    · cases db.insertObject table value <;> rfl
  | insertReturning table value => exact insertObject_withoutIndexes db table value
  | renameObject table value id | deleteObject table id =>
    rw [carryOut, carryOut, updateObjects_withoutIndexes]
    cases db.updateObjects table _ <;> rfl
  | deleteMetadata table id | deleteEntry table id key | insertEntry table id key value =>
    rw [carryOut, carryOut, updateMetadata_withoutIndexes]
    cases db.updateMetadata table _ <;> rfl
  | lastInsertId => rfl
  | storedName table id | findObject table lookup =>
    rw [carryOut, carryOut, objects_withoutIndexes]
    cases db.objects table <;> rfl
  | listMetadata table id =>
    rw [carryOut, carryOut, metadata_withoutIndexes]
    cases db.metadata table <;> rfl
  | countObjects table pattern =>
    show (db.countNames table pattern >>= _) = (db.countNames table pattern >>= _).map _
    cases db.countNames table pattern <;> rfl
  | listObjects table pattern field direction limit offset =>
    rw [carryOut, carryOut, objects_withoutIndexes]
    cases db.objects table with
    | error refusal => rfl
    | ok t =>
      show (checkPattern pattern t.rows.size >>= _) = (checkPattern pattern t.rows.size >>= _).map _
      cases checkPattern pattern t.rows.size <;> rfl
  | countMatches table plan | listMatches table plan direction limit offset =>
    show (db.found table plan >>= _) = (db.found table plan >>= _).map _
    cases db.found table plan <;> rfl

theorem run_withoutIndexes {s : Statement} (hs : ¬ s.Creates) (db : Database) :
    db.withoutIndexes.run s = (db.run s).map fun done => (done.1, done.2.withoutIndexes) := by
  unfold run
  cases textRefusal? s with
  | some refusal => rfl
  | none => exact carryOut_withoutIndexes hs db

/-- A table that does not have the name of an index. -/
theorem addTable_withoutIndexes (hname : db.indexes.contains (TableRef.key name) = false)
    (table : Table) :
    db.withoutIndexes.addTable name table = (db.addTable name table).map withoutIndexes := by
  have hnone : db.withoutIndexes.indexes.contains (TableRef.key name) = false :=
    Std.ExtTreeMap.contains_empty
  have hreadOnly : db.withoutIndexes.readOnly = db.readOnly := rfl
  unfold addTable
  cases newTable name with
  | error refusal => rfl
  | ok ref =>
    rw [bind_of_eq_ok rfl, bind_of_eq_ok rfl, hnone, hname, hreadOnly, if_neg Bool.false_ne_true,
      if_neg Bool.false_ne_true]
    split
    · rfl
    · split
      · rfl
      · rfl

theorem eq_of_ensureIndex {column : IndexedColumn} (h : db.ensureIndex name column = .ok db') :
    db' = db ∨ db' = { db with
      indexes := db.indexes.insert (TableRef.key (column.indexName name)) (TableRef.key name) } := by
  unfold ensureIndex at h
  simp only at h
  split at h
  · cases h
  · split at h
    · cases h
    · split at h
      · exact .inl (Except.ok.inj h).symm
      · split at h
        · cases h
        · exact .inr (Except.ok.inj h).symm

theorem ensureTable_withoutIndexes (hname : db.indexes.contains (TableRef.key name) = false)
    (table : Table) :
    db.withoutIndexes.ensureTable name table = (db.ensureTable name table).map withoutIndexes := by
  unfold ensureTable
  rw [table?_withoutIndexes]
  cases db.table? name with
  | some other => rfl
  | none => exact addTable_withoutIndexes hname table

theorem creation_withoutIndexes (hname : db.indexes.contains (TableRef.key name) = false)
    (table : Table) :
    (do pure ((), ← db.withoutIndexes.ensureTable name table) : Except Refusal (Unit × Database)) =
      (do pure ((), ← db.ensureTable name table) : Except Refusal (Unit × Database)).map
        fun done => (done.1, done.2.withoutIndexes) := by
  rw [ensureTable_withoutIndexes hname]
  cases db.ensureTable name table <;> rfl

/-- A table that was created is there. -/
theorem isSome_of_ensureTable {table : Table} (h : db.ensureTable name table = .ok db') :
    (db'.table? name).isSome = true := by
  unfold ensureTable at h
  split at h
  · rename_i other hother
    cases h
    rw [hother]
    rfl
  · obtain ⟨-, rfl⟩ := addTable_eq_ok h
    rw [table?_setTable, if_pos rfl]
    rfl

theorem isSome_of_createMetadata {options : String} {answer : Unit}
    (h : db.run (.createMetadata name options) = .ok (answer, db')) :
    (db'.table? name).isSome = true := by
  obtain ⟨next, hnext, hpair⟩ := bind_eq_ok_iff_exists.1 (run_eq_ok_iff.1 h).2
  cases hpair
  exact isSome_of_ensureTable hnext

theorem dropTable_withoutIndexes (db : Database) (name : String) :
    db.withoutIndexes.dropTable name = (db.dropTable name).map withoutIndexes := by
  unfold dropTable
  simp only [table?_withoutIndexes]
  cases db.table? (Text.trimEnd name) <;> rfl

theorem rowsWith_withoutIndexes (db : Database) (name : String) (id : Int64) :
    TableEdit.rowsWith db.withoutIndexes name id = TableEdit.rowsWith db name id := by
  rw [TableEdit.rowsWith, TableEdit.rowsWith, objects_withoutIndexes]

/-- An edit that does not have to create a table under the name of an index. -/
theorem edit_withoutIndexes {tables : EditedTables}
    (hname : db.indexes.contains (TableRef.key tables.objects) = false) (edit : TableEdit) :
    edit.run tables db.withoutIndexes =
      (edit.run tables db).map fun done => (done.1, done.2.withoutIndexes) := by
  cases edit with
  | createFolding =>
    rw [TableEdit.run, TableEdit.run, TableEdit.createTable, TableEdit.createTable,
      table?_withoutIndexes, addTable_withoutIndexes hname]
    cases db.table? tables.objects with
    | some other => rfl
    | none =>
      simp only
      cases db.addTable tables.objects _ <;> rfl
  | dropObjects =>
    rw [TableEdit.run, TableEdit.run, dropTable_withoutIndexes]
    cases db.dropTable tables.objects <;> rfl
  | dropMetadata =>
    rw [TableEdit.run, TableEdit.run, dropTable_withoutIndexes]
    cases db.dropTable tables.metadata <;> rfl
  | insertRow id name =>
    rw [TableEdit.run, TableEdit.run, updateObjects_withoutIndexes]
    cases db.updateObjects tables.objects _ <;> rfl
  | renameRow id name =>
    rw [TableEdit.run, TableEdit.run, rowsWith_withoutIndexes, updateObjects_withoutIndexes]
    cases TableEdit.rowsWith db tables.objects id with
    | error refusal => rfl
    | ok count => cases db.updateObjects tables.objects _ <;> rfl
  | deleteRow id =>
    rw [TableEdit.run, TableEdit.run, rowsWith_withoutIndexes, updateObjects_withoutIndexes]
    cases TableEdit.rowsWith db tables.objects id with
    | error refusal => rfl
    | ok count => cases db.updateObjects tables.objects _ <;> rfl
  | insertEntry object key value =>
    rw [TableEdit.run, TableEdit.run, updateMetadata_withoutIndexes]
    cases db.updateMetadata tables.metadata _ <;> rfl
  | listRows =>
    rw [TableEdit.run, TableEdit.run, objects_withoutIndexes, metadata_withoutIndexes]
    cases db.objects tables.objects with
    | error refusal => rfl
    | ok t => cases db.metadata tables.metadata <;> rfl

end Database

/-! ## 2. Layouts -/

/-- The names of the tables that a store uses, by what it uses them for. -/
structure Layout where
  objects : List String
  metadata : List String

namespace Layout

/-- Every table has one use, and the names that indexes need are free. -/
structure Apart (l : Layout) : Prop where
  tables : ∀ o ∈ l.objects, ∀ m ∈ l.metadata, TableRef.key o ≠ TableRef.key m
  indexes : ∀ m ∈ l.metadata, ∀ column : IndexedColumn, ∀ name ∈ l.objects ++ l.metadata,
    TableRef.key (column.indexName m) ≠ TableRef.key name

theorem Apart.mono {l l' : Layout} (h : l.Apart) (hobjects : l'.objects ⊆ l.objects)
    (hmetadata : l'.metadata ⊆ l.metadata) : l'.Apart where
  tables o ho m hm := h.tables o (hobjects ho) m (hmetadata hm)
  indexes m hm column name hname := by
    refine h.indexes m (hmetadata hm) column name ?_
    rcases List.mem_append.1 hname with hname | hname
    · exact List.mem_append_left _ (hobjects hname)
    · exact List.mem_append_right _ (hmetadata hname)

/-- The tables of a database are used as the layout says, and its indexes are in nobody's way. -/
structure Fits (l : Layout) (db : Database) : Prop where
  objects : ∀ o ∈ l.objects, ∀ rows, db.table? o ≠ some (.metadata rows)
  metadata : ∀ m ∈ l.metadata, ∀ t, db.table? m ≠ some (.objects t)
  free : ∀ m ∈ l.metadata, ∀ column : IndexedColumn, db.table? (column.indexName m) = none
  unindexed : ∀ name ∈ l.objects ++ l.metadata, db.indexes.contains (TableRef.key name) = false

/-- Whether a statement creates nothing but what the layout has. -/
def Admits (l : Layout) : Statement → Prop
  | .createObjects table _ => table ∈ l.objects
  | .createMetadata table _ | .createIndex table _ => table ∈ l.metadata
  | _ => True

variable {l : Layout} {db db' : Database}

theorem fits_of_isEmpty (htables : db.tables = ∅) (hindexes : db.indexes = ∅) : l.Fits db := by
  have hnone : ∀ name, db.table? name = none := by
    intro name
    rw [Database.table?, htables]
    exact Std.ExtTreeMap.getElem?_empty
  refine ⟨fun o _ rows hrows => ?_, fun m _ t ht => ?_, fun m _ column => hnone _, fun name _ => ?_⟩
  · rw [hnone] at hrows
    cases hrows
  · rw [hnone] at ht
    cases ht
  · rw [hindexes]
    exact Std.ExtTreeMap.contains_empty

namespace Fits

variable (h : l.Fits db)
include h

/-- A database with fewer tables and indexes fits too. -/
theorem fewer (htables : ∀ name table, db'.table? name = some table → db.table? name = some table)
    (hindexes : ∀ key, db'.indexes.contains key = true → db.indexes.contains key = true) :
    l.Fits db' where
  objects o ho rows hrows := h.objects o ho rows (htables o _ hrows)
  metadata m hm t ht := h.metadata m hm t (htables m _ ht)
  free m hm column := by
    rw [Option.eq_none_iff_forall_ne_some]
    intro table htable
    have hsome := htables _ table htable
    rw [h.free m hm column] at hsome
    cases hsome
  unindexed name hname := by
    rw [Bool.eq_false_iff]
    intro hkey
    have htaken := hindexes _ hkey
    rw [h.unindexed name hname] at htaken
    cases htaken

/-- A table can be put in where its kind belongs. -/
theorem setTable {name : String} {table : Table}
    (hobjects : ∀ rows, table = .metadata rows → ∀ o ∈ l.objects, TableRef.key name ≠ TableRef.key o)
    (hmetadata : ∀ t, table = .objects t → ∀ m ∈ l.metadata, TableRef.key name ≠ TableRef.key m)
    (hfree : ∀ m ∈ l.metadata, ∀ column : IndexedColumn,
      TableRef.key name ≠ TableRef.key (column.indexName m)) : l.Fits (db.setTable name table) where
  objects o ho rows hrows := by
    rw [Database.table?_setTable] at hrows
    split at hrows
    · rename_i hkey
      exact hobjects rows (Option.some.inj hrows) o ho hkey
    · exact h.objects o ho rows hrows
  metadata m hm t ht := by
    rw [Database.table?_setTable] at ht
    split at ht
    · rename_i hkey
      exact hmetadata t (Option.some.inj ht) m hm hkey
    · exact h.metadata m hm t ht
  free m hm column := by
    rw [Database.table?_setTable, if_neg (hfree m hm column)]
    exact h.free m hm column
  unindexed := h.unindexed

theorem changeObjects {name : String} {t : ObjectTable} (ht : db.table? name = some (.objects t))
    (t' : ObjectTable) : l.Fits (db.setTable name (.objects t')) := by
  refine h.setTable nofun (fun _ _ m hm hkey => ?_) fun m hm column hkey => ?_
  · rw [Database.table?_congr hkey] at ht
    exact h.metadata m hm t ht
  · rw [Database.table?_congr hkey, h.free m hm column] at ht
    cases ht

theorem changeMetadata {name : String} {rows : List MetadataRow}
    (hrows : db.table? name = some (.metadata rows)) (rows' : List MetadataRow) :
    l.Fits (db.setTable name (.metadata rows')) := by
  refine h.setTable (fun _ _ o ho hkey => ?_) nofun fun m hm column hkey => ?_
  · rw [Database.table?_congr hkey] at hrows
    exact h.objects o ho rows hrows
  · rw [Database.table?_congr hkey, h.free m hm column] at hrows
    cases hrows

theorem putObjects (hl : l.Apart) {o : String} (ho : o ∈ l.objects) (t : ObjectTable) :
    l.Fits (db.setTable o (.objects t)) :=
  h.setTable nofun (fun _ _ m hm => hl.tables o ho m hm) fun m hm column =>
    (hl.indexes m hm column o (List.mem_append_left _ ho)).symm

theorem putMetadata (hl : l.Apart) {m : String} (hm : m ∈ l.metadata) (rows : List MetadataRow) :
    l.Fits (db.setTable m (.metadata rows)) :=
  h.setTable (fun _ _ o ho => (hl.tables o ho m hm).symm) nofun fun other hother column =>
    (hl.indexes other hother column m (List.mem_append_right _ hm)).symm

theorem putIndex (hl : l.Apart) {m : String} (hm : m ∈ l.metadata) (column : IndexedColumn)
    (owner : String) :
    l.Fits { db with indexes := db.indexes.insert (TableRef.key (column.indexName m)) owner } where
  objects := h.objects
  metadata := h.metadata
  free := h.free
  unindexed name hname := by
    have hne := mt Std.compare_eq_iff_eq.1 (hl.indexes m hm column name hname)
    rw [Std.ExtTreeMap.contains_insert, beq_eq_false_iff_ne.2 hne, Bool.false_or]
    exact h.unindexed name hname

theorem create (hl : l.Apart) {s : Statement} (hs : l.Admits s) (hcreates : s.Creates)
    {answer : s.Answer} (hrun : db.run s = .ok (answer, db')) : l.Fits db' := by
  have hdone := (Database.run_eq_ok_iff.1 hrun).2
  cases s with
  | createObjects table options =>
    obtain ⟨next, hnext, hpair⟩ := bind_eq_ok_iff_exists.1 hdone
    cases hpair
    rcases Database.ensureTable_eq_ok hnext with rfl | ⟨-, rfl⟩
    · exact h
    · exact h.putObjects hl hs _
  | createMetadata table options =>
    obtain ⟨next, hnext, hpair⟩ := bind_eq_ok_iff_exists.1 hdone
    cases hpair
    rcases Database.ensureTable_eq_ok hnext with rfl | ⟨-, rfl⟩
    · exact h
    · exact h.putMetadata hl hs _
  | createIndex table column =>
    obtain ⟨next, hnext, hpair⟩ := bind_eq_ok_iff_exists.1 hdone
    cases hpair
    rcases Database.eq_of_ensureIndex hnext with rfl | rfl
    · exact h
    · exact h.putIndex hl hs column _
  | _ => exact hcreates.elim

/-- What a statement does fits the layout if what it creates does. -/
theorem run (hl : l.Apart) {s : Statement} (hs : l.Admits s) {answer : s.Answer}
    (hrun : db.run s = .ok (answer, db')) : l.Fits db' := by
  cases Database.run_effect hrun with
  | nothing hdb => exact hdb ▸ h
  | objects _ ht _ hdb =>
    subst hdb
    exact (h.changeObjects ht _).fewer (fun _ _ htable => htable) fun _ hkey => hkey
  | metadata _ hrows _ hdb =>
    subst hdb
    exact h.changeMetadata hrows _
  | creation _ _ _ _ hcreates | index _ _ _ _ hcreates => exact h.create hl hs hcreates hrun

theorem dropTable {name : String} (hdrop : db.dropTable name = .ok db') : l.Fits db' := by
  unfold Database.dropTable at hdrop
  simp only at hdrop
  split at hdrop
  · cases hdrop
  · cases hdrop
    refine h.fewer (fun other table htable => ?_) fun _ => Std.ExtTreeMap.contains_of_contains_filter
    rw [Database.table?, Std.ExtTreeMap.getElem?_erase] at htable
    split at htable
    · cases htable
    · exact htable

theorem updateObjects {name : String} {change : ObjectTable → Except Refusal ObjectTable}
    (hupdate : db.updateObjects name change = .ok db') : l.Fits db' := by
  obtain ⟨t, t', ht, -, rfl⟩ := Database.updateObjects_eq_ok hupdate
  exact h.changeObjects (Database.objects?_eq_some_iff.1 ht) t'

/-- So does an edit of tables that are in the layout. -/
theorem edit (hl : l.Apart) {tables : EditedTables} (ho : tables.objects ∈ l.objects)
    {edit : TableEdit} {reply : EditReply} (hrun : edit.run tables db = .ok (reply, db')) :
    l.Fits db' := by
  cases edit with
  | createFolding =>
    obtain ⟨next, hnext, hpair⟩ := bind_eq_ok_iff_exists.1 hrun
    cases hpair
    unfold TableEdit.createTable at hnext
    split at hnext
    · cases hnext
    · obtain ⟨-, rfl⟩ := Database.addTable_eq_ok hnext
      exact h.putObjects hl ho _
  | dropObjects | dropMetadata =>
    obtain ⟨next, hnext, hpair⟩ := bind_eq_ok_iff_exists.1 hrun
    cases hpair
    exact h.dropTable hnext
  | insertRow id name =>
    obtain ⟨next, hnext, hpair⟩ := bind_eq_ok_iff_exists.1 hrun
    cases hpair
    exact h.updateObjects hnext
  | renameRow id name | deleteRow id =>
    obtain ⟨count, -, hrest⟩ := bind_eq_ok_iff_exists.1 hrun
    obtain ⟨next, hnext, hpair⟩ := bind_eq_ok_iff_exists.1 hrest
    cases hpair
    exact h.updateObjects hnext
  | insertEntry object key value =>
    obtain ⟨next, hnext, hpair⟩ := bind_eq_ok_iff_exists.1 hrun
    cases hpair
    obtain ⟨rows, hrows, hdb⟩ := bind_eq_ok_iff_exists.1 hnext
    cases hdb
    exact h.changeMetadata (Database.metadata_eq_ok_iff.1 hrows) _
  | listRows =>
    obtain ⟨t, -, hrest⟩ := bind_eq_ok_iff_exists.1 hrun
    obtain ⟨rows, -, hpair⟩ := bind_eq_ok_iff_exists.1 hrest
    cases hpair
    exact h

/-! ## 3. Creation in a database that fits -/

/-- A table of the layout is created alike without the indexes, whatever options it gets. -/
theorem run_createObjects_withoutIndexes {o options options' : String} (ho : o ∈ l.objects)
    (htext : Database.textRefusal? (.createObjects o options') =
      Database.textRefusal? (.createObjects o options)) :
    db.withoutIndexes.run (.createObjects o options') =
      (db.run (.createObjects o options)).map fun done => (done.1, done.2.withoutIndexes) := by
  unfold Database.run
  rw [htext]
  cases Database.textRefusal? (.createObjects o options) with
  | some refusal => rfl
  | none => exact Database.creation_withoutIndexes (h.unindexed o (List.mem_append_left _ ho)) _

theorem run_createMetadata_withoutIndexes {m options options' : String} (hm : m ∈ l.metadata)
    (htext : Database.textRefusal? (.createMetadata m options') =
      Database.textRefusal? (.createMetadata m options)) :
    db.withoutIndexes.run (.createMetadata m options') =
      (db.run (.createMetadata m options)).map fun done => (done.1, done.2.withoutIndexes) := by
  unfold Database.run
  rw [htext]
  cases Database.textRefusal? (.createMetadata m options) with
  | some refusal => rfl
  | none => exact Database.creation_withoutIndexes (h.unindexed m (List.mem_append_right _ hm)) _

/-- An index of a metadata table that is there can be created, and nothing else changes. -/
theorem run_createIndex {m : String} (hm : m ∈ l.metadata) {column : IndexedColumn}
    (htable : (db.table? m).isSome = true)
    (htext : Database.textRefusal? (.createIndex m column) = none) :
    ∃ next, db.run (.createIndex m column) = .ok ((), next) ∧
      next.withoutIndexes = db.withoutIndexes := by
  have hindex : ∃ next, db.ensureIndex m column = .ok next ∧
      next.withoutIndexes = db.withoutIndexes := by
    obtain ⟨table, htable⟩ := Option.isSome_iff_exists.1 htable
    cases table with
    | objects t => exact absurd htable (h.metadata m hm t)
    | metadata rows =>
      unfold Database.ensureIndex
      simp only [htable, h.free m hm column, Option.isSome_none, Bool.false_eq_true, if_false]
      by_cases hthere : db.indexes.contains (TableRef.key (column.indexName m)) = true
      · rw [if_pos hthere]
        exact ⟨db, rfl, rfl⟩
      · rw [if_neg hthere]
        exact ⟨_, rfl, rfl⟩
  obtain ⟨next, hnext, hsame⟩ := hindex
  refine ⟨next, ?_, hsame⟩
  rw [Database.run_eq_ok_iff]
  refine ⟨htext, ?_⟩
  rw [Database.carryOut, hnext]
  rfl

end Fits

end Layout

end ObjectCatalog
