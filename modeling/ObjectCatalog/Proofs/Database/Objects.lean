import ObjectCatalog.Proofs.Database.Rows
import ObjectCatalog.Proofs.Results
import ObjectCatalog.Repository.MetadataStore

/-!
# What statements do to an object table

Of all statements only five touch an object table, and each of them in one way. The others leave
every object table alone, also those that write metadata, whatever tables they name: a table of
objects is no table of metadata (`objects?_of_sparesObjects`).

Each lemma here inverts one statement: if it was carried out, this is what the table held, what it
holds now, and what was answered.
-/

namespace ObjectCatalog

namespace Database

variable {db db' : Database} {name : String}

/-- The object table of a name, if there is one. -/
def objects? (db : Database) (name : String) : Option ObjectTable :=
  match db.table? name with
  | some (.objects table) => some table
  | _ => none

theorem objects_eq_ok_iff {t : ObjectTable} :
    db.objects name = .ok t ↔ db.objects? name = some t := by
  unfold objects objects?
  cases db.table? name with
  | none => simp
  | some table => cases table <;> simp

theorem table?_setTable (db : Database) (name other : String) (table : Table) :
    (db.setTable name table).table? other =
      if TableRef.key name = TableRef.key other then some table else db.table? other := by
  rw [table?, setTable, Std.ExtTreeMap.getElem?_insert]
  simp only [Std.compare_eq_iff_eq]
  rfl

theorem objects?_setTable_self (db : Database) (name : String) (t : ObjectTable) :
    (db.setTable name (.objects t)).objects? name = some t := by
  rw [objects?, table?_setTable, if_pos rfl]

/-- A table of metadata that is put in changes no object table, if it is in no object table's
place. -/
theorem objects?_setTable_metadata {rows : List MetadataRow} {other : String}
    (h : db.objects? other = none) (name : String) :
    (db.setTable other (.metadata rows)).objects? name = db.objects? name := by
  unfold objects? at h ⊢
  rw [table?_setTable]
  by_cases hkey : TableRef.key other = TableRef.key name
  · have hsame : db.table? name = db.table? other := by rw [table?, table?, hkey]
    rw [if_pos hkey, hsame]
    revert h
    cases db.table? other with
    | none => exact fun _ => rfl
    | some table =>
      cases table with
      | objects t => exact fun h => nomatch h
      | metadata rows => exact fun _ => rfl
  · rw [if_neg hkey]

/-! ## The parts of statements -/

theorem run_eq_ok_iff {s : Statement} {answer : s.Answer} :
    db.run s = .ok (answer, db') ↔
      textRefusal? s = none ∧ db.carryOut s = .ok (answer, db') := by
  unfold run
  cases textRefusal? s <;> simp

/-- A table is put in only where there is none. -/
theorem ensureTable_eq_ok {table : Table} (h : db.ensureTable name table = .ok db') :
    db' = db ∨ (db.table? name = none ∧ db' = db.setTable name table) := by
  unfold ensureTable at h
  split at h
  · cases h
    exact .inl rfl
  · rename_i hnone
    refine .inr ⟨hnone, ?_⟩
    obtain ⟨ref, -, hadd⟩ := bind_eq_ok_iff_exists.1 h
    split at hadd
    · cases hadd
    · split at hadd
      · cases hadd
      · split at hadd
        · cases hadd
        · cases hadd
          rfl

theorem ensureIndex_eq_ok {column : IndexedColumn} (h : db.ensureIndex name column = .ok db') :
    db'.tables = db.tables := by
  unfold ensureIndex at h
  simp only at h
  split at h
  · cases h
  · split at h
    · cases h
    · split at h
      · cases h
        rfl
      · split at h
        · cases h
        · cases h
          rfl

theorem updateObjects_eq_ok {change : ObjectTable → Except Refusal ObjectTable}
    (h : db.updateObjects name change = .ok db') :
    ∃ t t', db.objects? name = some t ∧ change t = .ok t' ∧
      db' = db.setTable name (.objects t') := by
  obtain ⟨t, ht, hrest⟩ := bind_eq_ok_iff_exists.1 h
  obtain ⟨t', ht', hdb⟩ := bind_eq_ok_iff_exists.1 hrest
  cases hdb
  exact ⟨t, t', objects_eq_ok_iff.1 ht, ht', rfl⟩

theorem insertObject_eq_ok {value : String} {id : Int64}
    (h : db.insertObject name value = .ok (id, db')) :
    ∃ t t', db.objects? name = some t ∧ t.insert name value = .ok (id, t') ∧
      db'.objects? name = some t' ∧ db'.lastInsertId = id := by
  obtain ⟨t, ht, hrest⟩ := bind_eq_ok_iff_exists.1 h
  obtain ⟨⟨id', t'⟩, ht', hdb⟩ := bind_eq_ok_iff_exists.1 hrest
  cases hdb
  exact ⟨t, t', objects_eq_ok_iff.1 ht, ht', objects?_setTable_self db name t', rfl⟩

theorem updateMetadata_eq_ok {other : String} {change : List MetadataRow → List MetadataRow}
    (h : db.updateMetadata other change = .ok db') (name : String) :
    db'.objects? name = db.objects? name := by
  obtain ⟨rows, hrows, hdb⟩ := bind_eq_ok_iff_exists.1 h
  cases hdb
  refine objects?_setTable_metadata ?_ name
  unfold metadata at hrows
  unfold objects?
  split at hrows
  · rename_i htable
    rw [htable]
  · cases hrows
  · cases hrows

/-! ## Statements -/

end Database

/-- Whether a statement leaves every object table as it is. -/
def Statement.SparesObjects : Statement → Prop
  | .createObjects _ _ | .insertObject _ _ | .insertReturning _ _ | .renameObject _ _ _
  | .deleteObject _ _ => False
  | _ => True

/-- Whether a statement writes the rows of a metadata table. -/
def Statement.WritesEntries : Statement → Prop
  | .deleteMetadata _ _ | .deleteEntry _ _ _ | .insertEntry _ _ _ _ => True
  | _ => False

/-- Whether a statement adds a row to a metadata table. All others take out rows or none. -/
def Statement.AddsEntry : Statement → Prop
  | .insertEntry _ _ _ _ => True
  | _ => False

namespace Database

variable {db db' : Database} {name : String}

theorem objects?_of_sparesObjects {s : Statement} {answer : s.Answer} (hs : s.SparesObjects)
    (h : db.run s = .ok (answer, db')) (name : String) :
    db'.objects? name = db.objects? name := by
  obtain ⟨-, hdone⟩ := run_eq_ok_iff.1 h
  cases s with
  | createObjects | insertObject | insertReturning | renameObject | deleteObject =>
    exact hs.elim
  | createMetadata table options =>
    obtain ⟨next, hnext, hpair⟩ := bind_eq_ok_iff_exists.1 hdone
    cases hpair
    rcases ensureTable_eq_ok hnext with rfl | ⟨hnone, rfl⟩
    · rfl
    · exact objects?_setTable_metadata (by rw [objects?, hnone]) name
  | createIndex table column =>
    obtain ⟨next, hnext, hpair⟩ := bind_eq_ok_iff_exists.1 hdone
    cases hpair
    unfold objects? table?
    rw [ensureIndex_eq_ok hnext]
  | deleteMetadata | deleteEntry | insertEntry =>
    obtain ⟨next, hnext, hpair⟩ := bind_eq_ok_iff_exists.1 hdone
    cases hpair
    exact updateMetadata_eq_ok hnext name
  | lastInsertId =>
    cases hdone
    rfl
  | listObjects =>
    obtain ⟨t, -, hrest⟩ := bind_eq_ok_iff_exists.1 hdone
    obtain ⟨-, -, hpair⟩ := bind_eq_ok_iff_exists.1 hrest
    cases hpair
    rfl
  | storedName | findObject | countObjects | listMetadata | countMatches | listMatches =>
    obtain ⟨found, -, hpair⟩ := bind_eq_ok_iff_exists.1 hdone
    cases hpair
    rfl

theorem run_createObjects {options : String} {answer : Unit}
    (h : db.run (.createObjects name options) = .ok (answer, db')) :
    db' = db ∨ (db.objects? name = none ∧ db'.objects? name = some (.empty .binary)) := by
  obtain ⟨next, hnext, hpair⟩ := bind_eq_ok_iff_exists.1 (run_eq_ok_iff.1 h).2
  cases hpair
  rcases ensureTable_eq_ok hnext with rfl | ⟨hnone, rfl⟩
  · exact .inl rfl
  · exact .inr ⟨by rw [objects?, hnone], objects?_setTable_self db name _⟩

theorem run_insertReturning {value : String} {id : Int64}
    (h : db.run (.insertReturning name value) = .ok (id, db')) :
    ∃ t t', db.objects? name = some t ∧ t.insert name value = .ok (id, t') ∧
      db'.objects? name = some t' ∧ db'.lastInsertId = id :=
  insertObject_eq_ok (run_eq_ok_iff.1 h).2

theorem run_insertObject {value : String} {answer : Unit}
    (h : db.run (.insertObject name value) = .ok (answer, db')) :
    ∃ t t' id, db.objects? name = some t ∧ t.insert name value = .ok (id, t') ∧
      db'.objects? name = some t' ∧ db'.lastInsertId = id := by
  have hdone := (run_eq_ok_iff.1 h).2
  unfold carryOut at hdone
  simp only at hdone
  split at hdone
  · cases hdone
  · obtain ⟨⟨id, next⟩, hnext, hpair⟩ := bind_eq_ok_iff_exists.1 hdone
    cases hpair
    obtain ⟨t, t', hinsert⟩ := insertObject_eq_ok hnext
    exact ⟨t, t', id, hinsert⟩

theorem run_renameObject {value : String} {id : Int64} {answer : Unit}
    (h : db.run (.renameObject name value id) = .ok (answer, db')) :
    ∃ t t', db.objects? name = some t ∧ t.rename name id value = .ok t' ∧
      db'.objects? name = some t' := by
  obtain ⟨next, hnext, hpair⟩ := bind_eq_ok_iff_exists.1 (run_eq_ok_iff.1 h).2
  cases hpair
  obtain ⟨t, t', ht, ht', rfl⟩ := updateObjects_eq_ok hnext
  exact ⟨t, t', ht, ht', objects?_setTable_self db name t'⟩

theorem run_deleteObject {id : Int64} {answer : Unit}
    (h : db.run (.deleteObject name id) = .ok (answer, db')) :
    ∃ t, db.objects? name = some t ∧ db' = db.setTable name (.objects (t.delete id)) := by
  obtain ⟨next, hnext, hpair⟩ := bind_eq_ok_iff_exists.1 (run_eq_ok_iff.1 h).2
  cases hpair
  obtain ⟨t, t', ht, ht', hdb⟩ := updateObjects_eq_ok hnext
  cases ht'
  exact ⟨t, ht, hdb⟩

theorem run_storedName {id : Int64} {stored : Option String}
    (h : db.run (.storedName name id) = .ok (stored, db')) :
    db' = db ∧ ∃ t, db.objects? name = some t ∧ stored = t.rows[id]? := by
  obtain ⟨t, ht, hpair⟩ := bind_eq_ok_iff_exists.1 (run_eq_ok_iff.1 h).2
  cases hpair
  exact ⟨rfl, t, objects_eq_ok_iff.1 ht, rfl⟩

theorem run_findObject {lookup : Lookup} {found : Option (Int64 × String)}
    (h : db.run (.findObject name lookup) = .ok (found, db')) :
    db' = db ∧ ∃ t, db.objects? name = some t ∧ found = t.find? lookup := by
  obtain ⟨t, ht, hpair⟩ := bind_eq_ok_iff_exists.1 (run_eq_ok_iff.1 h).2
  cases hpair
  exact ⟨rfl, t, objects_eq_ok_iff.1 ht, rfl⟩

/-! ## Metadata tables beside an object table -/

theorem metadata_eq_ok_iff {rows : List MetadataRow} :
    db.metadata name = .ok rows ↔ db.table? name = some (.metadata rows) := by
  unfold metadata
  cases db.table? name with
  | none => simp
  | some table => cases table <;> simp

/-- A change of an object table is none of a metadata table. -/
theorem metadata_setTable_objects {t t' : ObjectTable} {other : String} {rows : List MetadataRow}
    (ht : db.objects? name = some t) (hrows : db.metadata other = .ok rows) :
    (db.setTable name (.objects t')).metadata other = .ok rows := by
  rw [metadata_eq_ok_iff] at hrows ⊢
  rw [table?_setTable, if_neg, hrows]
  intro hkey
  -- Names that the database does not tell apart lead to one table, which cannot be of both kinds.
  have hsame : db.table? name = db.table? other := by rw [table?, table?, hkey]
  rw [objects?, hsame, hrows] at ht
  cases ht

theorem run_deleteMetadata_iff {id : Int64} :
    (∃ db', db.run (.deleteMetadata name id) = .ok ((), db')) ↔
      textRefusal? (.deleteMetadata name id) = none ∧ ∃ rows, db.metadata name = .ok rows := by
  constructor
  · rintro ⟨db', h⟩
    obtain ⟨hread, hdone⟩ := run_eq_ok_iff.1 h
    obtain ⟨next, hnext, -⟩ := bind_eq_ok_iff_exists.1 hdone
    obtain ⟨rows, hrows, -⟩ := bind_eq_ok_iff_exists.1 hnext
    exact ⟨hread, rows, hrows⟩
  · rintro ⟨hread, rows, hrows⟩
    refine ⟨db.setTable name (.metadata (MetadataTable.withoutObject rows id)),
      run_eq_ok_iff.2 ⟨hread, ?_⟩⟩
    rw [carryOut, updateMetadata, hrows]
    rfl

end Database

/-- The metadata table of a store is there: the database clears the metadata of an object when it
is told to. -/
def MetadataStore.IsThere (store : MetadataStore) (db : Database) : Prop :=
  ∀ id, ∃ db', db.run (.deleteMetadata store.table id) = .ok ((), db')

/-- With a plain name it is enough that there is a metadata table of that name. -/
theorem MetadataStore.isThere_iff_of_isPlainName {store : MetadataStore} {db : Database}
    (h : isPlainName store.table = true) :
    store.IsThere db ↔ ∃ rows, db.metadata store.table = .ok rows := by
  have hread : ∀ id, Database.textRefusal? (.deleteMetadata store.table id) = none := by
    intro id
    -- The text names one table and has no list in it, so only this name could be unreadable.
    have htables : ∀ name ∈ ((Statement.deleteMetadata store.table id).template .sqlite).tables,
        isPlainName name = true := by
      intro name hname
      obtain rfl : name = store.table := by
        simpa [Statement.template, Template.tables] using hname
      exact h
    have hlimit : (Statement.deleteMetadata store.table id).exceeded? = none := rfl
    rw [Database.textRefusal?, hlimit, Template.fault?_of_isPlainName .sqlite htables]
    rfl
  constructor
  · intro hthere
    exact (Database.run_deleteMetadata_iff.1 (hthere 0)).2
  · exact fun hrows id => Database.run_deleteMetadata_iff.2 ⟨hread id, hrows⟩

/-- An object can be deleted without its metadata table going. -/
theorem MetadataStore.IsThere.deleteObject {store : MetadataStore} {db db' : Database}
    (h : store.IsThere db) {table : String} {id : Int64} {answer : Unit}
    (hrun : db.run (.deleteObject table id) = .ok (answer, db')) : store.IsThere db' := by
  obtain ⟨t, ht, rfl⟩ := Database.run_deleteObject hrun
  intro id'
  obtain ⟨hread, rows, hrows⟩ := Database.run_deleteMetadata_iff.1 (h id')
  exact Database.run_deleteMetadata_iff.2
    ⟨hread, rows, Database.metadata_setTable_objects ht hrows⟩

end ObjectCatalog
