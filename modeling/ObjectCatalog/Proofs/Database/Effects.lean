import ObjectCatalog.Proofs.Database.Objects

/-!
# What a statement can do

A statement that was carried out did one of five things: nothing, or it created a table where there
was none, changed an object table, changed a metadata table, or created an index; and it created
something only if that is what it is for. In each case it did so under one of the names it was sent
with (`Database.run_effect`). Whatever holds of a database after every statement is shown by looking at
these five cases, and not at all statements again.

What happens to an object table is an insertion, a rename or a deletion (`ObjectTable.Changes`). So
what these three keep is true of a table for as long as it is there
(`Database.exists_objects?_of_run`). And a metadata table gets a row only from the statement that adds
one (`Database.mem_entries_of_run`).
-/

namespace ObjectCatalog

/-- The tables and indexes that a statement names. -/
def Statement.names : Statement → List String
  | .createObjects table _ | .createMetadata table _ | .insertObject table _
  | .insertReturning table _ | .renameObject table _ _ | .deleteObject table _
  | .storedName table _ | .findObject table _ | .countObjects table _ | .listObjects table _ _ _ _ _
  | .deleteMetadata table _ | .deleteEntry table _ _ | .insertEntry table _ _ _
  | .listMetadata table _ => [table]
  | .createIndex table column => [table, column.indexName table]
  | .lastInsertId => []
  | .countMatches table plan | .listMatches table plan _ _ _ => [table, plan.relation]

/-- Whether a statement creates a table or an index. -/
def Statement.Creates : Statement → Prop
  | .createObjects _ _ | .createMetadata _ _ | .createIndex _ _ => True
  | _ => False

/-- What one statement makes of an object table. -/
inductive ObjectTable.Changes (t t' : ObjectTable) : Prop
  | insert {table name : String} {id : Int64} (h : t.insert table name = .ok (id, t'))
  | rename {table name : String} {id : Int64} (h : t.rename table id name = .ok t')
  | delete {id : Int64} (h : t' = t.delete id)

namespace Database

variable {db db' : Database} {s : Statement} {name : String}

/-- What a statement did to a database, under one of its names. -/
inductive Effect (s : Statement) (db db' : Database) : Prop
  | nothing (hdb : db' = db)
  | creation {name : String} {table : Table} (hname : name ∈ s.names)
      (hempty : table = .objects (.empty .binary) ∨ table = .metadata [])
      (hnone : db.table? name = none) (hadd : db.addTable name table = .ok db')
      (hcreates : s.Creates)
  | objects {name : String} {t t' : ObjectTable} (hname : name ∈ s.names)
      (ht : db.table? name = some (.objects t)) (hchange : t.Changes t') {last : Int64}
      (hdb : db' = { db.setTable name (.objects t') with lastInsertId := last })
  | metadata {name : String} {rows rows' : List MetadataRow} (hname : name ∈ s.names)
      (hrows : db.table? name = some (.metadata rows))
      (hfewer : ¬ s.AddsEntry → rows'.Sublist rows)
      (hdb : db' = db.setTable name (.metadata rows')) (hwrites : s.WritesEntries)
  | index {name : String} {column : IndexedColumn} (hname : name ∈ s.names)
      (hindex : column.indexName name ∈ s.names) (htable : (db.table? name).isSome = true)
      (hdb : db' = { db with
        indexes :=
          db.indexes.insert (TableRef.key (column.indexName name)) (TableRef.key name) })
      (hcreates : s.Creates)

/-! ## The parts of statements -/

theorem objects?_eq_some_iff {t : ObjectTable} :
    db.objects? name = some t ↔ db.table? name = some (.objects t) := by
  unfold objects?
  cases db.table? name with
  | none => simp
  | some table => cases table <;> simp

theorem effect_ensureTable {table : Table} (hname : name ∈ s.names)
    (hempty : table = .objects (.empty .binary) ∨ table = .metadata []) (hcreates : s.Creates)
    (h : db.ensureTable name table = .ok db') : Effect s db db' := by
  unfold ensureTable at h
  split at h
  · cases h
    exact .nothing rfl
  · rename_i hnone
    exact .creation hname hempty hnone h hcreates

theorem effect_ensureIndex {column : IndexedColumn} (hname : name ∈ s.names)
    (hindex : column.indexName name ∈ s.names) (hcreates : s.Creates)
    (h : db.ensureIndex name column = .ok db') : Effect s db db' := by
  unfold ensureIndex at h
  simp only at h
  split at h
  · cases h
  · rename_i htable
    split at h
    · cases h
    · split at h
      · cases h
        exact .nothing rfl
      · split at h
        · cases h
        · cases h
          exact .index hname hindex (by rw [htable]; rfl) rfl hcreates

theorem effect_insertObject {value : String} {id : Int64} (hname : name ∈ s.names)
    (h : db.insertObject name value = .ok (id, db')) : Effect s db db' := by
  obtain ⟨t, ht, hrest⟩ := bind_eq_ok_iff_exists.1 h
  obtain ⟨⟨id', t'⟩, ht', hdb⟩ := bind_eq_ok_iff_exists.1 hrest
  cases hdb
  exact .objects hname (objects?_eq_some_iff.1 (objects_eq_ok_iff.1 ht)) (.insert ht') rfl

theorem effect_updateObjects {change : ObjectTable → Except Refusal ObjectTable}
    (hname : name ∈ s.names) (h : db.updateObjects name change = .ok db')
    (hchange : ∀ {t t'}, change t = .ok t' → t.Changes t') : Effect s db db' := by
  obtain ⟨t, t', ht, ht', rfl⟩ := updateObjects_eq_ok h
  exact .objects hname (objects?_eq_some_iff.1 ht) (hchange ht') rfl

theorem effect_updateMetadata {change : List MetadataRow → List MetadataRow}
    (hname : name ∈ s.names) (hfewer : ¬ s.AddsEntry → ∀ rows, (change rows).Sublist rows)
    (hwrites : s.WritesEntries) (h : db.updateMetadata name change = .ok db') :
    Effect s db db' := by
  obtain ⟨rows, hrows, hdb⟩ := bind_eq_ok_iff_exists.1 h
  cases hdb
  exact .metadata hname (metadata_eq_ok_iff.1 hrows) (fun hs => hfewer hs rows) rfl hwrites

/-! ## Statements -/

/-- What a statement did is one of the five effects. -/
theorem run_effect {answer : s.Answer} (h : db.run s = .ok (answer, db')) : Effect s db db' := by
  have hself : ∀ {table : String} {rest : List String}, table ∈ table :: rest :=
    List.mem_cons_self
  obtain ⟨-, hdone⟩ := run_eq_ok_iff.1 h
  cases s with
  | createObjects =>
    obtain ⟨next, hnext, hpair⟩ := bind_eq_ok_iff_exists.1 hdone
    cases hpair
    exact effect_ensureTable hself (.inl rfl) trivial hnext
  | createMetadata =>
    obtain ⟨next, hnext, hpair⟩ := bind_eq_ok_iff_exists.1 hdone
    cases hpair
    exact effect_ensureTable hself (.inr rfl) trivial hnext
  | createIndex =>
    obtain ⟨next, hnext, hpair⟩ := bind_eq_ok_iff_exists.1 hdone
    cases hpair
    exact effect_ensureIndex hself (List.mem_cons_of_mem _ hself) trivial hnext
  | insertObject =>
    unfold carryOut at hdone
    simp only at hdone
    split at hdone
    · cases hdone
    · obtain ⟨⟨id, next⟩, hnext, hpair⟩ := bind_eq_ok_iff_exists.1 hdone
      cases hpair
      exact effect_insertObject hself hnext
  | insertReturning => exact effect_insertObject hself hdone
  | renameObject =>
    obtain ⟨next, hnext, hpair⟩ := bind_eq_ok_iff_exists.1 hdone
    cases hpair
    exact effect_updateObjects hself hnext .rename
  | deleteObject =>
    obtain ⟨next, hnext, hpair⟩ := bind_eq_ok_iff_exists.1 hdone
    cases hpair
    exact effect_updateObjects hself hnext fun hchange => .delete (Except.ok.inj hchange).symm
  | deleteMetadata | deleteEntry =>
    obtain ⟨next, hnext, hpair⟩ := bind_eq_ok_iff_exists.1 hdone
    cases hpair
    exact effect_updateMetadata hself (fun _ _ => List.filter_sublist) trivial hnext
  | insertEntry =>
    obtain ⟨next, hnext, hpair⟩ := bind_eq_ok_iff_exists.1 hdone
    cases hpair
    exact effect_updateMetadata hself (fun hs => absurd trivial hs) trivial hnext
  | lastInsertId =>
    cases hdone
    exact .nothing rfl
  | listObjects =>
    obtain ⟨t, -, hrest⟩ := bind_eq_ok_iff_exists.1 hdone
    obtain ⟨-, -, hpair⟩ := bind_eq_ok_iff_exists.1 hrest
    cases hpair
    exact .nothing rfl
  | storedName | findObject | countObjects | listMetadata | countMatches | listMatches =>
    obtain ⟨found, -, hpair⟩ := bind_eq_ok_iff_exists.1 hdone
    cases hpair
    exact .nothing rfl

/-! ## What stays true of an object table -/

theorem objects?_setTable (db : Database) (name other : String) (t : ObjectTable) :
    (db.setTable name (.objects t)).objects? other =
      if TableRef.key name = TableRef.key other then some t else db.objects? other := by
  unfold objects?
  rw [table?_setTable]
  by_cases hkey : TableRef.key name = TableRef.key other
  · rw [if_pos hkey, if_pos hkey]
  · rw [if_neg hkey, if_neg hkey]

theorem table?_congr {name other : String} (h : TableRef.key name = TableRef.key other) :
    db.table? name = db.table? other := by
  rw [table?, table?, h]

theorem addTable_eq_ok {table : Table} (h : db.addTable name table = .ok db') :
    (∃ ref, newTable name = .ok ref) ∧ db' = db.setTable name table := by
  obtain ⟨ref, href, hadd⟩ := bind_eq_ok_iff_exists.1 h
  refine ⟨⟨ref, href⟩, ?_⟩
  split at hadd
  · cases hadd
  · split at hadd
    · cases hadd
    · split at hadd
      · cases hadd
      · cases hadd
        rfl

/-- What every change of an object table keeps is kept by every statement, whatever its name. -/
theorem exists_objects?_of_run {P : ObjectTable → Prop}
    (hP : ∀ {t t'}, t.Changes t' → P t → P t') {answer : s.Answer}
    (h : db.run s = .ok (answer, db')) {t : ObjectTable} (ht : db.objects? name = some t)
    (hPt : P t) : ∃ t', db'.objects? name = some t' ∧ P t' := by
  rw [objects?_eq_some_iff] at ht
  -- A table that is put in under another key leaves this one where it is.
  have hother : ∀ {other : String} {table : Table}, TableRef.key other ≠ TableRef.key name →
      (db.setTable other table).objects? name = some t := by
    intro other table hne
    rw [objects?_eq_some_iff, table?_setTable, if_neg hne, ht]
  cases run_effect h with
  | nothing hdb =>
    subst hdb
    exact ⟨t, objects?_eq_some_iff.2 ht, hPt⟩
  | @creation other table _ _ hnone hadd =>
    obtain ⟨-, rfl⟩ := addTable_eq_ok hadd
    refine ⟨t, hother fun hkey => ?_, hPt⟩
    rw [table?_congr hkey, ht] at hnone
    cases hnone
  | @objects other u u' _ hu hchange last hdb =>
    subst hdb
    by_cases hkey : TableRef.key other = TableRef.key name
    · rw [table?_congr hkey, ht] at hu
      cases hu
      exact ⟨u', (objects?_setTable db other name u').trans (if_pos hkey), hP hchange hPt⟩
    · exact ⟨t, hother hkey, hPt⟩
  | @metadata other rows rows' _ hrows _ hdb =>
    subst hdb
    refine ⟨t, hother fun hkey => ?_, hPt⟩
    rw [table?_congr hkey, ht] at hrows
    cases hrows
  | index _ _ _ hdb =>
    subst hdb
    exact ⟨t, objects?_eq_some_iff.2 ht, hPt⟩

/-- What holds of an empty table, and of every table that was there or comes of one by a change, holds
of the table there is after a statement. -/
theorem forall_objects?_of_run {P Q : ObjectTable → Prop} (hempty : Q (.empty .binary))
    (hsame : ∀ {t}, P t → Q t) (hP : ∀ {t t'}, t.Changes t' → P t → Q t') {answer : s.Answer}
    (h : db.run s = .ok (answer, db')) (hdb : ∀ {t}, db.objects? name = some t → P t)
    {t : ObjectTable} (ht : db'.objects? name = some t) : Q t := by
  -- The table is one that was just put in, or it was there before.
  have hput : ∀ {other : String} {table : Table},
      (db.setTable other table).objects? name = some t →
      (TableRef.key other = TableRef.key name → table = .objects t → Q t) → Q t := by
    intro other table hfound hnew
    rw [objects?_eq_some_iff, table?_setTable] at hfound
    split at hfound
    · rename_i hkey
      exact hnew hkey (Option.some.inj hfound)
    · exact hsame (hdb (objects?_eq_some_iff.2 hfound))
  cases run_effect h with
  | nothing heq =>
    subst heq
    exact hsame (hdb ht)
  | creation _ hnew _ hadd =>
    obtain ⟨-, rfl⟩ := addTable_eq_ok hadd
    refine hput ht fun _ htable => ?_
    rcases hnew with rfl | rfl
    · cases htable
      exact hempty
    · cases htable
  | objects _ hu hchange heq =>
    subst heq
    refine hput ht fun hkey htable => ?_
    cases htable
    rw [table?_congr hkey] at hu
    exact hP hchange (hdb (objects?_eq_some_iff.2 hu))
  | metadata _ _ _ heq =>
    subst heq
    exact hput ht fun _ htable => nomatch htable
  | index _ _ _ heq =>
    subst heq
    exact hsame (hdb ht)

end Database

/-! ## The rows of a metadata table -/

/-- The rows of a table of metadata; a table of objects has none. -/
def Table.entries : Table → List MetadataRow
  | .metadata rows => rows
  | .objects _ => []

namespace Database

variable {db db' : Database} {s : Statement} {name : String}

/-- The metadata under a name, none if there is no such table. -/
def entries (db : Database) (name : String) : List MetadataRow :=
  match db.table? name with
  | some table => table.entries
  | none => []

theorem entries_of_table? {table : Table} (h : db.table? name = some table) :
    db.entries name = table.entries := by
  rw [entries, h]

theorem entries_setTable (db : Database) (name other : String) (table : Table) :
    (db.setTable name table).entries other =
      if TableRef.key name = TableRef.key other then table.entries else db.entries other := by
  unfold entries
  rw [table?_setTable]
  by_cases hkey : TableRef.key name = TableRef.key other
  · rw [if_pos hkey, if_pos hkey]
  · rw [if_neg hkey, if_neg hkey]

/-- A table that is put in has no rows but those of the one it replaces. -/
theorem mem_entries_of_setTable {other : String} {table : Table} {row : MetadataRow}
    (h : row ∈ (db.setTable other table).entries name)
    (htable : row ∈ table.entries → row ∈ db.entries other) : row ∈ db.entries name := by
  rw [entries_setTable] at h
  split at h
  · rename_i hkey
    rw [entries, ← table?_congr hkey]
    exact htable h
  · exact h

theorem mem_entries_of_run {answer : s.Answer} (hs : ¬ s.AddsEntry)
    (h : db.run s = .ok (answer, db')) {row : MetadataRow} (hrow : row ∈ db'.entries name) :
    row ∈ db.entries name := by
  cases run_effect h with
  | nothing hdb => exact hdb ▸ hrow
  | creation _ hempty _ hadd =>
    obtain ⟨-, rfl⟩ := addTable_eq_ok hadd
    refine mem_entries_of_setTable hrow fun hmem => ?_
    rcases hempty with rfl | rfl <;> cases hmem
  | objects _ _ _ hdb =>
    subst hdb
    exact mem_entries_of_setTable hrow fun hmem => nomatch hmem
  | metadata _ hrows hfewer hdb =>
    subst hdb
    refine mem_entries_of_setTable hrow fun hmem => ?_
    rw [entries_of_table? hrows]
    exact (hfewer hs).subset hmem
  | index _ _ _ hdb =>
    subst hdb
    exact hrow

theorem run_insertEntry {table key value : String} {id : Int64} {answer : Unit}
    (h : db.run (.insertEntry table id key value) = .ok (answer, db')) {row : MetadataRow}
    (hrow : row ∈ db'.entries name) : row ∈ db.entries name ∨ row = ⟨id, key, value⟩ := by
  obtain ⟨next, hnext, hpair⟩ := bind_eq_ok_iff_exists.1 (run_eq_ok_iff.1 h).2
  cases hpair
  obtain ⟨rows, hrows, hdb⟩ := bind_eq_ok_iff_exists.1 hnext
  cases hdb
  by_cases hnew : row = ⟨id, key, value⟩
  · exact .inr hnew
  · refine .inl (mem_entries_of_setTable hrow fun hmem => ?_)
    rw [entries_of_table? (metadata_eq_ok_iff.1 hrows)]
    exact (List.mem_append.1 hmem).resolve_right fun h => hnew (List.mem_singleton.1 h)

theorem run_deleteMetadata {id : Int64} {answer : Unit}
    (h : db.run (.deleteMetadata name id) = .ok (answer, db')) {row : MetadataRow}
    (hrow : row ∈ db'.entries name) : row ∈ db.entries name ∧ row.object ≠ id := by
  refine ⟨mem_entries_of_run (s := .deleteMetadata name id) (fun hadds => hadds) h hrow, ?_⟩
  obtain ⟨next, hnext, hpair⟩ := bind_eq_ok_iff_exists.1 (run_eq_ok_iff.1 h).2
  cases hpair
  obtain ⟨rows, -, hdb⟩ := bind_eq_ok_iff_exists.1 hnext
  cases hdb
  rw [entries_setTable, if_pos rfl] at hrow
  simpa using (List.mem_filter.1 hrow).2

end Database

end ObjectCatalog
