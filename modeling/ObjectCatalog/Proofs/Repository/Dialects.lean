import ObjectCatalog.Proofs.Database.Indexes
import ObjectCatalog.Proofs.Repository.Marks
import ObjectCatalog.Proofs.Repository.Names
import ObjectCatalog.Proofs.Sql.Unnumbered

/-!
# One repository in three dialects

A repository asks for its dialect in two places only: where it installs its tables and where it inserts a
name. All other requests are the same requests (`Request.run_inDialect`), and what they send differs in
the numbers of its marks and in nothing else (`Statement.unnumbered_text`).

An insertion comes to one thing, whether the database answers the id itself or is asked for it next
(`Repository.create_inDialect`). An installation may create indexes by themselves, which does not show in
anything that is answered where the names of the indexes are free (`Layout.Fits`). So a request in any
dialect ends as it does in the dialect that has no indexes of its own, on the database without its
indexes (`Request.mirrors_inDialect`).
-/

namespace ObjectCatalog

/-! ## 1. Statements -/

namespace Statement

variable {s : Statement}

/-- A statement about rows is one template. -/
theorem template_eq_of_not_creates (hs : ¬ s.Creates) (d d' : Dialect) :
    s.template d' = s.template d := by
  cases s with
  | createObjects | createMetadata | createIndex => exact absurd trivial hs
  | findObject table lookup => cases lookup <;> rfl
  | _ => rfl

theorem args_eq_of_not_creates (hs : ¬ s.Creates) (d d' : Dialect) : s.args d' = s.args d := by
  rw [args, args, template_eq_of_not_creates hs d d']

/-- Without the numbers of its marks a statement about rows is spelled as it is in the dialect that has
none. -/
theorem unnumbered_text (hs : ¬ s.Creates) (hnames : ∀ name ∈ s.names, markFree name = true)
    (d : Dialect) : Text.unnumbered (s.text d) = s.text .mySql := by
  have htables : ∀ name ∈ (s.template d).tables, markFree name = true :=
    fun name hname => hnames name (mem_names_of_mem_tables hs hname)
  rw [text, Template.unnumbered_text (spaced_template hs d) htables, text,
    template_eq_of_not_creates hs d .mySql]

end Statement

theorem Request.not_creates_of_sends {request : Request} {r : Repository} {s : Statement}
    (h : request.Sends r s) (hinstalls : ¬ request.Installs) : ¬ s.Creates := by
  cases h with
  | createObjects hrequest | createMetadata hrequest | createIndex hrequest =>
    exact absurd hrequest hinstalls
  | _ => exact id

/-! ## 2. Requests that do not ask for the dialect -/

def Connection.inDialect (c : Connection) (d : Dialect) : Connection :=
  { c with dialect := d }

namespace MetadataStore

variable (store : MetadataStore) (d : Dialect)

def inDialect : MetadataStore :=
  { store with connection := store.connection.inDialect d }

theorem writeRemovals_inDialect (id : Int64) (keys : List String) :
    (store.inDialect d).writeRemovals id keys = store.writeRemovals id keys := by
  induction keys with
  | nil => rfl
  | cons key rest ih =>
    rw [writeRemovals, writeRemovals, ih]
    rfl

theorem writeUpserts_inDialect (id : Int64) (entries : List (String × String)) :
    (store.inDialect d).writeUpserts id entries = store.writeUpserts id entries := by
  induction entries with
  | nil => rfl
  | cons entry rest ih =>
    rw [writeUpserts, writeUpserts, ih]
    rfl

theorem save_inDialect : (store.inDialect d).save = store.save := by
  unfold save
  simp only [writeRemovals_inDialect, writeUpserts_inDialect]

end MetadataStore

namespace Repository

variable (r : Repository) (d : Dialect)

/-- The repository on a database that speaks another dialect. -/
def inDialect : Repository :=
  ⟨r.connection.inDialect d, r.typeName, r.metadataStore.inDialect d⟩

theorem table_inDialect : (r.inDialect d).table = r.table := rfl

theorem lookupKey_inDialect (lookup : Lookup) :
    (r.inDialect d).lookupKey lookup = r.lookupKey lookup := by
  cases lookup <;> rfl

theorem findRow_inDialect (lookup : Lookup) : (r.inDialect d).findRow lookup = r.findRow lookup := by
  unfold findRow
  rw [lookupKey_inDialect, table_inDialect]
  refine bind_congr fun cached => ?_
  cases cached with
  | some text => rfl
  | none =>
    refine bind_congr fun found => ?_
    cases found <;> rfl

theorem find_inDialect (lookup : Lookup) : (r.inDialect d).find lookup = r.find lookup := by
  unfold find
  rw [findRow_inDialect]
  rfl

theorem loadAll_inDialect (ids : List Int64) : (r.inDialect d).loadAll ids = r.loadAll ids := by
  induction ids with
  | nil => rfl
  | cons id rest ih => rw [loadAll, loadAll, ih, loadById, find_inDialect, ← loadById]

theorem search_inDialect (query : String) (options : SearchOptions) :
    (r.inDialect d).search query options = r.search query options := by
  unfold search
  simp only [loadAll_inDialect]
  rfl

theorem metaSearch_inDialect (p : Predicate) (options : MetadataSearchOptions) :
    (r.inDialect d).metaSearch p options = r.metaSearch p options := by
  unfold metaSearch
  simp only [loadAll_inDialect]
  rfl

theorem update_inDialect : (r.inDialect d).update = r.update := by
  have hsave : (r.inDialect d).metadataStore.save = r.metadataStore.save :=
    r.metadataStore.save_inDialect d
  unfold update
  rw [hsave]
  rfl

end Repository

namespace Request

def IsCreate : Request → Prop
  | .create _ _ => True
  | _ => False

/-- Only installations and creations ask for the dialect. -/
theorem run_inDialect {request : Request} (hinstalls : ¬ request.Installs)
    (hcreate : ¬ request.IsCreate) (r : Repository) (d : Dialect) (desk : Desk) :
    request.run (r.inDialect d) desk = request.run r desk := by
  cases request with
  | install | installMetadata => exact absurd trivial hinstalls
  | create => exact absurd trivial hcreate
  | load key handle | loadById id handle | loadByName name handle =>
    exact congrArg (desk.lookUp handle) (r.find_inDialect d _)
  | update handle => exact congrArg (desk.edit handle) (r.update_inDialect d)
  | saveMetadata handle => exact congrArg (desk.edit handle) (r.metadataStore.save_inDialect d)
  | search query options => exact congrArg desk.list (r.search_inDialect d query options)
  | metaSearch p options => exact congrArg desk.list (r.metaSearch_inDialect d p options)
  | delete | dropMetadata | applyMetadata | setName | setMeta | removeMeta | getMeta | «show»
  | delta => rfl

end Request

/-! ## 3. Backends without indexes -/

namespace Backend

def withoutIndexes (b : Backend) : Backend :=
  { b with database := b.database.withoutIndexes }

theorem journal_withoutIndexes (b : Backend) : b.withoutIndexes.journal = b.journal := rfl

theorem alike_send_withoutIndexes {s : Statement} (hs : ¬ s.Creates) :
    Action.Alike (fun b b' => b' = b.withoutIndexes) (send s) := by
  rintro b _ rfl
  have hsame := Database.run_withoutIndexes hs b.database
  rcases hrun : b.database.run s with refusal | ⟨answer, db⟩
  · have hrun' : b.withoutIndexes.database.run s = .error refusal := by
      rw [withoutIndexes, hsame, hrun]
      rfl
    rw [send_of_error hrun, send_of_error hrun']
    exact ⟨rfl, rfl⟩
  · have hrun' : b.withoutIndexes.database.run s = .ok (answer, db.withoutIndexes) := by
      rw [withoutIndexes, hsame, hrun]
      rfl
    rw [send_of_ok hrun, send_of_ok hrun']
    exact ⟨rfl, rfl⟩

theorem alike_fetch_withoutIndexes (key : String) :
    Action.Alike (fun b b' => b' = b.withoutIndexes) (fetch key) := by
  rintro b _ rfl
  have hcache : b.withoutIndexes.cache = b.cache := rfl
  rcases hfault : b.cache.fault .fetch key with _ | failure
  · rw [fetch_of_none hfault, fetch_of_none (hcache ▸ hfault)]
    exact ⟨rfl, rfl⟩
  · rw [fetch_of_some hfault, fetch_of_some (hcache ▸ hfault)]
    exact ⟨rfl, rfl⟩

theorem alike_store_withoutIndexes (key value : String) :
    Action.Alike (fun b b' => b' = b.withoutIndexes) (store key value) := by
  rintro b _ rfl
  have hcache : b.withoutIndexes.cache = b.cache := rfl
  rcases hfault : b.cache.fault .store key with _ | failure
  · rw [store_of_none hfault, store_of_none (hcache ▸ hfault)]
    exact ⟨rfl, rfl⟩
  · rw [store_of_some hfault, store_of_some (hcache ▸ hfault)]
    exact ⟨rfl, rfl⟩

theorem alike_delete_withoutIndexes (key : String) :
    Action.Alike (fun b b' => b' = b.withoutIndexes) (delete key) := by
  rintro b _ rfl
  have hcache : b.withoutIndexes.cache = b.cache := rfl
  rcases hfault : b.cache.fault .delete key with _ | failure
  · rw [delete_of_none hfault, delete_of_none (hcache ▸ hfault)]
    exact ⟨rfl, rfl⟩
  · rw [delete_of_some hfault, delete_of_some (hcache ▸ hfault)]
    exact ⟨rfl, rfl⟩

end Backend

/-- A request that installs nothing does not see the indexes. -/
theorem Request.alike_withoutIndexes {request : Request} (hinstalls : ¬ request.Installs)
    (r : Repository) (b : Backend) (handles : Std.ExtTreeMap String Handle) :
    Desk.Alike (fun b b' => b' = b.withoutIndexes) (request.run r ⟨b, handles⟩)
      (request.run r ⟨b.withoutIndexes, handles⟩) := by
  have calls : request.AlikeCalls r (fun b b' => b' = b.withoutIndexes) :=
    ⟨fun hs => Backend.alike_send_withoutIndexes (not_creates_of_sends hs hinstalls),
      fun _ => Backend.alike_fetch_withoutIndexes _,
      fun _ text => Backend.alike_store_withoutIndexes _ text,
      fun _ => Backend.alike_delete_withoutIndexes _⟩
  exact calls.run rfl

theorem Request.backend_withoutIndexes {request : Request} (hinstalls : ¬ request.Installs)
    (r : Repository) (b : Backend) (handles : Std.ExtTreeMap String Handle) :
    (request.run r ⟨b.withoutIndexes, handles⟩).2.backend =
      (request.run r ⟨b, handles⟩).2.backend.withoutIndexes :=
  (alike_withoutIndexes hinstalls r b handles).backend

/-! ## 4. Insertions -/

/-- What is sent to insert a name. A dialect that cannot return the id asks for it, if there is one. -/
def Dialect.insertion (d : Dialect) (table name : String) (bound inserted : Bool) : List Event :=
  if d.supportsReturning then [.statement (.insertReturning table name) bound]
  else .statement (.insertObject table name) bound ::
    if inserted then [.statement .lastInsertId true] else []

/-- What is sent to create an object. Nothing is for a blank name. -/
def Dialect.creation (d : Dialect) (table raw : String) (bound inserted : Bool) : List Event :=
  if Text.trim raw = "" then [] else d.insertion table (Text.trim raw) bound inserted

/-- Where there is no metadata under the name of the table, both statements that insert a row do the
same, if they can both be read. -/
theorem Database.run_insertObject_eq {db : Database} {table name : String}
    (htext : textRefusal? (.insertObject table name) = textRefusal? (.insertReturning table name))
    (hkind : ∀ rows, db.table? table ≠ some (.metadata rows)) :
    db.run (.insertObject table name) =
      (db.run (.insertReturning table name)).map fun done => ((), done.2) := by
  unfold run
  rw [htext]
  cases textRefusal? (.insertReturning table name) with
  | some refusal => rfl
  | none =>
    simp only
    rw [carryOut, carryOut]
    split
    · rename_i rows hrows
      exact absurd hrows (hkind rows)
    · cases db.insertObject table name <;> rfl

/-- The statement that answers the id is the other one with a clause at its end. -/
theorem Statement.unnumbered_insertReturning {table : String} (h : markFree table = true)
    (name : String) (d d' : Dialect) :
    Text.unnumbered ((insertReturning table name).text d) =
      Text.unnumbered ((insertObject table name).text d') ++ " RETURNING id" := by
  have hfree : ∀ other ∈ [table], markFree other = true :=
    fun other hother => (List.mem_singleton.1 hother) ▸ h
  have hend : (insertReturning table name).text .mySql =
      (insertObject table name).text .mySql ++ " RETURNING id" := by
    simp only [text, template, Template.text, Template.textFrom, String.append_assoc,
      String.append_empty]
    rfl
  rw [unnumbered_text (s := .insertReturning table name) id hfree,
    unnumbered_text (s := .insertObject table name) id hfree, hend]

/-- The backend after more was sent. -/
def Backend.recordAll (b : Backend) (events : List Event) : Backend :=
  { b with journal := b.journal ++ events }

namespace Repository

variable {r : Repository} {b : Backend} {name : String}

/-- The object table has one row more, with an id after all that it ever held. -/
def AddsRow (r : Repository) (db db' : Database) (id : Int64) (name : String) : Prop :=
  ∃ t t', db.objects? r.table = some t ∧ db'.objects? r.table = some t' ∧ t.highestId < id ∧
    t'.rows = t.rows.insert id name

section Insertions

variable
  (htext : ∀ name, Database.textRefusal? (.insertObject r.table name) =
    Database.textRefusal? (.insertReturning r.table name))
  (hkind : ∀ rows, b.database.table? r.table ≠ some (.metadata rows))
include htext hkind

theorem insertName_inDialect_of_error {refusal : Refusal}
    (h : b.database.run (.insertReturning r.table name) = .error refusal) (d : Dialect) :
    (r.inDialect d).insertName name b = (.error (.storage (.database refusal.report)),
      b.recordAll (d.insertion r.table name refusal.wasPrepared false)) := by
  have hdialect : (r.inDialect d).connection.dialect = d := rfl
  rw [insertName, hdialect, table_inDialect, Dialect.insertion]
  split
  · rw [Backend.send_of_error h]
    rfl
  · have hrun : b.database.run (.insertObject r.table name) = .error refusal := by
      rw [Database.run_insertObject_eq (htext name) hkind, h]
      rfl
    rw [Action.bind_of_error (Backend.send_of_error hrun)]
    rfl

/-- The id that is asked for is that of the row that was inserted. -/
theorem insertName_inDialect_of_ok {id : Int64} {db : Database}
    (h : b.database.run (.insertReturning r.table name) = .ok (id, db)) (d : Dialect) :
    (r.inDialect d).insertName name b =
      (.ok id, { b.recordAll (d.insertion r.table name true true) with database := db }) := by
  have hdialect : (r.inDialect d).connection.dialect = d := rfl
  rw [insertName, hdialect, table_inDialect, Dialect.insertion]
  split
  · rw [Backend.send_of_ok h]
    rfl
  · have hrun : b.database.run (.insertObject r.table name) = .ok ((), db) := by
      rw [Database.run_insertObject_eq (htext name) hkind, h]
      rfl
    obtain ⟨-, -, -, -, -, hlast⟩ := Database.run_insertReturning h
    have hasked : db.run .lastInsertId = .ok (id, db) := by
      rw [← hlast]
      rfl
    rw [Action.bind_of_ok (Backend.send_of_ok hrun), Backend.send_of_ok hasked]
    simp only [Backend.record, Backend.recordAll, List.append_assoc, List.singleton_append, if_true]

/-- **A creation comes to one thing in all dialects.** It ends in the same way and leaves the same
database, and the id that is answered is that of the row that was added. Only what was sent is written in
two ways. -/
theorem create_inDialect (raw : String) :
    ∃ result db bound, (∀ d : Dialect, (r.inDialect d).create raw b = (result,
        { b.recordAll (d.creation r.table raw bound result.isOk) with database := db })) ∧
      ∀ object, result = .ok object → object.name = Text.trim raw ∧
        r.AddsRow b.database db object.id object.name := by
  by_cases hblank : Text.trim raw = ""
  · refine ⟨.error (.invalidArgument .emptyName), b.database, false, fun d => ?_, nofun⟩
    rw [create, if_pos hblank, Dialect.creation, if_pos hblank, Backend.recordAll, List.append_nil]
    rfl
  · rcases hrun : b.database.run (.insertReturning r.table (Text.trim raw)) with refusal | ⟨id, db⟩
    · refine ⟨.error (nameError (Text.trim raw) (.storage (.database refusal.report))), b.database,
        refusal.wasPrepared, fun d => ?_, nofun⟩
      rw [create_of_insertName hblank (insertName_inDialect_of_error htext hkind hrun d),
        Dialect.creation, if_neg hblank]
      rfl
    · refine ⟨.ok (.fresh id (Text.trim raw)), db, true, fun d => ?_, fun object hobject => ?_⟩
      · rw [create_of_insertName hblank (insertName_inDialect_of_ok htext hkind hrun d),
          Dialect.creation, if_neg hblank]
        rfl
      · cases hobject
        obtain ⟨t, t', ht, hinsert, ht', -⟩ := Database.run_insertReturning hrun
        obtain ⟨hnew, -, rfl⟩ := ObjectTable.insert_eq_ok hinsert
        exact ⟨rfl, t, _, ht, ht', hnew, rfl⟩

end Insertions

end Repository

/-! ## 5. Installations -/

/-- The second backend is the first without its indexes, as far as it is not about what was sent. -/
structure Backend.Mirrors (b b' : Backend) : Prop where
  database : b'.database = b.database.withoutIndexes
  cache : b'.cache = b.cache

/-- The tables of a repository are in a layout. -/
structure Layout.Has (l : Layout) (r : Repository) : Prop where
  objects : r.table ∈ l.objects
  metadata : r.metadataStore.table ∈ l.metadata

/-- The database reads the statements of all dialects alike: what the dialects write differently does not
decide whether a statement can be read, and where a metadata table can be written of, its indexes can be
too. -/
structure Repository.ReadAlike (r : Repository) : Prop where
  objects : ∀ d : Dialect,
    Database.textRefusal? (.createObjects r.table (r.inDialect d).connection.tableOptions) =
      Database.textRefusal? (.createObjects r.table "")
  metadata : ∀ d : Dialect, Database.textRefusal? (.createMetadata r.metadataStore.table
      (r.inDialect d).metadataStore.connection.tableOptions) =
    Database.textRefusal? (.createMetadata r.metadataStore.table "")
  indexes : ∀ column : IndexedColumn,
    Database.textRefusal? (.createMetadata r.metadataStore.table "") = none →
      Database.textRefusal? (.createIndex r.metadataStore.table column) = none
  inserts : ∀ name, Database.textRefusal? (.insertObject r.table name) =
    Database.textRefusal? (.insertReturning r.table name)

/-- The name of an index of a plain name is plain: no reserved word has a low line in it. -/
theorem IndexedColumn.isPlainName_indexName (column : IndexedColumn) {table : String}
    (h : isPlainName table = true) : isPlainName (column.indexName table) = true := by
  have hend : ("_" ++ column.column).toList.all Lexeme.isNameRest = true := by
    cases column <;> decide
  have hname : column.indexName table = table ++ ("_" ++ column.column) := String.append_assoc
  have hline : '_' ∈ (column.indexName table).toList.map Char.toLower := by
    rw [hname, String.toList_append, List.map_append]
    refine List.mem_append_right _ ?_
    cases column <;> decide
  have hreserved : isReserved (column.indexName table) = false := by
    rw [isReserved, Bool.eq_false_iff]
    intro hcontains
    have hfree : ∀ word ∈ reservedWords, '_' ∉ word.toList := by decide
    refine hfree _ (List.contains_iff_mem.1 hcontains) ?_
    rw [Text.toList_foldCase]
    exact hline
  rw [isPlainName, hreserved, Bool.not_false, Bool.and_true, hname, String.toList_append]
  rw [isPlainName, Bool.and_eq_true] at h
  cases hchars : table.toList with
  | nil =>
    rw [hchars] at h
    exact absurd h.1 Bool.false_ne_true
  | cons c cs =>
    rw [hchars] at h
    rw [List.cons_append]
    simp only [Bool.and_eq_true, List.all_append] at h ⊢
    exact ⟨h.1.1, h.1.2, hend⟩

/-- Statements about tables with plain names can all be read. -/
theorem Repository.readAlike_of_isPlainName {r : Repository} (htable : isPlainName r.table = true)
    (hstore : isPlainName r.metadataStore.table = true) : r.ReadAlike := by
  have hone : ∀ {table : String} (s s' : Statement), s.names = [table] → s'.names = [table] →
      isPlainName table = true → Database.textRefusal? s = Database.textRefusal? s' := by
    intro table s s' hs hs' h
    rw [Database.textRefusal?_of_isPlainName hs h, Database.textRefusal?_of_isPlainName hs' h]
  refine ⟨fun d => hone _ _ rfl rfl htable, fun d => hone _ _ rfl rfl hstore, fun column _ => ?_,
    fun name => hone _ _ rfl rfl htable⟩
  have hplain : ∀ name ∈ ((Statement.createIndex r.metadataStore.table column).template .sqlite).tables,
      isPlainName name = true := by
    intro name hname
    rcases List.mem_cons.1 hname with rfl | hname
    · exact column.isPlainName_indexName hstore
    · rw [List.mem_singleton.1 hname]
      exact hstore
  rw [Database.textRefusal?, Statement.exceeded?_of_plan?_eq_none rfl,
    Template.fault?_of_isPlainName .sqlite hplain]
  rfl

variable {l : Layout} {r : Repository} {b b' : Backend}

/-- An index is created where its table is and nobody notices. -/
theorem Layout.Fits.send_createIndex (hl : l.Apart) (h : l.Fits b.database) {m : String}
    (hm : m ∈ l.metadata) {column : IndexedColumn} (htable : (b.database.table? m).isSome = true)
    (htext : Database.textRefusal? (.createIndex m column) = none) :
    ∃ c, Backend.send (.createIndex m column) b = (.ok (), c) ∧ l.Fits c.database ∧
      c.database.withoutIndexes = b.database.withoutIndexes ∧ c.cache = b.cache := by
  obtain ⟨next, hrun, hsame⟩ := h.run_createIndex hm htable htext
  exact ⟨_, Backend.send_of_ok hrun, h.run hl (s := .createIndex m column) hm hrun, hsame, rfl⟩

/-- The indexes that a dialect creates by themselves. -/
def MetadataStore.installIndexes (store : MetadataStore) : Action Unit :=
  match store.connection.dialect with
  | .mySql => pure ()
  | .postgres | .sqlite => do
    Backend.send (.createIndex store.table .object)
    Backend.send (.createIndex store.table .name)

theorem MetadataStore.install_eq (store : MetadataStore) :
    store.install =
      Backend.send (.createMetadata store.table store.connection.tableOptions) >>=
        fun _ => store.installIndexes := by
  unfold install installIndexes Connection.tableOptions
  cases store.connection.dialect with
  | mySql => exact (bind_pure _).symm
  | postgres | sqlite => rfl

theorem Layout.Fits.installIndexes (hl : l.Apart) (h : l.Fits b.database) (store : MetadataStore)
    (hm : store.table ∈ l.metadata) (htable : (b.database.table? store.table).isSome = true)
    (htext : ∀ column, Database.textRefusal? (.createIndex store.table column) = none) :
    ∃ c, store.installIndexes b = (.ok (), c) ∧
      c.database.withoutIndexes = b.database.withoutIndexes ∧ c.cache = b.cache := by
  unfold MetadataStore.installIndexes
  cases store.connection.dialect with
  | mySql => exact ⟨b, rfl, rfl, rfl⟩
  | postgres | sqlite =>
    obtain ⟨c, hobject, hfits, hsame, hcache⟩ := h.send_createIndex hl hm htable (htext .object)
    have htable' : (c.database.table? store.table).isSome = true := by
      rw [← Database.table?_withoutIndexes, hsame]
      exact htable
    obtain ⟨c', hname, -, hsame', hcache'⟩ := hfits.send_createIndex hl hm htable' (htext .name)
    exact ⟨c', (Action.bind_of_ok hobject).trans hname, hsame'.trans hsame, hcache'.trans hcache⟩

/-- A metadata table is installed as in the dialect that declares the indexes with it. -/
theorem MetadataStore.install_mirrors (hl : l.Apart) (hr : l.Has r) (hread : r.ReadAlike)
    (h : l.Fits b.database) (hmirrors : b.Mirrors b') (d : Dialect) :
    ((r.inDialect .mySql).metadataStore.install b').1 = ((r.inDialect d).metadataStore.install b).1 ∧
      ((r.inDialect d).metadataStore.install b).2.Mirrors
        ((r.inDialect .mySql).metadataStore.install b').2 := by
  let options := fun d : Dialect => (r.inDialect d).metadataStore.connection.tableOptions
  have hcreate : b'.database.run (.createMetadata r.metadataStore.table (options .mySql)) =
      (b.database.run (.createMetadata r.metadataStore.table (options d))).map
        fun done => (done.1, done.2.withoutIndexes) := by
    rw [hmirrors.database]
    exact h.run_createMetadata_withoutIndexes hr.metadata
      ((hread.metadata .mySql).trans (hread.metadata d).symm)
  have hmySql : (r.inDialect .mySql).metadataStore.install =
      Backend.send (.createMetadata r.metadataStore.table (options .mySql)) := rfl
  have hdialect : (r.inDialect d).metadataStore.install =
      Backend.send (.createMetadata r.metadataStore.table (options d)) >>=
        fun _ => (r.inDialect d).metadataStore.installIndexes := install_eq _
  rw [hmySql, hdialect]
  rcases hrun : b.database.run (.createMetadata r.metadataStore.table (options d)) with
    refusal | ⟨answer, db⟩
  · rw [hrun] at hcreate
    rw [Action.bind_of_error (Backend.send_of_error hrun), Backend.send_of_error hcreate]
    exact ⟨rfl, hmirrors.database, hmirrors.cache⟩
  · rw [hrun] at hcreate
    have htext := (Database.run_eq_ok_iff.1 hrun).1
    rw [hread.metadata d] at htext
    have hfits : l.Fits db :=
      h.run hl (s := .createMetadata r.metadataStore.table (options d)) hr.metadata hrun
    obtain ⟨c, hindexes, hsame, hcache⟩ := Layout.Fits.installIndexes
      (b := { b.record (.statement (.createMetadata r.metadataStore.table (options d)) true) with
        database := db }) hl hfits (r.inDialect d).metadataStore hr.metadata
      (Database.isSome_of_createMetadata hrun) fun column => hread.indexes column htext
    rw [Action.bind_of_ok (Backend.send_of_ok hrun), hindexes, Backend.send_of_ok hcreate]
    exact ⟨rfl, hsame.symm, hmirrors.cache.trans hcache.symm⟩

/-- And so are all tables of a repository. -/
theorem Repository.install_mirrors (hl : l.Apart) (hr : l.Has r) (hread : r.ReadAlike)
    (h : l.Fits b.database) (hmirrors : b.Mirrors b') (d : Dialect) :
    ((r.inDialect .mySql).install b').1 = ((r.inDialect d).install b).1 ∧
      ((r.inDialect d).install b).2.Mirrors ((r.inDialect .mySql).install b').2 := by
  let options := fun d : Dialect => (r.inDialect d).connection.tableOptions
  have hcreate : b'.database.run (.createObjects r.table (options .mySql)) =
      (b.database.run (.createObjects r.table (options d))).map
        fun done => (done.1, done.2.withoutIndexes) := by
    rw [hmirrors.database]
    exact h.run_createObjects_withoutIndexes hr.objects
      ((hread.objects .mySql).trans (hread.objects d).symm)
  have hinstall : ∀ d : Dialect, (r.inDialect d).install =
      Backend.send (.createObjects r.table (options d)) >>=
        fun _ => (r.inDialect d).metadataStore.install := fun _ => rfl
  rw [hinstall, hinstall]
  rcases hrun : b.database.run (.createObjects r.table (options d)) with refusal | ⟨answer, db⟩
  · rw [hrun] at hcreate
    rw [Action.bind_of_error (Backend.send_of_error hrun),
      Action.bind_of_error (Backend.send_of_error hcreate)]
    exact ⟨rfl, hmirrors.database, hmirrors.cache⟩
  · rw [hrun] at hcreate
    have hfits : l.Fits db := h.run hl (s := .createObjects r.table (options d)) hr.objects hrun
    rw [Action.bind_of_ok (Backend.send_of_ok hrun), Action.bind_of_ok (Backend.send_of_ok hcreate)]
    refine MetadataStore.install_mirrors hl hr hread hfits ?_ d
    exact ⟨rfl, hmirrors.cache⟩

/-- Whether an event is a statement that creates something. -/
def Event.Creates : Event → Prop
  | .statement s _ => s.Creates
  | .cacheCall _ _ => False

/-- An installation asks for creations and for nothing else. -/
theorem Backend.keeps_creates {s : Statement} (hs : s.Creates) :
    Action.Keeps (fun b => ∀ event ∈ b.journal, event.Creates) (send s) := by
  have hrecord : ∀ {b : Backend} {bound : Bool}, (∀ event ∈ b.journal, event.Creates) →
      ∀ event ∈ (b.record (.statement s bound)).journal, event.Creates := by
    intro b bound hb event hevent
    rcases List.mem_append.1 hevent with hevent | hevent
    · exact hb event hevent
    · rw [List.mem_singleton.1 hevent]
      exact hs
  exact Action.meets_iff_keeps.1 (meets_send (fun _ _ _ hb _ => hrecord hb) fun _ _ hb _ => hrecord hb)

theorem MetadataStore.keeps_creates_install (store : MetadataStore) :
    Action.Keeps (fun b => ∀ event ∈ b.journal, event.Creates) store.install := by
  have hindex : ∀ column, Action.Keeps (fun b => ∀ event ∈ b.journal, event.Creates)
      (Backend.send (.createIndex store.table column)) :=
    fun column => Backend.keeps_creates (s := .createIndex store.table column) trivial
  rw [install_eq]
  refine (Backend.keeps_creates (s := .createMetadata store.table _) trivial).bind fun _ => ?_
  unfold installIndexes
  cases store.connection.dialect with
  | mySql => exact Action.keeps_pure _
  | postgres | sqlite => exact (hindex .object).bind fun _ => hindex .name

theorem Repository.keeps_creates_install (r : Repository) :
    Action.Keeps (fun b => ∀ event ∈ b.journal, event.Creates) r.install :=
  (Backend.keeps_creates (s := .createObjects r.table _) trivial).bind fun _ =>
    r.metadataStore.keeps_creates_install

/-! ## 6. Requests in a dialect -/

/-- Where the database fits the layout, what a request leaves fits it. -/
theorem Layout.Fits.request (hl : l.Apart) (hr : l.Has r) {desk : Desk}
    (h : l.Fits desk.backend.database) (request : Request) :
    l.Fits (request.run r desk).2.backend.database := by
  have hadmits : ∀ {s : Statement}, request.Sends r s → l.Admits s := by
    intro s hs
    cases hs with
    | createObjects => exact hr.objects
    | createMetadata | createIndex => exact hr.metadata
    | _ => trivial
  exact Request.keeps_database_of_sends (fun hs hrun hfits => hfits.run hl (hadmits hs) hrun) h

namespace Request

variable {request : Request} {handles : Std.ExtTreeMap String Handle}

/-- On one database, a request that installs nothing ends alike in two dialects. -/
theorem alike_inDialect (hread : r.ReadAlike) (hkind : ∀ rows, b.database.table? r.table ≠
    some (.metadata rows)) (hinstalls : ¬ request.Installs) (d d' : Dialect) :
    Desk.Alike Backend.SameState (request.run (r.inDialect d) ⟨b, handles⟩)
      (request.run (r.inDialect d') ⟨b, handles⟩) := by
  by_cases hcreate : request.IsCreate
  · cases request with
    | create raw handle =>
      obtain ⟨result, db, bound, hends, -⟩ := Repository.create_inDialect hread.inserts hkind raw
      rw [run, run]
      refine Desk.alike_act_of ?_ ?_ ?_ ?_
      · rw [hends, hends]
      · rw [hends, hends]
        exact ⟨rfl, rfl⟩
      · exact fun _ _ => rfl
      · exact fun object _ _ hd => congrArg (·.insert handle (.ofObject object)) hd
    | _ => exact hcreate.elim
  · rw [run_inDialect hinstalls hcreate, run_inDialect hinstalls hcreate]
    exact ⟨rfl, rfl, rfl, rfl⟩

/-- **A request ends in every dialect as it does in the one without indexes of its own**, on the database
without its indexes. -/
theorem mirrors_inDialect (hl : l.Apart) (hr : l.Has r) (hread : r.ReadAlike)
    (h : l.Fits b.database) (request : Request) (handles : Std.ExtTreeMap String Handle)
    (d : Dialect) :
    Desk.Alike Backend.Mirrors (request.run (r.inDialect d) ⟨b, handles⟩)
      (request.run (r.inDialect .mySql) ⟨b.withoutIndexes, handles⟩) := by
  by_cases hinstalls : request.Installs
  · have hself : b.Mirrors b.withoutIndexes := ⟨rfl, rfl⟩
    cases request with
    | install =>
      obtain ⟨hresult, hafter⟩ := Repository.install_mirrors hl hr hread h hself d
      rw [run, run]
      exact Desk.alike_act_of hresult hafter (fun _ _ => rfl) fun _ _ _ hd => hd
    | installMetadata =>
      obtain ⟨hresult, hafter⟩ := MetadataStore.install_mirrors hl hr hread h hself d
      rw [run, run]
      exact Desk.alike_act_of hresult hafter (fun _ _ => rfl) fun _ _ _ hd => hd
    | _ => exact hinstalls.elim
  · -- First the indexes are left out, and then the dialect is changed.
    have herased := alike_withoutIndexes hinstalls (r.inDialect d) b handles
    have hchanged : Desk.Alike Backend.SameState
        (request.run (r.inDialect d) ⟨b.withoutIndexes, handles⟩)
        (request.run (r.inDialect .mySql) ⟨b.withoutIndexes, handles⟩) :=
      alike_inDialect (b := b.withoutIndexes) hread (h.objects r.table hr.objects) hinstalls d .mySql
    refine ⟨hchanged.answer.trans herased.answer, hchanged.handles.trans herased.handles, ?_⟩
    have hbackend := hchanged.backend
    rw [backend_withoutIndexes hinstalls] at hbackend
    exact ⟨hbackend.1, hbackend.2⟩

/-! What is sent. -/

theorem creates_of_installs (hinstalls : request.Installs)
    (hb : ∀ event ∈ b.journal, event.Creates) :
    ∀ event ∈ (request.run r ⟨b, handles⟩).2.backend.journal, event.Creates := by
  cases request with
  | install =>
    rw [run, Desk.backend_act fun _ _ => rfl]
    exact r.keeps_creates_install b hb
  | installMetadata =>
    rw [run, Desk.backend_act fun _ _ => rfl]
    exact r.metadataStore.keeps_creates_install b hb
  | _ => exact hinstalls.elim

/-- The same statements and calls of the cache are sent in every dialect. -/
theorem journal_inDialect (hinstalls : ¬ request.Installs) (hcreate : ¬ request.IsCreate)
    (d : Dialect) :
    (request.run (r.inDialect d) ⟨b, handles⟩).2.backend.journal =
      (request.run r ⟨b.withoutIndexes, handles⟩).2.backend.journal := by
  rw [run_inDialect hinstalls hcreate, backend_withoutIndexes hinstalls,
    Backend.journal_withoutIndexes]

/-- A creation sends the same in every dialect, but for the way in which it gets to the id. -/
theorem journal_create (hread : r.ReadAlike) (hkind : ∀ rows, b.database.table? r.table ≠
    some (.metadata rows)) (handles : Std.ExtTreeMap String Handle) (raw handle : String) :
    ∃ bound, ∀ (d : Dialect) (c : Backend), c.withoutIndexes = b.withoutIndexes →
      ((create raw handle).run (r.inDialect d) ⟨c, handles⟩).2.backend.journal =
        b.journal ++ d.creation r.table raw bound
          ((create raw handle).run (r.inDialect d) ⟨c, handles⟩).1.isOk := by
  obtain ⟨result, db, bound, hends, -⟩ :=
    Repository.create_inDialect (b := b.withoutIndexes) hread.inserts hkind raw
  refine ⟨bound, fun d c hc => ?_⟩
  have hinstalls : ¬ (create raw handle).Installs := id
  have hbackend := backend_withoutIndexes hinstalls (r.inDialect d) c handles
  have herased := (alike_withoutIndexes hinstalls (r.inDialect d) c handles).answer
  rw [hc] at herased hbackend
  have hanswer : ((create raw handle).run (r.inDialect d) ⟨b.withoutIndexes, handles⟩).1.isOk =
      result.isOk := by
    rw [run, Desk.act, hends]
    cases result <;> rfl
  have hjournal :
      ((create raw handle).run (r.inDialect d) ⟨b.withoutIndexes, handles⟩).2.backend.journal =
        b.journal ++ d.creation r.table raw bound result.isOk := by
    rw [run, Desk.backend_act fun _ _ => rfl, hends]
    rfl
  rw [hbackend, Backend.journal_withoutIndexes] at hjournal
  rw [herased] at hanswer
  rw [hjournal, hanswer]

/-- The object that a creation answers is that of the row it added. -/
theorem row_of_create (hread : r.ReadAlike) (hkind : ∀ rows, b.database.table? r.table ≠
    some (.metadata rows)) {raw handle : String} {d : Dialect} {held : Handle} {desk : Desk}
    (h : (create raw handle).run (r.inDialect d) ⟨b, handles⟩ = (.ok (.object held), desk)) :
    held.object.name = Text.trim raw ∧
      r.AddsRow b.database desk.backend.database held.object.id held.object.name := by
  obtain ⟨result, db, bound, hends, hrow⟩ := Repository.create_inDialect hread.inserts hkind raw
  rw [run, Desk.act, hends] at h
  cases result with
  | error e => cases h
  | ok object =>
    cases h
    exact hrow object rfl

end Request

end ObjectCatalog
