import ObjectCatalog.Proofs.Cache.Transparency
import ObjectCatalog.Proofs.Database.Metadata
import ObjectCatalog.Proofs.Repository.Deleted

/-!
# What a lookup returns

Where the tables are there, the cache is coherent and its calls succeed (`Repository.Serves`), a lookup
is answered, and what it answers can be read off the two tables: the row that the object table has for
it, with the metadata that its rows amount to (`Repository.find_eq`). It leaves all of this as it is, so
what is true of one lookup is true of a list of them (`Repository.loadAll_eq`).

Whether a statement can be read depends on the texts it names its tables by. With plain names all of
them can (`Database.readable_of_isPlainName`), and it is the only thing about names that is asked for
here.
-/

namespace ObjectCatalog

/-! ## 1. Statements that can be read -/

/-- Every statement about the rows of a table can be read. -/
def Database.Readable (table : String) : Prop :=
  ∀ s : Statement, s.names = [table] → ¬ s.Creates → Database.textRefusal? s = none

/-- Only a metadata search grows with what it asks for. -/
theorem Statement.exceeded?_of_plan?_eq_none {s : Statement} (h : s.plan? = none) :
    s.exceeded? = none := by
  have hamount : ∀ limit, s.amount limit = 0 := by
    intro limit
    rw [amount, h]
  rw [exceeded?, List.find?_eq_none]
  intro limit _
  rw [hamount]
  exact fun hlt => absurd (of_decide_eq_true hlt) (Nat.not_lt_zero _)

theorem Statement.tables_namesLike (pattern : Option String) :
    Template.tables (namesLike pattern) = [] := by
  cases pattern with
  | none => rfl
  | some pattern => rfl

/-- A statement with one name has one table in its text, and it is no metadata search. -/
theorem Statement.tables_of_names {s : Statement} {table : String} (h : s.names = [table]) :
    s.plan? = none ∧ ∀ d, (s.template d).tables = [table] := by
  cases s with
  | createIndex | lastInsertId | countMatches | listMatches => cases h
  | findObject other lookup =>
    cases h
    refine ⟨rfl, fun d => ?_⟩
    cases lookup with
    | id id => rfl
    | name name => rfl
  | countObjects other pattern =>
    cases h
    refine ⟨rfl, fun d => ?_⟩
    exact congrArg (List.cons _) (tables_namesLike pattern)
  | listObjects other pattern field direction limit offset =>
    cases h
    have hrest : ∀ rest : Template, rest.tables = [] →
        Template.tables (namesLike pattern ++ rest) = [] := by
      intro rest hrest
      rw [Template.tables_append, tables_namesLike, hrest, List.append_nil]
    exact ⟨rfl, fun d => congrArg (List.cons _) (hrest _ rfl)⟩
  | _ =>
    cases h
    exact ⟨rfl, fun d => rfl⟩

/-- A statement about one table with a plain name can be read. -/
theorem Database.textRefusal?_of_isPlainName {s : Statement} {table : String} (hs : s.names = [table])
    (h : isPlainName table = true) : textRefusal? s = none := by
  obtain ⟨hplan, htables⟩ := Statement.tables_of_names hs
  have hplain : ∀ name ∈ (s.template .sqlite).tables, isPlainName name = true := by
    intro name hname
    rw [htables, List.mem_singleton] at hname
    rw [hname]
    exact h
  rw [textRefusal?, Statement.exceeded?_of_plan?_eq_none hplan,
    Template.fault?_of_isPlainName .sqlite hplain]
  rfl

/-- A table with a plain name can stand anywhere. -/
theorem Database.readable_of_isPlainName {table : String} (h : isPlainName table = true) :
    Readable table :=
  fun _ hs _ => textRefusal?_of_isPlainName hs h

theorem Database.run_of_readable {db : Database} {s : Statement} {table : String}
    (h : Readable table) (hs : s.names = [table]) (hcreates : ¬ s.Creates) :
    db.run s = db.carryOut s := by
  rw [run, h s hs hcreates]

/-! ## 2. A repository that serves -/

/-- Every call of the cache succeeds. -/
def Backend.Works (b : Backend) : Prop :=
  ∀ call key, b.cache.fault call key = none

/-- The tables of a repository are there, with these rows, and statements can name them. -/
structure Repository.Ready (r : Repository) (db : Database) (t : ObjectTable)
    (rows : List MetadataRow) : Prop where
  objects : db.objects r.table = .ok t
  metadata : db.metadata r.metadataStore.table = .ok rows
  readable : Database.Readable r.table
  readableMetadata : Database.Readable r.metadataStore.table

/-- The tables are there, every entry of the cache is a row of the object table, and the calls of the
cache succeed. -/
structure Repository.Serves (r : Repository) (b : Backend) (t : ObjectTable)
    (rows : List MetadataRow) : Prop where
  ready : r.Ready b.database t rows
  coherent : r.Coherent b
  works : b.Works

namespace Backend

theorem keeps_works_send (s : Statement) : Action.Keeps Works (send s) :=
  Action.meets_iff_keeps.1 <| meets_send (fun _ _ _ hb _ => hb) fun _ _ hb _ => hb

theorem keeps_works_fetch (key : String) : Action.Keeps Works (fetch key) :=
  keeps_fetch (fun _ _ hb => hb) key

theorem keeps_works_store (key value : String) : Action.Keeps Works (store key value) := by
  intro b hb
  rw [store_of_none (hb .store key)]
  intro call k
  show (b.cache.put key value).fault call k = none
  unfold Cache.put
  split
  · exact hb call k
  · exact hb call k

theorem keeps_works_delete (key : String) : Action.Keeps Works (delete key) := by
  intro b hb
  rw [delete_of_none (hb .delete key)]
  exact hb

end Backend

namespace Repository

variable {r : Repository} {b c : Backend} {t t' : ObjectTable} {rows rows' : List MetadataRow}

/-- Calls of the cache that succeed go on doing so. -/
theorem alikeParts_works : r.AlikeParts (Backend.Same Backend.Works) :=
  alikeParts_of_calls (fun s => (Backend.keeps_works_send s).alike)
    fun _ => (Backend.keeps_works_delete _).alike

theorem keeps_works_findRow (lookup : Lookup) : Action.Keeps Backend.Works (r.findRow lookup) :=
  (alike_findRow_of_calls (Backend.keeps_works_fetch _).alike (Backend.keeps_works_send _).alike
    fun _ => (Backend.keeps_works_store _ _).alike).keeps

/-- The induction is on the requests that are still to be made. -/
theorem works_runAll {desk : Desk} {requests : List Request} (h : desk.backend.Works) :
    (r.runAll desk requests).backend.Works := by
  induction requests generalizing desk with
  | nil => exact h
  | cons request rest ih =>
    apply ih
    exact Request.keeps_backend (fun s _ => Backend.keeps_works_send s)
      (fun _ => Backend.keeps_works_fetch _) (fun _ _ => Backend.keeps_works_store _ _)
      (fun _ => Backend.keeps_works_delete _) request h

theorem Ready.of_database {db db' : Database} (h : r.Ready db t rows)
    (hobjects : db'.objects? r.table = some t')
    (hmetadata : db'.metadata r.metadataStore.table = .ok rows') : r.Ready db' t' rows' :=
  ⟨Database.objects_eq_ok_iff.2 hobjects, hmetadata, h.readable, h.readableMetadata⟩

/-- With plain names it is enough that the tables are there. -/
theorem Ready.of_isPlainName {db : Database} (htable : isPlainName r.table = true)
    (hstore : isPlainName r.metadataStore.table = true) (hobjects : db.objects r.table = .ok t)
    (hmetadata : db.metadata r.metadataStore.table = .ok rows) : r.Ready db t rows :=
  ⟨hobjects, hmetadata, Database.readable_of_isPlainName htable,
    Database.readable_of_isPlainName hstore⟩

theorem Ready.objects? {db : Database} (h : r.Ready db t rows) : db.objects? r.table = some t :=
  Database.objects_eq_ok_iff.1 h.objects

theorem Serves.sound (h : r.Serves b t rows) : t.Sound :=
  h.coherent.sound h.ready.objects?

theorem Serves.of_database (h : r.Serves b t rows) (hdb : c.database = b.database)
    (hcoherent : r.Coherent c) (hworks : c.Works) : r.Serves c t rows :=
  ⟨hdb ▸ h.ready, hcoherent, hworks⟩

/-- From a store without objects every step of a program leaves the cache coherent, if it had no
entries. -/
theorem coherent_of_moves {db : Database} {cache : Cache} {desk : Desk} (hdb : r.StartsEmpty db)
    (hcache : cache = .memory ∨ cache = .null)
    (h : Relation.ReflTransGen r.Moves ⟨.start db cache, ∅⟩ desk) : r.Coherent desk.backend := by
  have hstart : r.Coherent (.start db cache) := by
    have hempty : ∀ key, cache.get? key = none := by
      intro key
      rcases hcache with rfl | rfl
      · exact Std.ExtTreeMap.getElem?_empty
      · exact Std.ExtTreeMap.getElem?_empty
    refine ⟨fun {t} ht => ?_, fun key => ?_, fun {key value} hkey _ => ?_⟩
    · obtain ⟨c, rfl⟩ := hdb t ht
      exact ObjectTable.sound_empty c
    · rcases hcache with rfl | rfl
      · rfl
      · rfl
    · have hnone : (Backend.start db cache).cache.get? key = none := hempty key
      rw [hnone] at hkey
      cases hkey
  induction h with
  | refl => exact hstart
  | tail _ hmove ih => exact hmove.coherent ih

/-! ## 3. Lookups -/

theorem Ready.run_findObject {db : Database} (h : r.Ready db t rows) (lookup : Lookup) :
    db.run (.findObject r.table lookup) = .ok (t.find? lookup, db) := by
  rw [Database.run_of_readable h.readable rfl id, Database.carryOut, h.objects]
  rfl

/-- The row that a lookup finds in the table, whether the cache has it or not. Of the cache only the entry
under the key of the lookup matters. -/
theorem findRow_of_backed (h : r.Ready b.database t rows) (hsound : t.Sound) (hworks : b.Works)
    {lookup : Lookup}
    (hbacked : ∀ text, b.cache.get? (r.lookupKey lookup) = some text →
      r.Backed b.database (r.lookupKey lookup) text) :
    ∃ c, r.findRow lookup b = (.ok ((t.find? lookup).map fun row => ⟨row.1, row.2⟩), c) ∧
      c.database = b.database := by
  have hrun := h.run_findObject lookup
  cases hentry : b.cache.get? (r.lookupKey lookup) with
  | some text =>
    -- What the cache has under the key of the lookup is what the table answers.
    have hanswers := (hbacked text hentry).answer fun {u} hu =>
      Option.some.inj (h.objects?.symm.trans hu) ▸ hsound
    obtain ⟨id, name, hparse, -, hanswer⟩ := hanswers
    rw [hrun] at hanswer
    obtain ⟨hfind, -⟩ := Prod.mk.inj (Except.ok.inj hanswer)
    rw [hfind, findRow_of_hit (hworks .fetch _) hentry hparse]
    exact ⟨_, rfl, rfl⟩
  | none =>
    rw [findRow_of_miss (hworks .fetch _) hentry]
    let asked := b.record (.cacheCall .fetch (r.lookupKey lookup))
    have hasked : asked.Works := hworks
    have hrunAsked : asked.database.run (.findObject r.table lookup) =
        .ok (t.find? lookup, asked.database) := hrun
    cases hfind : t.find? lookup with
    | none =>
      rw [hfind] at hrunAsked
      exact ⟨_, Action.bind_of_ok (Backend.send_of_ok hrunAsked), rfl⟩
    | some row =>
      rw [hfind] at hrunAsked
      by_cases hcaches : cachesAs lookup ⟨row.1, row.2⟩ = true
      · obtain ⟨c, hfound, hdb, -⟩ :=
          findInTable_of_found (hasked .store _) hrunAsked hcaches
        exact ⟨c, hfound, hdb⟩
      · refine ⟨asked.record (.statement (.findObject r.table lookup) true),
          (Action.bind_of_ok (Backend.send_of_ok hrunAsked)).trans ?_, rfl⟩
        simp only [hcaches]
        rfl

theorem findRow_eq (h : r.Serves b t rows) (lookup : Lookup) :
    ∃ c, r.findRow lookup b = (.ok ((t.find? lookup).map fun row => ⟨row.1, row.2⟩), c) ∧
      r.Serves c t rows ∧ c.database = b.database := by
  have hbacked : ∀ text, b.cache.get? (r.lookupKey lookup) = some text →
      r.Backed b.database (r.lookupKey lookup) text :=
    fun text hentry => h.coherent.backed hentry id
  obtain ⟨c, hrun, hdb⟩ := findRow_of_backed h.ready h.sound h.works hbacked
  have hcoherent := keeps_findRow lookup b h.coherent
  have hworks := keeps_works_findRow (r := r) lookup b h.works
  rw [hrun] at hcoherent hworks
  exact ⟨c, hrun, h.of_database hdb hcoherent hworks, hdb⟩

end Repository

/-- A read sends one statement, and what it answers is made of the rows that are there. -/
theorem MetadataStore.apply_of_metadata {store : MetadataStore} {b : Backend}
    {rows : List MetadataRow} {object : NamedObject}
    (hread : Database.textRefusal? (.listMetadata store.table object.id) = none)
    (hrows : b.database.metadata store.table = .ok rows) :
    store.apply object b = (.ok (object.hydrate (MetadataTable.loaded rows object.id)),
      b.record (.statement (.listMetadata store.table object.id) true)) := by
  have hrun : b.database.run (.listMetadata store.table object.id) =
      .ok (MetadataTable.entriesOf rows object.id, b.database) := by
    refine Database.run_eq_ok_iff.2 ⟨hread, ?_⟩
    rw [Database.carryOut, hrows]
    rfl
  exact Action.bind_of_ok (Backend.send_of_ok hrun)

/-- The object of a row, with the metadata that the rows of its metadata table amount to. -/
def NamedObject.stored (rows : List MetadataRow) (row : Int64 × String) : NamedObject :=
  (NamedObject.fresh row.1 row.2).hydrate (MetadataTable.loaded rows row.1)

namespace Repository

variable {r : Repository} {b : Backend} {t : ObjectTable} {rows : List MetadataRow}

theorem apply_eq (h : r.Serves b t rows) (object : NamedObject) :
    ∃ c, r.metadataStore.apply object b =
        (.ok (object.hydrate (MetadataTable.loaded rows object.id)), c) ∧
      r.Serves c t rows ∧ c.database = b.database := by
  have hread := h.ready.readableMetadata (.listMetadata r.metadataStore.table object.id) rfl id
  exact ⟨_, MetadataStore.apply_of_metadata hread h.ready.metadata,
    h.of_database rfl (h.coherent.record _) h.works, rfl⟩

/-- **A lookup returns what the tables hold.** -/
theorem find_eq (h : r.Serves b t rows) (lookup : Lookup) :
    ∃ c, r.find lookup b = (.ok ((t.find? lookup).map (.stored rows)), c) ∧
      r.Serves c t rows ∧ c.database = b.database := by
  obtain ⟨c, hrow, hserves, hdb⟩ := findRow_eq h lookup
  unfold find
  rw [Action.bind_of_ok hrow]
  cases t.find? lookup with
  | none => exact ⟨c, rfl, hserves, hdb⟩
  | some row =>
    obtain ⟨d, happly, hserves', hdb'⟩ := apply_eq hserves (.fresh row.1 row.2)
    refine ⟨d, ?_, hserves', hdb'.trans hdb⟩
    exact (Action.bind_of_ok happly).trans rfl

/-- The same of one lookup in a cache of which nothing else is known. -/
theorem find_of_backed (h : r.Ready b.database t rows) (hsound : t.Sound) (hworks : b.Works)
    {lookup : Lookup}
    (hbacked : ∀ text, b.cache.get? (r.lookupKey lookup) = some text →
      r.Backed b.database (r.lookupKey lookup) text) :
    (r.find lookup b).1 = .ok ((t.find? lookup).map (.stored rows)) := by
  obtain ⟨c, hrow, hdb⟩ := findRow_of_backed h hsound hworks hbacked
  unfold find
  rw [Action.bind_of_ok hrow]
  cases t.find? lookup with
  | none => rfl
  | some row =>
    have hread := h.readableMetadata (.listMetadata r.metadataStore.table row.1) rfl id
    have hrows : c.database.metadata r.metadataStore.table = .ok rows :=
      (congrArg (·.metadata r.metadataStore.table) hdb).trans h.metadata
    have happly : r.metadataStore.apply (.fresh row.1 row.2) c = (.ok (.stored rows row), _) :=
      MetadataStore.apply_of_metadata hread hrows
    exact congrArg Prod.fst ((Action.bind_of_ok happly).trans rfl)

theorem loadById_eq (h : r.Serves b t rows) (id : Int64) :
    ∃ c, r.loadById id b = (.ok (t.rows[id]?.map fun name => .stored rows (id, name)), c) ∧
      r.Serves c t rows ∧ c.database = b.database := by
  obtain ⟨c, hfind, hserves, hdb⟩ := find_eq h (.id id)
  rw [ObjectTable.find?, Option.map_map] at hfind
  exact ⟨c, hfind, hserves, hdb⟩

/-- The objects of a list of ids, in its order, without those that have no row. The induction is on the
ids that are still to be loaded. -/
theorem loadAll_eq (h : r.Serves b t rows) (ids : List Int64) :
    ∃ c, r.loadAll ids b =
        (.ok (ids.filterMap fun id => t.rows[id]?.map fun name => .stored rows (id, name)), c) ∧
      r.Serves c t rows ∧ c.database = b.database := by
  induction ids generalizing b with
  | nil => exact ⟨b, rfl, h, rfl⟩
  | cons id rest ih =>
    obtain ⟨c, hload, hserves, hdb⟩ := loadById_eq h id
    obtain ⟨d, hrest, hserves', hdb'⟩ := ih hserves
    refine ⟨d, ?_, hserves', hdb'.trans hdb⟩
    rw [loadAll, Action.bind_of_ok hload, Action.bind_of_ok hrest, List.filterMap_cons]
    cases t.rows[id]? with
    | none => rfl
    | some name => rfl

end Repository

end ObjectCatalog
