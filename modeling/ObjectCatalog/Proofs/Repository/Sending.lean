import ObjectCatalog.Proofs.Database.Names
import ObjectCatalog.Proofs.Repository.Calls

/-!
# What a request sends

A request sends statements of few kinds, all of them about the tables of its repository, and
`Request.Sends` lists them with all that is known of the values they carry: a name that is written is
trimmed and not empty, and a search carries the pattern and the plan that were made of what was asked
for. Whatever these statements and the calls of the cache leave true is true after the request
(`Request.keeps_of_sends`).

The parts of `Repository.AlikeParts` are asked about all names that could be written. Here a part is
asked only about what a request can give it.
-/

namespace ObjectCatalog

namespace Request

/-- Whether a request installs tables. -/
def Installs : Request → Prop
  | .install | .installMetadata => True
  | _ => False

/-- The statements that a request of a repository may send. -/
inductive Sends (request : Request) (r : Repository) : Statement → Prop
  | createObjects (h : request.Installs) :
      Sends request r (.createObjects r.table r.connection.tableOptions)
  | createMetadata (h : request.Installs) : Sends request r
      (.createMetadata r.metadataStore.table r.metadataStore.connection.tableOptions)
  | createIndex (h : request.Installs) (column : IndexedColumn) :
      Sends request r (.createIndex r.metadataStore.table column)
  | insertObject {name : String} (h : IsNormalName name) : Sends request r (.insertObject r.table name)
  | insertReturning {name : String} (h : IsNormalName name) :
      Sends request r (.insertReturning r.table name)
  | lastInsertId : Sends request r .lastInsertId
  | renameObject {name : String} (h : IsNormalName name) (id : Int64) :
      Sends request r (.renameObject r.table name id)
  | deleteObject (id : Int64) : Sends request r (.deleteObject r.table id)
  | storedName (id : Int64) : Sends request r (.storedName r.table id)
  | findObject (lookup : Lookup) : Sends request r (.findObject r.table lookup)
  | countObjects {query : String} {options : SearchOptions} (h : request = .search query options) :
      Sends request r (.countObjects r.table (Repository.namePattern query))
  | listObjects {query : String} {options : SearchOptions} (h : request = .search query options) :
      Sends request r (.listObjects r.table (Repository.namePattern query) options.field
        options.direction (max options.limit 0) (max options.offset 0))
  | deleteMetadata (object : Int64) : Sends request r (.deleteMetadata r.metadataStore.table object)
  | deleteEntry (object : Int64) (key : String) :
      Sends request r (.deleteEntry r.metadataStore.table object key)
  | insertEntry (object : Int64) (key value : String) :
      Sends request r (.insertEntry r.metadataStore.table object key value)
  | listMetadata (object : Int64) : Sends request r (.listMetadata r.metadataStore.table object)
  | countMatches {p : Predicate} {options : MetadataSearchOptions} {plan : Plan}
      (h : request = .metaSearch p options) (hplan : Plan.ofPredicate r.metaTable p = .ok plan) :
      Sends request r (.countMatches r.table plan)
  | listMatches {p : Predicate} {options : MetadataSearchOptions} {plan : Plan}
      (h : request = .metaSearch p options) (hplan : Plan.ofPredicate r.metaTable p = .ok plan) :
      Sends request r (.listMatches r.table plan options.direction (max options.limit 0)
        (max options.offset 0))

/-- What a request sends and asks of the cache is alike on backends in `R`. -/
structure AlikeCalls (request : Request) (r : Repository) (R : Backend → Backend → Prop) : Prop where
  send : ∀ {s : Statement}, request.Sends r s → Action.Alike R (Backend.send s)
  fetch : ∀ lookup, Action.Alike R (Backend.fetch (r.lookupKey lookup))
  store : ∀ lookup text, Action.Alike R (Backend.store (r.lookupKey lookup) text)
  delete : ∀ lookup, Action.Alike R (Backend.delete (r.lookupKey lookup))

namespace AlikeCalls

variable {request : Request} {r : Repository} {R : Backend → Backend → Prop}
  (calls : request.AlikeCalls r R)
include calls

/-! ## Metadata -/

theorem writeRemovals (id : Int64) (keys : List String) :
    Action.Alike R (r.metadataStore.writeRemovals id keys) := by
  induction keys with
  | nil => exact Action.alike_pure _
  | cons key rest ih => exact (calls.send (.deleteEntry id key)).bind fun _ => ih

theorem writeUpserts (id : Int64) (entries : List (String × String)) :
    Action.Alike R (r.metadataStore.writeUpserts id entries) := by
  induction entries with
  | nil => exact Action.alike_pure _
  | cons entry rest ih =>
    exact (calls.send (.deleteEntry id entry.1)).bind fun _ =>
      (calls.send (.insertEntry id entry.1 entry.2)).bind fun _ => ih

theorem save : Editing.Alike R r.metadataStore.save := by
  refine Editing.alike_get.bind fun object => ?_
  simp only
  split
  · exact Editing.alike_pure _
  · exact (calls.writeRemovals _ _).editing.bind fun _ =>
      (calls.writeUpserts _ _).editing.bind fun _ => Editing.alike_set _

theorem apply (object : NamedObject) : Action.Alike R (r.metadataStore.apply object) :=
  (calls.send (.listMetadata object.id)).bind fun _ => Action.alike_pure _

theorem remove (id : Int64) : Action.Alike R (r.metadataStore.remove id) :=
  calls.send (.deleteMetadata id)

/-- The two dialects without options create the table with the empty text for them. -/
theorem installMetadata (h : request.Installs) : Action.Alike R r.metadataStore.install := by
  have hcreate := calls.send (.createMetadata h)
  unfold Connection.tableOptions at hcreate
  unfold MetadataStore.install Connection.tableOptions
  cases hdialect : r.metadataStore.connection.dialect with
  | mySql =>
    rw [hdialect] at hcreate
    exact hcreate
  | postgres | sqlite =>
    rw [hdialect] at hcreate
    exact hcreate.bind fun _ => (calls.send (.createIndex h .object)).bind fun _ =>
      calls.send (.createIndex h .name)

/-! ## Objects -/

theorem install (h : request.Installs) : Action.Alike R r.install :=
  (calls.send (.createObjects h)).bind fun _ => calls.installMetadata h

theorem create (raw : String) : Action.Alike R (r.create raw) := by
  unfold Repository.create
  simp only
  split
  · exact Action.alike_throw _
  · rename_i hne
    have hname := isNormalName_trim hne
    have hinsert : Action.Alike R (r.insertName (Text.trim raw)) := by
      unfold Repository.insertName
      split
      · exact calls.send (.insertReturning hname)
      · exact (calls.send (.insertObject hname)).bind fun _ => calls.send .lastInsertId
    exact (hinsert.adapt _).bind fun _ => Action.alike_pure _

theorem rename (object : NamedObject) {name : String} (hname : IsNormalName name) :
    Action.Alike R (r.rename object name) :=
  (calls.send (.storedName object.id)).bind fun _ =>
    ((calls.send (.renameObject hname object.id)).adapt _).bind fun _ =>
      Repository.alike_invalidate calls.delete _ _ _

theorem update : Editing.Alike R r.update := by
  refine calls.save.bind fun _ => Editing.alike_get.bind fun object => ?_
  simp only
  split
  · exact Editing.alike_set _
  · split
    · exact Editing.alike_throw _
    · rename_i hne
      exact (calls.rename object (isNormalName_trim hne)).editing.bind fun _ => Editing.alike_set _

theorem deleteObject (object : NamedObject) : Action.Alike R (r.delete object) :=
  (calls.send (.storedName object.id)).bind fun _ =>
    (calls.send (.deleteObject object.id)).bind fun _ =>
      (calls.remove object.id).bind fun _ => Repository.alike_invalidate calls.delete _ _ _

/-! ## Lookups and searches -/

theorem find (lookup : Lookup) : Action.Alike R (r.find lookup) := by
  have hfindRow : Action.Alike R (r.findRow lookup) := Repository.alike_findRow_of_calls
    (calls.fetch lookup) (calls.send (.findObject lookup)) (calls.store lookup)
  refine hfindRow.bind fun found => ?_
  cases found with
  | none => exact Action.alike_pure _
  | some row => exact (calls.apply _).map _

theorem loadAll (ids : List Int64) : Action.Alike R (r.loadAll ids) := by
  induction ids with
  | nil => exact Action.alike_pure _
  | cons id rest ih =>
    exact (calls.find (.id id)).bind fun _ => ih.bind fun _ => Action.alike_pure _

theorem search {query : String} {options : SearchOptions} (h : request = .search query options) :
    Action.Alike R (r.search query options) :=
  (calls.send (.countObjects h)).bind fun _ => (calls.send (.listObjects h)).bind fun ids =>
    (calls.loadAll ids).bind fun _ => Action.alike_pure _

theorem metaSearch {p : Predicate} {options : MetadataSearchOptions}
    (h : request = .metaSearch p options) : Action.Alike R (r.metaSearch p options) := by
  unfold Repository.metaSearch
  split
  · exact Action.alike_throw _
  · split
    · exact Action.alike_throw _
    · rename_i plan hplan
      exact (calls.send (.countMatches h hplan)).bind fun _ =>
        (calls.send (.listMatches h hplan)).bind fun ids =>
          (calls.loadAll ids).bind fun _ => Action.alike_pure _

/-! ## Requests -/

/-- A request is alike on backends in `R` if all that it sends and asks for is. -/
theorem run {b b' : Backend} {handles : Std.ExtTreeMap String Handle} (h : R b b') :
    Desk.Alike R (request.run r ⟨b, handles⟩) (request.run r ⟨b', handles⟩) := by
  cases request with
  | install => exact Desk.alike_answer (calls.install trivial) h
  | installMetadata => exact Desk.alike_answer (calls.installMetadata trivial) h
  | create name handle =>
    rw [Request.run, Request.run]
    refine Desk.alike_act (calls.create name) ?_ ?_ h
    · exact fun _ _ => rfl
    · exact fun object _ _ hd => congrArg (·.insert handle (.ofObject object)) hd
  | load key handle | loadById id handle | loadByName name handle =>
    exact Desk.alike_lookUp (calls.find _) h
  | search query options => exact Desk.alike_answer (calls.search rfl) h
  | metaSearch p options => exact Desk.alike_answer (calls.metaSearch rfl) h
  | update handle => exact Desk.alike_edit calls.update h
  | saveMetadata handle => exact Desk.alike_edit calls.save h
  | delete handle => exact Request.alike_delete calls.deleteObject handle h
  | dropMetadata handle =>
    refine Desk.alike_withHandle (fun held => ?_) h
    exact Desk.alike_answer (calls.remove _) h
  | applyMetadata handle =>
    rw [Request.run, Request.run]
    refine Desk.alike_withHandle (fun held => ?_) h
    refine Desk.alike_act (calls.apply held.object) ?_ ?_ h
    · exact fun _ _ => rfl
    · exact fun object _ _ hd => congrArg (·.insert handle { held with object := object }) hd
  | setName handle | setMeta handle | removeMeta handle | getMeta handle
  | «show» handle | delta handle =>
    exact Desk.alike_withHandle (fun held => ⟨rfl, rfl, h⟩) h

end AlikeCalls

/-- What is kept by all that a request sends and by the calls of the cache is true after it, however
it ends. -/
theorem keeps_of_sends {request : Request} {r : Repository} {P : Backend → Prop}
    (hsend : ∀ {s : Statement}, request.Sends r s → Action.Keeps P (Backend.send s))
    (hfetch : ∀ key, Action.Keeps P (Backend.fetch key))
    (hstore : ∀ key text, Action.Keeps P (Backend.store key text))
    (hdelete : ∀ key, Action.Keeps P (Backend.delete key)) {desk : Desk} (h : P desk.backend) :
    P (request.run r desk).2.backend := by
  have calls : request.AlikeCalls r (Backend.Same P) :=
    ⟨fun hs => (hsend hs).alike, fun _ => (hfetch _).alike, fun _ text => (hstore _ text).alike,
      fun _ => (hdelete _).alike⟩
  -- Both desks are one desk, so that nothing but what holds of it is compared.
  exact (calls.run ⟨h, rfl⟩).backend.1

/-- What is kept by all that a request sends is true of the database after it. -/
theorem keeps_database_of_sends {request : Request} {r : Repository} {P : Database → Prop}
    (hP : ∀ {s : Statement} {answer : s.Answer} {db db' : Database}, request.Sends r s →
      db.run s = .ok (answer, db') → P db → P db') {desk : Desk} (h : P desk.backend.database) :
    P (request.run r desk).2.backend.database := by
  refine keeps_of_sends (P := fun b => P b.database) (fun hs => ?_) (fun _ b hb => ?_)
    (fun _ _ b hb => ?_) (fun _ b hb => ?_) h
  · exact Action.meets_iff_keeps.1 <| Backend.meets_send (fun _ _ _ hb hrun => hP hs hrun hb)
      fun _ _ hb _ => hb
  · show P (Backend.fetch _ b).2.database
    rwa [Backend.database_fetch]
  · show P (Backend.store _ _ b).2.database
    rwa [Backend.database_store]
  · show P (Backend.delete _ b).2.database
    rwa [Backend.database_delete]

end Request

end ObjectCatalog
