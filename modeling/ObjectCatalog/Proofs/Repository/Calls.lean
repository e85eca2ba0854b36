import ObjectCatalog.Proofs.Database.Effects
import ObjectCatalog.Proofs.Predicate.PlanShape
import ObjectCatalog.Proofs.Repository.Alike
import ObjectCatalog.Session.Request

/-!
# Calls and requests, part by part

The calls of a repository are put together from a few parts: statements that leave the objects
alone, the creation of the object table, the insertion and the renaming of a row, and the look for a
row through the cache. What is shown of these parts goes through to every call, and from there to
every request but a deletion (`Request.alike_run`). So an invariant of a run, or a relation between
two runs, has to be looked at for the parts only.

The statements of a repository name its own tables and indexes and no others (`Repository.names`), and
its calls of the cache are for its own keys; nothing has to be shown of the rest.

A deletion is a part of its own: it changes two tables and the cache, and what it breaks on the way
it mends at its end.
-/

namespace ObjectCatalog

variable {R : Backend → Backend → Prop}

/-! ## Names -/

/-- Whether a statement is about some of the given tables and indexes, and about nothing else. -/
def Statement.IsAmong (s : Statement) (names : List String) : Prop :=
  s.names ≠ [] ∧ ∀ name ∈ s.names, name ∈ names

theorem Statement.IsAmong.of_table {s : Statement} {names : List String} {table : String}
    (hs : s.names = [table]) (htable : table ∈ names) : s.IsAmong names := by
  refine ⟨by rw [hs]; exact List.cons_ne_nil _ _, fun name hname => ?_⟩
  rw [hs, List.mem_singleton] at hname
  exact hname ▸ htable

theorem Statement.IsAmong.of_tables {s : Statement} {names : List String} {table other : String}
    (hs : s.names = [table, other]) (htable : table ∈ names) (hother : other ∈ names) :
    s.IsAmong names := by
  refine ⟨by rw [hs]; exact List.cons_ne_nil _ _, fun name hname => ?_⟩
  rw [hs, List.mem_cons, List.mem_singleton] at hname
  rcases hname with rfl | rfl
  · exact htable
  · exact hother

/-- The table of a metadata store and its indexes, if they have names of their own. -/
def MetadataStore.names (store : MetadataStore) : List String :=
  store.table ::
    match store.connection.dialect with
    | .mySql => []
    | .postgres | .sqlite =>
      [IndexedColumn.object.indexName store.table, IndexedColumn.name.indexName store.table]

/-- The tables and indexes of a repository. -/
def Repository.names (r : Repository) : List String :=
  r.table :: r.metaTable :: r.metadataStore.names

/-! ## Metadata -/

namespace MetadataStore

variable {store : MetadataStore}

section Save

variable (hsend : ∀ s : Statement, s.SparesObjects → s.IsAmong store.names →
    Action.Alike R (Backend.send s))
include hsend

theorem alike_writeRemovals (id : Int64) (keys : List String) :
    Action.Alike R (store.writeRemovals id keys) := by
  induction keys with
  | nil => exact Action.alike_pure _
  | cons key rest ih =>
    exact (hsend _ (by trivial) (.of_table rfl List.mem_cons_self)).bind fun _ => ih

theorem alike_writeUpserts (id : Int64) (entries : List (String × String)) :
    Action.Alike R (store.writeUpserts id entries) := by
  induction entries with
  | nil => exact Action.alike_pure _
  | cons entry rest ih =>
    exact (hsend _ (by trivial) (.of_table rfl List.mem_cons_self)).bind fun _ =>
      (hsend _ (by trivial) (.of_table rfl List.mem_cons_self)).bind fun _ => ih

theorem alike_save : Editing.Alike R store.save := by
  refine Editing.alike_get.bind fun object => ?_
  simp only
  split
  · exact Editing.alike_pure _
  · exact (alike_writeRemovals hsend _ _).editing.bind fun _ =>
      (alike_writeUpserts hsend _ _).editing.bind fun _ => Editing.alike_set _

end Save

/-- What is kept by all statements that leave the objects alone is kept by what a save writes. -/
theorem keeps_writes {P : Backend → Prop}
    (hP : ∀ s : Statement, s.SparesObjects → Action.Keeps P (Backend.send s)) (id : Int64)
    (delta : MetadataDelta) :
    Action.Keeps P (store.writeRemovals id delta.removals) ∧
      Action.Keeps P (store.writeUpserts id delta.upserts) := by
  have hsend : ∀ s : Statement, s.SparesObjects → s.IsAmong store.names →
      Action.Alike (Backend.Same P) (Backend.send s) := fun s hs _ => (hP s hs).alike
  exact ⟨(alike_writeRemovals hsend _ _).keeps, (alike_writeUpserts hsend _ _).keeps⟩

variable (hsend : ∀ s : Statement, s.SparesObjects → ¬ s.AddsEntry → s.IsAmong store.names →
    Action.Alike R (Backend.send s))
include hsend

theorem alike_apply (object : NamedObject) : Action.Alike R (store.apply object) :=
  (hsend _ (by trivial) id (.of_table rfl List.mem_cons_self)).bind fun _ =>
    Action.alike_pure _

theorem alike_remove (id : Int64) : Action.Alike R (store.remove id) :=
  hsend _ (by trivial) (fun h => h) (.of_table rfl List.mem_cons_self)

theorem alike_install : Action.Alike R store.install := by
  have hcreate : ∀ options, Action.Alike R (Backend.send (.createMetadata store.table options)) :=
    fun _ => hsend _ (by trivial) id (.of_table rfl List.mem_cons_self)
  have hindex : ∀ column : IndexedColumn, column.indexName store.table ∈ store.names →
      Action.Alike R (Backend.send (.createIndex store.table column)) :=
    fun _ hname => hsend _ (by trivial) id (.of_tables rfl List.mem_cons_self hname)
  unfold names at hindex
  unfold install
  cases hdialect : store.connection.dialect with
  | mySql => exact hcreate _
  | postgres | sqlite =>
    rw [hdialect] at hindex
    refine (hcreate _).bind fun _ => (hindex .object ?_).bind fun _ => hindex .name ?_
    · exact List.mem_cons_of_mem _ List.mem_cons_self
    · exact List.mem_cons_of_mem _ (List.mem_cons_of_mem _ List.mem_cons_self)

end MetadataStore

/-! ## Calls -/

namespace Repository

variable {r : Repository}

/-- The parts of the calls that change something are alike on backends in `R`. -/
structure AlikeParts (r : Repository) (R : Backend → Backend → Prop) : Prop where
  send : ∀ s : Statement, s.SparesObjects → ¬ s.AddsEntry → s.IsAmong r.names →
    Action.Alike R (Backend.send s)
  createObjects : ∀ options, Action.Alike R (Backend.send (.createObjects r.table options))
  insertName : ∀ name, Action.Alike R (r.insertName name)
  rename : ∀ object name, Action.Alike R (r.rename object name)

/-- What the metadata store names is named by the repository. -/
theorem isAmong_names {s : Statement} (hs : s.IsAmong r.metadataStore.names) : s.IsAmong r.names :=
  ⟨hs.1, fun name hname =>
    List.mem_cons_of_mem _ (List.mem_cons_of_mem _ (hs.2 name hname))⟩

namespace AlikeParts

variable (parts : r.AlikeParts R)
include parts

theorem sendMetadata (s : Statement) (hspares : s.SparesObjects) (hadds : ¬ s.AddsEntry)
    (hs : s.IsAmong r.metadataStore.names) : Action.Alike R (Backend.send s) :=
  parts.send s hspares hadds (isAmong_names hs)

theorem install : Action.Alike R r.install :=
  (parts.createObjects _).bind fun _ => MetadataStore.alike_install parts.sendMetadata

theorem create (raw : String) : Action.Alike R (r.create raw) := by
  unfold Repository.create
  simp only
  split
  · exact Action.alike_throw _
  · exact ((parts.insertName _).adapt _).bind fun _ => Action.alike_pure _

theorem update (hsave : Editing.Alike R r.metadataStore.save) : Editing.Alike R r.update := by
  refine hsave.bind fun _ =>
    Editing.alike_get.bind fun object => ?_
  simp only
  split
  · exact Editing.alike_set _
  · split
    · exact Editing.alike_throw _
    · exact (parts.rename object _).editing.bind fun _ => Editing.alike_set _

end AlikeParts

/-- A statement that leaves the objects alone. -/
theorem keeps_send_objects {t : Option ObjectTable} (s : Statement) (hs : s.SparesObjects) :
    Action.Keeps (fun b => b.database.objects? r.table = t) (Backend.send s) :=
  Action.meets_iff_keeps.1 <| Backend.meets_send
    (fun _ _ _ hb hrun => (Database.objects?_of_sparesObjects hs hrun r.table).trans hb)
    fun _ _ hb _ => hb

section Deletions

variable (hdelete : ∀ lookup, Action.Alike R (Backend.delete (r.lookupKey lookup)))
include hdelete

theorem alike_invalidate (id : Int64) (known : String) (stored : Option String) :
    Action.Alike R (r.invalidate id known stored) := by
  unfold invalidate
  refine (hdelete (.id id)).bind fun _ => (hdelete (.name known)).bind fun _ => ?_
  cases stored with
  | none => exact Action.alike_pure _
  | some name =>
    simp only
    split
    · exact Action.alike_pure _
    · exact hdelete (.name name)

variable (hsend : ∀ s : Statement, s.IsAmong r.names → Action.Alike R (Backend.send s))
include hsend

theorem alike_rename (object : NamedObject) (name : String) :
    Action.Alike R (r.rename object name) :=
  (hsend _ (.of_table rfl List.mem_cons_self)).bind fun _ =>
    ((hsend _ (.of_table rfl List.mem_cons_self)).adapt _).bind fun _ =>
      alike_invalidate hdelete _ _ _

theorem alike_delete (object : NamedObject) : Action.Alike R (r.delete object) :=
  (hsend _ (.of_table rfl List.mem_cons_self)).bind fun _ =>
    (hsend _ (.of_table rfl List.mem_cons_self)).bind fun _ =>
      (MetadataStore.alike_remove (fun s _ _ hs => hsend s (isAmong_names hs)) _).bind fun _ =>
        alike_invalidate hdelete _ _ _

end Deletions

/-- What is cached is no matter of the database. -/
theorem keeps_invalidate {P : Database → Prop} (id : Int64) (known : String)
    (stored : Option String) :
    Action.Keeps (fun b => P b.database) (r.invalidate id known stored) :=
  (alike_invalidate (fun _ => Action.Keeps.alike fun b hb =>
    (Backend.database_delete _ b).symm ▸ hb) id known stored).keeps

section Parts

variable (hsend : ∀ s, Action.Alike R (Backend.send s))
include hsend

theorem alike_insertName (name : String) : Action.Alike R (r.insertName name) := by
  unfold insertName
  split
  · exact hsend _
  · exact (hsend _).bind fun _ => hsend _

/-- The parts that change something send statements and take entries out of the cache. -/
theorem alikeParts_of_calls
    (hdelete : ∀ lookup, Action.Alike R (Backend.delete (r.lookupKey lookup))) :
    r.AlikeParts R where
  send s _ _ _ := hsend s
  createObjects _ := hsend _
  insertName := alike_insertName hsend
  rename := alike_rename hdelete fun s _ => hsend s

end Parts

/-- A look for a row asks the cache and perhaps the table, and may store what it finds. -/
theorem alike_findRow_of_calls {lookup : Lookup}
    (hfetch : Action.Alike R (Backend.fetch (r.lookupKey lookup)))
    (hsend : Action.Alike R (Backend.send (.findObject r.table lookup)))
    (hstore : ∀ text, Action.Alike R (Backend.store (r.lookupKey lookup) text)) :
    Action.Alike R (r.findRow lookup) := by
  unfold findRow
  refine hfetch.bind fun cached => ?_
  cases cached with
  | some text =>
    simp only
    split
    · exact Action.alike_pure _
    · exact Action.alike_throw _
  | none =>
    refine hsend.bind fun found => ?_
    cases found with
    | none => exact Action.alike_pure _
    | some row =>
      simp only
      split
      · exact (hstore _).bind fun _ => Action.alike_pure _
      · exact Action.alike_pure _

section Lookups

variable (hsend : ∀ s : Statement, s.SparesObjects → ¬ s.AddsEntry → s.IsAmong r.names →
    Action.Alike R (Backend.send s))
  (hfindRow : ∀ lookup, Action.Alike R (r.findRow lookup))
include hsend hfindRow

theorem alike_find (lookup : Lookup) : Action.Alike R (r.find lookup) := by
  refine (hfindRow lookup).bind fun found => ?_
  cases found with
  | none => exact Action.alike_pure _
  | some row =>
    exact (MetadataStore.alike_apply
      (fun s hspares hadds hs => hsend s hspares hadds (isAmong_names hs)) _).map _

/-- The induction is on the ids that are still to be loaded. -/
theorem alike_loadAll (ids : List Int64) : Action.Alike R (r.loadAll ids) := by
  induction ids with
  | nil => exact Action.alike_pure _
  | cons id rest ih =>
    exact (alike_find hsend hfindRow (.id id)).bind fun _ => ih.bind fun _ => Action.alike_pure _

theorem alike_search (query : String) (options : SearchOptions) :
    Action.Alike R (r.search query options) :=
  (hsend _ (by trivial) id (.of_table rfl List.mem_cons_self)).bind fun _ =>
    (hsend _ (by trivial) id (.of_table rfl List.mem_cons_self)).bind fun ids =>
      (alike_loadAll hsend hfindRow ids).bind fun _ => Action.alike_pure _

theorem alike_metaSearch (p : Predicate) (options : MetadataSearchOptions) :
    Action.Alike R (r.metaSearch p options) := by
  unfold metaSearch
  split
  · exact Action.alike_throw _
  · split
    · exact Action.alike_throw _
    · rename_i plan hplan
      -- The plan of a predicate is for the relation that it was made for.
      obtain ⟨_, _, _, _, rfl⟩ := Plan.ofPredicate_eq_ok_iff.1 hplan
      have hself : r.table ∈ r.names := List.mem_cons_self
      have hmeta : r.metaTable ∈ r.names := List.mem_cons_of_mem _ List.mem_cons_self
      exact (hsend _ (by trivial) id (.of_tables rfl hself hmeta)).bind fun _ =>
        (hsend _ (by trivial) id (.of_tables rfl hself hmeta)).bind fun ids =>
          (alike_loadAll hsend hfindRow ids).bind fun _ => Action.alike_pure _

end Lookups

end Repository

/-! ## Desks -/

/-- Two outcomes of a request that a program cannot tell apart, on backends in `R`. -/
structure Desk.Alike (R : Backend → Backend → Prop) (done done' : Except Error Reply × Desk) :
    Prop where
  answer : done'.1 = done.1
  handles : done'.2.handles = done.2.handles
  backend : R done.2.backend done'.2.backend

namespace Desk

variable {b b' : Backend} {handles : Std.ExtTreeMap String Handle}

/-- An action leaves its backend on the desk, if only handles change afterwards. -/
theorem backend_act {α : Type} {desk : Desk} {action : Action α} {reply : α → Reply × (Desk → Desk)}
    (hreply : ∀ x d, ((reply x).2 d).backend = d.backend) :
    (desk.act action reply).2.backend = (action desk.backend).2 := by
  unfold act
  rcases action desk.backend with ⟨e | x, b⟩
  · rfl
  · exact hreply x _

theorem backend_lookUp {desk : Desk} {name : Option String}
    {action : Action (Option NamedObject)} :
    (desk.lookUp name action).2.backend = (action desk.backend).2 := by
  refine backend_act fun found d => ?_
  cases found with
  | none => rfl
  | some object => cases name <;> rfl

/-- Two actions that end in the same way. The same reply is made of it on both sides. -/
theorem alike_act_of {α : Type} {action action' : Action α} {reply : α → Reply × (Desk → Desk)}
    (hresult : (action' b').1 = (action b).1) (hafter : R (action b).2 (action' b').2)
    (hbackend : ∀ x d, ((reply x).2 d).backend = d.backend)
    (hhandles : ∀ x d d', d'.handles = d.handles →
      ((reply x).2 d').handles = ((reply x).2 d).handles) :
    Alike R (act ⟨b, handles⟩ action reply) (act ⟨b', handles⟩ action' reply) := by
  rcases hab : action b with ⟨result, c⟩
  rcases hab' : action' b' with ⟨result', c'⟩
  rw [hab, hab'] at hresult hafter
  obtain rfl : result' = result := hresult
  unfold act
  simp only [hab, hab']
  cases result' with
  | error e => exact ⟨rfl, rfl, hafter⟩
  | ok x =>
    refine ⟨rfl, hhandles x _ _ rfl, ?_⟩
    rw [hbackend, hbackend]
    exact hafter

theorem alike_act {α : Type} {action : Action α} {reply : α → Reply × (Desk → Desk)}
    (haction : Action.Alike R action) (hbackend : ∀ x d, ((reply x).2 d).backend = d.backend)
    (hhandles : ∀ x d d', d'.handles = d.handles →
      ((reply x).2 d').handles = ((reply x).2 d).handles) (h : R b b') :
    Alike R (act ⟨b, handles⟩ action reply) (act ⟨b', handles⟩ action reply) :=
  alike_act_of (haction b b' h).1 (haction b b' h).2 hbackend hhandles

/-- An action that is answered and changes no handle. -/
theorem alike_answer {α : Type} {action : Action α} {reply : α → Reply}
    (haction : Action.Alike R action) (h : R b b') :
    Alike R (act ⟨b, handles⟩ action fun x => (reply x, id))
      (act ⟨b', handles⟩ action fun x => (reply x, id)) :=
  alike_act haction (fun _ _ => rfl) (fun _ _ _ hd => hd) h

theorem alike_lookUp {name : Option String} {action : Action (Option NamedObject)}
    (haction : Action.Alike R action) (h : R b b') :
    Alike R (lookUp ⟨b, handles⟩ name action) (lookUp ⟨b', handles⟩ name action) := by
  refine alike_act haction (fun found d => ?_) (fun found d d' hd => ?_) h
  · cases found with
    | none => rfl
    | some object => cases name <;> rfl
  · cases found with
    | none => exact hd
    | some object =>
      cases name with
      | none => exact hd
      | some name => exact congrArg (·.insert name (.ofObject object)) hd

theorem alike_withHandle {name : String} {body body' : Handle → Except Error Reply × Desk}
    (hbody : ∀ held, Alike R (body held) (body' held)) (h : R b b') :
    Alike R (withHandle ⟨b, handles⟩ name body) (withHandle ⟨b', handles⟩ name body') := by
  unfold withHandle
  simp only
  split
  · exact hbody _
  · exact ⟨rfl, rfl, h⟩

theorem alike_edit {name : String} {editing : Editing Unit} (hediting : Editing.Alike R editing)
    (h : R b b') : Alike R (edit ⟨b, handles⟩ name editing) (edit ⟨b', handles⟩ name editing) := by
  refine alike_withHandle (fun held => ?_) h
  obtain ⟨hresult, hafter⟩ := hediting held.object b b' h
  rcases hab : editing held.object b with ⟨result, c⟩
  rcases hab' : editing held.object b' with ⟨result', c'⟩
  rw [hab, hab'] at hresult hafter
  obtain rfl : result' = result := hresult
  unfold Editing.on
  simp only [hab, hab']
  exact ⟨rfl, rfl, hafter⟩

end Desk

/-! ## Requests -/

namespace Request

/-- Whether a request looks for objects, by a key or by a search. -/
def LooksUp : Request → Prop
  | .load _ _ | .loadById _ _ | .loadByName _ _ | .search _ _ | .metaSearch _ _ => True
  | _ => False

/-- Whether a request saves the metadata of an object. -/
def Saves : Request → Prop
  | .update _ | .saveMetadata _ => True
  | _ => False

def IsDelete : Request → Prop
  | .delete _ => True
  | _ => False

variable {r : Repository} {b b' : Backend} {handles : Std.ExtTreeMap String Handle}

theorem alike_delete (hdelete : ∀ object, Action.Alike R (r.delete object)) (handle : String)
    (h : R b b') :
    Desk.Alike R ((Request.delete handle).run r ⟨b, handles⟩)
      ((Request.delete handle).run r ⟨b', handles⟩) :=
  Desk.alike_withHandle (fun held => Desk.alike_answer (hdelete held.object) h) h

/-- A request that is no deletion is alike if the parts of its call are. -/
theorem alike_run {request : Request} (parts : r.AlikeParts R)
    (hsave : request.Saves → Editing.Alike R r.metadataStore.save)
    (hfindRow : request.LooksUp → ∀ lookup, Action.Alike R (r.findRow lookup))
    (hrequest : ¬ request.IsDelete) (h : R b b') :
    Desk.Alike R (request.run r ⟨b, handles⟩) (request.run r ⟨b', handles⟩) := by
  cases request with
  | install => exact Desk.alike_answer parts.install h
  | installMetadata => exact Desk.alike_answer (MetadataStore.alike_install parts.sendMetadata) h
  | create name handle =>
    rw [Request.run, Request.run]
    refine Desk.alike_act (parts.create name) ?_ ?_ h
    · exact fun _ _ => rfl
    · exact fun object _ _ hd => congrArg (·.insert handle (.ofObject object)) hd
  | load key handle | loadById id handle | loadByName name handle =>
    exact Desk.alike_lookUp (Repository.alike_find parts.send (hfindRow trivial) _) h
  | search query options =>
    exact Desk.alike_answer (Repository.alike_search parts.send (hfindRow trivial) _ _) h
  | metaSearch p options =>
    exact Desk.alike_answer (Repository.alike_metaSearch parts.send (hfindRow trivial) _ _) h
  | update handle => exact Desk.alike_edit (parts.update (hsave trivial)) h
  | saveMetadata handle => exact Desk.alike_edit (hsave trivial) h
  | delete handle => exact absurd trivial hrequest
  | dropMetadata handle =>
    refine Desk.alike_withHandle (fun held => ?_) h
    exact Desk.alike_answer (MetadataStore.alike_remove parts.sendMetadata _) h
  | applyMetadata handle =>
    rw [Request.run, Request.run]
    refine Desk.alike_withHandle (fun held => ?_) h
    refine Desk.alike_act (MetadataStore.alike_apply parts.sendMetadata held.object) ?_ ?_ h
    · exact fun _ _ => rfl
    · exact fun object _ _ hd => congrArg (·.insert handle { held with object := object }) hd
  | setName handle | setMeta handle | removeMeta handle | getMeta handle
  | «show» handle | delta handle =>
    exact Desk.alike_withHandle (fun held => ⟨rfl, rfl, h⟩) h

/-! ## What requests keep -/

/-- What is kept by the statements about the tables and indexes of a repository and by the calls of the
cache for its keys is true after every request, however it ends. -/
theorem keeps_backend {P : Backend → Prop}
    (hsend : ∀ s : Statement, (∀ name ∈ s.names, name ∈ r.names) →
      Action.Keeps P (Backend.send s))
    (hfetch : ∀ lookup, Action.Keeps P (Backend.fetch (r.lookupKey lookup)))
    (hstore : ∀ lookup text, Action.Keeps P (Backend.store (r.lookupKey lookup) text))
    (hdelete : ∀ lookup, Action.Keeps P (Backend.delete (r.lookupKey lookup)))
    (request : Request) {desk : Desk} (h : P desk.backend) :
    P (request.run r desk).2.backend := by
  have hamong : ∀ s : Statement, s.IsAmong r.names →
      Action.Alike (Backend.Same P) (Backend.send s) := fun s hs => (hsend s hs.2).alike
  have hself : ∀ s : Statement, s.names = [r.table] →
      Action.Alike (Backend.Same P) (Backend.send s) :=
    fun s hs => hamong s (.of_table hs List.mem_cons_self)
  have hparts : r.AlikeParts (Backend.Same P) := by
    refine ⟨fun s _ _ => hamong s, fun _ => hself _ rfl, fun name => ?_, fun object name =>
      Repository.alike_rename (fun lookup => (hdelete lookup).alike) hamong object name⟩
    unfold Repository.insertName
    split
    · exact hself _ rfl
    · have hasked : Action.Keeps P (Backend.send .lastInsertId) := hsend _ fun _ h => nomatch h
      exact (hself _ rfl).bind fun _ => hasked.alike
  -- Both desks are one desk, so that nothing but what holds of it is compared.
  by_cases hrequest : request.IsDelete
  · cases request with
    | delete handle =>
      exact (Request.alike_delete (Repository.alike_delete (fun lookup => (hdelete lookup).alike)
        hamong) handle ⟨h, rfl⟩).backend.1
    | _ => exact hrequest.elim
  · have hsave : Editing.Alike (Backend.Same P) r.metadataStore.save :=
      MetadataStore.alike_save fun s _ hs => hamong s (Repository.isAmong_names hs)
    have hfindRow : ∀ lookup, Action.Alike (Backend.Same P) (r.findRow lookup) := fun lookup =>
      Repository.alike_findRow_of_calls (hfetch lookup).alike (hself _ rfl)
        fun text => (hstore lookup text).alike
    exact (Request.alike_run hparts (fun _ => hsave) (fun _ => hfindRow) hrequest ⟨h, rfl⟩).backend.1

/-- What every statement about the tables and indexes of a repository keeps is true of the database
after every request, however it ends. -/
theorem keeps_database {P : Database → Prop}
    (hP : ∀ {s : Statement} {answer : s.Answer} {db db' : Database},
      (∀ name ∈ s.names, name ∈ r.names) → db.run s = .ok (answer, db') → P db → P db')
    (request : Request) {desk : Desk} (h : P desk.backend.database) :
    P (request.run r desk).2.backend.database := by
  refine keeps_backend (P := fun b => P b.database) (fun s hs => ?_) (fun _ b hb => ?_)
    (fun _ _ b hb => ?_) (fun _ b hb => ?_) request h
  · refine Action.meets_iff_keeps.1 (Backend.meets_send ?_ fun _ _ hb _ => hb)
    exact fun b answer db hb hrun => hP hs hrun hb
  · show P (Backend.fetch _ b).2.database
    rwa [Backend.database_fetch]
  · show P (Backend.store _ _ b).2.database
    rwa [Backend.database_store]
  · show P (Backend.delete _ b).2.database
    rwa [Backend.database_delete]

end Request

end ObjectCatalog
