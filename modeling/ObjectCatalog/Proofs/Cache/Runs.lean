import ObjectCatalog.Database.Edit
import ObjectCatalog.Proofs.Cache.Coherence
import ObjectCatalog.Session.Request

/-!
# Coherence along a run

A program makes requests of the repositories of one type, one after the other, and holds objects in
handles that may be stale. In between, entries vanish from the cache and calls of the cache begin to
fail or cease to. Whatever it does, every entry of the cache is a row of the object table, because
no single step breaks this.

Requests are steps of a run as wholes. That is no restriction on when an entry may vanish or a call
may fail: a request asks for a key once at most, and stores an entry only under a key that it asked
for (`Repository.asks_once`). So an entry that vanishes while a request is made might as well have
vanished before it or after it, and which of its calls fail is chosen for each kind and key.
-/

namespace ObjectCatalog

/-! ## Requests -/

/-- A deletion is one of an object, or there is no handle of the name and nothing is done. -/
theorem Request.run_delete (r : Repository) (desk : Desk) (handle : String) :
    (Request.delete handle).run r desk = (.ok (.noHandle handle), desk) ∨
    ∃ object, (Request.delete handle).run r desk =
      ((r.delete object desk.backend).1.map fun _ => .done,
        { desk with backend := (r.delete object desk.backend).2 }) := by
  rw [Request.run, Desk.withHandle]
  cases desk.handles[handle]? with
  | none => exact .inl rfl
  | some held =>
    refine .inr ⟨held.object, ?_⟩
    simp only [Desk.act]
    rcases r.delete held.object desk.backend with ⟨e | x, b⟩
    · rfl
    · rfl

/-- A request that is no deletion stopped half way: a deletion that fails leaves the database as it
was. -/
def Request.IsWhole (request : Request) (r : Repository) (desk : Desk) : Prop :=
  request.IsDelete → ∀ e, (request.run r desk).1 = .error e →
    (request.run r desk).2.backend.database = desk.backend.database

namespace Repository

variable {r : Repository}

/-- No request breaks coherence; not even a deletion, unless it is stopped half way. -/
theorem keeps_request {request : Request} {desk : Desk} (hwhole : request.IsWhole r desk)
    (h : r.Coherent desk.backend) : r.Coherent (request.run r desk).2.backend := by
  by_cases hdelete : request.IsDelete
  · have hstop := hwhole hdelete
    cases request with
    | delete handle =>
      rcases Request.run_delete r desk handle with hrun | ⟨object, hrun⟩
      · rw [hrun]
        exact h
      · rw [hrun] at hstop ⊢
        refine Coherent.delete h fun e he => hstop e ?_
        rw [he]
        rfl
    | _ => exact hdelete.elim
  · have hfindRow := fun lookup => (keeps_findRow (r := r) lookup).alike
    exact (Request.alike_run alikeParts_coherent (fun _ => alike_save_coherent) (fun _ => hfindRow)
      hdelete ⟨h, rfl⟩).backend.1

/-- A deletion is not stopped half way if the metadata table is there. -/
theorem isWhole_of_metadataIsThere {request : Request} {desk : Desk}
    (h : r.Coherent desk.backend) (hthere : request.IsDelete → r.MetadataIsThere desk.backend) :
    request.IsWhole r desk := by
  intro hdelete e he
  cases request with
  | delete handle =>
    rcases Request.run_delete r desk handle with hrun | ⟨object, hrun⟩
    · rw [hrun]
    · rw [hrun] at he ⊢
      have hstopped := meets_delete_stopped_early object (hthere trivial) desk.backend
        ⟨rfl, h.deletes⟩
      rcases hdone : r.delete object desk.backend with ⟨e' | x, b⟩
      · rw [hdone] at hstopped
        exact hstopped
      · rw [hdone] at he
        cases he
  | _ => exact hdelete.elim

/-- Repositories that differ in where they keep metadata have the same objects and the same keys. -/
theorem coherent_withMetadataStore {store : MetadataStore} {b : Backend} :
    (r.withMetadataStore store).Coherent b ↔ r.Coherent b :=
  ⟨fun h => ⟨h.sound, h.deletes, h.backed⟩, fun h => ⟨h.sound, h.deletes, h.backed⟩⟩

/-! ## Runs -/

/-- There is no object table yet, or one that never held a row. -/
def StartsEmpty (r : Repository) (db : Database) : Prop :=
  ∀ t, db.objects? r.table = some t → ∃ c, t = .empty c

/-- What a program can come to that makes requests of repositories of one type. The deletions of a
cache succeed, and objects are deleted only while the metadata table is there. -/
inductive Reachable (r : Repository) : Desk → Prop
  | start {db : Database} (hdb : r.StartsEmpty db) : Reachable r ⟨.start db .memory, ∅⟩
  /-- A request of one of the repositories. -/
  | request {desk : Desk} (store : MetadataStore) (request : Request)
      (hthere : request.IsDelete → store.IsThere desk.backend.database) (h : Reachable r desk) :
      Reachable r (request.run (r.withMetadataStore store) desk).2
  /-- An entry vanishes. -/
  | evict {desk : Desk} (key : String) (h : Reachable r desk) :
      Reachable r { desk with
        backend := { desk.backend with cache := desk.backend.cache.drop key } }
  /-- Other calls of the cache fail from now on, and for other keys. -/
  | disturb {desk : Desk} (fault : CacheCall → String → Option CacheFailure)
      (hdelete : ∀ key, fault .delete key = none) (h : Reachable r desk) :
      Reachable r { desk with
        backend := { desk.backend with cache := { desk.backend.cache with fault := fault } } }

/-- A desk after a list of requests of one repository. -/
def runAll (r : Repository) (desk : Desk) (requests : List Request) : Desk :=
  requests.foldl (fun desk request => (request.run r desk).2) desk

/-- Along a list of requests the metadata table is there whenever an object is deleted. -/
def DeletesWithMetadata (r : Repository) (desk : Desk) : List Request → Prop
  | [] => True
  | request :: rest => (request.IsDelete → r.MetadataIsThere desk.backend) ∧
    DeletesWithMetadata r (request.run r desk).2 rest

theorem Reachable.runAll {desk : Desk} (h : r.Reachable desk) {requests : List Request}
    (hdeletes : r.DeletesWithMetadata desk requests) : r.Reachable (r.runAll desk requests) := by
  induction requests generalizing desk with
  | nil => exact h
  | cons request rest ih =>
    exact ih (.request r.metadataStore request hdeletes.1 h) hdeletes.2

theorem startsEmpty_empty : r.StartsEmpty .empty := by
  intro t ht
  simp [Database.objects?, Database.table?, Database.empty] at ht

/-- The table may also have been created before, with names compared without regard to case. -/
theorem startsEmpty_createFolding {metadata : String} {reply : EditReply} {db : Database}
    (h : TableEdit.run ⟨r.table, metadata⟩ .empty .createFolding = .ok (reply, db)) :
    r.StartsEmpty db := by
  obtain ⟨next, hnext, hpair⟩ := bind_eq_ok_iff_exists.1 h
  cases hpair
  have hensured : Database.empty.ensureTable r.table (.objects (.empty .ignoreCase)) = .ok db := by
    unfold TableEdit.createTable at hnext
    unfold Database.ensureTable
    split at hnext
    · cases hnext
    · rename_i hnone
      rw [hnone]
      exact hnext
  intro t ht
  rcases Database.ensureTable_eq_ok hensured with rfl | ⟨-, rfl⟩
  · exact startsEmpty_empty t ht
  · rw [Database.objects?_setTable_self] at ht
    exact ⟨.ignoreCase, (Option.some.inj ht).symm⟩

theorem Reachable.coherent {desk : Desk} (h : r.Reachable desk) : r.Coherent desk.backend := by
  induction h with
  | start hdb =>
    refine ⟨fun {t} ht => ?_, fun _ => rfl, fun {key value} hkey _ => ?_⟩
    · obtain ⟨c, rfl⟩ := hdb t ht
      exact ObjectTable.sound_empty c
    · simp [Backend.start, Cache.memory, Cache.get?] at hkey
  | request store request hthere _ ih =>
    have hcoherent : (r.withMetadataStore store).Coherent _ := coherent_withMetadataStore.2 ih
    exact coherent_withMetadataStore.1
      (keeps_request (isWhole_of_metadataIsThere hcoherent hthere) hcoherent)
  | evict key _ ih => exact CoherentBut.mono (ih.drop key) fun _ hstale => hstale.1
  | disturb fault hdelete _ ih => exact ⟨ih.sound, hdelete, ih.backed⟩

/-- **The cache is coherent at all times.** Every entry is the printed row of an object that is in
the object table now, under the key of the id or of the name of this row. -/
theorem cache_coherent {desk : Desk} (h : r.Reachable desk) {key value : String}
    (hentry : desk.backend.cache.get? key = some value) :
    ∃ table id name, desk.backend.database.objects r.table = .ok table ∧
      table.rows[id]? = some name ∧ value = (CachedRow.mk id name).print ∧
      (key = r.idKey id ∨ key = r.nameKey name) := by
  obtain ⟨t, lookup, id, name, ht, hrow, hvalue, hkey, hlookup, -⟩ :=
    h.coherent.backed hentry id
  refine ⟨t, id, name, Database.objects_eq_ok_iff.2 ht, hrow, hvalue, ?_⟩
  rcases hlookup with rfl | rfl
  · exact .inl hkey
  · exact .inr hkey

/-! ## A small run

One lantern is renamed after it was cached, another gets the old name, is cached and is deleted. Only
the entry of the first lantern under its new name is left. -/

namespace RenamedLantern

def repository : Repository := .ofType ⟨.sqlite, "", "", "", ""⟩ ⟨"lantern", by decide⟩

def requests : List Request :=
  [.install, .create "hall" "first", .loadByName "hall" none, .setName "first" "attic",
    .update "first", .loadByName "attic" none, .create "hall" "second", .loadById 2 none,
    .delete "second"]

def desk : Desk := repository.runAll ⟨.start .empty .memory, ∅⟩ requests

end RenamedLantern

open RenamedLantern in
theorem cache_coherent_renamedLantern :
    repository.Reachable desk ∧
    desk.backend.cache.get? "lantern_name_attic" = some "\x7b\"id\":1,\"name\":\"attic\"\x7d" ∧
    ∃ table id name, desk.backend.database.objects "lantern" = .ok table ∧
      table.rows[id]? = some name ∧
      "\x7b\"id\":1,\"name\":\"attic\"\x7d" = (CachedRow.mk id name).print ∧
      ("lantern_name_attic" = repository.idKey id ∨
        "lantern_name_attic" = repository.nameKey name) := by
  have hplain : isPlainName repository.metadataStore.table = true := by decide +kernel
  have hdeletes : repository.DeletesWithMetadata ⟨.start .empty .memory, ∅⟩ requests := by
    refine ⟨nofun, nofun, nofun, nofun, nofun, nofun, nofun, nofun, fun _ => ?_, trivial⟩
    exact (MetadataStore.isThere_iff_of_isPlainName hplain).2 ⟨[], by decide +kernel⟩
  have hreachable : repository.Reachable desk :=
    (Reachable.start startsEmpty_empty).runAll hdeletes
  have hentry : desk.backend.cache.get? "lantern_name_attic" =
      some "\x7b\"id\":1,\"name\":\"attic\"\x7d" := by decide +kernel
  exact ⟨hreachable, hentry, cache_coherent hreachable hentry⟩

end Repository

end ObjectCatalog
