import Mathlib.Logic.Relation
import ObjectCatalog.Proofs.Repository.Handles

/-!
# Deleted objects stay away

When an object was deleted, no request returns it any more, whatever the program does from then on:
it may save metadata and names through other handles of the object, create others under its former
names, or delete it again. The id has no row from the deletion on, and none is put under it, because
ids are not given twice (`ObjectTable.Changes.retired`); and what is handed out is always the object
of a row (`Repository.hasRow_of_handsOut`). So metadata that is written for the object after its
deletion stays in the metadata table and leads to nothing.
-/

namespace ObjectCatalog

namespace Repository

variable {r : Repository} {desk desk' : Desk} {id : Int64}

/-! ## Going on -/

/-- One step of a program, as in `Reachable`. -/
inductive Moves (r : Repository) (desk : Desk) : Desk → Prop
  | request (store : MetadataStore) (request : Request)
      (hthere : request.IsDelete → store.IsThere desk.backend.database) :
      Moves r desk (request.run (r.withMetadataStore store) desk).2
  | evict (key : String) :
      Moves r desk { desk with
        backend := { desk.backend with cache := desk.backend.cache.drop key } }
  | disturb (fault : CacheCall → String → Option CacheFailure)
      (hdelete : ∀ key, fault .delete key = none) :
      Moves r desk { desk with
        backend := { desk.backend with cache := { desk.backend.cache with fault := fault } } }

theorem Moves.coherent (h : r.Moves desk desk') (hdesk : r.Coherent desk.backend) :
    r.Coherent desk'.backend := by
  cases h with
  | request store request hthere =>
    have hstore : (r.withMetadataStore store).Coherent desk.backend :=
      coherent_withMetadataStore.2 hdesk
    exact coherent_withMetadataStore.1 (keeps_request (isWhole_of_metadataIsThere hstore hthere) hstore)
  | evict key => exact CoherentBut.mono (hdesk.drop key) fun _ hstale => hstale.1
  | disturb fault hdelete => exact ⟨hdesk.sound, hdelete, hdesk.backed⟩

theorem Moves.retired (h : r.Moves desk desk') (hid : r.Retired id desk.backend.database) :
    r.Retired id desk'.backend.database := by
  cases h with
  | request store request hthere =>
    exact Request.keeps_retired (r := r.withMetadataStore store) request hid
  | evict | disturb => exact hid

/-- A retired id stays so for the rest of a run, and the cache stays coherent. -/
theorem retired_of_moves (h : Relation.ReflTransGen r.Moves desk desk')
    (hcoherent : r.Coherent desk.backend) (hid : r.Retired id desk.backend.database) :
    r.Coherent desk'.backend ∧ r.Retired id desk'.backend.database := by
  induction h with
  | refl => exact ⟨hcoherent, hid⟩
  | tail _ hmove ih => exact ⟨hmove.coherent ih.1, hmove.retired ih.2⟩

theorem moves_runAll {requests : List Request} (h : r.DeletesWithMetadata desk requests) :
    Relation.ReflTransGen r.Moves desk (r.runAll desk requests) := by
  induction requests generalizing desk with
  | nil => exact .refl
  | cons request rest ih => exact .head (.request r.metadataStore request h.1) (ih h.2)

/-! ## Deletions -/

/-- The handles of a program hold objects that were in the table at some time. -/
theorem Reachable.holdsIssued (h : r.Reachable desk) : r.HoldsIssued desk := by
  induction h with
  | start hdb =>
    intro name held hheld
    exact absurd hheld (by simp)
  | request store request hthere hbefore ih =>
    have hstore : (r.withMetadataStore store).Coherent _ :=
      coherent_withMetadataStore.2 hbefore.coherent
    have hafter := keeps_request (isWhole_of_metadataIsThere hstore hthere) hstore
    exact Request.holdsIssued (r := r.withMetadataStore store) hstore hafter ih
  | evict | disturb => assumption

/-- A deletion that is done leaves no row under the id of the object, which was given before. -/
theorem meets_delete_retired (object : NamedObject) :
    Action.Meets (fun b => r.Issued object.id b.database) (r.delete object)
      (fun _ b => r.Retired object.id b.database) (fun _ => True) := by
  unfold delete
  refine Action.Meets.bind (Q := fun _ b => r.Issued object.id b.database) ?_ fun stored => ?_
  · refine Backend.meets_send (fun b _ db hb hrun => ?_) fun _ _ _ _ => trivial
    obtain ⟨rfl, -⟩ := Database.run_storedName hrun
    exact hb
  refine Action.Meets.bind (Q := fun _ b => r.Retired object.id b.database) ?_ fun _ => ?_
  · refine Backend.meets_send (fun b _ db hb hrun => ?_) fun _ _ _ _ => trivial
    obtain ⟨t, ht, hid⟩ := hb
    obtain ⟨u, hu, rfl⟩ := Database.run_deleteObject hrun
    obtain rfl := Option.some.inj (ht.symm.trans hu)
    refine ⟨t.delete object.id, Database.objects?_setTable_self _ _ _, hid, ?_⟩
    rw [ObjectTable.getElem?_delete, if_pos rfl]
  -- The metadata is in another table, and the cache is no table.
  refine Action.Meets.bind (Q := fun _ b => r.Retired object.id b.database) ?_ fun _ => ?_
  · refine Backend.meets_send (fun b _ db hb hrun => ?_) fun _ _ _ _ => trivial
    obtain ⟨t, ht, hid⟩ := hb
    exact ⟨t, (Database.objects?_of_sparesObjects (by trivial) hrun r.table).trans ht, hid⟩
  exact (keeps_invalidate _ _ _).meets

theorem retired_of_delete {name : String} {held : Handle} {reply : Reply}
    (hissued : r.HoldsIssued desk) (hheld : desk.handles[name]? = some held)
    (hrun : (Request.delete name).run r desk = (.ok reply, desk')) :
    r.Retired held.object.id desk'.backend.database := by
  rw [Request.run, Desk.withHandle] at hrun
  simp only [hheld] at hrun
  obtain ⟨x, b, haction, -, rfl⟩ := Desk.act_eq_ok hrun
  have hmeets := meets_delete_retired held.object desk.backend (hissued name held hheld)
  rw [haction] at hmeets
  exact hmeets

/-- **A deleted object never comes back.** Once the deletion of an object was answered without an
error, no request of any continuation hands out an object with its id. -/
theorem deleted_never_returns {name : String} {held : Handle} {store store' : MetadataStore}
    {request : Request} {deleted later : Desk} {answer reply : Reply} (h : r.Reachable desk)
    (hheld : desk.handles[name]? = some held)
    (hdelete : (Request.delete name).run (r.withMetadataStore store) desk = (.ok answer, deleted))
    (hlater : Relation.ReflTransGen r.Moves deleted later) (hrequest : request.HandsOut)
    (hrun : request.run (r.withMetadataStore store') later = (.ok reply, desk')) :
    held.object.id ∉ reply.ids := by
  have hcoherent : r.Coherent deleted.backend := by
    -- The deletion was not stopped half way, since it was not stopped.
    have hstore : (r.withMetadataStore store).Coherent desk.backend :=
      coherent_withMetadataStore.2 h.coherent
    have hwhole : (Request.delete name).IsWhole (r.withMetadataStore store) desk := by
      intro _ e he
      rw [hdelete] at he
      cases he
    have hafter := keeps_request hwhole hstore
    rw [hdelete] at hafter
    exact coherent_withMetadataStore.1 hafter
  have hretired : r.Retired held.object.id deleted.backend.database :=
    retired_of_delete (r := r.withMetadataStore store) h.holdsIssued hheld hdelete
  obtain ⟨hlatercoherent, hlaterretired⟩ := retired_of_moves hlater hcoherent hretired
  -- An object that is handed out would have a row now, and its id would still be retired.
  intro hid
  have hstore : (r.withMetadataStore store').Coherent later.backend :=
    coherent_withMetadataStore.2 hlatercoherent
  have hrow : (r.withMetadataStore store').HasRow held.object.id desk'.backend.database :=
    hasRow_of_handsOut hrequest hstore hrun hid
  have hstill : r.Retired held.object.id desk'.backend.database := by
    have hkept := Request.keeps_retired (r := r.withMetadataStore store') request hlaterretired
    rw [hrun] at hkept
    exact hkept
  exact not_hasRow_of_retired hstill hrow

/-! ## A small run

A candle is deleted while a second handle holds it. Through that handle it gets metadata and another
name, another candle takes its first name, and it is deleted once more. A search finds the other
candle alone. -/

namespace SnuffedCandle

def repository : Repository := .ofType ⟨.sqlite, "", "", "", ""⟩ ⟨"candle", by decide⟩

def before : Desk :=
  repository.runAll ⟨.start .empty .memory, ∅⟩
    [.install, .create "shelf" "first", .loadByName "shelf" (some "second")]

def deleted : Desk := ((Request.delete "first").run repository before).2

def afterwards : List Request :=
  [.setMeta "second" "colour" "red", .setName "second" "sill", .update "second",
    .create "shelf" "other", .setMeta "other" "colour" "red", .update "other", .delete "second"]

def later : Desk := repository.runAll deleted afterwards

end SnuffedCandle

open SnuffedCandle in
theorem deleted_never_returns_snuffedCandle :
    repository.Reachable before ∧
    (∃ held, before.handles["first"]? = some held ∧ held.object.id = 1) ∧
    ((Request.delete "first").run repository before).1 = .ok .done ∧
    Relation.ReflTransGen repository.Moves deleted later ∧
    ∃ reply desk, (Request.search "" {}).run repository later = (.ok reply, desk) ∧
      reply.ids = [2] ∧ 1 ∉ reply.ids := by
  have hplain : isPlainName repository.metadataStore.table = true := by decide +kernel
  have hreachable : repository.Reachable before :=
    (Reachable.start startsEmpty_empty).runAll ⟨nofun, nofun, nofun, trivial⟩
  obtain ⟨held, hheld, hid⟩ :
      ∃ held, before.handles["first"]? = some held ∧ held.object.id = 1 := by
    refine ⟨.ofObject (.fresh 1 "shelf"), by decide +kernel, rfl⟩
  have hdone : ((Request.delete "first").run repository before).1 = .ok .done := by decide +kernel
  have hmoves : Relation.ReflTransGen repository.Moves deleted later := by
    refine moves_runAll ⟨nofun, nofun, nofun, nofun, nofun, nofun, fun _ => ?_, trivial⟩
    exact (MetadataStore.isThere_iff_of_isPlainName hplain).2
      ⟨[⟨1, "colour", "red"⟩, ⟨2, "colour", "red"⟩], by decide +kernel⟩
  have hfound : (match ((Request.search "" {}).run repository later).1 with
      | .ok reply => reply.ids
      | .error _ => []) = [2] := by decide +kernel
  refine ⟨hreachable, ⟨held, hheld, hid⟩, hdone, hmoves, ?_⟩
  rcases hrun : (Request.search "" {}).run repository later with ⟨e | reply, desk⟩
  · rw [hrun] at hfound
    cases hfound
  · rw [hrun] at hfound
    refine ⟨reply, desk, rfl, hfound, hid ▸ ?_⟩
    have hrequest : (Request.search "" {}).HandsOut := trivial
    -- The repository itself is the one with its own metadata store.
    have hdelete : (Request.delete "first").run
        (repository.withMetadataStore repository.metadataStore) before = (.ok .done, deleted) :=
      Prod.ext hdone rfl
    have hsearch : (Request.search "" {}).run
        (repository.withMetadataStore repository.metadataStore) later = (.ok reply, desk) := hrun
    exact deleted_never_returns hreachable hheld hdelete hmoves hrequest hsearch

end Repository

end ObjectCatalog
