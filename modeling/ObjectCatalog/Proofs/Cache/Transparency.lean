import ObjectCatalog.Proofs.Cache.Keys
import ObjectCatalog.Proofs.Cache.Runs
import ObjectCatalog.Proofs.Object.RowRoundTrip

/-!
# The cache is not seen

A program cannot tell whether its repository has a cache. Whatever requests it makes and whichever
entries vanish in between, every request answers the same, every handle holds the same and the
tables are the same as without a cache. The one exception is a deletion that is stopped after the
row went, because its metadata could not be cleared: the entries of the row then stay, and a lookup
finds in them what the table does not have any more.

Two backends are compared, one with a cache and one that differs from it only in having none. A
lookup is the only thing that asks the cache, and what it finds there is what the table would have
answered, because the cache is coherent and a key tells what was looked up. Everything else takes
the same course on both.
-/

namespace ObjectCatalog

/-- The second backend is the first without its cache, and the cache of the first works. -/
structure Backend.Uncached (b b' : Backend) : Prop where
  database : b'.database = b.database
  works : ∀ call key, b.cache.fault call key = none
  null : b'.cache = .null

variable {b b' : Backend}

/-! ## Calls -/

namespace Backend

theorem Uncached.record (h : b.Uncached b') (event event' : Event) :
    (b.record event).Uncached (b'.record event') :=
  ⟨h.database, h.works, h.null⟩

theorem alike_send (s : Statement) : Action.Alike Uncached (send s) := by
  intro b b' h
  rcases hrun : b.database.run s with refusal | ⟨answer, db⟩
  · have hrun' : b'.database.run s = .error refusal := by
      rw [h.database]
      exact hrun
    rw [send_of_error hrun, send_of_error hrun']
    exact ⟨rfl, h.record _ _⟩
  · have hrun' : b'.database.run s = .ok (answer, db) := by
      rw [h.database]
      exact hrun
    rw [send_of_ok hrun, send_of_ok hrun']
    exact ⟨rfl, rfl, h.works, h.null⟩

theorem Uncached.works_null (h : b.Uncached b') (call : CacheCall) (key : String) :
    b'.cache.fault call key = none := by
  rw [h.null]
  rfl

/-- What is stored is stored in one cache and forgotten by the other. -/
theorem alike_store (key value : String) : Action.Alike Uncached (store key value) := by
  intro b b' h
  rw [store_of_none (h.works .store key), store_of_none (h.works_null .store key)]
  refine ⟨rfl, h.database, fun call k => ?_, ?_⟩
  · show (b.cache.put key value).fault call k = none
    unfold Cache.put
    split
    · exact h.works call k
    · exact h.works call k
  · show b'.cache.put key value = .null
    rw [h.null]
    rfl

theorem alike_delete (key : String) : Action.Alike Uncached (delete key) := by
  intro b b' h
  rw [delete_of_none (h.works .delete key), delete_of_none (h.works_null .delete key)]
  refine ⟨rfl, h.database, h.works, ?_⟩
  show b'.cache.drop key = .null
  rw [h.null]
  exact congrArg (Cache.mk false · fun _ _ => none) Std.ExtTreeMap.erase_empty

end Backend

namespace Repository

open Backend

variable {r : Repository}

/-! ## Lookups -/

/-- A cache that is coherent, and no cache. -/
def Mirrored (r : Repository) (b b' : Backend) : Prop :=
  b.Uncached b' ∧ r.Coherent b

/-- A lookup of which the cache knows nothing. -/
def findInTable (r : Repository) (lookup : Lookup) : Action (Option CachedRow) := do
  match ← Backend.send (.findObject r.table lookup) with
  | none => pure none
  | some (id, name) =>
    if cachesAs lookup ⟨id, name⟩ then do
      Backend.store (r.lookupKey lookup) (CachedRow.mk id name).print
      pure (some ⟨id, name⟩)
    else pure (some ⟨id, name⟩)

theorem findRow_of_miss {lookup : Lookup}
    (hworks : b.cache.fault .fetch (r.lookupKey lookup) = none)
    (hmiss : b.cache.get? (r.lookupKey lookup) = none) :
    r.findRow lookup b =
      r.findInTable lookup (b.record (.cacheCall .fetch (r.lookupKey lookup))) := by
  have hfetch := fetch_of_none hworks
  rw [hmiss] at hfetch
  exact Action.bind_of_ok hfetch

theorem findRow_of_hit {lookup : Lookup} {text : String} {row : CachedRow}
    (hworks : b.cache.fault .fetch (r.lookupKey lookup) = none)
    (hhit : b.cache.get? (r.lookupKey lookup) = some text)
    (hrow : CachedRow.parse? text = some row) :
    r.findRow lookup b =
      (.ok (some row), b.record (.cacheCall .fetch (r.lookupKey lookup))) := by
  have hfetch := fetch_of_none hworks
  rw [hhit] at hfetch
  refine (Action.bind_of_ok hfetch).trans ?_
  simp only [hrow]
  rfl

theorem findInTable_of_found {lookup : Lookup} {id : Int64} {name : String}
    (hworks : b.cache.fault .store (r.lookupKey lookup) = none)
    (hrun : b.database.run (.findObject r.table lookup) = .ok (some (id, name), b.database))
    (hcaches : cachesAs lookup ⟨id, name⟩ = true) :
    ∃ c, r.findInTable lookup b = (.ok (some ⟨id, name⟩), c) ∧ c.database = b.database ∧
      c.cache = b.cache.put (r.lookupKey lookup) (CachedRow.mk id name).print := by
  let asked : Backend := b.record (.statement (.findObject r.table lookup) true)
  let stored : Backend := { asked.record (.cacheCall .store (r.lookupKey lookup)) with
    cache := b.cache.put (r.lookupKey lookup) (CachedRow.mk id name).print }
  have hsend : Backend.send (.findObject r.table lookup) b = (.ok (some (id, name)), asked) :=
    send_of_ok hrun
  have hstore : Backend.store (r.lookupKey lookup) (CachedRow.mk id name).print asked =
      (.ok (), stored) := store_of_none (b := asked) hworks _
  refine ⟨stored, ?_, rfl, rfl⟩
  refine (Action.bind_of_ok hsend).trans ?_
  simp only [hcaches, if_true]
  exact Action.bind_of_ok hstore

/-- What is cached under the key of a lookup is the row that the database answers. -/
theorem Backed.answer {db : Database} {lookup : Lookup} {text : String}
    (h : r.Backed db (r.lookupKey lookup) text)
    (hsound : ∀ {t}, db.objects? r.table = some t → t.Sound) :
    ∃ id name, CachedRow.parse? text = some ⟨id, name⟩ ∧ cachesAs lookup ⟨id, name⟩ = true ∧
      db.run (.findObject r.table lookup) = .ok (some (id, name), db) := by
  obtain ⟨t, lookup', id, name, ht, hrow, rfl, hkey, hlookup, hread⟩ := h
  obtain rfl : lookup = lookup' := lookupKey_injective hkey
  -- By its id the row is found as it stands, by its name because no other row has the name.
  have hfound : t.find? lookup = some (id, name) := by
    rcases hlookup with rfl | rfl
    · rw [ObjectTable.find?, hrow]
      rfl
    · exact (hsound ht).withName? hrow
  refine ⟨id, name, CachedRow.parse?_print _, ?_, ?_⟩
  · rcases hlookup with rfl | rfl
    · rfl
    · exact beq_self_eq_true name
  · refine Database.run_eq_ok_iff.2 ⟨hread, ?_⟩
    rw [Database.carryOut, Database.objects_eq_ok_iff.2 ht, ← hfound]
    rfl

/-- Where the cache answers, the table answers the same. -/
theorem alike_findRow (lookup : Lookup) : Action.Alike r.Mirrored (r.findRow lookup) := by
  rintro b b' ⟨h, hb⟩
  have hkeeps := keeps_findRow lookup b hb
  -- Coherence is kept by every lookup, so only the answers and the tables are left to compare.
  suffices (r.findRow lookup b').1 = (r.findRow lookup b).1 ∧
      (r.findRow lookup b).2.Uncached (r.findRow lookup b').2 from ⟨this.1, this.2, hkeeps⟩
  have hmiss' : b'.cache.get? (r.lookupKey lookup) = none := by
    rw [h.null, Cache.get?, Cache.null]
    exact Std.ExtTreeMap.getElem?_empty
  have hfind : Action.Alike Uncached (r.findInTable lookup) := by
    refine (alike_send _).bind fun found => ?_
    cases found with
    | none => exact Action.alike_pure _
    | some row =>
      simp only
      split
      · exact (alike_store _ _).bind fun _ => Action.alike_pure _
      · exact Action.alike_pure _
  rw [findRow_of_miss (h.works_null .fetch _) hmiss']
  -- If the cache has no entry either, both ask the table; if it has one, only the other side does.
  cases hentry : b.cache.get? (r.lookupKey lookup) with
  | none =>
    rw [findRow_of_miss (h.works .fetch _) hentry]
    exact hfind _ _ (h.record _ _)
  | some text =>
    obtain ⟨id, name, hparse, hcaches, hrun⟩ := (hb.backed hentry id).answer hb.sound
    rw [findRow_of_hit (h.works .fetch _) hentry hparse]
    -- Without a cache the table is asked, and its answer is stored where nothing is kept.
    rw [← h.database] at hrun
    obtain ⟨c, hfound, hdb, hcache⟩ := findInTable_of_found
      (b := b'.record (.cacheCall .fetch (r.lookupKey lookup))) (h.works_null .store _) hrun hcaches
    rw [hfound]
    refine ⟨rfl, hdb.trans h.database, h.works, ?_⟩
    rw [hcache]
    show b'.cache.put _ _ = .null
    rw [h.null]
    rfl

/-! ## Requests -/

theorem alikeParts_mirrored : r.AlikeParts r.Mirrored where
  send s hs _ _ := (alike_send s).and_keeps (keeps_send hs)
  createObjects options := (alike_send _).and_keeps (keeps_createObjects options)
  insertName name := (alike_insertName alike_send name).and_keeps (keeps_insertName name)
  rename object name :=
    (alike_rename (fun _ => Backend.alike_delete _) (fun s _ => alike_send s) object name).and_keeps
      (keeps_rename object name)

theorem alike_save_mirrored : Editing.Alike r.Mirrored r.metadataStore.save :=
  MetadataStore.alike_save fun s hs _ => (alike_send s).and_keeps (keeps_send hs)

variable {handles : Std.ExtTreeMap String Handle}

/-- A request is answered in the same way with a coherent cache and without a cache. -/
theorem alike_request (request : Request) (h : r.Mirrored b b') :
    Desk.Alike Uncached (request.run r ⟨b, handles⟩) (request.run r ⟨b', handles⟩) := by
  by_cases hdelete : request.IsDelete
  · cases request with
    | delete handle =>
      have hobject := Repository.alike_delete (r := r) (fun _ => Backend.alike_delete _)
        fun s _ => alike_send s
      exact Request.alike_delete hobject handle h.1
    | _ => exact hdelete.elim
  -- The parts of every other request keep the cache coherent, which their lookups rely on.
  · have halike : Desk.Alike r.Mirrored (request.run r ⟨b, handles⟩) (request.run r ⟨b', handles⟩) :=
      Request.alike_run alikeParts_mirrored (fun _ => alike_save_mirrored) (fun _ => alike_findRow)
        hdelete h
    exact ⟨halike.answer, halike.handles, halike.backend.1⟩

/-! ## Runs -/

/-- A request, made after entries vanished from the cache. -/
structure Step where
  vanished : List String
  request : Request

/-- The request of a step, with all entries in their places. -/
def Step.undisturbed (step : Step) : Step := ⟨[], step.request⟩

/-- A desk after entries vanished from the cache. -/
def evict (desk : Desk) (keys : List String) : Desk :=
  { desk with backend := { desk.backend with cache := keys.foldl Cache.drop desk.backend.cache } }

/-- What is seen after a request: its answer, the handles, and the tables. -/
structure Observation where
  answer : Except Error Reply
  handles : Std.ExtTreeMap String Handle
  database : Database

def observe (r : Repository) (desk : Desk) : List Step → List Observation
  | [] => []
  | step :: rest =>
    let done := step.request.run r (evict desk step.vanished)
    ⟨done.1, done.2.handles, done.2.backend.database⟩ :: observe r done.2 rest

/-- No deletion is stopped half way along a list of requests. -/
def DeletesWhole (r : Repository) (desk : Desk) : List Request → Prop
  | [] => True
  | request :: rest =>
    request.IsWhole r desk ∧ DeletesWhole r (request.run r desk).2 rest

/-- An entry that vanishes is not missed. -/
theorem Mirrored.drop (h : r.Mirrored b b') (keys : List String) :
    r.Mirrored { b with cache := keys.foldl Cache.drop b.cache } b' := by
  induction keys generalizing b with
  | nil => exact h
  | cons key rest ih =>
    have hdrop : r.Coherent { b with cache := b.cache.drop key } :=
      CoherentBut.mono (h.2.drop key) fun _ hstale => hstale.1
    exact ih (b := { b with cache := b.cache.drop key })
      ⟨⟨h.1.database, h.1.works, h.1.null⟩, hdrop⟩

/-- A deletion that is whole without a cache is whole with one. -/
theorem isWhole_of_alike {request : Request}
    (halike : Desk.Alike Uncached (request.run r ⟨b, handles⟩) (request.run r ⟨b', handles⟩))
    (hdb : b'.database = b.database) (hwhole : request.IsWhole r ⟨b', handles⟩) :
    request.IsWhole r ⟨b, handles⟩ := by
  intro hdelete e he
  rw [← halike.backend.database, ← hdb]
  refine hwhole hdelete e ?_
  rw [halike.answer]
  exact he

/-- With a coherent cache a run is seen as it is seen without a cache. -/
theorem observe_undisturbed {steps : List Step} (h : r.Mirrored b b')
    (hwhole : r.DeletesWhole ⟨b', handles⟩ (steps.map (·.request))) :
    r.observe ⟨b', handles⟩ (steps.map .undisturbed) = r.observe ⟨b, handles⟩ steps := by
  -- What carries the induction is that the cache stays coherent: entries that vanish do no harm to
  -- it, and neither does a request that is whole.
  induction steps generalizing b b' handles with
  | nil => rfl
  | cons step rest ih =>
    let evicted : Backend := { b with cache := step.vanished.foldl Cache.drop b.cache }
    have hevicted : r.Mirrored evicted b' := h.drop step.vanished
    have halike : Desk.Alike Uncached (step.request.run r ⟨evicted, handles⟩)
        (step.request.run r ⟨b', handles⟩) := alike_request step.request hevicted
    have hcoherent := keeps_request (isWhole_of_alike halike hevicted.1.database hwhole.1) hevicted.2
    have hrest := hwhole.2
    rw [List.map_cons, observe, observe]
    simp only [Step.undisturbed, evict, List.foldl_nil]
    -- The two outcomes are taken apart together, so that the rest starts from the same handles.
    revert halike hcoherent hrest
    rcases step.request.run r ⟨evicted, handles⟩ with ⟨answer, c, handles₁⟩
    rcases step.request.run r ⟨b', handles⟩ with ⟨answer', c', handles₁'⟩
    rintro ⟨hanswer, hhandles, hbackend⟩ hcoherent hrest
    obtain rfl : answer' = answer := hanswer
    obtain rfl : handles₁' = handles₁ := hhandles
    have hdb : c'.database = c.database := hbackend.database
    simp only [hdb]
    exact congrArg _ (ih ⟨hbackend, hcoherent⟩ hrest)

/-- **A program cannot tell whether its repository has a cache.** From a store without objects,
with a cache that keeps its entries or loses some of them between requests, everything is seen as
without a cache; only a deletion must not be stopped after it took out the row. -/
theorem cache_transparent {db : Database} (hdb : r.StartsEmpty db) (steps : List Step)
    (hwhole : r.DeletesWhole ⟨.start db .null, ∅⟩ (steps.map (·.request))) :
    r.observe ⟨.start db .memory, ∅⟩ steps =
        r.observe ⟨.start db .null, ∅⟩ (steps.map .undisturbed) ∧
      r.observe ⟨.start db .memory, ∅⟩ (steps.map .undisturbed) =
        r.observe ⟨.start db .null, ∅⟩ (steps.map .undisturbed) := by
  have hstart : r.Mirrored (.start db .memory) (.start db .null) :=
    ⟨⟨rfl, fun _ _ => rfl, rfl⟩, (Reachable.start hdb).coherent⟩
  have hrequests : (steps.map Step.undisturbed).map (·.request) = steps.map (·.request) := by
    rw [List.map_map]
    rfl
  have htwice : (steps.map Step.undisturbed).map Step.undisturbed =
      steps.map Step.undisturbed := by
    rw [List.map_map]
    rfl
  refine ⟨(observe_undisturbed hstart hwhole).symm, ?_⟩
  have hcalm : r.observe ⟨.start db .null, ∅⟩ ((steps.map .undisturbed).map .undisturbed) =
      r.observe ⟨.start db .memory, ∅⟩ (steps.map .undisturbed) :=
    observe_undisturbed hstart (hrequests.symm ▸ hwhole)
  rw [htwice] at hcalm
  exact hcalm.symm

/-! ## Two small runs

A torch is renamed while a second handle still has its old name, another torch gets that name, and
the second handle deletes the first torch. Entries vanish in between. -/

namespace TorchesInTheHall

def repository : Repository := .ofType ⟨.sqlite, "", "", "", ""⟩ ⟨"torch", by decide⟩

def steps : List Step :=
  [⟨[], .install⟩, ⟨[], .create "hall" "first"⟩, ⟨[], .loadByName "hall" (some "second")⟩,
    ⟨[], .setName "first" "attic"⟩, ⟨["torch_1"], .update "first"⟩, ⟨[], .create "hall" "other"⟩,
    ⟨[], .loadByName "hall" none⟩, ⟨["torch_name_hall"], .loadById 1 none⟩,
    ⟨[], .delete "second"⟩, ⟨[], .loadById 1 none⟩, ⟨[], .loadByName "hall" none⟩]

/-- The desk that the deletion is asked of, without a cache. -/
def beforeDeletion : Desk :=
  repository.runAll ⟨.start .empty .null, ∅⟩
    [.install, .create "hall" "first", .loadByName "hall" (some "second"),
      .setName "first" "attic", .update "first", .create "hall" "other", .loadByName "hall" none,
      .loadById 1 none]

end TorchesInTheHall

open TorchesInTheHall in
theorem cache_transparent_torchesInTheHall :
    repository.StartsEmpty .empty ∧
    repository.DeletesWhole ⟨.start .empty .null, ∅⟩ (steps.map (·.request)) ∧
    repository.observe ⟨.start .empty .memory, ∅⟩ steps =
        repository.observe ⟨.start .empty .null, ∅⟩ (steps.map .undisturbed) ∧
      repository.observe ⟨.start .empty .memory, ∅⟩ (steps.map .undisturbed) =
        repository.observe ⟨.start .empty .null, ∅⟩ (steps.map .undisturbed) := by
  -- The deletion succeeds without a cache, so it is not stopped half way; no other step deletes.
  have hdone : ((Request.delete "second").run repository beforeDeletion).1 = .ok .done := by
    decide +kernel
  have hdeletion : (Request.delete "second").IsWhole repository beforeDeletion := by
    intro _ e he
    rw [hdone] at he
    cases he
  have hwhole : repository.DeletesWhole ⟨.start .empty .null, ∅⟩ (steps.map (·.request)) :=
    ⟨nofun, nofun, nofun, nofun, nofun, nofun, nofun, nofun, hdeletion, nofun, nofun, trivial⟩
  exact ⟨startsEmpty_empty, hwhole, cache_transparent startsEmpty_empty steps hwhole⟩

/-! A deletion that is stopped half way: the database keeps names that begin with `sqlite_` for
itself, so this repository has no table for its metadata. -/

namespace TakenName

def repository : Repository := .ofType ⟨.sqlite, "", "", "", ""⟩ ⟨"sqlite", by decide⟩

def steps : List Step :=
  [⟨[], .install⟩, ⟨[], .create "a" "held"⟩, ⟨[], .loadById 1 none⟩, ⟨[], .delete "held"⟩,
    ⟨[], .loadById 1 none⟩]

end TakenName

open TakenName in
/-- The object is gone from the table, and the cache still leads to it. -/
theorem cache_seen_after_half_deletion :
    repository.StartsEmpty .empty ∧
    ((repository.observe ⟨.start .empty .null, ∅⟩ steps).map (·.answer)).getLast? =
      some (.ok .noObject) ∧
    ((repository.observe ⟨.start .empty .memory, ∅⟩ steps).map (·.answer)).getLast? ≠
      some (.ok .noObject) ∧
    repository.observe ⟨.start .empty .memory, ∅⟩ steps ≠
      repository.observe ⟨.start .empty .null, ∅⟩ steps := by
  have hnull : ((repository.observe ⟨.start .empty .null, ∅⟩ steps).map (·.answer)).getLast? =
      some (.ok .noObject) := by decide +kernel
  have hmemory : ((repository.observe ⟨.start .empty .memory, ∅⟩ steps).map
      (·.answer)).getLast? ≠ some (.ok .noObject) := by decide +kernel
  refine ⟨startsEmpty_empty, hnull, hmemory, fun heq => hmemory ?_⟩
  rw [heq]
  exact hnull

end Repository

end ObjectCatalog
