import ObjectCatalog.Proofs.Cache.Retry
import ObjectCatalog.Proofs.Repository.Failures

/-!
# Deletions that the database breaks off

A deletion takes out the row, then the metadata, and then it tells the cache. If it fails before its
last step, the cache was not told of anything, and all entries are what they were. Whether they are
still rows of the table depends on where it failed: before the row was taken out nothing has changed,
and where only the metadata could not be cleared, the row is gone
(`Repository.exists_rows_of_delete_error`).

So an entry is left of a row that is gone if the row was cached, and only then
(`Repository.failed_delete_leaves_ghost_iff`). A lookup cannot tell such an entry from others: as soon as
the metadata can be read again, it answers the object that was deleted.
-/

namespace ObjectCatalog

variable {b c : Backend} {e : Error}

namespace Repository

variable {r : Repository} {object : NamedObject} {lookup : Lookup} {t : ObjectTable} {id : Int64}

/-! ## 1. What such a deletion leaves -/

/-- The cache is as it was, and so are the objects, or the row is gone. -/
theorem exists_rows_of_delete_error (h : r.delete object b = (.error e, c)) (he : ¬ e.OfCache) :
    c.cache = b.cache ∧
      (c.database.objects? r.table = b.database.objects? r.table ∨
        ∃ t, b.database.objects? r.table = some t ∧
          c.database.objects? r.table = some (t.delete object.id)) := by
  rcases Action.exists_of_bind_eq h with ⟨_, hstored, -⟩ | ⟨stored, b₁, hstored, h₁⟩
  · obtain ⟨hdb, hcache⟩ := Backend.sameState_of_send_error hstored
    exact ⟨hcache, .inl (by rw [hdb])⟩
  obtain ⟨hcache₁, ⟨_, habsurd, -⟩ | ⟨_, -, hrun₁⟩⟩ := Backend.send_eq hstored
  · cases habsurd
  have hdb₁ := (Database.run_storedName hrun₁).1
  rcases Action.exists_of_bind_eq h₁ with ⟨_, hdelete, -⟩ | ⟨_, b₂, hdelete, h₂⟩
  · obtain ⟨hdb, hcache⟩ := Backend.sameState_of_send_error hdelete
    exact ⟨hcache.trans hcache₁, .inl (by rw [hdb, hdb₁])⟩
  obtain ⟨hcache₂, ⟨_, habsurd, -⟩ | ⟨_, -, hrun₂⟩⟩ := Backend.send_eq hdelete
  · cases habsurd
  obtain ⟨t, ht, hdb₂⟩ := Database.run_deleteObject hrun₂
  rcases Action.exists_of_bind_eq h₂ with ⟨_, hremove, -⟩ | ⟨_, b₃, -, hinvalidate⟩
  · obtain ⟨hdb, hcache⟩ := Backend.sameState_of_send_error hremove
    refine ⟨hcache.trans (hcache₂.trans hcache₁), .inr ⟨t, hdb₁ ▸ ht, ?_⟩⟩
    rw [hdb, hdb₂]
    exact Database.objects?_setTable_self _ _ _
  · -- The last step fails in the cache only.
    obtain ⟨-, ⟨_, hfailure, -⟩ | ⟨habsurd, -⟩⟩ := invalidate_eq hinvalidate
    · cases hfailure
      exact absurd trivial he
    · cases habsurd

/-- Without a row its entries are those of a row that is gone, and all others stay current. -/
theorem currentIn_delete_iff {cache : Cache} (h : r.CurrentIn t cache) :
    r.CurrentIn (t.delete id) cache ↔ ∀ name, t.rows[id]? = some name →
      ∀ key, cache.get? key ≠ some (CachedRow.mk id name).print := by
  constructor
  · intro hafter name hrow key hentry
    obtain ⟨id', name', hrow', hprint, -⟩ := hafter key _ hentry
    cases CachedRow.print_injective hprint
    rw [ObjectTable.getElem?_delete, if_pos rfl] at hrow'
    cases hrow'
  · intro hnone key value hentry
    obtain ⟨id', name, hrow, hvalue, hkey⟩ := h key value hentry
    have hother : id ≠ id' := by
      rintro rfl
      exact hnone name hrow key (hvalue ▸ hentry)
    refine ⟨id', name, ?_, hvalue, hkey⟩
    rw [ObjectTable.getElem?_delete, if_neg hother, hrow]

/-! ## 2. What a lookup answers -/

/-- Only the object table and the entries matter. -/
theorem EntriesCurrent.of_same (h : r.EntriesCurrent b)
    (hobjects : c.database.objects? r.table = b.database.objects? r.table)
    (hcache : ∀ key, c.cache.get? key = b.cache.get? key) : r.EntriesCurrent c := by
  intro key value hentry
  rw [hcache] at hentry
  obtain ⟨t, id, name, ht, hentry⟩ := h key value hentry
  rw [Database.objects_eq_ok_iff, ← hobjects] at ht
  exact ⟨t, id, name, Database.objects_eq_ok_iff.2 ht, hentry⟩

/-- A row that is found is in the table, whether the cache answered or the table. -/
theorem row_of_findRow {row : CachedRow} (h : r.EntriesCurrent b)
    (hfind : r.findRow lookup b = (.ok (some row), c)) :
    ∃ t, b.database.objects? r.table = some t ∧ t.rows[row.id]? = some row.name := by
  rcases Action.exists_of_bind_eq hfind with ⟨_, -, habsurd⟩ | ⟨cached, b₁, hfetch, h₁⟩
  · cases habsurd
  rcases hfault : b.cache.fault .fetch (r.lookupKey lookup) with none | failure
  · rw [Backend.fetch_of_none hfault] at hfetch
    cases hfetch
    cases hentry : b.cache.get? (r.lookupKey lookup) with
    | some text =>
      obtain ⟨t, id, name, ht, hrow, rfl, -⟩ := h _ text hentry
      rw [hentry] at h₁
      simp only [CachedRow.parse?_print] at h₁
      cases h₁
      exact ⟨t, Database.objects_eq_ok_iff.1 ht, hrow⟩
    | none =>
      rw [hentry] at h₁
      rcases Action.exists_of_bind_eq h₁ with ⟨_, -, habsurd⟩ | ⟨found, b₂, hsend, h₂⟩
      · cases habsurd
      obtain ⟨-, ⟨_, habsurd, -⟩ | ⟨answer, hanswer, hrun⟩⟩ := Backend.send_eq hsend
      · cases habsurd
      cases hanswer
      obtain ⟨-, t, ht, hfound⟩ := Database.run_findObject hrun
      cases found with
      | none => cases h₂
      | some pair =>
        have hrow : t.rows[pair.1]? = some pair.2 := ObjectTable.find?_eq_some hfound.symm
        have hsame : row = ⟨pair.1, pair.2⟩ := by
          simp only at h₂
          split at h₂
          · rcases Action.exists_of_bind_eq h₂ with ⟨_, -, habsurd⟩ | ⟨_, _, -, hpure⟩
            · cases habsurd
            · cases hpure
              rfl
          · cases h₂
            rfl
        rw [hsame]
        exact ⟨t, ht, hrow⟩
  · rw [Backend.fetch_of_some hfault] at hfetch
    cases hfetch

theorem row_of_find (h : r.EntriesCurrent b)
    (hfind : r.find lookup b = (.ok (some object), c)) :
    ∃ t, b.database.objects? r.table = some t ∧ t.rows[object.id]? = some object.name := by
  rcases Action.exists_of_bind_eq hfind with ⟨_, -, habsurd⟩ | ⟨found, b₁, hrow, h₁⟩
  · cases habsurd
  cases found with
  | none => cases h₁
  | some row =>
    simp only [Action.map_eq_bind] at h₁
    rcases Action.exists_of_bind_eq h₁ with ⟨_, -, habsurd⟩ | ⟨read, b₂, happly, hpure⟩
    · cases habsurd
    · cases hpure
      obtain ⟨-, rfl⟩ := MetadataStore.apply_eq_ok happly
      exact row_of_findRow h hrow

/-! ## 3. Ghosts -/

/-- **A deletion that the database broke off leaves an entry of a row that is gone, if it has taken the
row out and the row was cached, and only then.** If every entry was a row of the table before, then no
entry was changed, and every entry is one afterwards if and only if the row of the object, if there was
one, is still there or was in no entry. And then no lookup, by id or by name and also when the metadata
can be read again, answers an object without a row. -/
theorem failed_delete_leaves_ghost_iff {failure : StorageError} (hcurrent : r.EntriesCurrent b)
    (h : r.delete object b = (.error (.storage failure), c)) :
    c.cache = b.cache ∧
    (r.EntriesCurrent c ↔ ∀ t name, b.database.objects? r.table = some t →
      t.rows[object.id]? = some name →
        (∃ t', c.database.objects? r.table = some t' ∧ t'.rows[object.id]? = some name) ∨
          ∀ key, b.cache.get? key ≠ some (CachedRow.mk object.id name).print) ∧
    (r.EntriesCurrent c → ∀ d lookup found d',
      d.database.objects? r.table = c.database.objects? r.table →
      (∀ key, d.cache.get? key = c.cache.get? key) →
      r.find lookup d = (.ok (some found), d') →
      ∃ t, d.database.objects? r.table = some t ∧ t.rows[found.id]? = some found.name) := by
  obtain ⟨hcache, hrows⟩ := exists_rows_of_delete_error h id
  refine ⟨hcache, ?_, fun hafter d lookup found d' hobjects hentries hfind =>
    row_of_find (hafter.of_same hobjects hentries) hfind⟩
  rcases hrows with hsame | ⟨t, ht, ht'⟩
  · refine iff_of_true (hcurrent.of_same hsame fun key => by rw [hcache]) ?_
    exact fun t name ht hrow => .inl ⟨t, hsame.trans ht, hrow⟩
  · rw [entriesCurrent_iff ht] at hcurrent
    rw [entriesCurrent_iff ht', hcache, currentIn_delete_iff hcurrent]
    constructor
    · intro hnone u name hu hrow
      cases ht.symm.trans hu
      exact .inr (hnone name hrow)
    · intro hleft name hrow
      refine (hleft t name ht hrow).resolve_left ?_
      rintro ⟨u, hu, hrow'⟩
      cases ht'.symm.trans hu
      rw [ObjectTable.getElem?_delete, if_pos rfl] at hrow'
      cases hrow'

/-! ## 4. A sconce in the hall

There is no table for the metadata, so when the sconce is deleted, its row goes and its metadata cannot be
cleared. If it was looked up before, it is found again once there is a table. -/

namespace HallSconce

def repository : Repository := .ofType ⟨.sqlite, "", "", "", ""⟩ ⟨"sconce", by decide⟩

def sconces : ObjectTable := ⟨.binary, .ofList [((1 : Int64), "hall")], 1⟩

def withoutMetadata (cache : Cache) : Backend :=
  .start (Database.empty.setTable "sconce" (.objects sconces)) cache

/-- The sconce was looked up by its id. -/
def lookedUp : Cache := Cache.memory.put (repository.idKey 1) (CachedRow.mk 1 "hall").print

def afterDeletion (cache : Cache) : Except Error Unit × Backend :=
  repository.delete (.fresh 1 "hall") (withoutMetadata cache)

/-- What a deletion answers that cannot reach the metadata. -/
def noMetadata : StorageError := .database (Refusal.noTable "sconce_meta").report

def restored (cache : Cache) : Backend :=
  { (afterDeletion cache).2 with
    database := (afterDeletion cache).2.database.setTable "sconce_meta" (.metadata []) }

end HallSconce

open HallSconce in
theorem failed_delete_leaves_ghost_iff_hallSconce :
    repository.EntriesCurrent (withoutMetadata .memory) ∧
    (afterDeletion .memory).1 = .error (.storage noMetadata) ∧
    (afterDeletion .memory).2.database.objects? repository.table = some ⟨.binary, ∅, 1⟩ ∧
    repository.EntriesCurrent (afterDeletion .memory).2 := by
  have hnone : ∀ key, Cache.memory.get? key = none := fun _ => Std.ExtTreeMap.getElem?_empty
  have hcurrent : repository.EntriesCurrent (withoutMetadata .memory) := by
    intro key value hentry
    exact nomatch (hnone key).symm.trans hentry
  have hfailed : (afterDeletion .memory).1 = .error (.storage noMetadata) := by decide +kernel
  obtain ⟨-, hiff, -⟩ := failed_delete_leaves_ghost_iff hcurrent (Prod.ext hfailed rfl)
  refine ⟨hcurrent, hfailed, by decide +kernel, hiff.2 fun t name _ _ => .inr fun key hentry => ?_⟩
  exact nomatch (hnone key).symm.trans hentry

open HallSconce in
/-- All entries were current before, and the sconce is found that was deleted. -/
theorem ghost_of_failed_delete :
    repository.EntriesCurrent (withoutMetadata lookedUp) ∧
    (afterDeletion lookedUp).1 = .error (.storage noMetadata) ∧
    (restored lookedUp).database.objects? repository.table = some ⟨.binary, ∅, 1⟩ ∧
    ¬ repository.EntriesCurrent (afterDeletion lookedUp).2 ∧
    (repository.loadById 1 (restored lookedUp)).1 = .ok (some (.fresh 1 "hall")) := by
  have ht : (withoutMetadata lookedUp).database.objects? repository.table = some sconces := by
    decide +kernel
  have hrow : sconces.rows[(1 : Int64)]? = some "hall" := by decide +kernel
  have hcurrent : repository.CurrentIn sconces lookedUp := by
    intro key value hentry
    rw [lookedUp, Cache.get?_put rfl] at hentry
    split at hentry
    · rename_i hkey
      cases hentry
      exact ⟨1, "hall", hrow, rfl, .inl hkey.symm⟩
    · rw [Cache.get?, Cache.memory, Std.ExtTreeMap.getElem?_empty] at hentry
      cases hentry
  have hentry : (afterDeletion lookedUp).2.cache.get? (repository.idKey 1) =
      some (CachedRow.mk 1 "hall").print := by decide +kernel
  have ht' : (afterDeletion lookedUp).2.database.objects? repository.table =
      some ⟨.binary, ∅, 1⟩ := by decide +kernel
  refine ⟨(entriesCurrent_iff ht).2 hcurrent, by decide +kernel, by decide +kernel, fun h => ?_,
    by decide +kernel⟩
  rw [entriesCurrent_iff ht'] at h
  obtain ⟨id, name, hafter, -⟩ := h _ _ hentry
  rw [Std.ExtTreeMap.getElem?_empty] at hafter
  cases hafter

end Repository

end ObjectCatalog
