import ObjectCatalog.Proofs.Repository.Writes

/-!
# Writes leave other objects alone

What a write through an object does is done to the row of this object, to its metadata rows and to the
entries of the cache under at most three keys (`Repository.write_done`). One of the keys can be that of
another object: it has a name by now that the holder of the written one still remembers. Its entry goes
then, and nothing else of it: what a lookup answers does not depend on whether the cache has the row.

So the work is in the lookups afterwards (`Repository.find_after_write`). The cache may be left with
entries of a row that was changed, if it failed to delete them, but they are under the keys of this row,
and a lookup of another object does not ask for those (`Repository.Backed.of_rows`).
-/

namespace ObjectCatalog

/-! ## 1. Reachable desks -/

namespace Repository

variable {r : Repository} {desk : Desk}

/-- What a program can come to in steps it can come to in requests, between which anything may happen to
the cache. -/
theorem leadsTo_of_moves {db : Database} {cache : Cache} (hdb : r.StartsEmpty db)
    (h : Relation.ReflTransGen r.Moves ⟨.start db cache, ∅⟩ desk) : r.LeadsTo desk := by
  induction h with
  | refl => exact .start cache hdb
  | tail _ hmove ih =>
    cases hmove with
    | request store request _ => exact .request store request ih
    | evict key => exact .exchange _ ih
    | disturb fault _ => exact .exchange _ ih

end Repository

/-! ## 2. What stays -/

/-- The metadata of an object depends on its own rows alone. -/
theorem MetadataTable.loaded_of_withoutObject {rows rows' : List MetadataRow} {id id' : Int64}
    (h : withoutObject rows' id = withoutObject rows id) (hne : id' ≠ id) :
    loaded rows' id' = loaded rows id' := by
  refine Std.ExtTreeMap.ext_getElem? fun key => getElem?_loaded_congr fun value => ?_
  have hmem : ∀ l : List MetadataRow,
      ⟨id', key, value⟩ ∈ withoutObject l id ↔ ⟨id', key, value⟩ ∈ l := by
    intro l
    rw [withoutObject, List.mem_filter]
    exact and_iff_left (bne_iff_ne.2 hne)
  rw [← hmem, h, hmem]

namespace Repository

variable {r : Repository} {b c : Backend} {t t' : ObjectTable} {rows : List MetadataRow}
  {object : NamedObject} {id : Int64}

/-- An entry stays that of a row if the row stays. -/
theorem Backed.of_rows {db db' : Database} {key value : String} (h : r.Backed db key value)
    (ht : db.objects? r.table = some t) (ht' : db'.objects? r.table = some t')
    (hrows : ∀ {id : Int64} {name : String}, t.rows[id]? = some name →
      key = r.idKey id ∨ key = r.nameKey name → t'.rows[id]? = some name) :
    r.Backed db' key value := by
  obtain ⟨u, lookup, id, name, hu, hrow, hvalue, hkey, hlookup, hread⟩ := h
  cases ht.symm.trans hu
  refine ⟨t', lookup, id, name, ht', hrows hrow ?_, hvalue, hkey, hlookup, hread⟩
  rcases hlookup with rfl | rfl
  · exact .inl hkey
  · exact .inr hkey

/-- The two ways to look up the row with an id: by the id and by the name it has. -/
def Asks (t : ObjectTable) (id : Int64) (lookup : Lookup) : Prop :=
  lookup = .id id ∨ ∃ name, t.rows[id]? = some name ∧ lookup = .name name

/-- Such a lookup finds this row. -/
theorem find?_of_asks (h : t.Sound) {lookup : Lookup} (hasks : Asks t id lookup) :
    t.find? lookup = t.rows[id]?.map (id, ·) := by
  rcases hasks with rfl | ⟨name, hrow, rfl⟩
  · rfl
  · rw [hrow]
    exact h.withName? hrow

/-- It asks the cache for an entry of this row, and of no other. -/
theorem eq_of_asks (h : t.Sound) {lookup : Lookup} (hasks : Asks t id lookup) {id' : Int64}
    {name : String} (hrow : t.rows[id']? = some name)
    (hkey : r.lookupKey lookup = r.idKey id' ∨ r.lookupKey lookup = r.nameKey name) : id' = id := by
  rcases hasks with rfl | ⟨old, hold, rfl⟩
  · rcases hkey with hkey | hkey
    · exact (idKey_injective hkey).symm
    · exact absurd hkey (idKey_ne_nameKey id name)
  · rcases hkey with hkey | hkey
    · exact absurd hkey.symm (idKey_ne_nameKey id' old)
    · obtain rfl := nameKey_injective hkey
      exact h.distinct hrow hold (Collation.same_refl _ _)

end Repository

/-! ## 3. Writes and lookups -/

/-- The backend with other calls of the cache failing. -/
def Backend.withFault (b : Backend) (fault : CacheCall → String → Option CacheFailure) : Backend :=
  { b with cache := { b.cache with fault := fault } }

/-- The backend with every call of the cache succeeding. -/
def Backend.repaired (b : Backend) : Backend :=
  b.withFault fun _ _ => none

namespace Repository

variable {r : Repository} {b : Backend} {t : ObjectTable} {rows : List MetadataRow}
  {object : NamedObject} {id : Int64} {lookup : Lookup}

/-- Another object is found as before. -/
theorem find_after_write (h : r.Serves b t rows)
    (fault : CacheCall → String → Option CacheFailure) (write : Write) (hne : id ≠ object.id)
    (hasks : Asks t id lookup) :
    (r.find lookup (write.run r object (b.withFault fault)).2.repaired).1 =
      .ok (t.rows[id]?.map fun name => .stored rows (id, name)) := by
  have hready : r.Ready (b.withFault fault).database t rows := h.ready
  have hdone := write_done hready write object
  let after := (write.ending t object).table t object.id
  have hrow : after.rows[id]? = t.rows[id]? := Ending.rows_table_of_ne hne _
  have hsound : after.Sound := Write.sound_table h.sound write object
  have hasks' : Asks after id lookup := by
    rwa [Asks, hrow]
  -- An entry that is asked for was there before, and its row is still there.
  have hbacked : ∀ text,
      (write.run r object (b.withFault fault)).2.cache.get? (r.lookupKey lookup) = some text →
      r.Backed (write.run r object (b.withFault fault)).2.database (r.lookupKey lookup) text := by
    intro text hentry
    have hbefore : b.cache.get? (r.lookupKey lookup) = some text := by
      rcases hdone.shrinks.entries (r.lookupKey lookup) with hsame | hgone
      · exact hsame.symm.trans hentry
      · rw [hgone] at hentry
        cases hentry
    refine (h.coherent.backed hbefore fun habsurd => habsurd).of_rows h.ready.objects?
      hdone.ready.objects? fun {id' name} hname hkey => ?_
    obtain rfl : id' = id := eq_of_asks h.sound hasks hname hkey
    exact hrow.trans hname
  have hmetadata : MetadataTable.loaded (write.rows rows object) id =
      MetadataTable.loaded rows id :=
    MetadataTable.loaded_of_withoutObject (Write.withoutObject_rows rows object write) hne
  rw [find_of_backed (b := (write.run r object (b.withFault fault)).2.repaired) hdone.ready hsound
    (fun _ _ => rfl) hbacked, find?_of_asks hsound hasks', hrow, Option.map_map]
  refine congrArg (fun load => Except.ok (Option.map load t.rows[id]?)) (funext fun name => ?_)
  rw [Function.comp_apply, NamedObject.stored, NamedObject.stored, hmetadata]

theorem find_of_asks (h : r.Serves b t rows) (hasks : Asks t id lookup) :
    (r.find lookup b).1 = .ok (t.rows[id]?.map fun name => .stored rows (id, name)) := by
  obtain ⟨c, hfind, -⟩ := find_eq h lookup
  rw [hfind, find?_of_asks h.sound hasks, Option.map_map]
  rfl

/-- A write through an object left all others alone: their rows in both tables, and their entries in the
cache but for those under the keys of the written one, and what is found of them by their ids and by
their names. -/
structure LeavesOthers (r : Repository) (object : NamedObject) (t : ObjectTable)
    (rows : List MetadataRow) (b c : Backend) : Prop where
  objects : ∃ t', c.database.objects r.table = .ok t' ∧
    ∀ {id : Int64}, id ≠ object.id → t'.rows[id]? = t.rows[id]?
  metadata : ∃ rows', c.database.metadata r.metadataStore.table = .ok rows' ∧
    MetadataTable.withoutObject rows' object.id = MetadataTable.withoutObject rows object.id
  /-- An entry is as it was, or it is gone and was under one of the keys. -/
  cache : ∀ key, c.cache.get? key = b.cache.get? key ∨
    (c.cache.get? key = none ∧
      r.IsKeyOf object.id object.persistedName t.rows[object.id]? key)
  byId : ∀ {id : Int64}, id ≠ object.id →
    (r.loadById id b).1 = .ok (t.rows[id]?.map fun name => .stored rows (id, name)) ∧
    (r.loadById id c.repaired).1 = (r.loadById id b).1
  byName : ∀ {id : Int64} {name : String}, id ≠ object.id → t.rows[id]? = some name →
    (r.loadByName name b).1 = .ok (some (.stored rows (id, name))) ∧
    (r.loadByName name c.repaired).1 = (r.loadByName name b).1

/-- **Writes through one object leave all others alone.** After any requests and whatever went from the
cache, let an object be updated or deleted, whatever its holder knows of it, with any calls of the cache
failing meanwhile, and let it end in any way. Then all rows of other ids are as they were in both tables,
no entry of the cache appeared or changed, and those that are gone were under the key of the id, of the
remembered name or of the stored name. Any other object is found as before, by its id and by its name,
also where its name is one that the holder remembers. -/
theorem writes_leave_others {db : Database} {cache : Cache} {desk : Desk} (hdb : r.StartsEmpty db)
    (hcache : cache = .memory ∨ cache = .null)
    (hmoves : Relation.ReflTransGen r.Moves ⟨.start db cache, ∅⟩ desk) (hworks : desk.backend.Works)
    (hready : r.Ready desk.backend.database t rows) (write : Write) (object : NamedObject)
    (fault : CacheCall → String → Option CacheFailure) :
    r.LeavesOthers object t rows desk.backend
      (write.run r object (desk.backend.withFault fault)).2 := by
  have hserves : r.Serves desk.backend t rows :=
    ⟨hready, coherent_of_moves hdb hcache hmoves, hworks⟩
  have hfaulty : r.Ready (desk.backend.withFault fault).database t rows := hready
  have hdone := write_done hfaulty write object
  have hafter : ∀ {id lookup}, id ≠ object.id → Asks t id lookup →
      (r.find lookup (write.run r object (desk.backend.withFault fault)).2.repaired).1 =
        (r.find lookup desk.backend).1 := fun hne hasks =>
    (find_after_write hserves fault write hne hasks).trans (find_of_asks hserves hasks).symm
  refine ⟨⟨_, hdone.ready.objects, fun hne => Ending.rows_table_of_ne hne _⟩,
    ⟨_, hdone.ready.metadata, Write.withoutObject_rows rows object write⟩, fun key => ?_,
    fun hne => ⟨find_of_asks hserves (.inl rfl), hafter hne (.inl rfl)⟩,
    fun {id name} hne hrow => ?_⟩
  · by_cases htold : r.Told t object (write.ending t object) key
    · exact (hdone.shrinks.entries key).imp_right fun hnone => ⟨hnone, htold.2⟩
    · exact .inl (hdone.spares key htold)
  · -- A stored name is normal, so it is looked up as it is.
    have hnormal := (leadsTo_of_moves hdb hmoves).hasNormalNames t hready.objects? id name hrow
    have hasks : Asks t id (.ofName name) :=
      .inr ⟨name, hrow, congrArg Lookup.name hnormal.trimmed⟩
    refine ⟨?_, hafter hne hasks⟩
    have hfind := find_of_asks hserves hasks
    rw [hrow] at hfind
    exact hfind

/-! ## 4. A name that went on

The first stool was called the low one, and a holder remembers it so. It is the tall one now, and the low
one is another stool, which was looked up by its name. The holder has the first one deleted, and the cache
fails at the name that it has. -/

namespace TwoStools

def repository : Repository := .ofType ⟨.sqlite, "", "", "", ""⟩ ⟨"stool", by decide⟩

def requests : List Request :=
  [.install, .create "low" "first", .setName "first" "tall", .update "first",
    .create "low" "second", .loadByName "low" none, .loadByName "tall" none]

def desk : Desk := repository.runAll ⟨.start .empty .memory, ∅⟩ requests

def stools : ObjectTable := ⟨.binary, .ofList [((1 : Int64), "tall"), (2, "low")], 2⟩

/-- The first stool, as it was once. -/
def stale : NamedObject := .fresh 1 "low"

def fault : CacheCall → String → Option CacheFailure := fun call key =>
  if call = .delete ∧ key = repository.nameKey "tall" then some ⟨[], "stuck"⟩ else none

def deleted : (Except Error Unit × NamedObject) × Backend :=
  Write.delete.run repository stale (desk.backend.withFault fault)

end TwoStools

open TwoStools in
theorem writes_leave_others_twoStools :
    repository.LeavesOthers stale stools [] desk.backend deleted.2 ∧
    deleted.1.1 = .error (.cache ⟨[], "stuck"⟩) ∧
    desk.backend.cache.get? (repository.nameKey "low") = some (CachedRow.mk 2 "low").print ∧
    deleted.2.cache.get? (repository.nameKey "low") = none ∧
    (repository.loadByName "low" deleted.2.repaired).1 =
      .ok (some (.stored [] (2, "low"))) := by
  have hmoves : Relation.ReflTransGen repository.Moves ⟨.start .empty .memory, ∅⟩ desk :=
    moves_runAll ⟨nofun, nofun, nofun, nofun, nofun, nofun, nofun, trivial⟩
  have hworks : desk.backend.Works := works_runAll fun _ _ => rfl
  have hready : repository.Ready desk.backend.database stools [] :=
    .of_isPlainName (by decide +kernel) (by decide +kernel) (by decide +kernel) (by decide +kernel)
  have hleaves : repository.LeavesOthers stale stools [] desk.backend deleted.2 :=
    writes_leave_others startsEmpty_empty (.inl rfl) hmoves hworks hready .delete stale fault
  have hrow : stools.rows[(2 : Int64)]? = some "low" := by decide +kernel
  obtain ⟨hbefore, hafter⟩ := hleaves.byName (by decide) hrow
  exact ⟨hleaves, by decide +kernel, by decide +kernel, by decide +kernel, hafter.trans hbefore⟩

end Repository

end ObjectCatalog
