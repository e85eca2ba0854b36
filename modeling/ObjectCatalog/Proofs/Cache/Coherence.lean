import ObjectCatalog.Proofs.Repository.Calls

/-!
# Coherence of the cache

A cache is coherent if every entry is a row that is in the object table now, printed, under the key
of its id or of its name. No call of a repository breaks this, however it ends, if only the cache
deletes what it is told to delete.

Between two statements of one call it may be broken: a rename changes the row first and clears the
cache afterwards. So coherence is stated with an exception, for the keys that may be stale
(`Repository.CoherentBut`). A rename or a deletion makes at most two keys stale, those of the id and
of the name the row had, and that is why the name is asked for before it is gone: what the holder of
an object remembers may be another name.
-/

namespace ObjectCatalog

namespace Repository

variable {r : Repository} {stale : String → Prop} {b b' : Backend}

/-- An entry is a row of the table, printed, under the key of its id or of its name. The database
can be asked for it in the same way, since it was when the entry was put in. -/
def Backed (r : Repository) (db : Database) (key value : String) : Prop :=
  ∃ t lookup id name, db.objects? r.table = some t ∧ t.rows[id]? = some name ∧
    value = (CachedRow.mk id name).print ∧ key = r.lookupKey lookup ∧
    (lookup = .id id ∨ lookup = .name name) ∧
    Database.textRefusal? (.findObject r.table lookup) = none

/-- The table is sound, the cache deletes, and every entry that is not under a stale key is a row of
the table. -/
structure CoherentBut (r : Repository) (stale : String → Prop) (b : Backend) : Prop where
  sound : ∀ {t}, b.database.objects? r.table = some t → t.Sound
  deletes : ∀ key, b.cache.fault .delete key = none
  backed : ∀ {key value}, b.cache.get? key = some value → ¬ stale key →
    r.Backed b.database key value

/-- Every entry is a row of the table. -/
def Coherent (r : Repository) (b : Backend) : Prop :=
  r.CoherentBut (fun _ => False) b

/-! ## Steps that change one thing -/

/-- Only the object table and the cache matter. -/
theorem CoherentBut.of_same (h : r.CoherentBut stale b)
    (hobjects : b'.database.objects? r.table = b.database.objects? r.table)
    (hcache : b'.cache = b.cache) : r.CoherentBut stale b' := by
  constructor
  · intro t ht
    rw [hobjects] at ht
    exact h.sound ht
  · rw [hcache]
    exact h.deletes
  · intro key value hkey hstale
    rw [hcache] at hkey
    rw [Backed, hobjects]
    exact h.backed hkey hstale

theorem CoherentBut.record (h : r.CoherentBut stale b) (event : Event) :
    r.CoherentBut stale (b.record event) :=
  h.of_same rfl rfl

/-- What is deleted is not stale any more. -/
theorem CoherentBut.drop (h : r.CoherentBut stale b) (key : String) :
    r.CoherentBut (fun k => stale k ∧ k ≠ key) { b with cache := b.cache.drop key } := by
  refine ⟨h.sound, h.deletes, fun {k value} hk hstale => ?_⟩
  rw [Cache.get?_drop] at hk
  split at hk
  · cases hk
  · rename_i hne
    exact h.backed hk fun hs => hstale ⟨hs, Ne.symm hne⟩

/-- Keys that are no longer stale need not be listed as such. -/
theorem CoherentBut.mono {fewer : String → Prop} (h : r.CoherentBut stale b)
    (hfewer : ∀ key, stale key → fewer key) : r.CoherentBut fewer b :=
  ⟨h.sound, h.deletes, fun hkey hstale => h.backed hkey fun hs => hstale (hfewer _ hs)⟩

/-- A row of the table can be put in. -/
theorem Coherent.put (h : r.Coherent b) {key value : String}
    (hbacked : r.Backed b.database key value) :
    r.Coherent { b with cache := b.cache.put key value } := by
  by_cases hkeeps : b.cache.keeps = true
  · refine ⟨h.sound, fun k => ?_, fun {k v} hk _ => ?_⟩
    · show (b.cache.put key value).fault .delete k = none
      rw [Cache.put, if_pos hkeeps]
      exact h.deletes k
    · rw [Cache.get?_put hkeeps] at hk
      split at hk
      · rename_i heq
        cases hk
        exact heq ▸ hbacked
      · exact h.backed hk id
  · rw [Cache.put_of_not_keeps (by simpa using hkeeps)]
    exact h

/-! ## Changes of the table -/

/-- A new table is no reason for an entry to go if the rows of the old one are in it. -/
theorem CoherentBut.of_rows (h : r.Coherent b) {t t' : ObjectTable}
    (ht : b.database.objects? r.table = some t) (ht' : b'.database.objects? r.table = some t')
    (hsound : t'.Sound) (hcache : b'.cache = b.cache)
    (hrows : ∀ {id : Int64} {name : String}, t.rows[id]? = some name →
      t'.rows[id]? = some name ∨ (stale (r.idKey id) ∧ stale (r.nameKey name))) :
    r.CoherentBut stale b' := by
  constructor
  · intro u hu
    rw [ht'] at hu
    exact Option.some.inj hu ▸ hsound
  · rw [hcache]
    exact h.deletes
  · intro key value hkey hstale
    rw [hcache] at hkey
    -- An entry that is not stale belongs to a row that is still there as it was.
    obtain ⟨u, lookup, id, name, hu, hrow, hvalue, hlookup, hnames, hread⟩ := h.backed hkey id
    rw [ht] at hu
    obtain rfl := Option.some.inj hu
    rcases hrows hrow with hrow' | ⟨hid, hname⟩
    · exact ⟨t', lookup, id, name, ht', hrow', hvalue, hlookup, hnames, hread⟩
    · rcases hnames with rfl | rfl
      · exact absurd (hlookup ▸ hid) hstale
      · exact absurd (hlookup ▸ hname) hstale

/-- The keys of the row with an id and of the name it has. -/
def StaleKeys (r : Repository) (id : Int64) (stored : Option String) (key : String) : Prop :=
  key = r.idKey id ∨ ∃ name, stored = some name ∧ key = r.nameKey name

/-! ## Statements -/

/-- A statement that leaves the object tables alone breaks nothing. -/
theorem keeps_send {s : Statement} (hs : s.SparesObjects) :
    Action.Keeps (r.CoherentBut stale) (Backend.send s) :=
  Action.meets_iff_keeps.1 <| Backend.meets_send
    (fun _ _ _ hb hrun =>
      hb.of_same (Database.objects?_of_sparesObjects hs hrun r.table) rfl)
    (fun _ _ hb _ => hb.record _)

/-- The object table is created without rows. -/
theorem keeps_createObjects (options : String) :
    Action.Keeps r.Coherent (Backend.send (.createObjects r.table options)) := by
  refine Action.meets_iff_keeps.1 (Backend.meets_send ?_ fun b _ hb _ => hb.record _)
  intro b _ db hb hrun
  rcases Database.run_createObjects hrun with rfl | ⟨hnone, hempty⟩
  · exact hb.record _
  · refine ⟨fun {t} ht => ?_, hb.deletes, fun {key value} hkey _ => ?_⟩
    · rw [hempty] at ht
      exact Option.some.inj ht ▸ ObjectTable.sound_empty .binary
    · -- There was no table, so there were no entries.
      obtain ⟨t, _, _, _, ht, _⟩ := hb.backed hkey id
      rw [hnone] at ht
      cases ht

/-- A new row is in no other's place. -/
theorem Coherent.insert (h : r.Coherent b) {t t' : ObjectTable} {id : Int64} {name : String}
    (ht : b.database.objects? r.table = some t) (hinsert : t.insert r.table name = .ok (id, t'))
    (ht' : b'.database.objects? r.table = some t') (hcache : b'.cache = b.cache) :
    r.Coherent b' := by
  have hsound := h.sound ht
  refine CoherentBut.of_rows h ht ht' (hsound.insert hinsert) hcache fun {id' name'} hrow => .inl ?_
  -- All old rows are still there: the id of the new one is above all of theirs.
  obtain ⟨hlt, -, rfl⟩ := ObjectTable.insert_eq_ok hinsert
  rw [ObjectTable.getElem?_put, if_neg, hrow]
  rintro rfl
  rw [hsound.not_mem_of_highestId_lt hlt] at hrow
  cases hrow

theorem keeps_insertName (name : String) : Action.Keeps r.Coherent (r.insertName name) := by
  unfold insertName
  split
  · refine Action.meets_iff_keeps.1 (Backend.meets_send ?_ fun b _ hb _ => hb.record _)
    intro b id db hb hrun
    obtain ⟨t, t', ht, hinsert, ht', -⟩ := Database.run_insertReturning hrun
    exact hb.insert ht hinsert ht' rfl
  -- Where an insertion does not answer the id, another statement asks for it.
  · refine Action.Keeps.bind ?_ fun _ => keeps_send (by trivial)
    refine Action.meets_iff_keeps.1 (Backend.meets_send ?_ fun b _ hb _ => hb.record _)
    intro b _ db hb hrun
    obtain ⟨t, t', id, ht, hinsert, ht', -⟩ := Database.run_insertObject hrun
    exact hb.insert ht hinsert ht' rfl

/-! ## Renames and deletions -/

theorem meets_delete (stale : String → Prop) (key : String) {E : Backend → Prop} :
    Action.Meets (r.CoherentBut stale) (Backend.delete key)
      (fun _ => r.CoherentBut fun k => stale k ∧ k ≠ key) E :=
  Backend.meets_delete (fun _ hb => hb.deletes key) fun _ hb => (hb.record _).drop key

/-- Deleting the keys of a row leaves nothing stale. -/
theorem meets_invalidate (id : Int64) (known : String) (stored : Option String)
    {E : Backend → Prop} :
    Action.Meets (r.CoherentBut (r.StaleKeys id stored)) (r.invalidate id known stored)
      (fun _ => r.Coherent) E := by
  unfold invalidate
  refine (meets_delete _ (r.idKey id)).bind fun _ =>
    (meets_delete _ (r.nameKey known)).bind fun _ => ?_
  cases stored with
  | none =>
    refine Action.meets_pure fun b hb => hb.mono ?_
    -- There was no such row, so only the key of the id could be stale.
    rintro key ⟨⟨rfl | ⟨name, hname, -⟩, hid⟩, -⟩
    · exact hid rfl
    · cases hname
  | some name =>
    simp only
    split
    · rename_i heq
      refine Action.meets_pure fun b hb => hb.mono ?_
      -- The name known to the object is the name in the table, so its key went already.
      rintro key ⟨⟨rfl | ⟨name', hname, rfl⟩, hid⟩, hknown⟩
      · exact hid rfl
      · cases hname
        exact hknown (congrArg r.nameKey heq)
    · refine (meets_delete _ (r.nameKey name)).mono (fun _ b hb => hb.mono ?_) fun _ hb => hb
      rintro key ⟨⟨⟨rfl | ⟨name', hname, rfl⟩, hid⟩, -⟩, hname'⟩
      · exact hid rfl
      · cases hname
        exact hname' rfl

/-- The name that a row has, told before the row is changed. -/
def KnowsStored (r : Repository) (id : Int64) (stored : Option String) (b : Backend) : Prop :=
  r.Coherent b ∧ ∃ t, b.database.objects? r.table = some t ∧ stored = t.rows[id]?

theorem meets_storedName (id : Int64) :
    Action.Meets r.Coherent (Backend.send (.storedName r.table id))
      (fun stored => r.KnowsStored id stored) r.Coherent := by
  refine Backend.meets_send ?_ fun _ _ hb _ => hb.record _
  intro b stored db hb hrun
  obtain ⟨rfl, t, ht, hstored⟩ := Database.run_storedName hrun
  exact ⟨hb.record _, t, ht, hstored⟩

/-- A rename makes the keys of the row stale, and no others. -/
theorem meets_renameObject (id : Int64) (stored : Option String) (name : String) :
    Action.Meets (r.KnowsStored id stored) (Backend.send (.renameObject r.table name id))
      (fun _ => r.CoherentBut (r.StaleKeys id stored)) r.Coherent := by
  refine Backend.meets_send ?_ fun _ _ hb _ => hb.1.record _
  rintro b _ db ⟨hb, t, ht, rfl⟩ hrun
  obtain ⟨u, t', hu, hrename, ht'⟩ := Database.run_renameObject hrun
  obtain rfl : t = u := Option.some.inj (ht.symm.trans hu)
  refine CoherentBut.of_rows hb ht ht' ((hb.sound ht).rename hrename) rfl fun {id' name'} hrow => ?_
  -- Either there was no row to rename, or the rows differ at this id and nowhere else.
  rcases ObjectTable.rename_eq_ok hrename with ⟨-, rfl⟩ | ⟨old, hold, -, rfl⟩
  · exact .inl hrow
  · by_cases hid : id = id'
    · subst hid
      exact .inr ⟨.inl rfl, .inr ⟨name', hrow, rfl⟩⟩
    · rw [ObjectTable.getElem?_put, if_neg hid]
      exact .inl hrow

theorem meets_deleteObject (id : Int64) (stored : Option String) :
    Action.Meets (r.KnowsStored id stored) (Backend.send (.deleteObject r.table id))
      (fun _ => r.CoherentBut (r.StaleKeys id stored)) r.Coherent := by
  refine Backend.meets_send ?_ fun _ _ hb _ => hb.1.record _
  rintro b _ db ⟨hb, t, ht, rfl⟩ hrun
  obtain ⟨u, hu, rfl⟩ := Database.run_deleteObject hrun
  obtain rfl : t = u := Option.some.inj (ht.symm.trans hu)
  have ht' := Database.objects?_setTable_self b.database r.table (t.delete id)
  refine CoherentBut.of_rows hb ht ht' (hb.sound ht).delete rfl fun {id' name'} hrow => ?_
  by_cases hid : id = id'
  · subst hid
    exact .inr ⟨.inl rfl, .inr ⟨name', hrow, rfl⟩⟩
  · rw [ObjectTable.getElem?_delete, if_neg hid]
    exact .inl hrow

theorem keeps_rename (object : NamedObject) (name : String) :
    Action.Keeps r.Coherent (r.rename object name) := by
  unfold rename
  refine Action.meets_iff_keeps.1 ((meets_storedName object.id).bind fun stored => ?_)
  refine ((meets_renameObject object.id stored name).adapt _).bind fun _ => ?_
  exact meets_invalidate object.id object.persistedName stored

/-- A deletion that is done leaves nothing stale. -/
theorem meets_delete_object (object : NamedObject) :
    Action.Meets r.Coherent (r.delete object) (fun _ => r.Coherent) (fun _ => True) := by
  have hstored := (meets_storedName (r := r) object.id).mono (fun _ _ hb => hb)
    (fun _ _ => trivial)
  have hrow := fun stored => (meets_deleteObject (r := r) object.id stored).mono
    (fun _ _ hb => hb) (fun _ _ => trivial)
  have hmetadata : ∀ stored : Option String, Action.Meets
      (r.CoherentBut (r.StaleKeys object.id stored)) (r.metadataStore.remove object.id)
      (fun _ => r.CoherentBut (r.StaleKeys object.id stored)) (fun _ => True) := by
    intro stored
    have hsend : Action.Keeps (r.CoherentBut (r.StaleKeys object.id stored))
        (r.metadataStore.remove object.id) := keeps_send (by trivial)
    exact (Action.meets_iff_keeps.2 hsend).mono (fun _ _ hb => hb) (fun _ _ => trivial)
  -- From the row's going until the cache is told of it the keys of the row are stale. This holds
  -- across the clearing of the metadata, which leaves the objects and the cache alone.
  unfold delete
  refine hstored.bind fun stored => ?_
  refine (hrow stored).bind fun _ => ?_
  exact (hmetadata stored).bind fun _ =>
    meets_invalidate object.id object.persistedName stored

/-! ## Deletions that are stopped -/

/-- A cache that deletes does not stop a deletion. -/
theorem meets_invalidate_of_deletes (id : Int64) (known : String) (stored : Option String)
    {E : Backend → Prop} :
    Action.Meets (fun b => ∀ key, b.cache.fault .delete key = none) (r.invalidate id known stored)
      (fun _ _ => True) E := by
  have hdelete : ∀ key, Action.Meets (fun b => ∀ key, b.cache.fault .delete key = none)
      (Backend.delete key) (fun _ b => ∀ key, b.cache.fault .delete key = none) E :=
    fun key => Backend.meets_delete (fun _ hb => hb key) fun _ hb => hb
  unfold invalidate
  refine (hdelete _).bind fun _ => (hdelete _).bind fun _ => ?_
  cases stored with
  | none => exact Action.meets_pure fun _ _ => trivial
  | some name =>
    simp only
    split
    · exact Action.meets_pure fun _ _ => trivial
    · exact (hdelete _).mono (fun _ _ _ => trivial) fun _ hb => hb

/-- A deletion is stopped by the database, before the cache is told of it. -/
theorem meets_delete_stopped (object : NamedObject) {c : Cache}
    (hc : ∀ key, c.fault .delete key = none) :
    Action.Meets (fun b => b.cache = c) (r.delete object) (fun _ _ => True)
      (fun b => b.cache = c) := by
  have hsend : ∀ s, Action.Meets (fun b => b.cache = c) (Backend.send s) (fun _ b => b.cache = c)
      (fun b => b.cache = c) :=
    fun s => Backend.meets_send (fun _ _ _ hb _ => hb) fun _ _ hb _ => hb
  unfold delete
  refine (hsend _).bind fun stored => (hsend _).bind fun _ => (hsend _).bind fun _ => ?_
  intro b hb
  refine meets_invalidate_of_deletes object.id object.persistedName stored b fun key => ?_
  rw [hb]
  exact hc key

/-- A deletion breaks nothing unless it is stopped after the row went: then the entries of the row
stay. -/
theorem Coherent.delete (h : r.Coherent b) {object : NamedObject}
    (hwhole : ∀ e, (r.delete object b).1 = .error e →
      (r.delete object b).2.database = b.database) :
    r.Coherent (r.delete object b).2 := by
  have hdone := meets_delete_object object b h
  have hstopped := meets_delete_stopped (r := r) object h.deletes b rfl
  -- A deletion that fails has not come to the cache yet, so both the tables and the entries are
  -- those from before; one that succeeds has deleted what became stale.
  rcases hrun : r.delete object b with ⟨e | x, b'⟩
  · rw [hrun] at hstopped hwhole
    have hdb : b'.database = b.database := hwhole e rfl
    exact h.of_same (by rw [hdb]) hstopped
  · rw [hrun] at hdone
    exact hdone

def MetadataIsThere (r : Repository) (b : Backend) : Prop :=
  r.metadataStore.IsThere b.database

/-- If the metadata can be cleared, a deletion is stopped before the row goes. -/
theorem meets_delete_stopped_early (object : NamedObject) {db : Database}
    (hthere : r.metadataStore.IsThere db) :
    Action.Meets (fun b => b.database = db ∧ ∀ key, b.cache.fault .delete key = none)
      (r.delete object) (fun _ _ => True) (fun b => b.database = db) := by
  unfold delete
  refine Action.Meets.bind (Q := fun _ b =>
    b.database = db ∧ ∀ key, b.cache.fault .delete key = none) ?_ fun stored => ?_
  · refine Backend.meets_send (fun b _ db' hb hrun => ?_) fun _ _ hb _ => hb.1
    obtain ⟨rfl, -⟩ := Database.run_storedName hrun
    exact hb
  refine Action.Meets.bind (Q := fun _ b =>
    r.metadataStore.IsThere b.database ∧ ∀ key, b.cache.fault .delete key = none) ?_ fun _ => ?_
  · refine Backend.meets_send (fun b _ db' hb hrun => ?_) fun _ _ hb _ => hb.1
    exact ⟨(hb.1.symm ▸ hthere : r.metadataStore.IsThere b.database).deleteObject hrun, hb.2⟩
  refine Action.Meets.bind (Q := fun _ b => ∀ key, b.cache.fault .delete key = none) ?_ fun _ =>
    meets_invalidate_of_deletes object.id object.persistedName stored
  -- The clearing cannot be refused: the metadata table was there and the row's going spared it.
  refine Backend.meets_send (fun _ _ _ hb _ => hb.2) fun b refusal hb hrun => ?_
  obtain ⟨db', hcleared⟩ := hb.1 object.id
  rw [hrun] at hcleared
  cases hcleared

/-! ## Lookups -/

/-- What the database answers to a lookup may be cached under the key of the lookup, if the name
asked for is the name that is stored. -/
theorem backed_of_findObject {lookup : Lookup} {id : Int64} {name : String} {db : Database}
    (hrun : b.database.run (.findObject r.table lookup) = .ok (some (id, name), db))
    (hcaches : cachesAs lookup ⟨id, name⟩ = true) :
    r.Backed b.database (r.lookupKey lookup) (CachedRow.mk id name).print := by
  have hread := (Database.run_eq_ok_iff.1 hrun).1
  obtain ⟨rfl, t, ht, hfound⟩ := Database.run_findObject hrun
  have hrow := ObjectTable.find?_eq_some hfound.symm
  refine ⟨t, lookup, id, name, ht, hrow, rfl, rfl, ?_, hread⟩
  cases lookup with
  | id asked =>
    rw [ObjectTable.find?, eq_comm, Option.map_eq_some_iff] at hfound
    obtain ⟨found, -, heq⟩ := hfound
    cases heq
    exact .inl rfl
  | name asked =>
    rw [cachesAs, beq_iff_eq] at hcaches
    exact .inr (congrArg Lookup.name hcaches)

theorem keeps_findRow (lookup : Lookup) : Action.Keeps r.Coherent (r.findRow lookup) := by
  unfold findRow
  refine Action.Keeps.bind (Backend.keeps_fetch (fun _ _ hb => hb.record _) _) fun cached => ?_
  cases cached with
  | some text =>
    simp only
    split
    · exact Action.keeps_pure _
    · exact Action.keeps_throw _
  | none =>
    have hfind : Action.Meets r.Coherent (Backend.send (.findObject r.table lookup))
        (fun found b => r.Coherent b ∧ ∀ id name, found = some (id, name) →
          cachesAs lookup ⟨id, name⟩ = true →
          r.Backed b.database (r.lookupKey lookup) (CachedRow.mk id name).print) r.Coherent := by
      refine Backend.meets_send (fun b found db hb hrun => ?_) fun _ _ hb _ => hb.record _
      obtain ⟨rfl, -⟩ := Database.run_findObject hrun
      refine ⟨hb.record _, ?_⟩
      rintro id name rfl hcaches
      exact backed_of_findObject hrun hcaches
    refine Action.meets_iff_keeps.1 (hfind.bind fun found => ?_)
    cases found with
    | none => exact Action.meets_pure fun _ hb => hb.1
    | some row =>
      simp only
      split
      · rename_i hcaches
        refine Action.Meets.bind (Backend.meets_store (fun b hb => ?_) fun _ _ hb => hb.1.record _)
          fun _ => Action.meets_pure fun _ hb => hb
        exact Coherent.put (hb.1.record _) (hb.2 row.1 row.2 rfl hcaches)
      · exact Action.meets_pure fun _ hb => hb.1

/-! ## The calls -/

/-- No part of a call breaks coherence. -/
theorem alikeParts_coherent : r.AlikeParts (Backend.Same r.Coherent) where
  send _ hs _ _ := (keeps_send hs).alike
  createObjects options := (keeps_createObjects options).alike
  insertName name := (keeps_insertName name).alike
  rename object name := (keeps_rename object name).alike

theorem alike_save_coherent : Editing.Alike (Backend.Same r.Coherent) r.metadataStore.save :=
  MetadataStore.alike_save fun _ hs _ => (keeps_send hs).alike

end Repository

end ObjectCatalog
