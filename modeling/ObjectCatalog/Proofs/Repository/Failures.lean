import ObjectCatalog.Proofs.Repository.Merging
import ObjectCatalog.Proofs.Repository.Names
import ObjectCatalog.Proofs.Repository.RoundTrip

/-!
# What a failed call leaves behind

A statement that is refused changes nothing, and so a creation that fails changes nothing: if it sends
two statements, the second one only asks. An update sends many, and there is no transaction around
them. It can fail in three places (`Repository.update_error`): in its save, at an empty name, and in its
rename.

A save could stop in the middle of its statements. But its statements are all about the rows of one
table, so where they can be read the first of them is refused if any is, because the table is not there
(`MetadataStore.save_error`). So an update that failed has written the whole difference or nothing of
it. A rename that is refused has changed nothing, and one that the cache broke off has changed the row:
this is the only state that an object does not know of.
-/

namespace ObjectCatalog

variable {b c d : Backend} {e : Error}

/-! ## 1. Statements and creations -/

theorem Backend.sameState_of_send_error {s : Statement} (h : send s b = (.error e, c)) :
    b.SameState c := by
  rcases hrun : b.database.run s with refusal | ⟨answer, db⟩
  · rw [send_of_error hrun] at h
    cases h
    exact ⟨rfl, rfl⟩
  · rw [send_of_ok hrun] at h
    cases h

theorem Backend.SameState.trans (h : b.SameState c) (h' : c.SameState d) : b.SameState d :=
  ⟨h'.1.trans h.1, h'.2.trans h.2⟩

theorem Action.adapt_eq_error {α : Type} {a : Action α} {g : Error → Error}
    (h : (ExceptT.adapt g a : Action α) b = (.error e, c)) : ∃ e', a b = (.error e', c) ∧ e = g e' := by
  rcases hab : a b with ⟨e' | x, c'⟩
  · rw [adapt_of_error hab] at h
    cases h
    exact ⟨e', rfl, rfl⟩
  · rw [adapt_of_ok hab] at h
    cases h

namespace Repository

variable {r : Repository} {object o : NamedObject}

theorem sameState_of_insertName_error {name : String} (h : r.insertName name b = (.error e, c)) :
    b.SameState c := by
  unfold insertName at h
  split at h
  · exact Backend.sameState_of_send_error h
  · rcases Action.exists_of_bind_eq h with ⟨_, hinsert, -⟩ | ⟨_, d, -, hasked⟩
    · exact Backend.sameState_of_send_error hinsert
    · -- The row is there by now, but the question for its id is never refused.
      have hanswer : d.database.run .lastInsertId = .ok (d.database.lastInsertId, d.database) := rfl
      rw [Backend.send_of_ok hanswer] at hasked
      cases hasked

/-- A creation that fails changes nothing. -/
theorem sameState_of_create_error {raw : String} (h : r.create raw b = (.error e, c)) :
    b.SameState c := by
  unfold create at h
  split at h
  · cases h
    exact ⟨rfl, rfl⟩
  · rcases Action.exists_of_bind_eq h with ⟨_, hadapted, -⟩ | ⟨_, _, -, habsurd⟩
    · obtain ⟨_, hinsert, -⟩ := Action.adapt_eq_error hadapted
      exact sameState_of_insertName_error hinsert
    · cases habsurd

end Repository

/-! ## 2. Saves -/

namespace MetadataStore

variable {store : MetadataStore} {object o : NamedObject} {id : Int64}

/-- Without the table a sequence that begins with a deletion is over at once. -/
theorem sameState_of_deleteEntry_bind (hthere : ¬ store.HasTable b) {key : String}
    {f : Unit → Action Unit} {result : Except Error Unit}
    (h : (Backend.send (.deleteEntry store.table id key) >>= f) b = (result, c)) :
    b.SameState c := by
  rcases Action.exists_of_bind_eq h with ⟨_, hdelete, -⟩ | ⟨_, d, hdelete, -⟩
  · exact Backend.sameState_of_send_error hdelete
  · obtain ⟨-, ⟨_, habsurd, -⟩ | ⟨_, -, hrun⟩⟩ := Backend.send_eq hdelete
    · cases habsurd
    · exact absurd (hasTable_of_deleteEntry hrun).1 hthere

theorem writeRemovals_of_not_hasTable (hthere : ¬ store.HasTable b) {keys : List String}
    {result : Except Error Unit} (h : store.writeRemovals id keys b = (result, c)) :
    b.SameState c := by
  cases keys with
  | nil =>
    cases h
    exact ⟨rfl, rfl⟩
  | cons key rest => exact sameState_of_deleteEntry_bind hthere h

/-- A value is written in two statements, and the first of them is a deletion. -/
theorem writeUpserts_of_not_hasTable (hthere : ¬ store.HasTable b)
    {entries : List (String × String)} {result : Except Error Unit}
    (h : store.writeUpserts id entries b = (result, c)) : b.SameState c := by
  cases entries with
  | nil =>
    cases h
    exact ⟨rfl, rfl⟩
  | cons entry rest => exact sameState_of_deleteEntry_bind hthere h

/-- A save whose statements can be read fails only for want of its table. It fails at its first
statement then, so nothing is written and nothing is remembered. -/
theorem save_error (hread : Database.Readable store.table)
    (h : store.save object b = ((.error e, o), c)) :
    ¬ store.HasTable b ∧ o = object ∧ b.SameState c := by
  have hthere : ¬ store.HasTable b := by
    intro hthere
    obtain ⟨saved, d, hsaved⟩ := save_isOk_iff.2 fun s hs =>
      ⟨readable_writes hread _ s hs, hthere⟩
    rw [hsaved] at h
    cases h
  refine ⟨hthere, ?_⟩
  rcases Editing.exists_of_bind_eq h with ⟨_, habsurd, -⟩ | ⟨seen, _, _, hget, h⟩
  · cases habsurd
  cases hget
  simp only at h
  split at h
  · cases h
  rcases Editing.exists_of_bind_eq h with ⟨_, hremovals, -⟩ | ⟨_, _, d, hremovals, h⟩
  · obtain ⟨hremovals, ho⟩ := Action.editing_eq hremovals
    exact ⟨ho, writeRemovals_of_not_hasTable hthere hremovals⟩
  obtain ⟨hremovals, rfl⟩ := Action.editing_eq hremovals
  have hsame : b.SameState d := writeRemovals_of_not_hasTable hthere hremovals
  have hthere' : ¬ store.HasTable d := by
    rw [HasTable, hsame.1]
    exact hthere
  rcases Editing.exists_of_bind_eq h with ⟨_, hupserts, -⟩ | ⟨_, _, _, -, habsurd⟩
  · obtain ⟨hupserts, ho⟩ := Action.editing_eq hupserts
    exact ⟨ho, hsame.trans (writeUpserts_of_not_hasTable hthere' hupserts)⟩
  · cases habsurd

/-- Nothing was written of the difference of an object: there was none, or the save failed. -/
def Unsaved (store : MetadataStore) (object : NamedObject) (b : Backend) : Prop :=
  object.metadataDelta.isEmpty = true ∨ ∃ e o c, store.save object b = ((.error e, o), c)

/-- After a save that was answered: there was no difference. -/
theorem unsaved_iff (hsave : store.save object b = ((.ok (), o), c)) :
    store.Unsaved object b ↔ object.persistedMetadata = object.metadata := by
  rw [Unsaved, NamedObject.isEmpty_metadataDelta_iff]
  refine or_iff_left ?_
  rintro ⟨e, o', c', hfailed⟩
  rw [hsave] at hfailed
  cases hfailed

end MetadataStore

/-! ## 3. Updates -/

namespace Repository

variable {r : Repository} {object o : NamedObject}

/-- A rename that is refused changes nothing, and otherwise it is the cache that fails. -/
theorem sameState_of_rename_error {name : String} (h : r.rename object name b = (.error e, c))
    (he : ¬ e.OfCache) : b.SameState c := by
  rcases Action.exists_of_bind_eq h with ⟨_, hstored, -⟩ | ⟨stored, d, hstored, h⟩
  · exact Backend.sameState_of_send_error hstored
  have hsame : b.SameState d := by
    obtain ⟨hcache, ⟨_, habsurd, -⟩ | ⟨_, -, hrun⟩⟩ := Backend.send_eq hstored
    · cases habsurd
    · exact ⟨(Database.run_storedName hrun).1, hcache⟩
  rcases Action.exists_of_bind_eq h with ⟨_, hadapted, -⟩ | ⟨_, _, -, hinvalidate⟩
  · obtain ⟨_, hrename, -⟩ := Action.adapt_eq_error hadapted
    exact hsame.trans (Backend.sameState_of_send_error hrename)
  · obtain ⟨-, ⟨failure, hfailure, -⟩ | ⟨habsurd, -⟩⟩ := invalidate_eq hinvalidate
    · cases hfailure
      exact absurd trivial he
    · cases habsurd

/-- **The three places where an update can fail.** -/
theorem update_error (h : r.update object b = ((.error e, o), c)) :
    r.metadataStore.save object b = ((.error e, o), c) ∨
    ∃ d, r.metadataStore.save object b = ((.ok (), o), d) ∧
      Text.trim o.name ≠ o.persistedName ∧
      ((e = .invalidArgument .emptyName ∧ c = d) ∨
        r.rename o (Text.trim o.name) d = (.error e, c)) := by
  rcases hsave : r.metadataStore.save object b with ⟨⟨e' | x, saved⟩, d⟩
  · rw [update_of_save_error hsave] at h
    exact .inl h
  rw [update_of_save_ok hsave] at h
  by_cases hsame : Text.trim saved.name = saved.persistedName
  · rw [updateName_of_same hsame] at h
    cases h
  by_cases hempty : Text.trim saved.name = ""
  · rw [updateName_of_empty hsame hempty] at h
    cases h
    exact .inr ⟨_, rfl, hsame, .inl ⟨rfl, rfl⟩⟩
  rcases hrename : r.rename saved (Text.trim saved.name) d with ⟨e' | x, d'⟩
  · rw [updateName_of_rename_error hsame hempty hrename] at h
    cases h
    exact .inr ⟨d, rfl, hsame, .inr hrename⟩
  · rw [updateName_of_rename_ok hsame hempty hrename] at h
    cases h

/-- What an update leaves that fails with another error than one of the cache. -/
structure RefusedUpdate (r : Repository) (object : NamedObject) (b : Backend) (o : NamedObject)
    (c : Backend) : Prop where
  objects : c.database.objects? r.table = b.database.objects? r.table
  cache : c.cache = b.cache
  /-- Only what the object remembers of its metadata can be something else. -/
  handle : o.id = object.id ∧ o.name = object.name ∧ o.persistedName = object.persistedName ∧
    o.metadata = object.metadata
  unchanged_iff : (c.database.metadata r.metadataStore.table =
      b.database.metadata r.metadataStore.table ∧
    o.persistedMetadata = object.persistedMetadata) ↔ r.metadataStore.Unsaved object b
  /-- If anything was written, then all of it. -/
  whole : ¬ r.metadataStore.Unsaved object b → ∃ rows rows',
    b.database.metadata r.metadataStore.table = .ok rows ∧
    c.database.metadata r.metadataStore.table = .ok rows' ∧
    MetadataTable.Merged object rows rows' ∧
    MetadataTable.loaded rows' object.id =
      object.metadataDelta.applyTo (MetadataTable.loaded rows object.id) ∧
    o.persistedMetadata = object.metadata

theorem refusedUpdate (hread : Database.Readable r.metadataStore.table)
    (h : r.update object b = ((.error e, o), c)) (he : ¬ e.OfCache) :
    r.RefusedUpdate object b o c := by
  rcases update_error h with hsave | ⟨d, hsave, -, hend⟩
  · obtain ⟨-, rfl, hsame⟩ := MetadataStore.save_error hread hsave
    have hunsaved : r.metadataStore.Unsaved o b := .inr ⟨e, o, c, hsave⟩
    exact ⟨by rw [hsame.1], hsame.2, ⟨rfl, rfl, rfl, rfl⟩,
      iff_of_true ⟨by rw [hsame.1], rfl⟩ hunsaved, fun hwritten => absurd hunsaved hwritten⟩
  · have hsame : d.SameState c := by
      rcases hend with ⟨-, rfl⟩ | hrename
      · exact ⟨rfl, rfl⟩
      · exact sameState_of_rename_error hrename he
    obtain ⟨-, hcache, hobjects⟩ := save_eq hsave
    obtain ⟨rfl, -⟩ := MetadataStore.merged_of_save hsave
    refine ⟨by rw [hsame.1, hobjects], hsame.2.trans hcache, ⟨rfl, rfl, rfl, rfl⟩, ?_, ?_⟩
    · rw [MetadataStore.unsaved_iff hsave]
      -- A save that was answered is remembered, and without a difference it has written nothing.
      refine ⟨fun h => h.2.symm, fun hknown => ⟨?_, hknown.symm⟩⟩
      rw [MetadataStore.save_of_isEmpty (NamedObject.isEmpty_metadataDelta_iff.2 hknown)] at hsave
      obtain ⟨-, rfl⟩ := Prod.mk.inj hsave
      rw [hsame.1]
    · intro hwritten
      have hdelta : ¬ object.metadataDelta.isEmpty = true := fun hempty => hwritten (.inl hempty)
      obtain ⟨rows, hrows⟩ := MetadataStore.hasTable_of_save hdelta hsave
      obtain ⟨-, hafter⟩ := MetadataStore.save_eq_ok hrows hsave
      exact ⟨rows, _, hrows, hsame.1 ▸ hafter, MetadataTable.merged_afterSave object rows,
        MetadataTable.loaded_afterSave _ _ _, rfl⟩

/-- What an update leaves that fails in the cache: its save was answered, and the row was changed. The
object does not know of the change. -/
structure BrokenOffUpdate (r : Repository) (object : NamedObject) (b : Backend) (o : NamedObject)
    (c : Backend) : Prop where
  renamed : Text.trim object.name ≠ object.persistedName
  row : ∃ t t', b.database.objects? r.table = some t ∧ c.database.objects? r.table = some t' ∧
    t.SetsRow t' object.id (some (Text.trim object.name))
  handle : o = { object with persistedMetadata := object.metadata }
  metadata : ∀ rows, b.database.metadata r.metadataStore.table = .ok rows →
    ∃ rows', c.database.metadata r.metadataStore.table = .ok rows' ∧
      MetadataTable.Merged object rows rows'
  /-- At most the entries of the id and of the remembered name are gone. -/
  cache : b.cache.Spares (r.IsKeyOf object.id object.persistedName none) c.cache

theorem brokenOffUpdate {failure : CacheFailure}
    (h : r.update object b = ((.error (.cache failure), o), c)) : r.BrokenOffUpdate object b o c := by
  rcases update_error h with hsave | ⟨d, hsave, hne, ⟨habsurd, -⟩ | hrename⟩
  · exact absurd trivial (MetadataStore.not_ofCache_of_save hsave)
  · cases habsurd
  obtain ⟨-, hcache, hobjects⟩ := save_eq hsave
  obtain ⟨rfl, -⟩ := MetadataStore.merged_of_save hsave
  rcases rename_eq hrename with ⟨_, he, hdatabase⟩ | ⟨t, t', ht, ht', hset, hend⟩
  · cases he
    exact absurd trivial hdatabase
  obtain ⟨_, -, hspares⟩ := hend.resolve_right fun habsurd => nomatch habsurd.1
  refine ⟨hne, ⟨t, t', hobjects ▸ ht, ht', hset⟩, rfl, fun rows hrows => ?_, hcache ▸ hspares⟩
  obtain ⟨-, hafter⟩ := MetadataStore.save_eq_ok hrows hsave
  have hkept := keeps_rename_metadata (r := r) object.markSaved (Text.trim object.markSaved.name)
    r.metadataStore.table d hafter
  rw [hrename] at hkept
  exact ⟨_, hkept, MetadataTable.merged_afterSave object rows⟩

/-- **What a failed creation or update leaves behind.** Whatever the tables and the cache hold and
whatever of it is missing, if only the metadata table has a name that statements can read: a creation that
fails changes nothing. An update that fails, but not in the cache, leaves the object table, the cache and
all but the remembered metadata of the object as they were; it has written nothing to the metadata table
and remembers nothing new exactly if its save failed or had nothing to write, and else the whole
difference is in the table and is remembered. An update that fails in the cache has changed the row, if
there is one, and the object still has the name that its holder gave it and remembers its old one. -/
theorem failures_leave_whole_states (b : Backend)
    (hread : Database.Readable r.metadataStore.table) :
    (∀ raw e c, r.create raw b = (.error e, c) → c.database = b.database ∧ c.cache = b.cache) ∧
    (∀ object e o c, r.update object b = ((.error e, o), c) → ¬ e.OfCache →
      r.RefusedUpdate object b o c) ∧
    ∀ object failure o c, r.update object b = ((.error (.cache failure), o), c) →
      r.BrokenOffUpdate object b o c :=
  ⟨fun _ _ _ h => sameState_of_create_error h, fun _ _ _ _ h he => refusedUpdate hread h he,
    fun _ _ _ _ h => brokenOffUpdate h⟩

end Repository

/-! ## 4. A name that is taken

There is an elm on the shelf. The holder of the oak gave it that name, aged it and changed its wood. -/

namespace Repository

namespace OakAndElm

def repository : Repository := .ofType ⟨.sqlite, "", "", "", ""⟩ ⟨"shelf", by decide⟩

def objects : ObjectTable := ⟨.binary, .ofList [((1 : Int64), "oak"), ((2 : Int64), "elm")], 2⟩

def backend : Backend :=
  .start ((Database.empty.setTable "shelf" (.objects objects)).setTable "shelf_meta"
    (.metadata [⟨1, "wood", "oak"⟩, ⟨2, "wood", "elm"⟩])) .memory

def board : NamedObject :=
  ⟨1, " elm ", .ofList [("age", "3"), ("wood", "fir")], "oak", .ofList [("wood", "oak")]⟩

def refused : (Except Error Unit × NamedObject) × Backend := repository.update board backend

/-- The backend with a cache that deletes nothing. -/
def stuck : Backend :=
  { backend with cache := { backend.cache with
    fault := fun call _ => if call = .delete then some ⟨[], "stuck"⟩ else none } }

def brokenOff : (Except Error Unit × NamedObject) × Backend :=
  repository.update (board.setName " ash ") stuck

end OakAndElm

open OakAndElm in
theorem failures_leave_whole_states_oakAndElm :
    refused.1.1 = .error (.duplicateName "elm") ∧
    repository.RefusedUpdate board backend refused.1.2 refused.2 ∧
    refused.2.database.entries "shelf_meta" =
      [⟨2, "wood", "elm"⟩, ⟨1, "age", "3"⟩, ⟨1, "wood", "fir"⟩] ∧
    (∃ c, repository.create "\telm" backend = (.error (.duplicateName "elm"), c) ∧
      c.database = backend.database ∧ c.cache = backend.cache) ∧
    brokenOff.1.1 = .error (.cache ⟨[], "stuck"⟩) ∧
    repository.BrokenOffUpdate (board.setName " ash ") stuck brokenOff.1.2 brokenOff.2 := by
  have hread : Database.Readable repository.metadataStore.table :=
    Database.readable_of_isPlainName (by decide +kernel)
  have hrefused : refused.1.1 = .error (.duplicateName "elm") := by decide +kernel
  have hbroken : brokenOff.1.1 = .error (.cache ⟨[], "stuck"⟩) := by decide +kernel
  obtain ⟨hcreate, hupdate, -⟩ := failures_leave_whole_states backend hread
  obtain ⟨-, -, hcache⟩ := failures_leave_whole_states stuck hread
  refine ⟨hrefused, hupdate board _ _ _ (Prod.ext (Prod.ext hrefused rfl) rfl) id, by decide +kernel,
    ?_, hbroken, hcache _ _ _ _ (Prod.ext (Prod.ext hbroken rfl) rfl)⟩
  have hcreated : (repository.create "\telm" backend).1 = .error (.duplicateName "elm") := by
    decide +kernel
  exact ⟨_, Prod.ext hcreated rfl, hcreate _ _ _ (Prod.ext hcreated rfl)⟩

end Repository

end ObjectCatalog
