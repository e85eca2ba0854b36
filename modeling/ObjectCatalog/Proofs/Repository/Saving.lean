import ObjectCatalog.Proofs.Database.Metadata
import ObjectCatalog.Proofs.Repository.Outcomes

/-!
# Saves and updates, exactly

A save that is answered wrote the whole difference, and the object remembers its metadata as stored
(`MetadataStore.save_eq_ok`). This is true as well of a save that had nothing to write, so no case has
to be told from another afterwards. A save of an object without a difference does nothing at all
(`MetadataStore.save_of_isEmpty`).

What an update does after its save is decided by the trimmed name alone: it is the known one, or empty,
or another one, and each of the three has its equation. An update ends in the error of its rename, or
in that of its save, or in that of an empty name, and never in another.
-/

namespace ObjectCatalog

variable {α β : Type}

/-! ## Sequences of editings -/

theorem Editing.bind_of_ok {e : Editing α} {f : α → Editing β} {object o : NamedObject}
    {b c : Backend} {x : α} (h : e object b = ((.ok x, o), c)) : (e >>= f) object b = f x o c := by
  show ExceptT.bindCont f (e object b).1.1 (e object b).1.2 (e object b).2 = f x o c
  rw [h]
  rfl

theorem Editing.bind_of_error {e : Editing α} {f : α → Editing β} {object o : NamedObject}
    {b c : Backend} {error : Error} (h : e object b = ((.error error, o), c)) :
    (e >>= f) object b = ((.error error, o), c) := by
  show ExceptT.bindCont f (e object b).1.1 (e object b).1.2 (e object b).2 = ((.error error, o), c)
  rw [h]
  rfl

theorem Action.editing_of_eq {a : Action α} {result : Except Error α} {b c : Backend}
    (h : a b = (result, c)) (object : NamedObject) : a.editing object b = ((result, object), c) := by
  unfold Action.editing
  simp only [ExceptT.mk, h]

/-! ## Saves -/

namespace MetadataStore

variable {store : MetadataStore} {b b' : Backend} {rows : List MetadataRow} {id : Int64}
  {object o : NamedObject}

/-- The induction is on the keys that are still to be deleted. -/
theorem writeRemovals_eq_ok {keys : List String} {x : Unit}
    (hrows : b.database.metadata store.table = .ok rows)
    (h : store.writeRemovals id keys b = (.ok x, b')) :
    b'.database.metadata store.table =
      .ok (keys.foldl (fun rows key => MetadataTable.withoutEntry rows id key) rows) := by
  induction keys generalizing b rows with
  | nil =>
    cases h
    exact hrows
  | cons key rest ih =>
    rcases Backend.exists_of_send_bind h with ⟨e, habsurd, -⟩ | ⟨answer, c, -, hrun, hrest⟩
    · cases habsurd
    · obtain ⟨rows', hrows', hdb⟩ := Database.rows_of_deleteEntry hrun
      rw [hrows] at hrows'
      cases hrows'
      rw [List.foldl_cons]
      apply ih ?_ hrest
      rw [hdb, Database.metadata_setTable_self]

/-- The induction is on the values that are still to be written. -/
theorem writeUpserts_eq_ok {entries : List (String × String)} {x : Unit}
    (hrows : b.database.metadata store.table = .ok rows)
    (h : store.writeUpserts id entries b = (.ok x, b')) :
    b'.database.metadata store.table =
      .ok (entries.foldl (fun rows (key, value) => MetadataTable.put rows id key value) rows) := by
  induction entries generalizing b rows with
  | nil =>
    cases h
    exact hrows
  | cons entry rest ih =>
    rcases Backend.exists_of_send_bind h with ⟨e, habsurd, -⟩ | ⟨_, c₁, -, hdelete, h₁⟩
    · cases habsurd
    rcases Backend.exists_of_send_bind h₁ with ⟨e, habsurd, -⟩ | ⟨_, c₂, -, hinsert, h₂⟩
    · cases habsurd
    obtain ⟨rows₁, hrows₁, hdb₁⟩ := Database.rows_of_deleteEntry hdelete
    rw [hrows] at hrows₁
    cases hrows₁
    obtain ⟨rows₂, hrows₂, hdb₂⟩ := Database.rows_of_insertEntry hinsert
    rw [hdb₁, Database.metadata_setTable_self] at hrows₂
    cases hrows₂
    rw [List.foldl_cons]
    apply ih ?_ h₂
    rw [hdb₂, Database.metadata_setTable_self]
    rfl

/-- A save of an object without a difference does nothing. -/
theorem save_of_isEmpty (h : object.metadataDelta.isEmpty = true) (b : Backend) :
    store.save object b = ((.ok (), object), b) := by
  refine (Editing.bind_of_ok (e := get) (x := object) rfl).trans ?_
  simp only [h, if_true]
  rfl

/-- A save that is answered wrote the difference, and what it wrote is remembered as stored. -/
theorem save_eq_ok {x : Unit} (hrows : b.database.metadata store.table = .ok rows)
    (h : store.save object b = ((.ok x, o), b')) :
    o = object.markSaved ∧
      b'.database.metadata store.table =
        .ok (MetadataTable.afterSave rows object.id object.metadataDelta) := by
  by_cases hempty : object.metadataDelta.isEmpty = true
  · -- Nothing is written, and nothing is remembered that was not before.
    rw [save_of_isEmpty hempty] at h
    cases h
    refine ⟨(NamedObject.markSaved_of_isEmpty hempty).symm, ?_⟩
    rw [MetadataDelta.isEmpty, Bool.and_eq_true, List.isEmpty_iff, List.isEmpty_iff] at hempty
    rw [MetadataTable.afterSave, hempty.1, hempty.2]
    exact hrows
  · rcases Editing.exists_of_bind_eq h with ⟨_, habsurd, -⟩ | ⟨seen, _, _, hget, h⟩
    · cases habsurd
    cases hget
    simp only [hempty] at h
    rcases Editing.exists_of_bind_eq h with ⟨_, -, habsurd⟩ | ⟨_, o₁, c₁, hremovals, h₁⟩
    · cases habsurd
    obtain ⟨hremovals, rfl⟩ := Action.editing_eq hremovals
    rcases Editing.exists_of_bind_eq h₁ with ⟨_, -, habsurd⟩ | ⟨_, o₂, c₂, hupserts, h₂⟩
    · cases habsurd
    obtain ⟨hupserts, rfl⟩ := Action.editing_eq hupserts
    cases h₂
    exact ⟨rfl, writeUpserts_eq_ok (writeRemovals_eq_ok hrows hremovals) hupserts⟩

end MetadataStore

/-! ## Updates -/

namespace Repository

variable {r : Repository} {object saved : NamedObject} {b c d : Backend}

/-- What an update goes on with when the metadata is saved. -/
def updateName (r : Repository) (saved : NamedObject) : Editing Unit :=
  let name := Text.trim saved.name
  if name = saved.persistedName then set (saved.setName name)
  else if name = "" then throw (.invalidArgument .emptyName)
  else do
    (r.rename saved name).editing
    set (saved.markRenamed name)

theorem update_of_save_error {e : Error}
    (h : r.metadataStore.save object b = ((.error e, saved), c)) :
    r.update object b = ((.error e, saved), c) :=
  Editing.bind_of_error h

theorem update_of_save_ok {x : Unit} (h : r.metadataStore.save object b = ((.ok x, saved), c)) :
    r.update object b = r.updateName saved saved c :=
  (Editing.bind_of_ok h).trans (Editing.bind_of_ok (e := get) rfl)

/-- A name that was only padded with blanks is trimmed, and nothing is sent. -/
theorem updateName_of_same (h : Text.trim saved.name = saved.persistedName) (o : NamedObject) :
    r.updateName saved o c = ((.ok (), saved.setName (Text.trim saved.name)), c) := by
  unfold updateName
  rw [if_pos h]
  rfl

theorem updateName_of_empty (h : Text.trim saved.name ≠ saved.persistedName)
    (hempty : Text.trim saved.name = "") (o : NamedObject) :
    r.updateName saved o c = ((.error (.invalidArgument .emptyName), o), c) := by
  unfold updateName
  rw [if_neg h, if_pos hempty]
  rfl

theorem updateName_of_rename_error (h : Text.trim saved.name ≠ saved.persistedName)
    (hempty : Text.trim saved.name ≠ "") {e : Error}
    (hrename : r.rename saved (Text.trim saved.name) c = (.error e, d)) (o : NamedObject) :
    r.updateName saved o c = ((.error e, o), d) := by
  unfold updateName
  rw [if_neg h, if_neg hempty]
  exact Editing.bind_of_error (Action.editing_of_eq hrename o)

theorem updateName_of_rename_ok (h : Text.trim saved.name ≠ saved.persistedName)
    (hempty : Text.trim saved.name ≠ "") {x : Unit}
    (hrename : r.rename saved (Text.trim saved.name) c = (.ok x, d)) (o : NamedObject) :
    r.updateName saved o c = ((.ok (), saved.markRenamed (Text.trim saved.name)), d) := by
  unfold updateName
  rw [if_neg h, if_neg hempty]
  exact Editing.bind_of_ok (Action.editing_of_eq hrename o)

/-- An object with nothing to save and no new name is updated without a statement and without a call
of the cache. -/
theorem update_of_unchanged (hdelta : object.metadataDelta.isEmpty = true)
    (hname : Text.trim object.name = object.persistedName) (b : Backend) :
    r.update object b = ((.ok (), object.setName (Text.trim object.name)), b) := by
  rw [update_of_save_ok (MetadataStore.save_of_isEmpty hdelta b), updateName_of_same hname]

/-- An object that is as it is stored stays as it is. -/
theorem update_of_stored (hmetadata : object.persistedMetadata = object.metadata)
    (hname : object.persistedName = object.name) (htrim : Text.trim object.name = object.name)
    (b : Backend) : r.update object b = ((.ok (), object), b) := by
  have hdelta : object.metadataDelta.isEmpty = true :=
    NamedObject.isEmpty_metadataDelta_iff.2 hmetadata
  rw [update_of_unchanged hdelta (htrim.trans hname.symm), htrim]
  rfl

end Repository

end ObjectCatalog
