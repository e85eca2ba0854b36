import ObjectCatalog.Proofs.Repository.Merging
import ObjectCatalog.Proofs.Repository.Names
import ObjectCatalog.Proofs.Repository.RoundTrip

/-!
# Writes

An update and a deletion write through an object: into the metadata table, then into the row of the
object, or the other way round, and then they tell the cache. How far a write comes with the row is
decided by the object table and the object alone (`Write.ending`), and everything else follows from that:
what it answers, what the tables hold afterwards, what the object has become, and which entries of the
cache are gone (`Repository.write_done`).

Only the tables and the object decide, so two writes can be compared by their endings, and nobody has to
look into the statements again.
-/

namespace ObjectCatalog

/-! ## 1. Rows that are written -/

namespace ObjectTable

variable {t : ObjectTable} {id : Int64} {name table : String} {after : Option String}

/-- Whether there is a row with the id and another one has the name. -/
def refuses (t : ObjectTable) (id : Int64) (name : String) : Bool :=
  t.rows.contains id && t.toList.any fun row => row.1 != id && t.collation.same row.2 name

/-- The table with another name in the row with the id, or without this row. -/
def write (t : ObjectTable) (id : Int64) : Option String → ObjectTable
  | some name => if t.rows.contains id then t.renamed id name else t
  | none => t.delete id

theorem contains_iff : t.rows.contains id = true ↔ (t.rows[id]?).isSome = true := by
  rw [Std.ExtTreeMap.contains_eq_isSome_getElem?]

theorem refuses_iff :
    t.refuses id name = true ↔ (t.rows[id]?).isSome = true ∧ t.IsTakenBeside id name := by
  rw [refuses, Bool.and_eq_true, contains_iff, any_iff_isTakenBeside]

theorem rename_of_not_refuses (h : ¬ t.refuses id name = true) :
    t.rename table id name = .ok (t.write id (some name)) := by
  rw [write]
  by_cases hrow : t.rows.contains id = true
  · rw [if_pos hrow]
    rw [contains_iff] at hrow
    obtain ⟨old, hold⟩ := Option.isSome_iff_exists.1 hrow
    exact rename_of_free hold fun htaken => h (refuses_iff.2 ⟨hrow, htaken⟩)
  · rw [if_neg hrow, rename, Bool.eq_false_iff.2 hrow]
    rfl

theorem setsRow_write (t : ObjectTable) (id : Int64) (after : Option String) :
    t.SetsRow (t.write id after) id after := by
  cases after with
  | none => exact setsRow_delete t id
  | some name =>
    rw [write]
    split
    · rename_i hrow
      rw [contains_iff] at hrow
      obtain ⟨old, hold⟩ := Option.isSome_iff_exists.1 hrow
      refine ⟨fun hne => ?_, ?_⟩
      · exact (getElem?_put _ _ _ _).trans (if_neg (Ne.symm hne))
      · rw [hold]
        exact (getElem?_put _ _ _ _).trans (if_pos rfl)
    · rename_i hrow
      rw [contains_iff, Option.isSome_iff_ne_none, not_not] at hrow
      refine ⟨fun _ => rfl, ?_⟩
      rw [hrow]
      rfl

@[simp] theorem collation_write (t : ObjectTable) (id : Int64) (after : Option String) :
    (t.write id after).collation = t.collation := by
  cases after with
  | none => rfl
  | some name =>
    rw [write]
    split <;> rfl

@[simp] theorem highestId_write (t : ObjectTable) (id : Int64) (after : Option String) :
    (t.write id after).highestId = t.highestId := by
  cases after with
  | none => rfl
  | some name =>
    rw [write]
    split <;> rfl

end ObjectTable

/-! ## 2. What a write comes to -/

/-- A call that writes through an object. -/
inductive Write where
  | update
  | delete
  deriving DecidableEq

/-- How far a write comes with the row of its object. -/
inductive Ending where
  /-- The name is the known one but for blanks, and the row is left alone. -/
  | sameName
  | blankName
  | takenName (name : String)
  /-- If there is a row, it has this name now, or it is gone. -/
  | wrote (after : Option String)
  deriving DecidableEq

namespace Ending

def answer : Ending → Except Error Unit
  | .sameName | .wrote _ => .ok ()
  | .blankName => .error (.invalidArgument .emptyName)
  | .takenName name => .error (.duplicateName name)

/-- The object table afterwards. -/
def table (t : ObjectTable) (id : Int64) : Ending → ObjectTable
  | .wrote after => t.write id after
  | .sameName | .blankName | .takenName _ => t

/-- Whether the cache is told. -/
def Tells : Ending → Prop
  | .wrote _ => True
  | .sameName | .blankName | .takenName _ => False

end Ending

namespace Write

def ending (t : ObjectTable) (object : NamedObject) : Write → Ending
  | .delete => .wrote none
  | .update =>
    let name := Text.trim object.name
    if name = object.persistedName then .sameName
    else if name = "" then .blankName
    else if t.refuses object.id name then .takenName name
    else .wrote (some name)

/-- The rows of the metadata table afterwards. An update saves the metadata first, whatever becomes of
the name. -/
def rows (rows : List MetadataRow) (object : NamedObject) : Write → List MetadataRow
  | .update => MetadataTable.afterSave rows object.id object.metadataDelta
  | .delete => MetadataTable.withoutObject rows object.id

/-- The object afterwards, if the cache did not fail. A deletion leaves it as it is. -/
def handle (t : ObjectTable) (object : NamedObject) (write : Write) : NamedObject :=
  match write, write.ending t object with
  | .delete, _ => object
  | .update, .sameName => object.markSaved.setName (Text.trim object.name)
  | .update, .wrote _ => object.markSaved.markRenamed (Text.trim object.name)
  | .update, .blankName | .update, .takenName _ => object.markSaved

/-- The call itself. -/
def run (r : Repository) : Write → Editing Unit
  | .update => r.update
  | .delete => ExceptT.mk fun object => (r.delete object).editing object

end Write

/-! ## 3. From an ending to what it says -/

namespace Ending

variable {t : ObjectTable} {id : Int64}

theorem setsRow_table (t : ObjectTable) (id : Int64) (ending : Ending) :
    ending.table t id = t ∨ ∃ after, ending = .wrote after ∧ t.SetsRow (ending.table t id) id after := by
  cases ending with
  | wrote after => exact .inr ⟨after, rfl, ObjectTable.setsRow_write t id after⟩
  | _ => exact .inl rfl

@[simp] theorem collation_table (t : ObjectTable) (id : Int64) (ending : Ending) :
    (ending.table t id).collation = t.collation := by
  cases ending with
  | wrote after => exact ObjectTable.collation_write t id after
  | _ => rfl

theorem rows_table_of_ne {other : Int64} (hne : other ≠ id) (ending : Ending) :
    (ending.table t id).rows[other]? = t.rows[other]? := by
  rcases setsRow_table t id ending with heq | ⟨after, -, hset⟩
  · rw [heq]
  · exact hset.others hne

/-- The row of the object has the name it had, or it was given another one. -/
theorem rows_table_self {name : String} {ending : Ending}
    (h : (ending.table t id).rows[id]? = some name) :
    t.rows[id]? = some name ∨ ending = .wrote (some name) := by
  rcases setsRow_table t id ending with heq | ⟨after, rfl, hset⟩
  · exact .inl (heq ▸ h)
  · rw [hset.row, Option.bind_eq_some_iff] at h
    obtain ⟨-, -, rfl⟩ := h
    exact .inr rfl

end Ending

namespace Write

variable {t : ObjectTable} {write : Write} {object : NamedObject} {name : String}

/-- The name that a write is to give to the row of its object, if it comes to that. -/
def target? (object : NamedObject) : Write → Option String
  | .delete => none
  | .update =>
    let name := Text.trim object.name
    if name = object.persistedName ∨ name = "" then none else some name

/-- A target is refused or written. -/
theorem ending_of_target (h : write.target? object = some name) :
    write.ending t object =
      if t.refuses object.id name = true then .takenName name else .wrote (some name) := by
  cases write with
  | delete => cases h
  | update =>
    simp only [target?] at h
    split at h
    · cases h
    · rename_i hne
      cases h
      rw [not_or] at hne
      exact (if_neg hne.1).trans (if_neg hne.2)

/-- Without a target the table does not matter. -/
theorem ending_of_no_target (h : write.target? object = none) (t : ObjectTable) :
    write.ending t object = match write with
      | .delete => .wrote none
      | .update =>
        if Text.trim object.name = object.persistedName then .sameName else .blankName := by
  cases write with
  | delete => rfl
  | update =>
    simp only [target?] at h
    split at h
    · rename_i hname
      by_cases hsame : Text.trim object.name = object.persistedName
      · exact (if_pos hsame).trans (if_pos hsame).symm
      · exact (if_neg hsame).trans
          ((if_pos (hname.resolve_left hsame)).trans (if_neg hsame).symm)
    · cases h

/-- A row is written with the target, which is not refused then, or it goes. -/
theorem target?_of_wrote {after : Option String} (h : write.ending t object = .wrote after) :
    after = none ∨ ∃ name, after = some name ∧ write.target? object = some name ∧
      ¬ t.refuses object.id name = true := by
  cases htarget : write.target? object with
  | none =>
    rw [ending_of_no_target htarget] at h
    cases write with
    | delete =>
      cases h
      exact .inl rfl
    | update =>
      simp only at h
      split at h <;> cases h
  | some name =>
    rw [ending_of_target htarget] at h
    split at h
    · cases h
    · rename_i hfree
      cases h
      exact .inr ⟨name, rfl, rfl, hfree⟩

/-- If a name is taken, then by another row. -/
theorem isTakenBeside_of_takenName (h : write.ending t object = .takenName name) :
    write.target? object = some name ∧ t.IsTakenBeside object.id name := by
  cases htarget : write.target? object with
  | none =>
    rw [ending_of_no_target htarget] at h
    cases write with
    | delete => cases h
    | update =>
      simp only at h
      split at h <;> cases h
  | some given =>
    rw [ending_of_target htarget] at h
    split at h
    · rename_i hrefuses
      cases h
      exact ⟨rfl, (ObjectTable.refuses_iff.1 hrefuses).2⟩
    · cases h

/-- A write keeps a table sound: a rename that breaks the constraint is refused. -/
theorem sound_table (h : t.Sound) (write : Write) (object : NamedObject) :
    ((write.ending t object).table t object.id).Sound := by
  cases hending : write.ending t object with
  | wrote after =>
    rcases target?_of_wrote hending with rfl | ⟨name, rfl, -, hfree⟩
    · exact h.delete
    · have hrename : t.rename "" object.id name = .ok (t.write object.id (some name)) :=
        ObjectTable.rename_of_not_refuses hfree
      exact h.rename hrename
  | _ => exact h

/-- The metadata rows of other objects stay. -/
theorem withoutObject_rows (rows : List MetadataRow) (object : NamedObject) (write : Write) :
    MetadataTable.withoutObject (write.rows rows object) object.id =
      MetadataTable.withoutObject rows object.id := by
  cases write with
  | update => exact MetadataTable.withoutObject_afterSave rows object.id object.metadataDelta
  | delete =>
    rw [Write.rows, MetadataTable.withoutObject, MetadataTable.withoutObject, List.filter_filter]
    simp only [Bool.and_self]

end Write

/-! ## 4. Invalidations -/

namespace Cache

/-- Entries went, and nothing else changed. -/
structure Shrinks (c c' : Cache) : Prop where
  entries : ∀ key, c'.get? key = c.get? key ∨ c'.get? key = none
  fault : c'.fault = c.fault
  keeps : c'.keeps = c.keeps

variable {c c' : Cache}

theorem shrinks_refl (c : Cache) : c.Shrinks c :=
  ⟨fun _ => .inl rfl, rfl, rfl⟩

theorem Shrinks.drop (h : c.Shrinks c') (key : String) : c.Shrinks (c'.drop key) := by
  refine ⟨fun k => ?_, h.fault, h.keeps⟩
  rw [get?_drop]
  split
  · exact .inr rfl
  · exact h.entries k

end Cache

namespace Repository

variable {r : Repository} {b c d : Backend} {t : ObjectTable} {rows : List MetadataRow}
  {object saved : NamedObject} {name : String}

theorem keeps_shrinks_invalidate (start : Cache) (id : Int64) (known : String)
    (stored : Option String) :
    Action.Keeps (fun b => start.Shrinks b.cache) (r.invalidate id known stored) := by
  have hdelete : ∀ key, Action.Keeps (fun b => start.Shrinks b.cache) (Backend.delete key) := by
    intro key b hb
    rcases hfault : b.cache.fault .delete key with none | failure
    · rw [Backend.delete_of_none hfault]
      exact hb.drop key
    · rw [Backend.delete_of_some hfault]
      exact hb
  unfold invalidate
  refine (hdelete _).bind fun _ => (hdelete _).bind fun _ => ?_
  cases stored with
  | none => exact Action.keeps_pure _
  | some name =>
    simp only
    split
    · exact Action.keeps_pure _
    · exact hdelete _

/-- What an invalidation does, whether the cache fails or not. -/
structure Invalidates (gone : String → Prop) (b : Backend) (result : Except Error Unit)
    (c : Backend) : Prop where
  database : c.database = b.database
  shrinks : b.cache.Shrinks c.cache
  spares : b.cache.Spares gone c.cache
  failed : ∀ e, result = .error e → ∃ failure, e = .cache failure
  /-- A cache that deletes lets the entries go. -/
  done : (∀ key, b.cache.fault .delete key = none) → result = .ok () ∧ b.cache.Loses gone c.cache

theorem invalidates (id : Int64) (known : String) (stored : Option String) (b : Backend) :
    Invalidates (r.IsKeyOf id known stored) b (r.invalidate id known stored b).1
      (r.invalidate id known stored b).2 := by
  have hdeletes := meets_invalidate_of_deletes (r := r) (E := fun _ => False) id known stored b
  have hshrinks := keeps_shrinks_invalidate (r := r) b.cache id known stored b (Cache.shrinks_refl _)
  rcases hend : r.invalidate id known stored b with ⟨result, c⟩
  rw [hend] at hdeletes hshrinks
  obtain ⟨hdb, ⟨failure, rfl, hspares⟩ | ⟨rfl, hloses⟩⟩ := invalidate_eq hend
  · refine ⟨hdb, hshrinks, hspares.mono fun key hkey => ?_, fun e he => ?_, fun h => ?_⟩
    · rcases hkey with hid | hknown | ⟨_, habsurd, -⟩
      · exact .inl hid
      · exact .inr (.inl hknown)
      · cases habsurd
    · cases he
      exact ⟨failure, rfl⟩
    · exact (hdeletes h).elim
  · exact ⟨hdb, hshrinks, hloses.1, nofun, fun _ => ⟨rfl, hloses⟩⟩

/-! ## 5. Renames, saves and deletions of a repository that is ready -/

theorem Ready.setObjects {db : Database} (h : r.Ready db t rows) (t' : ObjectTable) :
    r.Ready (db.setTable r.table (.objects t')) t' rows :=
  h.of_database (Database.objects?_setTable_self _ _ _)
    (Database.metadata_setTable_objects h.objects? h.metadata)

theorem Ready.save (h : r.Ready b.database t rows) (object : NamedObject) :
    ∃ c, r.metadataStore.save object b = ((.ok (), object.markSaved), c) ∧ c.cache = b.cache ∧
      r.Ready c.database t (MetadataTable.afterSave rows object.id object.metadataDelta) := by
  obtain ⟨saved, c, hsave⟩ := MetadataStore.save_isOk_iff.2 fun s hs =>
    ⟨MetadataStore.readable_writes h.readableMetadata _ s hs, rows, h.metadata⟩
  obtain ⟨rfl, hrows⟩ := MetadataStore.save_eq_ok h.metadata hsave
  obtain ⟨-, hcache, hobjects⟩ := save_eq hsave
  exact ⟨c, hsave, hcache, h.of_database (hobjects.trans h.objects?) hrows⟩

/-- A rename is refused if another row has the name. -/
theorem Ready.rename_of_refuses (h : r.Ready b.database t rows) (object : NamedObject)
    (hrefuses : t.refuses object.id name = true) :
    ∃ c, r.rename object name b = (.error (.duplicateName name), c) ∧ b.SameState c := by
  obtain ⟨hrow, htaken⟩ := ObjectTable.refuses_iff.1 hrefuses
  obtain ⟨old, hold⟩ := Option.isSome_iff_exists.1 hrow
  exact rename_of_taken h.objects h.readable hold htaken

/-- Any other rename comes to the cache, and the row is written by then. -/
theorem Ready.rename_of_not_refuses (h : r.Ready b.database t rows) (object : NamedObject)
    (hrefuses : ¬ t.refuses object.id name = true) :
    ∃ d, r.Ready d.database (t.write object.id (some name)) rows ∧ d.cache = b.cache ∧
      r.rename object name b =
        r.invalidate object.id object.persistedName t.rows[object.id]? d := by
  let next := b.database.setTable r.table (.objects (t.write object.id (some name)))
  let asked := b.record (.statement (.storedName r.table object.id) true)
  have hrun : asked.database.run (.renameObject r.table name object.id) = .ok ((), next) := by
    show b.database.run (.renameObject r.table name object.id) = .ok ((), next)
    rw [Database.run_of_readable h.readable rfl id, Database.carryOut,
      Database.updateObjects_of_ok h.objects (ObjectTable.rename_of_not_refuses hrefuses)]
    rfl
  have hready : r.Ready next (t.write object.id (some name)) rows := h.setObjects _
  unfold rename
  rw [Action.bind_of_ok (send_storedName h.objects h.readable object.id),
    Action.bind_of_ok (Action.adapt_of_ok (Backend.send_of_ok hrun))]
  let written : Backend :=
    { asked.record (.statement (.renameObject r.table name object.id) true) with database := next }
  exact ⟨written, hready, rfl, rfl⟩

/-- A deletion comes to the cache, and the row and its metadata are gone by then. -/
theorem Ready.delete (h : r.Ready b.database t rows) (object : NamedObject) :
    ∃ d, r.Ready d.database (t.delete object.id) (MetadataTable.withoutObject rows object.id) ∧
      d.cache = b.cache ∧
      r.delete object b = r.invalidate object.id object.persistedName t.rows[object.id]? d := by
  let without := b.database.setTable r.table (.objects (t.delete object.id))
  let asked := b.record (.statement (.storedName r.table object.id) true)
  have hdelete : asked.database.run (.deleteObject r.table object.id) = .ok ((), without) := by
    show b.database.run (.deleteObject r.table object.id) = .ok ((), without)
    rw [Database.run_of_readable h.readable rfl id, Database.carryOut, Database.updateObjects,
      h.objects]
    rfl
  have hready : r.Ready without (t.delete object.id) rows := h.setObjects _
  let cleared := without.setTable r.metadataStore.table
    (.metadata (MetadataTable.withoutObject rows object.id))
  let taken : Backend :=
    { asked.record (.statement (.deleteObject r.table object.id) true) with database := without }
  have hremove : taken.database.run (.deleteMetadata r.metadataStore.table object.id) =
      .ok ((), cleared) := by
    show without.run (.deleteMetadata r.metadataStore.table object.id) = .ok ((), cleared)
    rw [Database.run_of_readable h.readableMetadata rfl id, Database.carryOut,
      Database.updateMetadata, hready.metadata]
    rfl
  have hcleared : r.Ready cleared (t.delete object.id) (MetadataTable.withoutObject rows object.id) :=
    hready.of_database
      ((Database.objects?_of_sparesObjects (by trivial) hremove r.table).trans hready.objects?)
      (Database.metadata_setTable_self _ _ _)
  unfold Repository.delete MetadataStore.remove
  rw [Action.bind_of_ok (send_storedName h.objects h.readable object.id),
    Action.bind_of_ok (Backend.send_of_ok hdelete), Action.bind_of_ok (Backend.send_of_ok hremove)]
  let emptied : Backend :=
    { taken.record (.statement (.deleteMetadata r.metadataStore.table object.id) true) with
      database := cleared }
  exact ⟨emptied, hcleared, rfl, rfl⟩

/-! ## 6. Writes, exactly -/

/-- The keys that the cache is told of: those of the row, if it was written. -/
def Told (r : Repository) (t : ObjectTable) (object : NamedObject) (ending : Ending)
    (key : String) : Prop :=
  ending.Tells ∧ r.IsKeyOf object.id object.persistedName t.rows[object.id]? key

/-- What a write does in a repository that is ready, as the ending has it. Only the cache can make it end
in another way, and not if it deletes what it is told to. -/
structure Done (r : Repository) (write : Write) (object : NamedObject) (t : ObjectTable)
    (rows : List MetadataRow) (b : Backend) (done : (Except Error Unit × NamedObject) × Backend) :
    Prop where
  ready : r.Ready done.2.database ((write.ending t object).table t object.id)
    (write.rows rows object)
  shrinks : b.cache.Shrinks done.2.cache
  spares : b.cache.Spares (r.Told t object (write.ending t object)) done.2.cache
  exact : (∀ key, b.cache.fault .delete key = none) →
    done.1 = ((write.ending t object).answer, write.handle t object) ∧
      b.cache.Loses (r.Told t object (write.ending t object)) done.2.cache

/-- A write that does not come to the cache. -/
theorem done_of_not_tells {write : Write} {result : Except Error Unit}
    (htells : ¬ (write.ending t object).Tells)
    (hready : r.Ready c.database ((write.ending t object).table t object.id)
      (write.rows rows object)) (hcache : c.cache = b.cache)
    (hresult : result = (write.ending t object).answer) (hsaved : saved = write.handle t object) :
    r.Done write object t rows b ((result, saved), c) := by
  refine ⟨hready, hcache ▸ Cache.shrinks_refl _, fun key _ => by rw [hcache], fun _ => ⟨?_, ?_⟩⟩
  · rw [hresult, hsaved]
  · refine ⟨fun key _ => by rw [hcache], fun key hkey => absurd hkey.1 htells⟩

/-- A write that comes to the cache, where everything else is done. -/
theorem done_of_tells {write : Write} {result : Except Error Unit}
    (htells : (write.ending t object).Tells)
    (hready : r.Ready d.database ((write.ending t object).table t object.id)
      (write.rows rows object)) (hcache : d.cache = b.cache)
    (hend : Invalidates (r.IsKeyOf object.id object.persistedName t.rows[object.id]?) d result c)
    (hok : result = .ok () → (write.ending t object).answer = .ok () ∧
      saved = write.handle t object) :
    r.Done write object t rows b ((result, saved), c) := by
  have hkeys : ∀ key, r.IsKeyOf object.id object.persistedName t.rows[object.id]? key ↔
      r.Told t object (write.ending t object) key := fun key => (and_iff_right htells).symm
  refine ⟨hend.database ▸ hready, hcache ▸ hend.shrinks,
    hcache ▸ hend.spares.mono fun key => (hkeys key).1, fun hdeletes => ?_⟩
  obtain ⟨hresult, hloses⟩ := hend.done (hcache ▸ hdeletes)
  obtain ⟨hanswer, hsaved⟩ := hok hresult
  exact ⟨by rw [hresult, hanswer, hsaved], hcache ▸ hloses.congr hkeys⟩

theorem update_done (h : r.Ready b.database t rows) (object : NamedObject) :
    r.Done .update object t rows b (r.update object b) := by
  obtain ⟨c, hsave, hcache, hready⟩ := h.save object
  rw [update_of_save_ok hsave]
  -- A save leaves the name and what is known of it as they were.
  let saved := object.markSaved
  by_cases hsame : Text.trim saved.name = saved.persistedName
  · rw [updateName_of_same hsame]
    have hending : Write.update.ending t object = .sameName := if_pos hsame
    refine done_of_not_tells (hending ▸ id) (hending ▸ hready) hcache (hending ▸ rfl) ?_
    simp only [Write.handle, hending]
    rfl
  by_cases hempty : Text.trim saved.name = ""
  · rw [updateName_of_empty hsame hempty]
    have hending : Write.update.ending t object = .blankName := (if_neg hsame).trans (if_pos hempty)
    refine done_of_not_tells (hending ▸ id) (hending ▸ hready) hcache (hending ▸ rfl) ?_
    simp only [Write.handle, hending]
  by_cases hrefuses : t.refuses object.id (Text.trim object.name) = true
  · have hending : Write.update.ending t object = .takenName (Text.trim object.name) :=
      (if_neg hsame).trans ((if_neg hempty).trans (if_pos hrefuses))
    obtain ⟨d, hrename, hdb, hkept⟩ := hready.rename_of_refuses saved hrefuses
    rw [updateName_of_rename_error hsame hempty hrename]
    refine done_of_not_tells (hending ▸ id) ?_ (hkept.trans hcache) (hending ▸ rfl) ?_
    · rw [hending, hdb]
      exact hready
    · simp only [Write.handle, hending]
  · have hending : Write.update.ending t object = .wrote (some (Text.trim object.name)) :=
      (if_neg hsame).trans ((if_neg hempty).trans (if_neg hrefuses))
    obtain ⟨d, hwritten, hkept, hrename⟩ := hready.rename_of_not_refuses saved hrefuses
    have hend := invalidates (r := r) saved.id saved.persistedName t.rows[saved.id]? d
    rw [← hrename] at hend
    rcases hdone : r.rename saved (Text.trim object.name) c with ⟨e | x, c'⟩
    · rw [hdone] at hend
      rw [updateName_of_rename_error hsame hempty hdone]
      exact done_of_tells (hending ▸ trivial) (hending ▸ hwritten) (hkept.trans hcache) hend nofun
    · rw [hdone] at hend
      rw [updateName_of_rename_ok hsame hempty hdone]
      refine done_of_tells (hending ▸ trivial) (hending ▸ hwritten) (hkept.trans hcache) hend
        fun _ => ⟨hending ▸ rfl, ?_⟩
      simp only [Write.handle, hending]
      rfl

theorem delete_done (h : r.Ready b.database t rows) (object : NamedObject) :
    r.Done .delete object t rows b (Write.delete.run r object b) := by
  obtain ⟨d, hready, hcache, hdelete⟩ := h.delete object
  have hend := invalidates (r := r) object.id object.persistedName t.rows[object.id]? d
  rw [← hdelete] at hend
  exact done_of_tells trivial hready hcache hend fun _ => ⟨rfl, rfl⟩

/-- **What a write does follows from its ending.** -/
theorem write_done (h : r.Ready b.database t rows) (write : Write) (object : NamedObject) :
    r.Done write object t rows b (write.run r object b) := by
  cases write with
  | update => exact update_done h object
  | delete => exact delete_done h object

end Repository

end ObjectCatalog
