import ObjectCatalog.Proofs.Repository.Reading
import ObjectCatalog.Proofs.Repository.Saving
import ObjectCatalog.Proofs.Repository.Sending

/-!
# The discipline of names

The names in an object table are all different, as its collation compares them, and none of them is
empty or has blanks around it. Requests keep it so, whatever becomes of the cache in between
(`Repository.LeadsTo`): a name is trimmed before it is written, and the database refuses one that is
taken.

From there on it is said exactly how a creation and an update end. The tables are asked in a fixed
order: a blank name is an error before anything is sent, an insertion needs an id before it needs a
name, and an update saves the metadata before it looks at the name at all.
-/

namespace ObjectCatalog

/-! ## 1. Where requests lead -/

namespace Repository

variable {r : Repository} {desk : Desk} {t : ObjectTable}

/-- The desks that requests of a repository lead to from a store without objects. Metadata may be kept
anywhere, and between two requests the cache may become any other. -/
inductive LeadsTo (r : Repository) : Desk → Prop
  | start {db : Database} (cache : Cache) (hdb : r.StartsEmpty db) : LeadsTo r ⟨.start db cache, ∅⟩
  | request {desk : Desk} (store : MetadataStore) (request : Request) (h : LeadsTo r desk) :
      LeadsTo r (request.run (r.withMetadataStore store) desk).2
  | exchange {desk : Desk} (cache : Cache) (h : LeadsTo r desk) :
      LeadsTo r { desk with backend := { desk.backend with cache := cache } }

theorem LeadsTo.runAll (h : r.LeadsTo desk) (requests : List Request) :
    r.LeadsTo (r.runAll desk requests) := by
  induction requests generalizing desk with
  | nil => exact h
  | cons request rest ih => exact ih (.request r.metadataStore request h)

/-- What holds of empty tables and is kept by changes holds of the table there is at such a desk. -/
theorem LeadsTo.objects? {P : ObjectTable → Prop} (hempty : ∀ c, P (.empty c))
    (hP : ∀ {t t'}, t.Changes t' → P t → P t') (h : r.LeadsTo desk) :
    ∀ {t}, desk.backend.database.objects? r.table = some t → P t := by
  induction h with
  | start cache hdb =>
    intro t ht
    obtain ⟨c, rfl⟩ := hdb t ht
    exact hempty c
  | request store request _ ih =>
    intro t ht
    exact Request.keeps_objects? (r := r.withMetadataStore store) (hempty .binary) hP request ih ht
  | exchange cache _ ih => exact ih

theorem LeadsTo.sound (h : r.LeadsTo desk) {t : ObjectTable}
    (ht : desk.backend.database.objects? r.table = some t) : t.Sound :=
  h.objects? ObjectTable.sound_empty ObjectTable.Changes.sound ht

/-- Only normal names are written into the table, so only they are there. -/
theorem hasNormalNames_of_run {request : Request} {s : Statement} {answer : s.Answer}
    {db db' : Database} (hs : request.Sends r s) (hrun : db.run s = .ok (answer, db'))
    (hdb : ∀ t, db.objects? r.table = some t → t.HasNormalNames) (ht : db'.objects? r.table = some t) :
    t.HasNormalNames := by
  cases hs with
  | createObjects =>
    rcases Database.run_createObjects hrun with rfl | ⟨-, hempty⟩
    · exact hdb t ht
    · rw [hempty] at ht
      cases ht
      exact ObjectTable.hasNormalNames_empty .binary
  | insertObject hname =>
    obtain ⟨u, u', _, hu, hinsert, hu', -⟩ := Database.run_insertObject hrun
    obtain rfl := Option.some.inj (hu'.symm.trans ht)
    exact (hdb u hu).insert hname hinsert
  | insertReturning hname =>
    obtain ⟨u, u', hu, hinsert, hu', -⟩ := Database.run_insertReturning hrun
    obtain rfl := Option.some.inj (hu'.symm.trans ht)
    exact (hdb u hu).insert hname hinsert
  | renameObject hname id =>
    obtain ⟨u, u', hu, hrename, hu'⟩ := Database.run_renameObject hrun
    obtain rfl := Option.some.inj (hu'.symm.trans ht)
    exact (hdb u hu).rename hname hrename
  | deleteObject id =>
    obtain ⟨u, hu, rfl⟩ := Database.run_deleteObject hrun
    obtain rfl := Option.some.inj ((Database.objects?_setTable_self _ _ _).symm.trans ht)
    exact (hdb u hu).delete id
  | _ => exact hdb t ((Database.objects?_of_sparesObjects (by trivial) hrun r.table).symm.trans ht)

theorem LeadsTo.hasNormalNames (h : r.LeadsTo desk) :
    ∀ t, desk.backend.database.objects? r.table = some t → t.HasNormalNames := by
  induction h with
  | start cache hdb =>
    intro t ht
    obtain ⟨c, rfl⟩ := hdb t ht
    exact ObjectTable.hasNormalNames_empty c
  | request store request _ ih =>
    refine Request.keeps_database_of_sends (r := r.withMetadataStore store)
      (P := fun db => ∀ t, db.objects? r.table = some t → t.HasNormalNames) ?_ ih
    exact fun hs hrun hdb t ht => hasNormalNames_of_run hs hrun hdb ht
  | exchange cache _ ih => exact ih

end Repository

/-- One statement gives at most one id. -/
theorem ObjectTable.Changes.toInt_highestId_le {t t' : ObjectTable} (h : t.Changes t') :
    t'.highestId.toInt ≤ t.highestId.toInt + 1 := by
  cases h with
  | insert h =>
    obtain ⟨hid, rfl⟩ := eq_added_of_insert h
    exact Int.le_of_eq (toInt_succ_of_ne_maxValue hid)
  | rename h =>
    rcases rename_eq_ok h with ⟨-, rfl⟩ | ⟨old, -, -, rfl⟩
    · exact Int.le_add_one (Int.le_refl _)
    · exact Int.le_add_one (Int.le_refl _)
  | delete h =>
    subst h
    exact Int.le_add_one (Int.le_refl _)

namespace Repository

/-- No more ids were given than things were done, so the last one is a long way off. -/
def IdsCounted (r : Repository) (b : Backend) : Prop :=
  ∀ t, b.database.objects? r.table = some t → t.highestId.toInt ≤ b.journal.length

variable {r : Repository} {desk : Desk} {b c : Backend} {event : Event}

theorem IdsCounted.record (h : r.IdsCounted b) (hdb : c.database = b.database)
    (hjournal : c.journal = b.journal ++ [event]) : r.IdsCounted c := by
  intro t ht
  rw [hdb] at ht
  have hle : t.highestId.toInt ≤ b.journal.length := h t ht
  rw [hjournal, List.length_append, List.length_singleton, Int.natCast_succ]
  exact Int.le_add_one hle

theorem keeps_idsCounted_send (s : Statement) :
    Action.Keeps r.IdsCounted (Backend.send s) := by
  refine Action.meets_iff_keeps.1 (Backend.meets_send (fun b answer db hb hrun => ?_) ?_)
  · intro t ht
    rw [Backend.record, List.length_append, List.length_singleton, Int.natCast_succ]
    refine Database.forall_objects?_of_run (P := fun t => t.highestId.toInt ≤ b.journal.length)
      (Q := fun t => t.highestId.toInt ≤ b.journal.length + 1) ?_ ?_ ?_ hrun (hb _) ht
    · exact Int.natCast_nonneg _
    · exact Int.le_add_one
    · exact fun hchange hle => Int.le_trans hchange.toInt_highestId_le (Int.add_le_add_right hle 1)
  · exact fun b _ hb _ => hb.record rfl rfl

theorem LeadsTo.idsCounted (h : r.LeadsTo desk) : r.IdsCounted desk.backend := by
  induction h with
  | start cache hdb =>
    intro t ht
    obtain ⟨c, rfl⟩ := hdb t ht
    exact Int.le_refl 0
  | request store request _ ih =>
    exact Request.keeps_of_sends (r := r.withMetadataStore store) (P := r.IdsCounted)
      (fun _ => keeps_idsCounted_send _)
      (fun key b hb => hb.record (Backend.database_fetch key b) (Backend.journal_fetch key b))
      (fun key text b hb => hb.record (Backend.database_store key text b) (Backend.journal_store key text b))
      (fun key b hb => hb.record (Backend.database_delete key b) (Backend.journal_delete key b)) ih
  | exchange cache _ ih => exact ih

end Repository

/-! ## 2. Insertions and renames -/

/-- The same database and the same cache. The journal may have grown. -/
def Backend.SameState (b c : Backend) : Prop :=
  c.database = b.database ∧ c.cache = b.cache

namespace Database

variable {db : Database} {t t' : ObjectTable} {name value : String} {id : Int64} {refusal : Refusal}

theorem insertObject_of_error (ht : db.objects name = .ok t)
    (h : t.insert name value = .error refusal) : db.insertObject name value = .error refusal := by
  unfold insertObject
  rw [bind_of_eq_ok ht, bind_of_eq_error h]

theorem insertObject_of_ok (ht : db.objects name = .ok t) (h : t.insert name value = .ok (id, t')) :
    db.insertObject name value =
      .ok (id, { db.setTable name (.objects t') with lastInsertId := id }) := by
  unfold insertObject
  rw [bind_of_eq_ok ht, bind_of_eq_ok h]
  rfl

/-- In a table of objects a row needs no more than a name. -/
theorem carryOut_insertObject (ht : db.objects name = .ok t) :
    db.carryOut (.insertObject name value) =
      (db.insertObject name value).map fun done => ((), done.2) := by
  have htable : db.table? name = some (.objects t) :=
    objects?_eq_some_iff.1 (objects_eq_ok_iff.1 ht)
  rw [carryOut, htable]
  cases db.insertObject name value with
  | error refusal => rfl
  | ok done => rfl

theorem updateObjects_of_error {change : ObjectTable → Except Refusal ObjectTable}
    (ht : db.objects name = .ok t) (h : change t = .error refusal) :
    db.updateObjects name change = .error refusal := by
  unfold updateObjects
  rw [bind_of_eq_ok ht, bind_of_eq_error h]

theorem updateObjects_of_ok {change : ObjectTable → Except Refusal ObjectTable}
    (ht : db.objects name = .ok t) (h : change t = .ok t') :
    db.updateObjects name change = .ok (db.setTable name (.objects t')) := by
  unfold updateObjects
  rw [bind_of_eq_ok ht, bind_of_eq_ok h]
  rfl

end Database

namespace Repository

variable {r : Repository} {b : Backend} {desk : Desk} {t t' : ObjectTable} {name : String}
  {new : Int64} {refusal : Refusal}

section Statements

variable (hobjects : b.database.objects r.table = .ok t) (hreadable : Database.Readable r.table)
include hobjects hreadable

/-- Both ways to insert a name are refused for the reason that the table has. -/
theorem insertName_of_error (h : t.insert r.table name = .error refusal) :
    ∃ c, r.insertName name b = (.error (.storage (.database refusal.report)), c) ∧
      b.SameState c := by
  have hinsert := Database.insertObject_of_error hobjects h
  unfold insertName
  split
  · have hrun : b.database.run (.insertReturning r.table name) = .error refusal :=
      (Database.run_of_readable hreadable rfl id).trans hinsert
    exact ⟨_, Backend.send_of_error hrun, rfl, rfl⟩
  · have hrun : b.database.run (.insertObject r.table name) = .error refusal := by
      rw [Database.run_of_readable hreadable rfl id, Database.carryOut_insertObject hobjects, hinsert]
      rfl
    exact ⟨_, Action.bind_of_error (Backend.send_of_error hrun), rfl, rfl⟩

/-- Both ways to insert a name answer the id of the new row. -/
theorem insertName_of_ok (h : t.insert r.table name = .ok (new, t')) :
    ∃ c, r.insertName name b = (.ok new, c) ∧
      c.database = { b.database.setTable r.table (.objects t') with lastInsertId := new } ∧
      c.cache = b.cache := by
  let next := { b.database.setTable r.table (.objects t') with lastInsertId := new }
  have hinsert : b.database.insertObject r.table name = .ok (new, next) :=
    Database.insertObject_of_ok hobjects h
  unfold insertName
  split
  · have hrun : b.database.run (.insertReturning r.table name) = .ok (new, next) :=
      (Database.run_of_readable hreadable rfl id).trans hinsert
    exact ⟨_, Backend.send_of_ok hrun, rfl, rfl⟩
  · have hrun : b.database.run (.insertObject r.table name) = .ok ((), next) := by
      rw [Database.run_of_readable hreadable rfl id, Database.carryOut_insertObject hobjects, hinsert]
      rfl
    -- The id is asked for next, and nothing comes between the two.
    have hasked : next.run .lastInsertId = .ok (new, next) := rfl
    rw [Action.bind_of_ok (Backend.send_of_ok hrun)]
    exact ⟨_, Backend.send_of_ok hasked, rfl, rfl⟩

theorem send_storedName (asked : Int64) :
    Backend.send (.storedName r.table asked) b =
      (.ok t.rows[asked]?, b.record (.statement (.storedName r.table asked) true)) := by
  have hrun : b.database.run (.storedName r.table asked) = .ok (t.rows[asked]?, b.database) := by
    rw [Database.run_of_readable hreadable rfl id, Database.carryOut, hobjects]
    rfl
  exact Backend.send_of_ok hrun

/-- A rename to a name that another row has is refused, and nothing is changed. -/
theorem rename_of_taken {object : NamedObject} {old : String} (hrow : t.rows[object.id]? = some old)
    (h : t.IsTakenBeside object.id name) :
    ∃ c, r.rename object name b = (.error (.duplicateName name), c) ∧ b.SameState c := by
  let asked := b.record (.statement (.storedName r.table object.id) true)
  have hrefused : asked.database.run (.renameObject r.table name object.id) =
      .error (.nameTaken r.table) := by
    show b.database.run (.renameObject r.table name object.id) = .error (.nameTaken r.table)
    rw [Database.run_of_readable hreadable rfl id, Database.carryOut,
      Database.updateObjects_of_error hobjects (ObjectTable.rename_of_taken hrow h)]
    rfl
  unfold rename
  rw [Action.bind_of_ok (send_storedName hobjects hreadable object.id),
    Action.bind_of_error (Action.adapt_of_error (Backend.send_of_error hrefused))]
  exact ⟨_, rfl, rfl, rfl⟩

/-- A rename to a name that no other row has changes the row. After that only the cache can fail. -/
theorem rename_of_free {object : NamedObject} {old : String} (hrow : t.rows[object.id]? = some old)
    (h : ¬ t.IsTakenBeside object.id name) :
    ∃ result c, r.rename object name b = (result, c) ∧
      c.database = b.database.setTable r.table (.objects (t.renamed object.id name)) ∧
      (result = .ok () ∨ ∃ failure, result = .error (.cache failure)) ∧
      ((∀ key, b.cache.fault .delete key = none) → result = .ok ()) := by
  let next := b.database.setTable r.table (.objects (t.renamed object.id name))
  let asked := b.record (.statement (.storedName r.table object.id) true)
  have hrenamed : asked.database.run (.renameObject r.table name object.id) = .ok ((), next) := by
    show b.database.run (.renameObject r.table name object.id) = .ok ((), next)
    rw [Database.run_of_readable hreadable rfl id, Database.carryOut,
      Database.updateObjects_of_ok hobjects (ObjectTable.rename_of_free hrow h)]
    rfl
  unfold rename
  rw [Action.bind_of_ok (send_storedName hobjects hreadable object.id),
    Action.bind_of_ok (Action.adapt_of_ok (Backend.send_of_ok hrenamed))]
  let done : Backend :=
    { asked.record (.statement (.renameObject r.table name object.id) true) with database := next }
  let stored := t.rows[object.id]?
  show ∃ result c, r.invalidate object.id object.persistedName stored done = (result, c) ∧ _
  have hdeletes := meets_invalidate_of_deletes (r := r) (E := fun _ => False) object.id
    object.persistedName stored done
  rcases hend : r.invalidate object.id object.persistedName stored done with ⟨result, c⟩
  rw [hend] at hdeletes
  obtain ⟨hdb, hresult⟩ := invalidate_eq hend
  refine ⟨result, c, rfl, hdb, ?_, fun hworks => ?_⟩
  · rcases hresult with ⟨failure, hfailed, -⟩ | ⟨hok, -⟩
    · exact .inr ⟨failure, hfailed⟩
    · exact .inl hok
  · cases result with
    | ok => rfl
    | error e => exact (hdeletes hworks).elim

end Statements

/-! ## 3. Creations -/

/-- How a creation ends and what it leaves, for every text it is given as a name. -/
structure CreatesExactly (r : Repository) (b : Backend) (t : ObjectTable) (raw : String) : Prop where
  /-- Nothing is sent for a blank name. -/
  blank : Text.trim raw = "" → r.create raw b = (.error (.invalidArgument .emptyName), b)
  /-- The last id was given, and there is none after it. -/
  full : Text.trim raw ≠ "" → t.highestId = Int64.maxValue →
    ∃ c, r.create raw b = (.error (.storage (.database Refusal.full.report)), c) ∧ b.SameState c
  taken : Text.trim raw ≠ "" → t.highestId ≠ Int64.maxValue → t.IsTaken (Text.trim raw) →
    ∃ c, r.create raw b = (.error (.duplicateName (Text.trim raw)), c) ∧ b.SameState c
  /-- The object has an id that no row has and no metadata, and its row is the only thing that is
  new. -/
  free : Text.trim raw ≠ "" → t.highestId ≠ Int64.maxValue → ¬ t.IsTaken (Text.trim raw) →
    t.rows[t.highestId + 1]? = none ∧
    ∃ c, r.create raw b = (.ok (.fresh (t.highestId + 1) (Text.trim raw)), c) ∧
      c.database = { b.database.setTable r.table (.objects (t.added (Text.trim raw))) with
        lastInsertId := t.highestId + 1 } ∧
      c.cache = b.cache

theorem create_of_insertName {raw : String} {result : Except Error Int64} {c : Backend}
    (hne : Text.trim raw ≠ "") (h : r.insertName (Text.trim raw) b = (result, c)) :
    r.create raw b =
      ((result.mapError (nameError (Text.trim raw))).map (.fresh · (Text.trim raw)), c) := by
  unfold create
  rw [if_neg hne]
  cases result with
  | error e => exact Action.bind_of_error (Action.adapt_of_error h)
  | ok id => exact Action.bind_of_ok (Action.adapt_of_ok h)

theorem createsExactly (hobjects : b.database.objects r.table = .ok t)
    (hreadable : Database.Readable r.table) (hsound : t.Sound) (raw : String) :
    r.CreatesExactly b t raw where
  blank h := by
    unfold create
    rw [if_pos h]
    rfl
  full hne hid := by
    have hfull : t.insert r.table (Text.trim raw) = .error .full := ObjectTable.insert_of_full hid
    obtain ⟨c, hinsert, hstate⟩ := insertName_of_error hobjects hreadable hfull
    exact ⟨c, create_of_insertName hne hinsert, hstate⟩
  taken hne hid htaken := by
    obtain ⟨c, hinsert, hstate⟩ :=
      insertName_of_error hobjects hreadable (ObjectTable.insert_of_taken hid htaken)
    exact ⟨c, create_of_insertName hne hinsert, hstate⟩
  free hne hid hfree := by
    have hinsert : t.insert r.table (Text.trim raw) =
        .ok (t.highestId + 1, t.added (Text.trim raw)) := ObjectTable.insert_of_free hid hfree
    obtain ⟨hnew, -, -⟩ := ObjectTable.insert_eq_ok hinsert
    obtain ⟨c, hname, hstate⟩ := insertName_of_ok hobjects hreadable hinsert
    exact ⟨hsound.not_mem_of_highestId_lt hnew, c, create_of_insertName hne hname, hstate⟩

/-! ## 4. Updates -/

/-- How an update ends and what it leaves, for every object. What is said of the trimmed name is said
for a save that was answered, and of an object that has a row, under whatever name. -/
structure UpdatesExactly (r : Repository) (b : Backend) (t : ObjectTable) (object : NamedObject) :
    Prop where
  /-- The known name with blanks around it changes no row and asks nothing of the cache, also if the
  metadata could not be saved. -/
  same : Text.trim object.name = object.persistedName →
    (r.update object b).2.database.objects r.table = .ok t ∧ (r.update object b).2.cache = b.cache ∧
    ∀ {saved : NamedObject} {c : Backend}, r.metadataStore.save object b = ((.ok (), saved), c) →
      r.update object b = ((.ok (), saved.setName object.persistedName), c)
  blank : Text.trim object.name ≠ object.persistedName → Text.trim object.name = "" →
    ∀ {saved : NamedObject} {c : Backend}, r.metadataStore.save object b = ((.ok (), saved), c) →
      r.update object b = ((.error (.invalidArgument .emptyName), saved), c) ∧
      c.database.objects r.table = .ok t ∧ c.cache = b.cache
  taken : Text.trim object.name ≠ object.persistedName → Text.trim object.name ≠ "" →
    ∀ {saved : NamedObject} {c : Backend} {old : String},
      r.metadataStore.save object b = ((.ok (), saved), c) → t.rows[object.id]? = some old →
      t.IsTakenBeside object.id (Text.trim object.name) →
      ∃ d, r.update object b = ((.error (.duplicateName (Text.trim object.name)), saved), d) ∧
        d.database.objects r.table = .ok t ∧ d.cache = b.cache
  /-- The row has the new name then, and no other row is touched, also if the cache fails. -/
  free : Text.trim object.name ≠ object.persistedName → Text.trim object.name ≠ "" →
    ∀ {saved : NamedObject} {c : Backend} {old : String},
      r.metadataStore.save object b = ((.ok (), saved), c) → t.rows[object.id]? = some old →
      ¬ t.IsTakenBeside object.id (Text.trim object.name) →
      ∃ result o d, r.update object b = ((result, o), d) ∧
        d.database.objects r.table = .ok (t.renamed object.id (Text.trim object.name)) ∧
        (∀ name, result ≠ .error (.duplicateName name)) ∧
        ((∀ key, b.cache.fault .delete key = none) →
          result = .ok () ∧ o = saved.markRenamed (Text.trim object.name))

/-- A save leaves an update the names of the object, its id, the rows and the cache as they were. -/
theorem after_save (hobjects : b.database.objects r.table = .ok t) {object saved : NamedObject}
    {result : Except Error Unit} {c : Backend}
    (hsave : r.metadataStore.save object b = ((result, saved), c)) :
    (saved.id = object.id ∧ saved.name = object.name ∧ saved.persistedName = object.persistedName) ∧
      c.database.objects r.table = .ok t ∧ c.cache = b.cache := by
  obtain ⟨hsaved, hcache, hsame⟩ := save_eq hsave
  refine ⟨?_, ?_, hcache⟩
  · rcases hsaved with rfl | rfl <;> exact ⟨rfl, rfl, rfl⟩
  · rw [Database.objects_eq_ok_iff] at hobjects ⊢
    exact hsame.trans hobjects

theorem updatesExactly (hobjects : b.database.objects r.table = .ok t)
    (hreadable : Database.Readable r.table) (object : NamedObject) : r.UpdatesExactly b t object where
  same hsame := by
    rcases hsave : r.metadataStore.save object b with ⟨⟨e | x, saved⟩, c⟩
    · obtain ⟨-, hafter, hcache⟩ := after_save hobjects hsave
      rw [update_of_save_error hsave]
      exact ⟨hafter, hcache, fun habsurd => nomatch habsurd⟩
    · obtain ⟨⟨hid, hname, hknown⟩, hafter, hcache⟩ := after_save hobjects hsave
      have hequal : Text.trim saved.name = saved.persistedName := by rw [hname, hknown, hsame]
      rw [update_of_save_ok hsave, updateName_of_same hequal, hname, hsame]
      refine ⟨hafter, hcache, ?_⟩
      rintro _ _ ⟨⟩
      rfl
  blank hne hempty saved c hsave := by
    obtain ⟨⟨-, hname, hknown⟩, hafter, hcache⟩ := after_save hobjects hsave
    rw [← hname, ← hknown] at hne
    rw [← hname] at hempty
    rw [update_of_save_ok hsave, updateName_of_empty hne hempty]
    exact ⟨rfl, hafter, hcache⟩
  taken hne hempty saved c old hsave hrow htaken := by
    obtain ⟨⟨hid, hname, hknown⟩, hafter, hcache⟩ := after_save hobjects hsave
    rw [← hname, ← hknown] at hne
    rw [← hname] at hempty htaken ⊢
    rw [← hid] at hrow htaken
    obtain ⟨d, hrename, hdb, hkept⟩ := rename_of_taken hafter hreadable hrow htaken
    refine ⟨d, ?_, hdb ▸ hafter, hkept.trans hcache⟩
    rw [update_of_save_ok hsave, updateName_of_rename_error hne hempty hrename]
  free hne hempty saved c old hsave hrow hfree := by
    obtain ⟨⟨hid, hname, hknown⟩, hafter, hcache⟩ := after_save hobjects hsave
    rw [← hname, ← hknown] at hne
    rw [← hname] at hempty hfree ⊢
    rw [← hid] at hrow hfree ⊢
    obtain ⟨result, d, hrename, hdb, hend, hworks⟩ := rename_of_free hafter hreadable hrow hfree
    rw [hcache] at hworks
    have htable : d.database.objects r.table = .ok (t.renamed saved.id (Text.trim saved.name)) := by
      rw [hdb, Database.objects_eq_ok_iff]
      exact Database.objects?_setTable_self _ _ _
    cases result with
    | ok x =>
      refine ⟨.ok (), _, d, ?_, htable, fun _ habsurd => (nomatch habsurd), fun _ => ⟨rfl, rfl⟩⟩
      rw [update_of_save_ok hsave, updateName_of_rename_ok hne hempty hrename]
    | error e =>
      refine ⟨.error e, saved, d, ?_, htable, fun name hduplicate => ?_, fun h => ?_⟩
      · rw [update_of_save_ok hsave, updateName_of_rename_error hne hempty hrename]
      · -- What is left to fail is the cache, and it does not know of names that are taken.
        rcases hend with habsurd | ⟨failure, hfailed⟩
        · cases habsurd
        · rw [hduplicate] at hfailed
          cases hfailed
      · cases hworks h

/-! ## 5. The discipline -/

/-- **Names are all different and normal, and this is how they are written.** Wherever requests of a
repository lead, the rows of its table have different ids and names that its collation tells apart, and
every name is trimmed and not empty. There it is decided by the table alone how a creation ends, and how
an update does once its metadata is saved: a name that is taken is refused, by another row in the case of
an update, a blank one too, and any other is written trimmed, into one row. For want of an id no creation
fails before as many things were done as there are ids. -/
theorem name_discipline (h : r.LeadsTo desk) (hobjects : desk.backend.database.objects r.table = .ok t)
    (hreadable : Database.Readable r.table) :
    (t.toList.map (·.1)).Nodup ∧
    (t.toList.Pairwise fun a b => t.collation.same a.2 b.2 = false) ∧
    (∀ row ∈ t.toList, row.2 ≠ "" ∧ Text.trim row.2 = row.2) ∧
    t.highestId.toInt ≤ desk.backend.journal.length ∧
    (∀ raw, r.CreatesExactly desk.backend t raw) ∧
    ∀ object, r.UpdatesExactly desk.backend t object := by
  have htable := Database.objects_eq_ok_iff.1 hobjects
  have hsound := h.sound htable
  refine ⟨t.nodup_ids, hsound.pairwise_names, fun row hrow => ?_, h.idsCounted t htable,
    createsExactly hobjects hreadable hsound, updatesExactly hobjects hreadable⟩
  have hname := h.hasNormalNames t htable row.1 row.2 (ObjectTable.mem_toList.1 hrow)
  exact ⟨hname.nonempty, hname.trimmed⟩

end Repository

/-! ## 6. A small run

Lamps are named without regard to case. One of two is asked for again in other letters, and it may take
these letters itself, but not the name of the other. -/

namespace Repository

namespace HallLamps

def repository : Repository := .ofType ⟨.sqlite, "", "", "", ""⟩ ⟨"light", by decide⟩

def folding : Database := Database.empty.setTable "light" (.objects (.empty .ignoreCase))

def desk : Desk :=
  repository.runAll ⟨.start folding .memory, ∅⟩
    [.install, .create " Hall" "first", .create "Attic" "second", .setName "second" "Attic ",
      .update "second"]

def lamps : ObjectTable := ⟨.ignoreCase, .ofList [((1 : Int64), "Hall"), (2, "Attic")], 2⟩

/-- The lamp in the hall, as its holder would call it. -/
def called (name : String) : NamedObject := (NamedObject.fresh 1 "Hall").setName name

end HallLamps

open HallLamps in
theorem name_discipline_hallLamps :
    repository.LeadsTo desk ∧ desk.backend.database.objects repository.table = .ok lamps ∧
    (∃ c, repository.create " hall " desk.backend = (.error (.duplicateName "hall"), c)) ∧
    (∃ c, repository.create "Desk" desk.backend = (.ok (.fresh 3 "Desk"), c)) ∧
    (∃ d, repository.update (called "attic\n") desk.backend =
      ((.error (.duplicateName "attic"), called "attic\n"), d)) ∧
    ∃ d, repository.update (called "HALL") desk.backend = ((.ok (), .fresh 1 "HALL"), d) ∧
      d.database.objects repository.table =
        .ok ⟨.ignoreCase, .ofList [((1 : Int64), "HALL"), (2, "Attic")], 2⟩ := by
  have hfolding : TableEdit.run ⟨repository.table, ""⟩ .empty .createFolding =
      .ok (.done, folding) := by decide +kernel
  have hleads : repository.LeadsTo desk :=
    (LeadsTo.start .memory (startsEmpty_createFolding hfolding)).runAll _
  have hobjects : desk.backend.database.objects repository.table = .ok lamps := by decide +kernel
  have hreadable : Database.Readable repository.table :=
    Database.readable_of_isPlainName (by decide +kernel)
  obtain ⟨-, -, -, -, hcreate, hupdate⟩ := name_discipline hleads hobjects hreadable
  have hid : lamps.highestId ≠ Int64.maxValue := by decide +kernel
  have hsave : ∀ name, repository.metadataStore.save (called name) desk.backend =
      ((.ok (), called name), desk.backend) :=
    fun name => MetadataStore.save_of_isEmpty (NamedObject.isEmpty_metadataDelta_iff.2 rfl) _
  have hrow : lamps.rows[(1 : Int64)]? = some "Hall" := by decide +kernel
  refine ⟨hleads, hobjects, ?_, ?_, ?_, ?_⟩
  · obtain ⟨c, hanswer, -⟩ := (hcreate " hall ").taken (by decide +kernel) hid
      ⟨1, "Hall", hrow, by decide +kernel⟩
    exact ⟨c, hanswer⟩
  · have hfree : ¬ lamps.IsTaken "Desk" :=
      mt ObjectTable.isSome_withName?_iff.2 (by decide +kernel)
    obtain ⟨-, c, hanswer, -⟩ := (hcreate "Desk").free (by decide +kernel) hid hfree
    exact ⟨c, hanswer⟩
  · obtain ⟨d, hanswer, -⟩ := (hupdate (called "attic\n")).taken (by decide +kernel) (by decide +kernel)
      (hsave _) hrow ⟨2, "Attic", by decide +kernel, by decide, by decide +kernel⟩
    exact ⟨d, hanswer⟩
  · -- No other lamp has the name in other letters.
    have hfree : ¬ lamps.IsTakenBeside 1 "HALL" :=
      mt ObjectTable.any_iff_isTakenBeside.2 (by decide +kernel)
    obtain ⟨result, o, d, hanswer, htable, -, hworks⟩ := (hupdate (called "HALL")).free
      (by decide +kernel) (by decide +kernel) (hsave _) hrow hfree
    have hcache : desk.backend.Works := works_runAll fun _ _ => rfl
    obtain ⟨rfl, rfl⟩ := hworks (hcache .delete)
    exact ⟨d, hanswer, htable⟩

end Repository

end ObjectCatalog
