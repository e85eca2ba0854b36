import ObjectCatalog.Proofs.Repository.Handles

/-!
# What updates leave

An update that succeeds did what it was asked for if the object is still there: its row stays, and it
has the trimmed name of the object if that is another than the object remembers. But an update does
not look whether the object is there. If the object was deleted through another handle, its rename
finds no row and changes nothing, and succeeds all the same (`NamedObject.UpdatesRow`).

The metadata of such an object is saved as well. A deletion takes the metadata of its object along,
and whatever else is saved belongs to a row. So a row of the metadata table without an object comes
from a save through a handle whose object was gone already (`Request.SavesLate`), and where no program
does this every row of metadata has its object (`Repository.update_holds_and_metadata_owned`).
-/

namespace ObjectCatalog

/-! ## The row of an updated object -/

/-- What an update of an object makes of the object table. -/
structure NamedObject.UpdatesRow (object : NamedObject) (t t' : ObjectTable) : Prop where
  /-- The row stays, with the new name if the object has one. -/
  there : ∀ {stored : String}, t.rows[object.id]? = some stored →
    t'.rows[object.id]? =
      some (if Text.trim object.name = object.persistedName then stored else Text.trim object.name)
  /-- Where there is no row, none is put in. -/
  gone : t.rows[object.id]? = none → t' = t

namespace Repository

variable {r : Repository} {t : ObjectTable}

/-- A rename that is not refused renames the row, if there is one. -/
theorem meets_rename_row (object : NamedObject) (name : String) :
    Action.Meets (fun b => b.database.objects? r.table = some t) (r.rename object name)
      (fun _ b => ∃ t', b.database.objects? r.table = some t' ∧
        (∀ {stored : String}, t.rows[object.id]? = some stored →
          t'.rows[object.id]? = some name) ∧
        (t.rows[object.id]? = none → t' = t)) (fun _ => True) := by
  unfold rename
  refine Action.Meets.bind (Q := fun _ b => b.database.objects? r.table = some t) ?_ fun stored => ?_
  · refine Backend.meets_send (fun b _ db hb hrun => ?_) fun _ _ _ _ => trivial
    obtain ⟨rfl, -⟩ := Database.run_storedName hrun
    exact hb
  refine Action.Meets.bind ?_ fun _ =>
    (keeps_invalidate (P := fun db => ∃ t', db.objects? r.table = some t' ∧
      (∀ {stored : String}, t.rows[object.id]? = some stored →
        t'.rows[object.id]? = some name) ∧
      (t.rows[object.id]? = none → t' = t)) _ _ _).meets
  refine (Backend.meets_send (fun b _ db hb hrun => ?_) fun _ _ _ _ => trivial).adapt _
  obtain ⟨u, t', hu, hrename, ht'⟩ := Database.run_renameObject hrun
  obtain rfl := Option.some.inj (hb.symm.trans hu)
  refine ⟨t', ht', ?_⟩
  rcases ObjectTable.rename_eq_ok hrename with ⟨hnone, rfl⟩ | ⟨old, hold, -, rfl⟩
  · refine ⟨fun {stored} hrow => ?_, fun _ => rfl⟩
    rw [hnone] at hrow
    cases hrow
  · refine ⟨fun _ => ?_, fun hnone => ?_⟩
    · exact (ObjectTable.getElem?_put _ _ _ _).trans (if_pos rfl)
    · rw [hnone] at hold
      cases hold

/-- Every update that is answered without an error at this desk leaves the row of its object as it
should be. -/
def UpdatesHold (r : Repository) (desk : Desk) : Prop :=
  ∀ {name : String} {held : Handle} {t : ObjectTable} {reply : Reply} {desk' : Desk},
    desk.handles[name]? = some held → desk.backend.database.objects? r.table = some t →
    (Request.update name).run r desk = (.ok reply, desk') →
    ∃ t', desk'.backend.database.objects? r.table = some t' ∧ held.object.UpdatesRow t t'

theorem updatesHold (r : Repository) (desk : Desk) : r.UpdatesHold desk := by
  intro name held t reply desk' hheld ht hrun
  obtain ⟨hremovals, hupserts⟩ := r.metadataStore.keeps_writes
    (keeps_send_objects (r := r) (t := some t)) held.object.id held.object.metadataDelta
  have hupdate : Editing.Meets
      (fun o b => o = held.object ∧ b.database.objects? r.table = some t) r.update
      (fun _ o b => o.id = held.object.id ∧
        ∃ t', b.database.objects? r.table = some t' ∧ held.object.UpdatesRow t t')
      (fun o _ => held.object.MaybeSaved o ∧ True) := by
    refine meets_update hremovals hupserts (fun _ _ => trivial) (fun hsame b hb => ?_) fun hne => ?_
    · refine ⟨t, hb, ⟨fun hrow => ?_, fun _ => rfl⟩⟩
      rw [if_pos hsame, hrow]
    · refine (meets_rename_row held.object _).mono (fun _ b hb => ?_) fun _ _ => trivial
      obtain ⟨t', ht', hthere, hgone⟩ := hb
      refine ⟨t', ht', ⟨fun hrow => ?_, hgone⟩⟩
      rw [if_neg hne, hthere hrow]
  have hdone := hupdate held.object desk.backend ⟨rfl, ht⟩
  rw [Request.run, Desk.edit, Desk.withHandle] at hrun
  simp only [hheld, Editing.on] at hrun
  revert hdone hrun
  rcases r.update held.object desk.backend with ⟨⟨e | x, object⟩, b⟩
  · rintro - ⟨⟩
  · rintro hdone ⟨⟩
    exact hdone.2

end Repository

/-! ## Metadata and its objects -/

namespace ObjectTable

variable {t t' : ObjectTable} {id : Int64} {name : String}

theorem Has.put (h : t.Has id) (id' : Int64) (name : String) {highest : Int64} :
    Has { t with rows := t.rows.insert id' name, highestId := highest } id := by
  obtain ⟨old, hold⟩ := h
  by_cases hid : id' = id
  · exact ⟨name, (getElem?_put _ _ _ _).trans (if_pos hid)⟩
  · exact ⟨old, ((getElem?_put _ _ _ _).trans (if_neg hid)).trans hold⟩

theorem Has.insert (h : t.Has id) {table : String} {id' : Int64}
    (hinsert : t.insert table name = .ok (id', t')) : t'.Has id := by
  obtain ⟨-, -, rfl⟩ := insert_eq_ok hinsert
  exact h.put id' name

theorem Has.rename (h : t.Has id) {table : String} {id' : Int64}
    (hrename : t.rename table id' name = .ok t') : t'.Has id := by
  rcases rename_eq_ok hrename with ⟨-, rfl⟩ | ⟨old, -, -, rfl⟩
  · exact h
  · exact h.put id' name

end ObjectTable

namespace Repository

variable {r : Repository} {late : Int64 → Prop} {db db' : Database}

/-- Every row of metadata belongs to an object of the table, or is one of the late ones. -/
def Owned (r : Repository) (late : Int64 → Prop) (db : Database) : Prop :=
  ∀ row ∈ db.entries r.metadataStore.table, r.HasRow row.object db ∨ late row.object

theorem Owned.mono {more : Int64 → Prop} (h : r.Owned late db) (hmore : ∀ id, late id → more id) :
    r.Owned more db :=
  fun row hrow => (h row hrow).imp id (hmore _)

/-- Where no object goes and no metadata comes, all is owned as before. -/
theorem Owned.of_run (h : r.Owned late db) {s : Statement} {answer : s.Answer}
    (hs : ¬ s.AddsEntry) (hrun : db.run s = .ok (answer, db'))
    (hrows : ∀ id, r.HasRow id db → r.HasRow id db') : r.Owned late db' :=
  fun row hrow => (h row (Database.mem_entries_of_run hs hrun hrow)).imp (hrows _) id

theorem HasRow.of_sparesObjects {id : Int64} (h : r.HasRow id db) {s : Statement} {answer : s.Answer}
    (hs : s.SparesObjects) (hrun : db.run s = .ok (answer, db')) : r.HasRow id db' := by
  obtain ⟨t, ht, hrow⟩ := h
  exact ⟨t, (Database.objects?_of_sparesObjects hs hrun r.table).trans ht, hrow⟩

/-- An object stays if its table becomes one that has all objects of the old one. -/
theorem HasRow.of_table {id : Int64} (h : r.HasRow id db) {t t' : ObjectTable}
    (ht : db.objects? r.table = some t) (ht' : db'.objects? r.table = some t')
    (hrows : t.Has id → t'.Has id) : r.HasRow id db' := by
  obtain ⟨u, hu, hrow⟩ := h
  obtain rfl := Option.some.inj (ht.symm.trans hu)
  exact ⟨t', ht', hrows hrow⟩

/-- The keeping of what is owned, of a statement that takes out no object and adds no metadata. -/
theorem keeps_send_owned {s : Statement} (hs : ¬ s.AddsEntry)
    (hrows : ∀ {answer db db'}, db.run s = .ok (answer, db') →
      ∀ id, r.HasRow id db → r.HasRow id db') :
    Action.Keeps (fun b => r.Owned late b.database) (Backend.send s) :=
  Action.meets_iff_keeps.1 <| Backend.meets_send
    (fun _ _ _ hb hrun => hb.of_run hs hrun (hrows hrun)) fun _ _ hb _ => hb

theorem alikeParts_owned : r.AlikeParts (Backend.Same fun b => r.Owned late b.database) where
  send s hs hadds _ :=
    (keeps_send_owned hadds fun hrun _ hrow => hrow.of_sparesObjects hs hrun).alike
  createObjects options := by
    refine (keeps_send_owned id fun hrun id hrow => ?_).alike
    obtain ⟨t, ht, hrow⟩ := hrow
    rcases Database.run_createObjects hrun with rfl | ⟨hnone, -⟩
    · exact ⟨t, ht, hrow⟩
    · rw [hnone] at ht
      cases ht
  insertName name := by
    unfold insertName
    split
    · refine (keeps_send_owned id fun hrun id hrow => ?_).alike
      obtain ⟨t, t', ht, hinsert, ht', -⟩ := Database.run_insertReturning hrun
      exact hrow.of_table ht ht' (·.insert hinsert)
    · refine Action.Alike.bind (keeps_send_owned id fun hrun id hrow => ?_).alike fun _ =>
        (keeps_send_owned id fun hrun _ hrow => hrow.of_sparesObjects (by trivial) hrun).alike
      obtain ⟨t, t', _, ht, hinsert, ht', -⟩ := Database.run_insertObject hrun
      exact hrow.of_table ht ht' (·.insert hinsert)
  rename object name := by
    have hstored : Action.Keeps (fun b => r.Owned late b.database)
        (Backend.send (.storedName r.table object.id)) :=
      keeps_send_owned id fun hrun _ hrow => hrow.of_sparesObjects (by trivial) hrun
    have hrename : Action.Keeps (fun b => r.Owned late b.database)
        (Backend.send (.renameObject r.table name object.id)) := by
      refine keeps_send_owned id fun hrun id hrow => ?_
      obtain ⟨t, t', ht, hrename, ht'⟩ := Database.run_renameObject hrun
      exact hrow.of_table ht ht' (·.rename hrename)
    exact hstored.alike.bind fun stored => (hrename.alike.adapt _).bind fun _ =>
      (keeps_invalidate _ _ _).alike

/-- Metadata may be written for an object: the object is there, or it is one of the late ones. -/
def MayWrite (r : Repository) (late : Int64 → Prop) (id : Int64) (db : Database) : Prop :=
  r.HasRow id db ∨ late id

theorem keeps_deleteEntry_owned {p : Prop} {id id' : Int64} {key : String} :
    Action.Keeps (fun b => r.Owned late b.database ∧ (p → r.MayWrite late id b.database))
      (Backend.send (.deleteEntry r.metadataStore.table id' key)) := by
  refine Action.meets_iff_keeps.1 (Backend.meets_send (fun b _ db hb hrun => ?_) fun _ _ hb _ => hb)
  have hrows : ∀ id, r.HasRow id b.database → r.HasRow id db :=
    fun _ hrow => hrow.of_sparesObjects (by trivial) hrun
  exact ⟨hb.1.of_run (s := .deleteEntry _ id' key) (fun h => h) hrun hrows,
    fun hp => (hb.2 hp).imp (hrows _) fun h => h⟩

/-- What is added belongs to an object for which metadata may be written. -/
theorem keeps_insertEntry_owned {id : Int64} {key value : String} :
    Action.Keeps (fun b => r.Owned late b.database ∧ r.MayWrite late id b.database)
      (Backend.send (.insertEntry r.metadataStore.table id key value)) := by
  refine Action.meets_iff_keeps.1 (Backend.meets_send (fun b _ db hb hrun => ?_) fun _ _ hb _ => hb)
  have hrows : ∀ id, r.HasRow id b.database → r.HasRow id db :=
    fun _ hrow => hrow.of_sparesObjects (by trivial) hrun
  refine ⟨fun row hrow => ?_, hb.2.imp (hrows _) fun h => h⟩
  rcases Database.run_insertEntry hrun hrow with hold | rfl
  · exact (hb.1 row hold).imp (hrows _) fun h => h
  · exact hb.2.imp (hrows _) fun h => h

theorem keeps_writeRemovals_owned {p : Prop} {id : Int64} (keys : List String) :
    Action.Keeps (fun b => r.Owned late b.database ∧ (p → r.MayWrite late id b.database))
      (r.metadataStore.writeRemovals id keys) := by
  induction keys with
  | nil => exact Action.keeps_pure _
  | cons key rest ih => exact keeps_deleteEntry_owned.bind fun _ => ih

theorem keeps_writeUpserts_owned {id : Int64} (entries : List (String × String)) :
    Action.Keeps
      (fun b => r.Owned late b.database ∧ (entries ≠ [] → r.MayWrite late id b.database))
      (r.metadataStore.writeUpserts id entries) := by
  -- If there is anything to write, what may be written is known for all of it.
  have hwrites : ∀ rest : List (String × String), Action.Keeps
      (fun b => r.Owned late b.database ∧ r.MayWrite late id b.database)
      (r.metadataStore.writeUpserts id rest) := by
    intro rest
    induction rest with
    | nil => exact Action.keeps_pure _
    | cons entry rest ih =>
      have hdelete : Action.Keeps
          (fun b => r.Owned late b.database ∧ (True → r.MayWrite late id b.database))
          (Backend.send (.deleteEntry r.metadataStore.table id entry.1)) :=
        keeps_deleteEntry_owned
      refine Action.Keeps.bind (fun b hb => ?_) fun _ => keeps_insertEntry_owned.bind fun _ => ih
      have hafter := hdelete b ⟨hb.1, fun _ => hb.2⟩
      exact ⟨hafter.1, hafter.2 trivial⟩
  cases entries with
  | nil => exact Action.keeps_pure _
  | cons entry rest =>
    intro b hb
    have hafter := hwrites (entry :: rest) b ⟨hb.1, hb.2 (List.cons_ne_nil _ _)⟩
    exact ⟨hafter.1, fun _ => hafter.2⟩

/-- A deletion takes the metadata of its object along, if there is a table of metadata. -/
theorem meets_delete_owned (object : NamedObject) :
    Action.Meets (fun b => r.MetadataIsThere b ∧ r.Owned late b.database) (r.delete object)
      (fun _ b => r.Owned late b.database) (fun b => r.Owned late b.database) := by
  unfold delete
  refine Action.Meets.bind
    (Q := fun _ b => r.MetadataIsThere b ∧ r.Owned late b.database) ?_ fun stored => ?_
  · refine Backend.meets_send (fun b _ db hb hrun => ?_) fun _ _ hb _ => hb.2
    obtain ⟨rfl, -⟩ := Database.run_storedName hrun
    exact hb
  -- Between the two statements only the metadata of this object has no object.
  refine Action.Meets.bind (Q := fun _ b => r.MetadataIsThere b ∧
    r.Owned (fun id => late id ∨ id = object.id) b.database) ?_ fun _ => ?_
  · refine Backend.meets_send (fun b _ db hb hrun => ?_) fun _ _ hb _ => hb.2
    refine ⟨MetadataStore.IsThere.deleteObject hb.1 hrun, fun row hrow => ?_⟩
    obtain ⟨t, ht, hdb⟩ := Database.run_deleteObject hrun
    have hold : row ∈ b.database.entries r.metadataStore.table :=
      Database.mem_entries_of_run (s := .deleteObject r.table object.id) (fun h => h) hrun hrow
    by_cases hid : row.object = object.id
    · exact .inr (.inr hid)
    · refine (hb.2 row hold).imp (fun hhas => ?_) .inl
      rw [hdb]
      refine hhas.of_table ht (Database.objects?_setTable_self _ _ _) fun ⟨name, hname⟩ => ⟨name, ?_⟩
      rw [ObjectTable.getElem?_delete, if_neg (Ne.symm hid), hname]
  refine Action.Meets.bind (Q := fun _ b => r.Owned late b.database) ?_ fun _ =>
    Action.meets_iff_keeps.2 (keeps_invalidate _ _ _)
  refine Backend.meets_send (fun b _ db hb hrun => fun row hrow => ?_) fun b refusal hb hrun => ?_
  · obtain ⟨hold, hne⟩ := Database.run_deleteMetadata hrun hrow
    rcases hb.2 row hold with hhas | hlate | hid
    · exact .inl (hhas.of_sparesObjects (by trivial) hrun)
    · exact .inr hlate
    · exact absurd hid hne
  · obtain ⟨db, hcleared⟩ := hb.1 object.id
    rw [hrun] at hcleared
    cases hcleared

end Repository

/-! ## Requests -/

/-- The request saves new metadata of an object that has no row any more. -/
def Request.SavesLate (r : Repository) (desk : Desk) (request : Request) (id : Int64) : Prop :=
  ∃ handle held, (request = .update handle ∨ request = .saveMetadata handle) ∧
    desk.handles[handle]? = some held ∧ held.object.id = id ∧
    held.object.metadataDelta.upserts ≠ [] ∧ ¬ r.HasRow id desk.backend.database

namespace Repository

variable {r : Repository} {late : Int64 → Prop} {desk : Desk}

/-- What a save writes belongs to an object that is there, or it comes late. -/
theorem owned_edit {handle : String} {editing : Editing Unit}
    (h : r.Owned late desk.backend.database)
    (hedit : ∀ held, desk.handles[handle]? = some held →
      Editing.Meets (fun o b => o = held.object ∧ r.Owned late b.database ∧
          (held.object.metadataDelta.upserts ≠ [] → r.MayWrite late held.object.id b.database))
        editing (fun _ _ b => r.Owned late b.database) (fun _ b => r.Owned late b.database))
    (hlate : ∀ held, desk.handles[handle]? = some held →
      held.object.metadataDelta.upserts ≠ [] →
      r.MayWrite late held.object.id desk.backend.database) :
    r.Owned late (desk.edit handle editing).2.backend.database := by
  unfold Desk.edit Desk.withHandle
  cases hheld : desk.handles[handle]? with
  | none => exact h
  | some held => exact (hedit held hheld).after ⟨rfl, h, hlate held hheld⟩

/-- A request that saves, where all it may write is accounted for. -/
theorem owned_of_saves {request : Request} (hsaves : request.Saves)
    (h : r.Owned late desk.backend.database)
    (hmay : ∀ {handle held}, (request = .update handle ∨ request = .saveMetadata handle) →
      desk.handles[handle]? = some held → held.object.metadataDelta.upserts ≠ [] →
      r.MayWrite late held.object.id desk.backend.database) :
    r.Owned late (request.run r desk).2.backend.database := by
  cases request with
  | update handle =>
    refine owned_edit h (fun held hheld => ?_) fun held hheld => hmay (.inl rfl) hheld
    have hrename : ∀ name, Action.Keeps (fun b => r.Owned late b.database)
        (r.rename held.object name) :=
      fun name => (alikeParts_owned.rename held.object name).keeps
    refine (meets_update (keeps_writeRemovals_owned _) (keeps_writeUpserts_owned _)
      (fun b hb => hb.1) (fun _ b hb => hb.1) fun _ => ?_).mono (fun _ _ hb => hb)
      (fun _ _ _ hb => hb.2) fun _ _ hb => hb.2
    exact (Action.meets_iff_keeps.2 (hrename _)).mono_of fun b hb => hb.1
  | saveMetadata handle =>
    refine owned_edit h (fun held hheld => ?_) fun held hheld => hmay (.inr rfl) hheld
    exact (MetadataStore.meets_save (keeps_writeRemovals_owned _)
      (keeps_writeUpserts_owned _)).mono (fun _ _ hb => hb) (fun _ _ _ hb => hb.2.1)
      fun _ _ hb => hb.2.1
  | _ => exact hsaves.elim

/-- What neither saves nor deletes leaves all that is owned as it is. -/
theorem owned_of_rest {request : Request} (hsaves : ¬ request.Saves) (hdelete : ¬ request.IsDelete)
    (h : r.Owned late desk.backend.database) :
    r.Owned late (request.run r desk).2.backend.database := by
  have hfindRow : ∀ lookup, Action.Alike (Backend.Same fun b => r.Owned late b.database)
      (r.findRow lookup) := by
    intro lookup
    refine alike_findRow_of_calls (Action.Keeps.alike fun b hb => ?_)
      (keeps_send_owned id fun hrun _ hrow => hrow.of_sparesObjects (by trivial) hrun).alike
      fun text => Action.Keeps.alike fun b hb => ?_
    · rw [Backend.database_fetch]
      exact hb
    · rw [Backend.database_store]
      exact hb
  exact (Request.alike_run alikeParts_owned (fun hs => absurd hs hsaves) (fun _ => hfindRow)
    hdelete ⟨h, rfl⟩).backend.1

/-- After a request all metadata is owned but for what was saved late. -/
theorem owned_request {request : Request}
    (hthere : request.IsDelete → r.MetadataIsThere desk.backend)
    (h : r.Owned late desk.backend.database) :
    r.Owned (fun id => late id ∨ request.SavesLate r desk id)
      (request.run r desk).2.backend.database := by
  have hmore : r.Owned (fun id => late id ∨ request.SavesLate r desk id) desk.backend.database :=
    h.mono fun _ => .inl
  by_cases hsaves : request.Saves
  · refine owned_of_saves hsaves hmore fun {handle held} hrequest hheld hupserts => ?_
    by_cases hrow : r.HasRow held.object.id desk.backend.database
    · exact .inl hrow
    · exact .inr (.inr ⟨handle, held, hrequest, hheld, rfl, hupserts, hrow⟩)
  by_cases hdelete : request.IsDelete
  · cases request with
    | delete handle =>
      rcases Request.run_delete r desk handle with hrun | ⟨object, hrun⟩
      · rw [hrun]
        exact hmore
      · rw [hrun]
        exact (meets_delete_owned object).after ⟨hthere trivial, hmore⟩
    | _ => exact hdelete.elim
  · exact owned_of_rest hsaves hdelete hmore

/-! ## Runs -/

/-- The ids for which metadata was saved late along a list of requests. -/
def SavedLate (r : Repository) (desk : Desk) : List Request → Int64 → Prop
  | [], _ => False
  | request :: rest, id =>
    request.SavesLate r desk id ∨ SavedLate r (request.run r desk).2 rest id

/-- The induction is on the requests that are still to be made; `late` are the ids from before. -/
theorem owned_runAll {requests : List Request} (hdeletes : r.DeletesWithMetadata desk requests)
    (h : r.Owned late desk.backend.database) :
    r.Owned (fun id => late id ∨ r.SavedLate desk requests id)
      (r.runAll desk requests).backend.database := by
  induction requests generalizing desk late with
  | nil => exact h.mono fun _ => .inl
  | cons request rest ih =>
    exact (ih hdeletes.2 (owned_request hdeletes.1 h)).mono fun _ => or_assoc.1

/-- **An update that succeeds holds if the object is there, and metadata has its object if it was not
saved late.** After any requests an update that is answered without an error leaves the row of an
object in its place, under the trimmed name if the object has a new one; where the object was deleted
it changes no row. And every row of the metadata table belongs to a row of the object table, or to an
object whose metadata was saved through a handle after its deletion. -/
theorem update_holds_and_metadata_owned {db : Database} {cache : Cache} {requests : List Request}
    (hempty : db.entries r.metadataStore.table = [])
    (hdeletes : r.DeletesWithMetadata ⟨.start db cache, ∅⟩ requests) :
    r.UpdatesHold (r.runAll ⟨.start db cache, ∅⟩ requests) ∧
    r.Owned (r.SavedLate ⟨.start db cache, ∅⟩ requests)
      (r.runAll ⟨.start db cache, ∅⟩ requests).backend.database := by
  have hstart : r.Owned (fun _ => False) db := by
    intro row hrow
    rw [hempty] at hrow
    cases hrow
  have howned := owned_runAll hdeletes hstart
  exact ⟨updatesHold r _, howned.mono fun _ hlate => hlate.resolve_left id⟩

/-! ## A mirror without a frame

A mirror is deleted while a second handle holds it, and the second handle then saves a frame and a
new name for it. The update succeeds, and what is left is a frame without a mirror. -/

namespace LostMirror

def repository : Repository := .ofType ⟨.sqlite, "", "", "", ""⟩ ⟨"mirror", by decide⟩

def requests : List Request :=
  [.install, .create "hall" "first", .loadById 1 (some "second"), .delete "first",
    .create "stairs" "other", .setMeta "other" "frame" "brass", .setName "other" "cellar",
    .update "other", .setMeta "second" "frame" "oak", .setName "second" "attic"]

def beforeUpdate : Desk := repository.runAll ⟨.start .empty .memory, ∅⟩ requests

def updated : Except Error Reply × Desk := (Request.update "second").run repository beforeUpdate

theorem deletesWithMetadata :
    repository.DeletesWithMetadata ⟨.start .empty .memory, ∅⟩ (requests ++ [.update "second"]) := by
  have hplain : isPlainName repository.metadataStore.table = true := by decide +kernel
  refine ⟨nofun, nofun, nofun, fun _ => ?_, nofun, nofun, nofun, nofun, nofun, nofun, nofun,
    trivial⟩
  exact (MetadataStore.isThere_iff_of_isPlainName hplain).2 ⟨[], by decide +kernel⟩

end LostMirror

open LostMirror in
theorem update_holds_and_metadata_owned_lostMirror :
    Database.empty.entries "mirror_meta" = [] ∧
    repository.DeletesWithMetadata ⟨.start .empty .memory, ∅⟩ (requests ++ [.update "second"]) ∧
    repository.UpdatesHold
      (repository.runAll ⟨.start .empty .memory, ∅⟩ (requests ++ [.update "second"])) ∧
    repository.Owned
      (repository.SavedLate ⟨.start .empty .memory, ∅⟩ (requests ++ [.update "second"]))
      (repository.runAll ⟨.start .empty .memory, ∅⟩
        (requests ++ [.update "second"])).backend.database := by
  have hempty : Database.empty.entries repository.metadataStore.table = [] := by decide +kernel
  exact ⟨hempty, deletesWithMetadata, update_holds_and_metadata_owned hempty deletesWithMetadata⟩

open LostMirror in
/-- The update is answered without an error, no row has the id or the new name, and the metadata
belongs to no object. -/
theorem update_of_deleted_object :
    repository.Reachable beforeUpdate ∧
    (∃ held, beforeUpdate.handles["second"]? = some held ∧ held.object.id = 1 ∧
      held.object.name = "attic" ∧ held.object.persistedName = "hall") ∧
    updated.1.isOk = true ∧
    (∃ t, updated.2.backend.database.objects repository.table = .ok t ∧
      t.toList = [(2, "cellar")]) ∧
    updated.2.backend.database.metadata repository.metadataStore.table =
      .ok [⟨2, "frame", "brass"⟩, ⟨1, "frame", "oak"⟩] := by
  have hdeletes : repository.DeletesWithMetadata ⟨.start .empty .memory, ∅⟩ requests := by
    obtain ⟨h₁, h₂, h₃, h₄, h₅, h₆, h₇, h₈, h₉, h₁₀, -⟩ := deletesWithMetadata
    exact ⟨h₁, h₂, h₃, h₄, h₅, h₆, h₇, h₈, h₉, h₁₀, trivial⟩
  refine ⟨(Reachable.start startsEmpty_empty).runAll hdeletes, ?_, by decide +kernel, ?_,
    by decide +kernel⟩
  · let object := ((NamedObject.fresh 1 "hall").setMeta "frame" "oak").setName "attic"
    exact ⟨⟨object, ⟨1, "hall", 0⟩⟩, by decide +kernel, rfl, rfl, rfl⟩
  · exact ⟨⟨.binary, .ofList [((2 : Int64), "cellar")], 2⟩, by decide +kernel, by decide +kernel⟩

end Repository

end ObjectCatalog
