import ObjectCatalog.Proofs.Cache.Runs
import ObjectCatalog.Proofs.Object.RowRoundTrip
import ObjectCatalog.Proofs.Repository.Editing

/-!
# Where objects come from

A program gets an object when it creates one, and when a lookup or a search finds one. In each case
the object is a row of the object table at that moment: of a new object because it was put in, of one
that was found because the cache is coherent and so knows no rows but those of the table
(`Repository.hasRow_of_handsOut`).

What a handle holds afterwards may change in everything but the id. So the ids in the handles of a
program are ids that the table gave to a row at some time (`Repository.Reachable.issued`), and stay so
when the row has gone: the table gives no id twice (`Request.keeps_retired`).
-/

namespace ObjectCatalog

/-! ## Ids of an object table -/

namespace ObjectTable

variable {t t' : ObjectTable} {id : Int64}

def Has (t : ObjectTable) (id : Int64) : Prop :=
  ∃ name, t.rows[id]? = some name

/-- No row is ever given the id again, because new rows come after the highest id. -/
def Retired (t : ObjectTable) (id : Int64) : Prop :=
  id ≤ t.highestId ∧ t.rows[id]? = none

theorem Changes.highestId_le (h : t.Changes t') : t.highestId ≤ t'.highestId := by
  cases h with
  | insert h =>
    obtain ⟨hlt, -, rfl⟩ := insert_eq_ok h
    exact Int64.le_of_lt hlt
  | rename h =>
    rcases rename_eq_ok h with ⟨-, rfl⟩ | ⟨old, -, -, rfl⟩
    · exact Int64.le_refl _
    · exact Int64.le_refl _
  | delete h =>
    subst h
    exact Int64.le_refl _

theorem Changes.sound (h : t.Changes t') (ht : t.Sound) : t'.Sound := by
  cases h with
  | insert h => exact ht.insert h
  | rename h => exact ht.rename h
  | delete h => exact h ▸ ht.delete

/-- An insertion takes a new id, a rename changes rows that are there, and a deletion takes out. -/
theorem Changes.retired (h : t.Changes t') (hid : t.Retired id) : t'.Retired id := by
  refine ⟨Int64.le_trans hid.1 h.highestId_le, ?_⟩
  cases h with
  | @insert _ _ new h =>
    obtain ⟨hlt, -, rfl⟩ := insert_eq_ok h
    rw [getElem?_put, if_neg, hid.2]
    rintro rfl
    exact absurd hid.1 (Int64.not_le.2 hlt)
  | @rename _ _ renamed h =>
    rcases rename_eq_ok h with ⟨-, rfl⟩ | ⟨old, hold, -, rfl⟩
    · exact hid.2
    · rw [getElem?_put, if_neg, hid.2]
      rintro rfl
      rw [hid.2] at hold
      cases hold
  | delete h =>
    subst h
    rw [getElem?_delete, hid.2, ite_self]

end ObjectTable

/-! ## Tables that are there -/

namespace Repository

variable {r : Repository} {P : ObjectTable → Prop} {b : Backend} {id : Int64}

/-- The object table is there, and `P` holds of it. -/
def TableHas (r : Repository) (P : ObjectTable → Prop) (db : Database) : Prop :=
  ∃ t, db.objects? r.table = some t ∧ P t

/-- The id is that of an object that is there now. -/
def HasRow (r : Repository) (id : Int64) : Database → Prop :=
  r.TableHas (·.Has id)

/-- The id was given to an object, which may have gone since. -/
def Issued (r : Repository) (id : Int64) : Database → Prop :=
  r.TableHas (id ≤ ·.highestId)

/-- The id was given to an object, which has gone. -/
def Retired (r : Repository) (id : Int64) : Database → Prop :=
  r.TableHas (·.Retired id)

theorem Coherent.issued (h : r.Coherent b) (hrow : r.HasRow id b.database) :
    r.Issued id b.database := by
  obtain ⟨t, ht, name, hrow⟩ := hrow
  exact ⟨t, ht, (h.sound ht).bounded hrow⟩

theorem not_hasRow_of_retired {db : Database} (h : r.Retired id db) : ¬ r.HasRow id db := by
  rintro ⟨t, ht, name, hrow⟩
  obtain ⟨u, hu, -, hnone⟩ := h
  obtain rfl := Option.some.inj (ht.symm.trans hu)
  rw [hnone] at hrow
  cases hrow

end Repository

namespace Request

variable {r : Repository} {P : ObjectTable → Prop} {desk : Desk} {id : Int64}

/-- No request takes the object table away, and what its changes keep is true of it afterwards. -/
theorem keeps_tableHas (hP : ∀ {t t'}, t.Changes t' → P t → P t') (request : Request)
    (h : r.TableHas P desk.backend.database) :
    r.TableHas P (request.run r desk).2.backend.database := by
  refine keeps_database (P := r.TableHas P) ?_ request h
  rintro s answer db db' - hrun ⟨t, ht, hPt⟩
  exact Database.exists_objects?_of_run hP hrun ht hPt

theorem keeps_issued (request : Request) (h : r.Issued id desk.backend.database) :
    r.Issued id (request.run r desk).2.backend.database :=
  keeps_tableHas (fun hchange hid => Int64.le_trans hid hchange.highestId_le) request h

theorem keeps_retired (request : Request) (h : r.Retired id desk.backend.database) :
    r.Retired id (request.run r desk).2.backend.database :=
  keeps_tableHas ObjectTable.Changes.retired request h

/-- What holds of an empty table and is kept by changes stays true of the table there is, if there is
one. -/
theorem keeps_objects? (hempty : P (.empty .binary)) (hP : ∀ {t t'}, t.Changes t' → P t → P t')
    (request : Request) (h : ∀ {t}, desk.backend.database.objects? r.table = some t → P t)
    {t : ObjectTable} (ht : (request.run r desk).2.backend.database.objects? r.table = some t) :
    P t := by
  refine keeps_database (P := fun db => ∀ {t}, db.objects? r.table = some t → P t) ?_ request h ht
  exact fun _ hrun hdb => Database.forall_objects?_of_run hempty id hP hrun hdb

end Request

/-! ## What is found -/

/-- Metadata is put into an object that keeps its id. -/
theorem MetadataStore.meets_apply (store : MetadataStore) (object : NamedObject) :
    Action.Meets (fun _ => True) (store.apply object) (fun found _ => found.id = object.id)
      (fun _ => True) :=
  (Action.meets_true _).bind fun _ => Action.meets_pure fun _ _ => rfl

namespace Repository

variable {r : Repository} {t : Option ObjectTable}

/-- The cache is coherent and the object table is this one, if any. -/
def Over (r : Repository) (t : Option ObjectTable) (b : Backend) : Prop :=
  r.Coherent b ∧ b.database.objects? r.table = t

/-- The table is there and has a row with the id. -/
def Found (t : Option ObjectTable) (id : Int64) : Prop :=
  ∃ u, t = some u ∧ u.Has id

theorem keeps_send_over {s : Statement} (hs : s.SparesObjects) :
    Action.Keeps (r.Over t) (Backend.send s) :=
  fun b hb => ⟨keeps_send hs b hb.1, keeps_send_objects s hs b hb.2⟩

theorem keeps_findRow_over (lookup : Lookup) : Action.Keeps (r.Over t) (r.findRow lookup) := by
  have hobjects : Action.Alike (Backend.Same fun b => b.database.objects? r.table = t)
      (r.findRow lookup) := by
    refine alike_findRow_of_calls (Action.Keeps.alike fun b hb => ?_)
      (keeps_send_objects _ (by trivial)).alike (fun text => Action.Keeps.alike fun b hb => ?_)
    · rw [Backend.database_fetch, hb]
    · rw [Backend.database_store, hb]
  exact fun b hb => ⟨keeps_findRow lookup b hb.1, (hobjects b b ⟨hb.2, rfl⟩).2.1⟩

/-- A row that is found is in the table, also where the cache answered. -/
theorem meets_findRow (lookup : Lookup) :
    Action.Meets (r.Over t) (r.findRow lookup) (fun found _ => ∀ row ∈ found, Found t row.id)
      (fun _ => True) := by
  unfold findRow
  refine Action.Meets.bind (Q := fun cached b => r.Over t b ∧
    ∀ text ∈ cached, b.cache.get? (r.lookupKey lookup) = some text) ?_ fun cached => ?_
  · intro b hb
    rcases hfault : b.cache.fault .fetch (r.lookupKey lookup) with none | failure
    · rw [Backend.fetch_of_none hfault]
      exact ⟨⟨hb.1.record _, hb.2⟩, fun _ => id⟩
    · rw [Backend.fetch_of_some hfault]
      trivial
  cases cached with
  | some text =>
    rintro b ⟨hb, hentry⟩
    -- An entry is a printed row of the table, and it is read as that row.
    obtain ⟨u, _, id, name, hu, hrow, rfl, -⟩ := hb.1.backed (hentry text rfl) id
    simp only [CachedRow.parse?_print]
    rintro row ⟨⟩
    exact ⟨u, hb.2.symm.trans hu, name, hrow⟩
  | none =>
    refine Action.Meets.bind (Q := fun found _ => (∀ row ∈ found, Found t row.1) ∧ True) ?_
      fun found => Action.meets_of_imp fun hfound => ?_
    · refine Backend.meets_send (fun b found db hb hrun => ?_) fun _ _ _ _ => trivial
      obtain ⟨-, u, hu, hfind⟩ := Database.run_findObject hrun
      rw [hb.1.2] at hu
      refine ⟨fun row hrow => ⟨u, hu, row.2, ?_⟩, trivial⟩
      exact ObjectTable.find?_eq_some (hfind.symm.trans hrow)
    cases found with
    | none => exact Action.meets_pure fun _ _ _ hrow => nomatch hrow
    | some row =>
      have hanswer : ∀ answer ∈ some (CachedRow.mk row.1 row.2), Found t answer.id := by
        rintro answer ⟨⟩
        exact hfound row rfl
      simp only
      split
      · refine Action.Meets.bind (Q := fun _ _ => True) ?_ fun _ =>
          Action.meets_pure fun _ _ => hanswer
        exact Backend.meets_store (fun _ _ => trivial) fun _ _ _ => trivial
      · exact Action.meets_pure fun _ _ => hanswer

/-- So is the row of an object that is found. -/
theorem meets_find (lookup : Lookup) :
    Action.Meets (r.Over t) (r.find lookup)
      (fun found b => (∀ object ∈ found, Found t object.id) ∧ r.Over t b) (fun _ => True) := by
  unfold find
  refine ((meets_findRow lookup).and_keeps (keeps_findRow_over lookup)).bind fun found =>
    Action.meets_of_imp fun hfound => ?_
  cases found with
  | none => exact Action.meets_pure fun b hb => ⟨fun _ hnone => (nomatch hnone), hb⟩
  | some row =>
    simp only [Action.map_eq_bind]
    have happly : Action.Keeps (r.Over t) (r.metadataStore.apply (.fresh row.id row.name)) :=
      (keeps_send_over (by trivial)).bind fun _ => Action.keeps_pure _
    refine (((r.metadataStore.meets_apply _).mono_of fun _ _ => trivial).and_keeps happly).bind
      fun object => Action.meets_pure fun b hb => ⟨?_, hb.2⟩
    rintro found ⟨⟩
    exact hb.1.symm ▸ hfound row rfl

/-- The objects of a page are found one after the other. -/
theorem meets_loadAll (ids : List Int64) :
    Action.Meets (r.Over t) (r.loadAll ids)
      (fun page b => (∀ object ∈ page, Found t object.id) ∧ r.Over t b) (fun _ => True) := by
  induction ids with
  | nil => exact Action.meets_pure fun b hb => ⟨fun _ hnil => (nomatch hnil), hb⟩
  | cons id rest ih =>
    refine (meets_find (.id id)).bind fun found => Action.meets_of_imp fun hfound => ?_
    refine ih.bind fun others => Action.meets_pure fun b hb => ⟨fun object hobject => ?_, hb.2⟩
    rcases List.mem_append.1 hobject with hobject | hobject
    · exact hfound object (Option.mem_toList.1 hobject)
    · exact hb.1 object hobject

theorem meets_search (query : String) (options : SearchOptions) :
    Action.Meets (r.Over t) (r.search query options)
      (fun result b => (∀ object ∈ result.page, Found t object.id) ∧ r.Over t b)
      (fun _ => True) :=
  (keeps_send_over (by trivial)).meets.bind fun _ =>
    (keeps_send_over (by trivial)).meets.bind fun ids =>
      (meets_loadAll ids).bind fun _ => Action.meets_pure fun _ hb => hb

theorem meets_metaSearch (p : Predicate) (options : MetadataSearchOptions) :
    Action.Meets (r.Over t) (r.metaSearch p options)
      (fun result b => (∀ object ∈ result.page, Found t object.id) ∧ r.Over t b)
      (fun _ => True) := by
  unfold metaSearch
  split
  · exact Action.meets_throw fun _ _ => trivial
  · split
    · exact Action.meets_throw fun _ _ => trivial
    · exact (keeps_send_over (by trivial)).meets.bind fun _ =>
        (keeps_send_over (by trivial)).meets.bind fun ids =>
          (meets_loadAll ids).bind fun _ => Action.meets_pure fun _ hb => hb

/-! ## What is created -/

/-- The id that is answered is that of the new row, also where another statement asks for it. -/
theorem meets_insertName (name : String) :
    Action.Meets (fun _ => True) (r.insertName name) (fun id b => r.HasRow id b.database)
      (fun _ => True) := by
  have hnew : ∀ {u u' : ObjectTable} {id : Int64}, u.insert r.table name = .ok (id, u') →
      u'.Has id := by
    intro u u' id hinsert
    obtain ⟨-, -, rfl⟩ := ObjectTable.insert_eq_ok hinsert
    exact ⟨name, (ObjectTable.getElem?_put _ _ _ _).trans (if_pos rfl)⟩
  unfold insertName
  split
  · refine Backend.meets_send (fun b id db _ hrun => ?_) fun _ _ _ _ => trivial
    obtain ⟨u, u', -, hinsert, hu', -⟩ := Database.run_insertReturning hrun
    exact ⟨u', hu', hnew hinsert⟩
  · refine Action.Meets.bind (Q := fun _ b => r.HasRow b.database.lastInsertId b.database) ?_
      fun _ => ?_
    · refine Backend.meets_send (fun b _ db _ hrun => ?_) fun _ _ _ _ => trivial
      obtain ⟨u, u', id, -, hinsert, hu', hlast⟩ := Database.run_insertObject hrun
      exact ⟨u', hu', hlast ▸ hnew hinsert⟩
    · refine Backend.meets_send (fun b id db hb hrun => ?_) fun _ _ _ _ => trivial
      obtain ⟨-, hdone⟩ := Database.run_eq_ok_iff.1 hrun
      cases hdone
      exact hb

theorem meets_create (raw : String) :
    Action.Meets (fun _ => True) (r.create raw) (fun object b => r.HasRow object.id b.database)
      (fun _ => True) := by
  unfold create
  simp only
  split
  · exact Action.meets_throw fun _ _ => trivial
  · exact ((meets_insertName _).adapt _).bind fun _ => Action.meets_pure fun _ hb => hb

end Repository

/-! ## Requests -/

/-- The ids of the objects in a reply. -/
def Reply.ids : Reply → List Int64
  | .object handle => [handle.object.id]
  | .page _ objects => objects.map (·.object.id)
  | _ => []

/-- Whether a request hands out objects: one that it creates, or those that it finds. -/
def Request.HandsOut : Request → Prop
  | .create _ _ | .load _ _ | .loadById _ _ | .loadByName _ _ | .search _ _ | .metaSearch _ _ => True
  | _ => False

namespace Desk

variable {desk desk' : Desk} {answer : Except Error Reply} {reply : Reply}

theorem act_eq {α : Type} {action : Action α} {finish : α → Reply × (Desk → Desk)}
    (h : desk.act action finish = (answer, desk')) :
    (∃ e b, action desk.backend = (.error e, b) ∧ answer = .error e ∧
      desk' = { desk with backend := b }) ∨
    ∃ x b, action desk.backend = (.ok x, b) ∧ answer = .ok (finish x).1 ∧
      desk' = (finish x).2 { desk with backend := b } := by
  unfold act at h
  rcases haction : action desk.backend with ⟨e | x, b⟩
  · rw [haction] at h
    cases h
    exact .inl ⟨e, b, rfl, rfl, rfl⟩
  · rw [haction] at h
    cases h
    exact .inr ⟨x, b, rfl, rfl, rfl⟩

theorem act_eq_ok {α : Type} {action : Action α} {finish : α → Reply × (Desk → Desk)}
    (h : desk.act action finish = (.ok reply, desk')) :
    ∃ x b, action desk.backend = (.ok x, b) ∧ reply = (finish x).1 ∧
      desk' = (finish x).2 { desk with backend := b } := by
  rcases act_eq h with ⟨e, b, -, habsurd, -⟩ | ⟨x, b, haction, hreply, hdesk⟩
  · cases habsurd
  · exact ⟨x, b, haction, Except.ok.inj hreply, hdesk⟩

end Desk

namespace Repository

variable {r : Repository} {desk desk' : Desk} {reply : Reply} {id : Int64} {t : Option ObjectTable}
  {b : Backend}

theorem hasRow_of_found (h : r.Over t b) (hfound : Found t id) : r.HasRow id b.database := by
  obtain ⟨u, hu, hrow⟩ := hfound
  exact ⟨u, h.2.trans hu, hrow⟩

theorem hasRow_of_lookUp {name : Option String} {lookup : Lookup} (h : r.Coherent desk.backend)
    (hrun : desk.lookUp name (r.find lookup) = (.ok reply, desk')) (hid : id ∈ reply.ids) :
    r.HasRow id desk'.backend.database := by
  obtain ⟨found, b, haction, rfl, rfl⟩ := Desk.act_eq_ok hrun
  have hmeets := meets_find lookup desk.backend ⟨h, rfl⟩
  rw [haction] at hmeets
  cases found with
  | none => cases hid
  | some object =>
    obtain rfl := List.mem_singleton.1 hid
    have hrow := hasRow_of_found hmeets.2 (hmeets.1 object rfl)
    cases name <;> exact hrow

theorem hasRow_of_list {action : Action SearchResult} (h : r.Over t desk.backend)
    (haction : Action.Meets (r.Over t) action
      (fun result b => (∀ object ∈ result.page, Found t object.id) ∧ r.Over t b) (fun _ => True))
    (hrun : desk.list action = (.ok reply, desk')) (hid : id ∈ reply.ids) :
    r.HasRow id desk'.backend.database := by
  obtain ⟨result, b, hresult, rfl, rfl⟩ := Desk.act_eq_ok hrun
  have hmeets := haction desk.backend h
  rw [hresult] at hmeets
  obtain ⟨held, hheld, rfl⟩ := List.mem_map.1 hid
  obtain ⟨object, hobject, rfl⟩ := List.mem_map.1 hheld
  exact hasRow_of_found hmeets.2 (hmeets.1 object hobject)

/-- Whatever is handed out is the object of a row that is in the table then. -/
theorem hasRow_of_handsOut {request : Request} (hrequest : request.HandsOut)
    (h : r.Coherent desk.backend) (hrun : request.run r desk = (.ok reply, desk'))
    (hid : id ∈ reply.ids) : r.HasRow id desk'.backend.database := by
  cases request with
  | create name handle =>
    rw [Request.run] at hrun
    obtain ⟨object, b, haction, rfl, rfl⟩ := Desk.act_eq_ok hrun
    have hmeets := meets_create (r := r) name desk.backend trivial
    rw [haction] at hmeets
    obtain rfl := List.mem_singleton.1 hid
    exact hmeets
  | load | loadById | loadByName =>
    rw [Request.run] at hrun
    exact hasRow_of_lookUp h hrun hid
  | search query options => exact hasRow_of_list ⟨h, rfl⟩ (meets_search query options) hrun hid
  | metaSearch p options => exact hasRow_of_list ⟨h, rfl⟩ (meets_metaSearch p options) hrun hid
  | _ => exact hrequest.elim

end Repository

/-! ## What handles hold -/

/-- An editing that leaves the object its id, however it ends. -/
def Editing.KeepsId {α : Type} (e : Editing α) : Prop :=
  ∀ id : Int64, Meets (fun object _ => object.id = id) e (fun _ object _ => object.id = id)
    (fun object _ => object.id = id)

theorem MetadataStore.keepsId_save (store : MetadataStore) : store.save.KeepsId := by
  rintro id object b rfl
  have hsave : Editing.Meets (fun o _ => o = object ∧ True) store.save
      (fun _ o _ => object.MaybeSaved o ∧ True) (fun o _ => o = object ∧ True) :=
    meets_save (fun _ _ => trivial) fun _ _ => trivial
  refine (hsave.mono (fun _ _ h => h) (fun _ o _ h => ?_) fun o _ h => ?_) object b ⟨rfl, trivial⟩
  · rcases h.1 with rfl | rfl <;> rfl
  · rw [h.1]

theorem Repository.keepsId_update (r : Repository) : r.update.KeepsId := by
  rintro id object b rfl
  have hupdate : Editing.Meets (fun o _ => o = object ∧ True) r.update
      (fun _ o _ => o.id = object.id ∧ True) (fun o _ => object.MaybeSaved o ∧ True) :=
    meets_update (fun _ _ => trivial) (fun _ _ => trivial) (fun _ _ => trivial)
      (fun _ _ _ => trivial) fun _ => Action.meets_true _
  refine (hupdate.mono (fun _ _ h => h) (fun _ _ _ h => h.1) fun o _ h => ?_) object b
    ⟨rfl, trivial⟩
  rcases h.1 with rfl | rfl <;> rfl

namespace Desk

variable {desk desk' : Desk} {name : String}

theorem getElem?_insert (desk : Desk) (name other : String) (handle : Handle) :
    (desk.handles.insert name handle)[other]? =
      if name = other then some handle else desk.handles[other]? := by
  rw [Std.ExtTreeMap.getElem?_insert]
  simp only [Std.compare_eq_iff_eq]

/-- Every handle holds an object with the id that it held before. -/
def SameIds (desk desk' : Desk) : Prop :=
  ∀ (name : String) (held' : Handle), desk'.handles[name]? = some held' →
    ∃ held, desk.handles[name]? = some held ∧ held.object.id = held'.object.id

theorem sameIds_of_handles (h : desk'.handles = desk.handles) : desk.SameIds desk' := by
  intro name held hheld
  rw [h] at hheld
  exact ⟨held, hheld, rfl⟩

theorem sameIds_insert {held held' : Handle} (hheld : desk.handles[name]? = some held)
    (hid : held'.object.id = held.object.id)
    (h : desk'.handles = desk.handles.insert name held') : desk.SameIds desk' := by
  intro other found hfound
  rw [h, getElem?_insert] at hfound
  split at hfound
  · rename_i heq
    cases hfound
    exact ⟨held, heq ▸ hheld, hid.symm⟩
  · exact ⟨found, hfound, rfl⟩

theorem sameIds_withHandle {body : Handle → Except Error Reply × Desk}
    (h : ∀ held, desk.handles[name]? = some held → desk.SameIds (body held).2) :
    desk.SameIds (desk.withHandle name body).2 := by
  unfold withHandle
  cases hheld : desk.handles[name]? with
  | none => exact sameIds_of_handles rfl
  | some held => exact h held hheld

theorem sameIds_act {α : Type} {action : Action α} {finish : α → Reply × (Desk → Desk)}
    (h : ∀ x b, action desk.backend = (.ok x, b) →
      desk.SameIds ((finish x).2 { desk with backend := b })) :
    desk.SameIds (desk.act action finish).2 := by
  rcases hrun : desk.act action finish with ⟨answer, desk'⟩
  rcases act_eq hrun with ⟨e, b, -, -, rfl⟩ | ⟨x, b, haction, -, rfl⟩
  · exact sameIds_of_handles rfl
  · exact h x b haction

theorem sameIds_edit {editing : Editing Unit} (h : editing.KeepsId) :
    desk.SameIds (desk.edit name editing).2 := by
  refine sameIds_withHandle fun held hheld => sameIds_insert hheld ?_ rfl
  have hdone := h held.object.id held.object desk.backend rfl
  unfold Editing.on
  revert hdone
  rcases editing held.object desk.backend with ⟨⟨e | x, object⟩, b⟩
  · exact id
  · exact id

end Desk

namespace Request

variable {r : Repository} {desk : Desk}

/-- Whether a request puts an object into a handle that it hands out. -/
def Fills : Request → Prop
  | .create _ _ | .load _ _ | .loadById _ _ | .loadByName _ _ => True
  | _ => False

theorem sameIds_of_not_fills {request : Request} (h : ¬ request.Fills) :
    desk.SameIds (request.run r desk).2 := by
  have hanswer : ∀ {α : Type} {action : Action α} {reply : α → Reply},
      desk.SameIds (desk.act action fun x => (reply x, id)).2 :=
    Desk.sameIds_act fun _ _ _ => Desk.sameIds_of_handles rfl
  have hchange : ∀ {name : String} {answer : Handle → Reply} {object : Handle → NamedObject},
      (∀ held, (object held).id = held.object.id) →
      desk.SameIds (desk.withHandle name fun held =>
        (.ok (answer held), desk.change name held (object held))).2 :=
    fun hid => Desk.sameIds_withHandle fun held hheld => Desk.sameIds_insert hheld (hid held) rfl
  cases request with
  | create | load | loadById | loadByName => exact absurd trivial h
  | install | installMetadata | search | metaSearch => exact hanswer
  | update handle => exact Desk.sameIds_edit r.keepsId_update
  | saveMetadata handle => exact Desk.sameIds_edit r.metadataStore.keepsId_save
  | delete handle | dropMetadata handle => exact Desk.sameIds_withHandle fun _ _ => hanswer
  | setName | setMeta | removeMeta => exact hchange fun _ => rfl
  | getMeta | «show» | delta => exact Desk.sameIds_withHandle fun _ _ => Desk.sameIds_of_handles rfl
  | applyMetadata handle =>
    refine Desk.sameIds_withHandle fun held hheld => Desk.sameIds_act fun object b haction => ?_
    have hid := r.metadataStore.meets_apply held.object desk.backend trivial
    rw [haction] at hid
    exact Desk.sameIds_insert hheld hid rfl

/-- The object in a handle was there before, or it is the one that is handed out. -/
theorem held_of_fills {request : Request} (hrequest : request.Fills) {name : String} {held : Handle}
    (hheld : (request.run r desk).2.handles[name]? = some held) :
    desk.handles[name]? = some held ∨
      ∃ reply, (request.run r desk).1 = .ok reply ∧ held.object.id ∈ reply.ids := by
  have hkeep : ∀ {handle : String} {object : NamedObject} {b : Backend},
      (Desk.keep { desk with backend := b } handle object).handles[name]? = some held →
      desk.handles[name]? = some held ∨ held.object.id = object.id := by
    intro handle object b hfound
    rw [Desk.keep, Desk.getElem?_insert] at hfound
    split at hfound
    · cases hfound
      exact .inr rfl
    · exact .inl hfound
  have hlookUp : ∀ {handle : Option String} {action : Action (Option NamedObject)},
      (desk.lookUp handle action).2.handles[name]? = some held →
      desk.handles[name]? = some held ∨
        ∃ reply, (desk.lookUp handle action).1 = .ok reply ∧ held.object.id ∈ reply.ids := by
    intro handle action hfound
    unfold Desk.lookUp at hfound ⊢
    rcases hrun : desk.act action _ with ⟨answer, desk'⟩
    rw [hrun] at hfound
    rcases Desk.act_eq hrun with ⟨e, b, -, -, rfl⟩ | ⟨found, b, -, rfl, rfl⟩
    · exact .inl hfound
    · cases found with
      | none => exact .inl hfound
      | some object =>
        cases handle with
        | none => exact .inl hfound
        | some handle => exact (hkeep hfound).imp id fun hid => ⟨_, rfl, List.mem_singleton.2 hid⟩
  cases request with
  | create raw handle =>
    rw [Request.run] at hheld ⊢
    rcases hrun : desk.act (r.create raw) _ with ⟨answer, desk'⟩
    rw [hrun] at hheld
    rcases Desk.act_eq hrun with ⟨e, b, -, -, rfl⟩ | ⟨object, b, -, rfl, rfl⟩
    · exact .inl hheld
    · exact (hkeep hheld).imp id fun hid => ⟨_, rfl, List.mem_singleton.2 hid⟩
  | load | loadById | loadByName => exact hlookUp hheld
  | _ => exact hrequest.elim

theorem handsOut_of_fills {request : Request} (h : request.Fills) : request.HandsOut := by
  cases request with
  | create | load | loadById | loadByName => exact trivial
  | _ => exact h.elim

end Request

/-- Every handle holds an object that was in the table at some time. -/
def Repository.HoldsIssued (r : Repository) (desk : Desk) : Prop :=
  ∀ (name : String) (held : Handle), desk.handles[name]? = some held →
    r.Issued held.object.id desk.backend.database

/-- A request leaves such objects in the handles: with the ids they had, or just handed out. -/
theorem Request.holdsIssued {r : Repository} {desk : Desk} {request : Request}
    (hcoherent : r.Coherent desk.backend) (hafter : r.Coherent (request.run r desk).2.backend)
    (h : r.HoldsIssued desk) : r.HoldsIssued (request.run r desk).2 := by
  have hkept : ∀ {id}, r.Issued id desk.backend.database →
      r.Issued id (request.run r desk).2.backend.database := keeps_issued request
  intro name held hheld
  by_cases hfills : request.Fills
  · rcases held_of_fills hfills hheld with hbefore | ⟨reply, hreply, hid⟩
    · exact hkept (h name held hbefore)
    · exact hafter.issued (Repository.hasRow_of_handsOut (handsOut_of_fills hfills) hcoherent
        (Prod.ext hreply rfl) hid)
  · obtain ⟨before, hbefore, hid⟩ := sameIds_of_not_fills hfills name held hheld
    exact hid ▸ hkept (h name before hbefore)

end ObjectCatalog
