import ObjectCatalog.Proofs.Repository.Names
import ObjectCatalog.Proofs.Search.LoadedMetadata

/-!
# A new object is new

A metadata table may have rows of objects that were deleted, and a handle may hold such an object and
write more of them. None of this can reach an object that is created later. Whatever a program writes,
it writes under the id of an object that it holds, and it holds only what it was given
(`Repository.Accounted`); so every id that stands anywhere is at most the highest that the object table
ever gave, and a new row comes after that.

So the object that a creation returns has no metadata and no entry of the cache, and is found as it was
returned (`Repository.create_is_new`).
-/

namespace ObjectCatalog

theorem Request.not_isDelete_of_handsOut {request : Request} (h : request.HandsOut) :
    ¬ request.IsDelete := by
  cases request with
  | delete handle => exact h.elim
  | _ => exact id

namespace Repository

variable {r : Repository} {desk desk' : Desk} {name : String} {id : Int64}

/-! ## 1. Ids that stand in a metadata table -/

/-- The rows of a metadata table belong to objects that `Q` holds of. -/
def RowsOf (Q : Int64 → Prop) (name : String) (db : Database) : Prop :=
  ∀ row ∈ db.entries name, Q row.object

/-- The values of an object of which `Q` holds can be written. The induction is on the values. -/
theorem keeps_writeUpserts_rowsOf {Q : Int64 → Prop} (store : MetadataStore) (hid : Q id)
    (entries : List (String × String)) :
    Action.Keeps (fun b => RowsOf Q name b.database) (store.writeUpserts id entries) := by
  induction entries with
  | nil => exact Action.keeps_pure _
  | cons entry rest ih =>
    have hdelete : Action.Keeps (fun b => RowsOf Q name b.database)
        (Backend.send (.deleteEntry store.table id entry.1)) :=
      Action.meets_iff_keeps.1 <| Backend.meets_send
        (fun _ _ _ hb hrun row hrow => hb row (Database.mem_entries_of_run
          (s := .deleteEntry store.table id entry.1) (fun h => h) hrun hrow))
        fun _ _ hb _ => hb
    have hinsert : Action.Keeps (fun b => RowsOf Q name b.database)
        (Backend.send (.insertEntry store.table id entry.1 entry.2)) := by
      refine Action.meets_iff_keeps.1 <| Backend.meets_send (fun b _ db hb hrun row hrow => ?_)
        fun _ _ hb _ => hb
      rcases Database.run_insertEntry hrun hrow with hold | rfl
      · exact hb row hold
      · exact hid
    exact hdelete.bind fun _ => hinsert.bind fun _ => ih

/-- The rows of a metadata table belong to objects that were in the object table at some time, and so
do the objects in the handles; and the cache is coherent. -/
structure Accounted (r : Repository) (name : String) (desk : Desk) : Prop where
  coherent : r.Coherent desk.backend
  held : r.HoldsIssued desk
  rows : RowsOf (r.Issued · desk.backend.database) name desk.backend.database

/-- What is written during a request is written for objects that were held before it, and what was
given stays given. -/
theorem rowsOf_issued_request (request : Request) (hheld : r.HoldsIssued desk)
    (h : RowsOf (r.Issued · desk.backend.database) name desk.backend.database) :
    RowsOf (r.Issued · (request.run r desk).2.backend.database) name
      (request.run r desk).2.backend.database := by
  have hrows : RowsOf (r.Issued · desk.backend.database) name
      (request.run r desk).2.backend.database := by
    refine Request.keeps_of_upserts
      (P := RowsOf (r.Issued · desk.backend.database) name) ?_ request ?_ h
    · exact fun hs hrun hdb row hrow => hdb row (Database.mem_entries_of_run hs hrun hrow)
    · intro handle held hfound entries
      exact keeps_writeUpserts_rowsOf _ (hheld handle held hfound) entries
  exact fun row hrow => Request.keeps_issued request (hrows row hrow)

theorem Moves.accounted (hmove : r.Moves desk desk') (h : r.Accounted name desk) :
    r.Accounted name desk' := by
  have hcoherent := hmove.coherent h.coherent
  cases hmove with
  | request store request hthere =>
    refine ⟨hcoherent, ?_, rowsOf_issued_request (r := r.withMetadataStore store) request h.held h.rows⟩
    exact Request.holdsIssued (r := r.withMetadataStore store) (coherent_withMetadataStore.2 h.coherent)
      (coherent_withMetadataStore.2 hcoherent) h.held
  | evict | disturb => exact ⟨hcoherent, h.held, h.rows⟩

/-- The induction is on the steps of the run. -/
theorem accounted_of_moves {db : Database} {cache : Cache} (hdb : r.StartsEmpty db)
    (hcache : cache = .memory ∨ cache = .null) (hempty : db.entries name = [])
    (h : Relation.ReflTransGen r.Moves ⟨.start db cache, ∅⟩ desk) : r.Accounted name desk := by
  induction h with
  | refl =>
    refine ⟨coherent_of_moves hdb hcache .refl, fun handle held hheld => ?_, fun row hrow => ?_⟩
    · rw [Std.ExtTreeMap.getElem?_empty] at hheld
      cases hheld
    · rw [show (Backend.start db cache).database.entries name = [] from hempty] at hrow
      cases hrow
  | tail _ hmove ih => exact hmove.accounted ih

theorem Moves.issued (hmove : r.Moves desk desk') (h : r.Issued id desk.backend.database) :
    r.Issued id desk'.backend.database := by
  cases hmove with
  | request store request hthere =>
    exact Request.keeps_issued (r := r.withMetadataStore store) request h
  | evict | disturb => exact h

theorem issued_of_moves (hmoves : Relation.ReflTransGen r.Moves desk desk')
    (h : r.Issued id desk.backend.database) : r.Issued id desk'.backend.database := by
  induction hmoves with
  | refl => exact h
  | tail _ hmove ih => exact hmove.issued ih

/-- An id that was handed out is issued for the rest of the run. -/
theorem issued_of_handedOut {earlier : Desk} {store : MetadataStore} {request : Request}
    {reply : Reply} (hrequest : request.HandsOut) (hcoherent : r.Coherent earlier.backend)
    (hafter : r.Coherent desk.backend)
    (hrun : request.run (r.withMetadataStore store) earlier = (.ok reply, desk)) (hid : id ∈ reply.ids)
    (hmoves : Relation.ReflTransGen r.Moves desk desk') : r.Issued id desk'.backend.database := by
  have hrow : r.HasRow id desk.backend.database :=
    hasRow_of_handsOut (r := r.withMetadataStore store) hrequest
      (coherent_withMetadataStore.2 hcoherent) hrun hid
  exact issued_of_moves hmoves (hafter.issued hrow)

/-! ## 2. The new row -/

variable {b c : Backend} {t : ObjectTable} {rows : List MetadataRow} {raw : String}
  {object : NamedObject}

/-- What a creation that is answered did: it put in a row under the next id, and nothing else. -/
structure Creates (r : Repository) (b : Backend) (t : ObjectTable) (raw : String)
    (object : NamedObject) (c : Backend) : Prop where
  returned : object = .fresh (t.highestId + 1) (Text.trim raw)
  above : t.highestId < object.id
  free : ¬ t.IsTaken (Text.trim raw)
  database : c.database = { b.database.setTable r.table (.objects (t.added (Text.trim raw))) with
    lastInsertId := t.highestId + 1 }
  cache : c.cache = b.cache

theorem creates_of_create (hobjects : b.database.objects r.table = .ok t)
    (hreadable : Database.Readable r.table) (hsound : t.Sound)
    (h : r.create raw b = (.ok object, c)) : r.Creates b t raw object c := by
  have hexact := createsExactly hobjects hreadable hsound raw
  by_cases hblank : Text.trim raw = ""
  · rw [hexact.blank hblank] at h
    cases h
  by_cases hfull : t.highestId = Int64.maxValue
  · obtain ⟨c', hcreate, -⟩ := hexact.full hblank hfull
    rw [hcreate] at h
    cases h
  by_cases htaken : t.IsTaken (Text.trim raw)
  · obtain ⟨c', hcreate, -⟩ := hexact.taken hblank hfull htaken
    rw [hcreate] at h
    cases h
  · obtain ⟨-, c', hcreate, hdb, hcache⟩ := hexact.free hblank hfull htaken
    rw [hcreate] at h
    cases h
    exact ⟨rfl, lt_succ_of_ne_maxValue hfull, htaken, hdb, hcache⟩

theorem Creates.not_issued (h : r.Creates b t raw object c)
    (hobjects : b.database.objects r.table = .ok t) : ¬ r.Issued object.id b.database := by
  rintro ⟨u, hu, hid⟩
  rw [Database.objects_eq_ok_iff.1 hobjects] at hu
  cases hu
  exact Int64.not_le.2 h.above hid

theorem Creates.entries (h : r.Creates b t raw object c)
    (hobjects : b.database.objects r.table = .ok t) (name : String) :
    c.database.entries name = b.database.entries name := by
  rw [h.database]
  show (b.database.setTable r.table (.objects (t.added (Text.trim raw)))).entries name = _
  rw [Database.entries_setTable]
  split
  · -- The new table of objects stands where one was before.
    rename_i hkey
    have htable := Database.objects?_eq_some_iff.1 (Database.objects_eq_ok_iff.1 hobjects)
    rw [Database.entries, ← Database.table?_congr hkey, htable]
    rfl
  · rfl

/-- An entry of the cache is a row, so there is none for an id or a name without a row. -/
theorem Creates.uncached (h : r.Creates b t raw object c) (hcoherent : r.Coherent b)
    (hobjects : b.database.objects r.table = .ok t) :
    c.cache.get? (r.idKey object.id) = none ∧ c.cache.get? (r.nameKey object.name) = none := by
  have htable := Database.objects_eq_ok_iff.1 hobjects
  have hbacked : ∀ (lookup : Lookup) {text : String}, b.cache.get? (r.lookupKey lookup) = some text →
      ∃ id name, t.rows[id]? = some name ∧ (lookup = .id id ∨ lookup = .name name) := by
    intro lookup text hentry
    obtain ⟨u, lookup', id, name, hu, hrow, -, hkey, hlookup, -⟩ := hcoherent.backed hentry fun h => h
    rw [htable] at hu
    cases hu
    obtain rfl := lookupKey_injective hkey
    exact ⟨id, name, hrow, hlookup⟩
  rw [h.cache]
  constructor
  · cases hentry : b.cache.get? (r.idKey object.id) with
    | none => rfl
    | some text =>
      obtain ⟨id, name, hrow, heq | heq⟩ := hbacked (.id object.id) hentry
      · cases heq
        rw [(hcoherent.sound htable).not_mem_of_highestId_lt h.above] at hrow
        cases hrow
      · cases heq
  · cases hentry : b.cache.get? (r.nameKey object.name) with
    | none => rfl
    | some text =>
      obtain ⟨id, name, hrow, heq | heq⟩ := hbacked (.name object.name) hentry
      · cases heq
      · cases heq
        rw [h.returned] at hrow
        exact absurd ⟨id, _, hrow, t.collation.same_refl _⟩ h.free

/-- After a creation the repository serves as before, with the new row. -/
theorem Creates.serves (h : r.Creates b t raw object c) (hserves : r.Serves b t rows)
    (hcreate : r.create raw b = (.ok object, c)) : r.Serves c (t.added (Text.trim raw)) rows := by
  have hobjects : c.database.objects? r.table = some (t.added (Text.trim raw)) := by
    rw [h.database]
    exact Database.objects?_setTable_self _ _ _
  have hmetadata : c.database.metadata r.metadataStore.table = .ok rows := by
    rw [h.database]
    exact Database.metadata_setTable_objects hserves.ready.objects? hserves.ready.metadata
  have hcoherent := (alikeParts_coherent (r := r)).create raw |>.keeps b hserves.coherent
  rw [hcreate] at hcoherent
  refine ⟨hserves.ready.of_database hobjects hmetadata, hcoherent, fun call key => ?_⟩
  rw [h.cache]
  exact hserves.works call key

/-! ## 3. New objects -/

/-- Where no row belongs to an object, what is stored of it is its row. -/
theorem stored_of_noRows {row : Int64 × String} (h : ∀ entry ∈ rows, entry.object ≠ row.1) :
    NamedObject.stored rows row = .fresh row.1 row.2 := by
  have hnone : MetadataTable.loaded rows row.1 = ∅ := by
    apply Std.ExtTreeMap.ext_getElem?
    intro key
    rw [Std.ExtTreeMap.getElem?_empty, MetadataTable.getElem?_loaded_eq_none_iff]
    exact fun value hmem => h _ hmem rfl
  rw [NamedObject.stored, hnone]
  rfl

/-- **A new object is new.** In a store that had no objects and no metadata, after any requests and
whatever became of the cache, let a creation be answered. The id it returns is greater than every id
that was handed out before; no row of metadata has it, though rows of deleted objects may be left and
more of them may have been written since; and the cache has nothing under the keys of the object. A
lookup by the id and one by the name that was asked for both return the object, with its trimmed name
and without metadata. -/
theorem create_is_new {db : Database} {cache : Cache} (hdb : r.StartsEmpty db)
    (hempty : db.entries r.metadataStore.table = []) (hcache : cache = .memory ∨ cache = .null)
    (hmoves : Relation.ReflTransGen r.Moves ⟨.start db cache, ∅⟩ desk) (hworks : desk.backend.Works)
    (hready : r.Ready desk.backend.database t rows)
    (hcreate : r.create raw desk.backend = (.ok object, c)) :
    object = .fresh object.id (Text.trim raw) ∧
    (∀ {earlier after : Desk} {store : MetadataStore} {request : Request} {reply : Reply},
      Relation.ReflTransGen r.Moves ⟨.start db cache, ∅⟩ earlier → request.HandsOut →
      request.run (r.withMetadataStore store) earlier = (.ok reply, after) →
      Relation.ReflTransGen r.Moves after desk → ∀ id ∈ reply.ids, id < object.id) ∧
    (∀ table, db.entries table = [] → ∀ row ∈ c.database.entries table, row.object ≠ object.id) ∧
    (c.cache.get? (r.idKey object.id) = none ∧ c.cache.get? (r.nameKey object.name) = none) ∧
    (∃ later, r.loadById object.id c = (.ok (some object), later)) ∧
    ∃ later, r.loadByName raw c = (.ok (some object), later) := by
  have hserves : r.Serves desk.backend t rows :=
    ⟨hready, coherent_of_moves hdb hcache hmoves, hworks⟩
  have hnew := creates_of_create hready.objects hready.readable hserves.sound hcreate
  have hunissued := hnew.not_issued hready.objects
  have hrows : ∀ table, db.entries table = [] →
      ∀ row ∈ c.database.entries table, row.object ≠ object.id := by
    intro table htable row hrow heq
    rw [hnew.entries hready.objects] at hrow
    have hissued := (accounted_of_moves hdb hcache htable hmoves).rows row hrow
    exact hunissued (heq ▸ hissued)
  have hserves' := hnew.serves hserves hcreate
  have hrow : (t.added (Text.trim raw)).rows[object.id]? = some (Text.trim raw) := by
    rw [hnew.returned]
    exact (ObjectTable.getElem?_put _ _ _ _).trans (if_pos rfl)
  have hstored : NamedObject.stored rows (object.id, Text.trim raw) = object := by
    rw [stored_of_noRows fun entry hentry => ?_]
    · rw [hnew.returned]
      rfl
    · apply hrows _ hempty
      rw [Database.entries_eq_of_metadata hserves'.ready.metadata]
      exact hentry
  refine ⟨?_, ?_, hrows, hnew.uncached hserves.coherent hready.objects, ?_, ?_⟩
  · rw [hnew.returned]
    rfl
  · intro earlier after store request reply hearlier hrequest hrun hlater id hid
    have hstep : r.Moves earlier after := by
      have hmove : r.Moves earlier (request.run (r.withMetadataStore store) earlier).2 :=
        .request store request fun hdelete =>
          absurd hdelete (Request.not_isDelete_of_handsOut hrequest)
      rw [hrun] at hmove
      exact hmove
    obtain ⟨u, hu, hle⟩ := issued_of_handedOut hrequest (coherent_of_moves hdb hcache hearlier)
      (coherent_of_moves hdb hcache (hearlier.tail hstep)) hrun hid hlater
    rw [hready.objects?] at hu
    cases hu
    exact Int64.lt_of_le_of_lt hle hnew.above
  · obtain ⟨later, hload, -⟩ := loadById_eq hserves' object.id
    rw [hrow, Option.map_some, hstored] at hload
    exact ⟨later, hload⟩
  · obtain ⟨later, hload, -⟩ := find_eq hserves' (.ofName raw)
    rw [Lookup.ofName, ObjectTable.find?, hserves'.sound.withName? hrow, Option.map_some,
      hstored] at hload
    exact ⟨later, hload⟩

end Repository

/-! ## 4. A basket for a basket

A basket is cached under both keys and deleted, and then its colour is saved through a second handle. A
new basket gets the name of the old one, but neither its id nor the colour. -/

namespace Repository

namespace SecondBasket

def repository : Repository := .ofType ⟨.mySql, "", "", "", ""⟩ ⟨"basket", by decide⟩

def first : List Request := [.install]

def creation : Request := .create "porch" "first"

def others : List Request :=
  [.loadById 1 (some "second"), .loadByName "porch" none, .delete "first",
    .setMeta "second" "colour" "red", .saveMetadata "second"]

def installed : Desk := repository.runAll ⟨.start .empty .memory, ∅⟩ first

def filled : Desk := (creation.run repository installed).2

def desk : Desk := repository.runAll filled others

def created : Except Error NamedObject × Backend := repository.create " porch\n" desk.backend

end SecondBasket

open SecondBasket in
theorem create_is_new_secondBasket :
    desk.backend.database.metadata repository.metadataStore.table = .ok [⟨1, "colour", "red"⟩] ∧
    ∃ object, created.1 = .ok object ∧ 1 < object.id ∧ object.name = "porch" ∧
      (∀ row ∈ created.2.database.entries "basket_meta", row.object ≠ object.id) ∧
      created.2.cache.get? (repository.nameKey object.name) = none ∧
      (∃ later, repository.loadById object.id created.2 = (.ok (some object), later)) ∧
      ∃ later, repository.loadByName " porch\n" created.2 = (.ok (some object), later) := by
  have hplain : isPlainName repository.metadataStore.table = true := by decide +kernel
  have hinstalled : Relation.ReflTransGen repository.Moves ⟨.start .empty .memory, ∅⟩ installed :=
    moves_runAll ⟨nofun, trivial⟩
  have hcreation : repository.Moves installed filled :=
    .request repository.metadataStore creation nofun
  have hothers : Relation.ReflTransGen repository.Moves filled desk := by
    refine moves_runAll ⟨nofun, nofun, fun _ => ?_, nofun, nofun, trivial⟩
    exact (MetadataStore.isThere_iff_of_isPlainName hplain).2 ⟨[], by decide +kernel⟩
  have hworks : desk.backend.Works := by
    have hfilled : (repository.runAll ⟨.start .empty .memory, ∅⟩ (first ++ [creation])).backend.Works :=
      works_runAll fun _ _ => rfl
    have hdesk : ∀ {desk : Desk}, desk.backend.Works → (repository.runAll desk others).backend.Works :=
      works_runAll
    exact hdesk hfilled
  have hmetadata : desk.backend.database.metadata repository.metadataStore.table =
      .ok [⟨1, "colour", "red"⟩] := by decide +kernel
  have hready : repository.Ready desk.backend.database ⟨.binary, ∅, 1⟩ [⟨1, "colour", "red"⟩] :=
    .of_isPlainName (by decide +kernel) hplain (by decide +kernel) hmetadata
  have hanswer : created.1 = .ok (.fresh 2 "porch") := by decide +kernel
  have hcreate : repository.create " porch\n" desk.backend = (.ok (.fresh 2 "porch"), created.2) :=
    Prod.ext hanswer rfl
  obtain ⟨-, hearlier, hrows, hcache, hbyId, hbyName⟩ := create_is_new startsEmpty_empty
    (by decide +kernel) (.inl rfl) ((hinstalled.tail hcreation).trans hothers)
    hworks hready hcreate
  have hhands : creation.HandsOut := trivial
  have hrun : creation.run (repository.withMetadataStore repository.metadataStore) installed =
      (.ok (.object (.ofObject (.fresh 1 "porch"))), filled) :=
    Prod.ext (by decide +kernel) rfl
  refine ⟨hmetadata, _, hanswer, ?_, rfl, ?_, hcache.2, hbyId, hbyName⟩
  · exact hearlier hinstalled hhands hrun hothers 1 List.mem_cons_self
  · exact hrows "basket_meta" (by decide +kernel)

end Repository

end ObjectCatalog
