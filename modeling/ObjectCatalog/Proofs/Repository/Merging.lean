import ObjectCatalog.Proofs.Database.Merging
import ObjectCatalog.Proofs.Repository.Reading
import ObjectCatalog.Proofs.Repository.Saving

/-!
# A save is a three-way merge

What an object remembers, what its holder made of it and what the table holds by now may be three
different things. A save that is answered merges them key by key, and a read takes the greatest value
under each key and has nothing to save (`MetadataStore.save_merges`). Two holders of one object who
changed different keys lose nothing to each other, whoever saves first.

For this it has to be known when a save is answered at all. It sends its statements to one table and
asks nothing, so it is answered exactly if each of them can be read and the table is there
(`MetadataStore.save_isOk_iff`). Neither depends on what other saves wrote.
-/

namespace ObjectCatalog

/-! ## 1. Statements of a save -/

namespace Database

variable {db : Database} {name : String} {id : Int64} {key value : String}

theorem run_deleteEntry_iff :
    (∃ db', db.run (.deleteEntry name id key) = .ok ((), db')) ↔
      textRefusal? (.deleteEntry name id key) = none ∧ ∃ rows, db.metadata name = .ok rows := by
  constructor
  · rintro ⟨db', h⟩
    obtain ⟨rows, hrows, -⟩ := rows_of_deleteEntry h
    exact ⟨(run_eq_ok_iff.1 h).1, rows, hrows⟩
  · rintro ⟨hread, rows, hrows⟩
    refine ⟨db.setTable name (.metadata (MetadataTable.withoutEntry rows id key)),
      run_eq_ok_iff.2 ⟨hread, ?_⟩⟩
    rw [carryOut, updateMetadata, hrows]
    rfl

theorem run_insertEntry_iff :
    (∃ db', db.run (.insertEntry name id key value) = .ok ((), db')) ↔
      textRefusal? (.insertEntry name id key value) = none ∧ ∃ rows, db.metadata name = .ok rows := by
  constructor
  · rintro ⟨db', h⟩
    obtain ⟨rows, hrows, -⟩ := rows_of_insertEntry h
    exact ⟨(run_eq_ok_iff.1 h).1, rows, hrows⟩
  · rintro ⟨hread, rows, hrows⟩
    refine ⟨db.setTable name (.metadata (rows ++ [⟨id, key, value⟩])),
      run_eq_ok_iff.2 ⟨hread, ?_⟩⟩
    rw [carryOut, updateMetadata, hrows]
    rfl

end Database

namespace MetadataStore

variable {store : MetadataStore} {b c : Backend} {rows : List MetadataRow} {id : Int64}
  {object saved : NamedObject}

/-- The table of a store is there. -/
def HasTable (store : MetadataStore) (b : Backend) : Prop :=
  ∃ rows, b.database.metadata store.table = .ok rows

/-- The statements that write a difference, in their order. -/
def writes (store : MetadataStore) (id : Int64) (delta : MetadataDelta) : List Statement :=
  delta.removals.map (.deleteEntry store.table id) ++
    delta.upserts.flatMap fun (key, value) =>
      [.deleteEntry store.table id key, .insertEntry store.table id key value]

theorem hasTable_of_deleteEntry {key : String} {answer : Unit}
    (h : b.database.run (.deleteEntry store.table id key) = .ok (answer, c.database)) :
    store.HasTable b ∧ store.HasTable c := by
  obtain ⟨rows, hrows, hdb⟩ := Database.rows_of_deleteEntry h
  exact ⟨⟨rows, hrows⟩, _, hdb ▸ Database.metadata_setTable_self _ _ _⟩

theorem hasTable_of_insertEntry {key value : String} {answer : Unit}
    (h : b.database.run (.insertEntry store.table id key value) = .ok (answer, c.database)) :
    store.HasTable b ∧ store.HasTable c := by
  obtain ⟨rows, hrows, hdb⟩ := Database.rows_of_insertEntry h
  exact ⟨⟨rows, hrows⟩, _, hdb ▸ Database.metadata_setTable_self _ _ _⟩

/-! ## 2. When a save is answered -/

/-- The induction is on the keys: each deletion leaves the table there for the next one. -/
theorem writeRemovals_isOk_iff {keys : List String} :
    (∃ c, store.writeRemovals id keys b = (.ok (), c)) ↔
      ∀ s ∈ keys.map (Statement.deleteEntry store.table id),
        Database.textRefusal? s = none ∧ store.HasTable b := by
  induction keys generalizing b with
  | nil => exact ⟨fun _ s hs => absurd hs List.not_mem_nil, fun _ => ⟨b, rfl⟩⟩
  | cons key rest ih =>
    rw [List.map_cons, List.forall_mem_cons]
    constructor
    · rintro ⟨c, h⟩
      rcases Backend.exists_of_send_bind h with ⟨_, habsurd, -⟩ | ⟨_, d, -, hrun, hrest⟩
      · cases habsurd
      obtain ⟨hb, -⟩ := hasTable_of_deleteEntry hrun
      refine ⟨⟨(Database.run_eq_ok_iff.1 hrun).1, hb⟩, fun s hs => ?_⟩
      exact ⟨(ih.1 ⟨c, hrest⟩ s hs).1, hb⟩
    · rintro ⟨hfirst, hothers⟩
      obtain ⟨db, hrun⟩ := Database.run_deleteEntry_iff.2 hfirst
      let d : Backend :=
        { b.record (.statement (.deleteEntry store.table id key) true) with database := db }
      have hd : store.HasTable d := (hasTable_of_deleteEntry (c := d) hrun).2
      obtain ⟨c, hrest⟩ := (ih (b := d)).2 fun s hs => ⟨(hothers s hs).1, hd⟩
      exact ⟨c, (Action.bind_of_ok (Backend.send_of_ok hrun)).trans hrest⟩

/-- The induction is on the values, each of which takes two statements. -/
theorem writeUpserts_isOk_iff {entries : List (String × String)} :
    (∃ c, store.writeUpserts id entries b = (.ok (), c)) ↔
      ∀ s ∈ entries.flatMap fun (key, value) =>
          [Statement.deleteEntry store.table id key, .insertEntry store.table id key value],
        Database.textRefusal? s = none ∧ store.HasTable b := by
  induction entries generalizing b with
  | nil => exact ⟨fun _ s hs => absurd hs List.not_mem_nil, fun _ => ⟨b, rfl⟩⟩
  | cons entry rest ih =>
    rw [List.flatMap_cons, List.cons_append, List.cons_append, List.nil_append, List.forall_mem_cons,
      List.forall_mem_cons]
    constructor
    · rintro ⟨c, h⟩
      rcases Backend.exists_of_send_bind h with ⟨_, habsurd, -⟩ | ⟨_, d₁, -, hdelete, h₁⟩
      · cases habsurd
      rcases Backend.exists_of_send_bind h₁ with ⟨_, habsurd, -⟩ | ⟨_, d₂, -, hinsert, h₂⟩
      · cases habsurd
      obtain ⟨hb, -⟩ := hasTable_of_deleteEntry hdelete
      refine ⟨⟨(Database.run_eq_ok_iff.1 hdelete).1, hb⟩, ⟨(Database.run_eq_ok_iff.1 hinsert).1, hb⟩,
        fun s hs => ⟨(ih.1 ⟨c, h₂⟩ s hs).1, hb⟩⟩
    · rintro ⟨hdelete, hinsert, hothers⟩
      obtain ⟨db₁, hrun₁⟩ := Database.run_deleteEntry_iff.2 hdelete
      let d₁ : Backend :=
        { b.record (.statement (.deleteEntry store.table id entry.1) true) with database := db₁ }
      have hd₁ : store.HasTable d₁ := (hasTable_of_deleteEntry (c := d₁) hrun₁).2
      obtain ⟨db₂, hrun₂⟩ := Database.run_insertEntry_iff.2 ⟨hinsert.1, hd₁⟩
      let d₂ : Backend :=
        { d₁.record (.statement (.insertEntry store.table id entry.1 entry.2) true) with
          database := db₂ }
      have hd₂ : store.HasTable d₂ := (hasTable_of_insertEntry (b := d₁) (c := d₂) hrun₂).2
      obtain ⟨c, hrest⟩ := (ih (b := d₂)).2 fun s hs => ⟨(hothers s hs).1, hd₂⟩
      exact ⟨c, (Action.bind_of_ok (Backend.send_of_ok hrun₁)).trans
        ((Action.bind_of_ok (b := d₁) (Backend.send_of_ok hrun₂)).trans hrest)⟩

/-- **A save is answered exactly if each of its statements can be read and its table is there.** Without
a difference there are no statements, and it is answered in any case. -/
theorem save_isOk_iff :
    (∃ saved c, store.save object b = ((.ok (), saved), c)) ↔
      ∀ s ∈ store.writes object.id object.metadataDelta,
        Database.textRefusal? s = none ∧ store.HasTable b := by
  by_cases hempty : object.metadataDelta.isEmpty = true
  · refine iff_of_true ⟨object, b, save_of_isEmpty hempty b⟩ ?_
    rw [MetadataDelta.isEmpty, Bool.and_eq_true, List.isEmpty_iff, List.isEmpty_iff] at hempty
    rw [writes, hempty.1, hempty.2]
    exact fun s hs => absurd hs List.not_mem_nil
  rw [writes, List.forall_mem_append]
  constructor
  · rintro ⟨saved, c, h⟩
    replace h := (Editing.bind_of_ok (e := get) (x := object) rfl).symm.trans h
    simp only [hempty] at h
    rcases Editing.exists_of_bind_eq h with ⟨_, -, habsurd⟩ | ⟨_, seen, d, hremovals, h₁⟩
    · cases habsurd
    obtain ⟨hremovals, rfl⟩ := Action.editing_eq hremovals
    rcases Editing.exists_of_bind_eq h₁ with ⟨_, -, habsurd⟩ | ⟨_, _, d', hupserts, -⟩
    · cases habsurd
    obtain ⟨hupserts, -⟩ := Action.editing_eq hupserts
    have hfirst := writeRemovals_isOk_iff.1 ⟨d, hremovals⟩
    refine ⟨hfirst, fun s hs => ?_⟩
    obtain ⟨hread, hd⟩ := writeUpserts_isOk_iff.1 ⟨d', hupserts⟩ s hs
    -- The removals did not make the table: without them nothing was done, and with them it was there.
    refine ⟨hread, ?_⟩
    cases hkeys : seen.metadataDelta.removals with
    | nil =>
      rw [hkeys] at hremovals
      cases hremovals
      exact hd
    | cons key rest =>
      rw [hkeys] at hfirst
      exact (hfirst _ List.mem_cons_self).2
  · rintro ⟨hremovals, hupserts⟩
    obtain ⟨d, hwritten⟩ := writeRemovals_isOk_iff.2 hremovals
    have hrest : ∃ c, store.writeUpserts object.id object.metadataDelta.upserts d = (.ok (), c) := by
      refine writeUpserts_isOk_iff.2 fun s hs => ?_
      obtain ⟨hread, rows, hrows⟩ := hupserts s hs
      exact ⟨hread, _, writeRemovals_eq_ok hrows hwritten⟩
    obtain ⟨c, hrest⟩ := hrest
    refine ⟨object.markSaved, c, (Editing.bind_of_ok (e := get) (x := object) rfl).trans ?_⟩
    simp only [hempty]
    refine (Editing.bind_of_ok (Action.editing_of_eq hwritten object)).trans ?_
    exact Editing.bind_of_ok (Action.editing_of_eq hrest object)

/-- Statements of a save are statements about the rows of its table. -/
theorem readable_writes (hread : Database.Readable store.table) (delta : MetadataDelta) :
    ∀ s ∈ store.writes id delta, Database.textRefusal? s = none := by
  intro s hs
  rcases List.mem_append.1 hs with hremoval | hupsert
  · obtain ⟨key, -, rfl⟩ := List.mem_map.1 hremoval
    exact hread _ rfl fun h => h
  · obtain ⟨⟨key, value⟩, -, hs⟩ := List.mem_flatMap.1 hupsert
    rcases List.mem_cons.1 hs with rfl | hs
    · exact hread _ rfl fun h => h
    · obtain rfl := List.mem_singleton.1 hs
      exact hread _ rfl fun h => h

theorem hasTable_of_save (hdelta : ¬ object.metadataDelta.isEmpty = true)
    (h : store.save object b = ((.ok (), saved), c)) : store.HasTable b := by
  have hok := save_isOk_iff.1 ⟨saved, c, h⟩
  rw [MetadataDelta.isEmpty, Bool.and_eq_true, List.isEmpty_iff, List.isEmpty_iff,
    not_and_or] at hdelta
  rw [writes, List.forall_mem_append] at hok
  rcases hdelta with hupserts | hremovals
  · obtain ⟨⟨key, value⟩, hentry⟩ := List.exists_mem_of_ne_nil _ hupserts
    exact (hok.2 _ (List.mem_flatMap.2 ⟨_, hentry, List.mem_cons_self⟩)).2
  · obtain ⟨key, hkey⟩ := List.exists_mem_of_ne_nil _ hremovals
    exact (hok.1 _ (List.mem_map_of_mem hkey)).2

/-- A save neither makes its table nor takes it away. -/
theorem hasTable_iff_of_save (h : store.save object b = ((.ok (), saved), c)) :
    store.HasTable c ↔ store.HasTable b := by
  by_cases hempty : object.metadataDelta.isEmpty = true
  · rw [save_of_isEmpty hempty] at h
    cases h
    exact Iff.rfl
  · obtain ⟨rows, hrows⟩ := hasTable_of_save hempty h
    exact iff_of_true ⟨_, (save_eq_ok hrows h).2⟩ ⟨rows, hrows⟩

/-! ## 3. Saving and reading back -/

/-- A save that is answered merges the rows with what the object has. -/
theorem merged_of_save (h : store.save object b = ((.ok (), saved), c)) :
    saved = object.markSaved ∧
      MetadataTable.Merged object (b.database.entries store.table)
        (c.database.entries store.table) := by
  by_cases hempty : object.metadataDelta.isEmpty = true
  · -- Nothing is written, and the table need not even be there.
    have hmerged := MetadataTable.merged_afterSave object (b.database.entries store.table)
    rw [save_of_isEmpty hempty] at h
    cases h
    refine ⟨(NamedObject.markSaved_of_isEmpty hempty).symm, ?_⟩
    rw [MetadataDelta.isEmpty, Bool.and_eq_true, List.isEmpty_iff, List.isEmpty_iff] at hempty
    rw [MetadataTable.afterSave, hempty.1, hempty.2] at hmerged
    exact hmerged
  · obtain ⟨rows, hrows⟩ := hasTable_of_save hempty h
    obtain ⟨hsaved, hafter⟩ := save_eq_ok hrows h
    refine ⟨hsaved, ?_⟩
    rw [Database.entries_eq_of_metadata hrows, Database.entries_eq_of_metadata hafter]
    exact MetadataTable.merged_afterSave object rows

/-- Saves that touch different keys of one object can be exchanged, and are answered alike. -/
theorem save_comm {first second saved₁ saved₂ : NamedObject} {d : Backend} (hid : first.id = second.id)
    (hdisjoint : first.metadataDelta.keys.Disjoint second.metadataDelta.keys)
    (h₁ : store.save first b = ((.ok (), saved₁), c))
    (h₂ : store.save second c = ((.ok (), saved₂), d)) :
    ∃ c' d', store.save second b = ((.ok (), saved₂), c') ∧
      store.save first c' = ((.ok (), saved₁), d') ∧
      (d'.database.entries store.table).Perm (d.database.entries store.table) := by
  obtain ⟨other₂, c', h₂'⟩ : ∃ o c', store.save second b = ((.ok (), o), c') := by
    refine save_isOk_iff.2 fun s hs => ?_
    obtain ⟨hread, hc⟩ := save_isOk_iff.1 ⟨_, _, h₂⟩ s hs
    exact ⟨hread, (hasTable_iff_of_save h₁).1 hc⟩
  obtain ⟨other₁, d', h₁'⟩ : ∃ o d', store.save first c' = ((.ok (), o), d') := by
    refine save_isOk_iff.2 fun s hs => ?_
    obtain ⟨hread, hb⟩ := save_isOk_iff.1 ⟨_, _, h₁⟩ s hs
    exact ⟨hread, (hasTable_iff_of_save h₂').2 hb⟩
  obtain ⟨hsaved₁, hmerged₁⟩ := merged_of_save h₁
  obtain ⟨hsaved₂, hmerged₂⟩ := merged_of_save h₂
  obtain ⟨hother₂, hmerged₂'⟩ := merged_of_save h₂'
  obtain ⟨hother₁, hmerged₁'⟩ := merged_of_save h₁'
  rw [hother₂, ← hsaved₂] at h₂'
  rw [hother₁, ← hsaved₁] at h₁'
  exact ⟨c', d', h₂', h₁',
    MetadataTable.Merged.perm hid hdisjoint hmerged₁ hmerged₂ hmerged₂' hmerged₁'⟩

theorem apply_isOk_iff :
    (∃ read c, store.apply object b = (.ok read, c)) ↔
      Database.textRefusal? (.listMetadata store.table object.id) = none ∧ store.HasTable b := by
  constructor
  · rintro ⟨read, c, h⟩
    rcases Backend.exists_of_send_bind h with ⟨_, habsurd, -⟩ | ⟨entries, d, -, hrun, -⟩
    · cases habsurd
    obtain ⟨hread, hdone⟩ := Database.run_eq_ok_iff.1 hrun
    obtain ⟨rows, hrows, -⟩ := bind_eq_ok_iff_exists.1 hdone
    exact ⟨hread, rows, hrows⟩
  · rintro ⟨hread, rows, hrows⟩
    exact ⟨_, _, apply_of_metadata hread hrows⟩

theorem apply_eq_ok {read : NamedObject} (h : store.apply object b = (.ok read, c)) :
    c = b.record (.statement (.listMetadata store.table object.id) true) ∧
      read = object.hydrate
        (MetadataTable.loaded (b.database.entries store.table) object.id) := by
  obtain ⟨hread, rows, hrows⟩ := apply_isOk_iff.1 ⟨read, c, h⟩
  rw [apply_of_metadata hread hrows] at h
  rw [Database.entries_eq_of_metadata hrows]
  cases h
  exact ⟨rfl, rfl⟩

/-- **A save is a three-way merge.** Whatever the table holds, a save that is answered leaves under
each key that the object changed one row with its value, under each key that it removed no row, and
every other row as it was; and the object remembers its metadata as stored. A read that is answered
sends one statement and changes nothing, takes the greatest value under each key, and leaves nothing to
save. Two objects with one id whose differences have no key in common can be saved in either order: if
they are answered in one, they are in the other, and the same rows are left. And with its table there
under a name that can be read, a store answers every save and every read. -/
theorem save_merges (store : MetadataStore) (b : Backend) :
    (∀ (object saved : NamedObject) (c : Backend), store.save object b = ((.ok (), saved), c) →
      saved = { object with persistedMetadata := object.metadata } ∧
      MetadataTable.Merged object (b.database.entries store.table)
        (c.database.entries store.table)) ∧
    (∀ (object read : NamedObject) (c : Backend), store.apply object b = (.ok read, c) →
      c = b.record (.statement (.listMetadata store.table object.id) true) ∧
      read = object.hydrate read.metadata ∧ read.metadataDelta.isEmpty = true ∧
      ∀ key value, read.getMeta key = some value ↔
        ⟨object.id, key, value⟩ ∈ b.database.entries store.table ∧
          ∀ other, ⟨object.id, key, other⟩ ∈ b.database.entries store.table → other ≤ value) ∧
    (∀ (first second saved₁ saved₂ : NamedObject) (c d : Backend), first.id = second.id →
      first.metadataDelta.keys.Disjoint second.metadataDelta.keys →
      store.save first b = ((.ok (), saved₁), c) → store.save second c = ((.ok (), saved₂), d) →
      ∃ c' d', store.save second b = ((.ok (), saved₂), c') ∧
        store.save first c' = ((.ok (), saved₁), d') ∧
        (d'.database.entries store.table).Perm (d.database.entries store.table)) ∧
    (store.HasTable b → Database.Readable store.table → ∀ object : NamedObject,
      (∃ saved c, store.save object b = ((.ok (), saved), c)) ∧
      ∃ read c, store.apply object b = (.ok read, c)) := by
  refine ⟨fun object saved c h => merged_of_save h, fun object read c h => ?_,
    fun _ _ _ _ _ _ hid hdisjoint h₁ h₂ => save_comm hid hdisjoint h₁ h₂,
    fun hthere hread object => ⟨?_, ?_⟩⟩
  · obtain ⟨hc, hread⟩ := apply_eq_ok h
    refine ⟨hc, by rw [hread]; rfl, NamedObject.isEmpty_metadataDelta_iff.2 (by rw [hread]; rfl), ?_⟩
    intro key value
    rw [hread]
    exact MetadataTable.getElem?_loaded_eq_some_iff
  · exact save_isOk_iff.2 fun s hs => ⟨readable_writes hread _ s hs, hthere⟩
  · exact apply_isOk_iff.2 ⟨hread _ rfl fun h => h, hthere⟩

end MetadataStore

/-! ## 4. Two holders of a bench

The legs of the bench are on record twice, its wood once, and there is a row of another object. One
holder counted the legs again; the other, who remembers less, removed the wood and added a colour. -/

namespace MetadataStore

namespace GardenBench

def store : MetadataStore := ⟨⟨.postgres, "", "", "", ""⟩, "notes"⟩

def rows : List MetadataRow :=
  [⟨1, "wood", "oak"⟩, ⟨1, "legs", "3"⟩, ⟨2, "wood", "elm"⟩, ⟨1, "legs", "4"⟩]

def backend : Backend :=
  .start (Database.empty.setTable "notes" (.metadata rows)) .memory

def recounted : NamedObject :=
  ⟨1, "bench", .ofList [("legs", "6"), ("wood", "oak")], "bench",
    .ofList [("legs", "4"), ("wood", "oak")]⟩

def painted : NamedObject :=
  ⟨1, "bench", .ofList [("colour", "red")], "bench", .ofList [("wood", "oak")]⟩

def afterRecounted : (Except Error Unit × NamedObject) × Backend := store.save recounted backend

def afterBoth : (Except Error Unit × NamedObject) × Backend := store.save painted afterRecounted.2

end GardenBench

open GardenBench in
theorem save_merges_gardenBench :
    afterBoth.2.database.entries "notes" =
      [⟨2, "wood", "elm"⟩, ⟨1, "legs", "6"⟩, ⟨1, "colour", "red"⟩] ∧
    MetadataTable.Merged recounted rows (afterRecounted.2.database.entries "notes") ∧
    (∃ c d saved, store.save painted backend = ((.ok (), afterBoth.1.2), c) ∧
      store.save recounted c = ((.ok (), saved), d) ∧
      (d.database.entries "notes").Perm (afterBoth.2.database.entries "notes")) ∧
    (∃ read c, store.apply painted backend = (.ok read, c) ∧ read.getMeta "legs" = some "4") := by
  have hrows : backend.database.entries "notes" = rows := by decide +kernel
  have hfirst : store.save recounted backend = ((.ok (), afterRecounted.1.2), afterRecounted.2) := by
    have hok : afterRecounted.1.1 = .ok () := by decide +kernel
    rw [← hok]
    rfl
  have hsecond : store.save painted afterRecounted.2 = ((.ok (), afterBoth.1.2), afterBoth.2) := by
    have hok : afterBoth.1.1 = .ok () := by decide +kernel
    rw [← hok]
    rfl
  have hread : Database.Readable "notes" :=
    Database.readable_of_isPlainName (by decide +kernel)
  obtain ⟨hsave, happly, hexchange, hanswered⟩ := save_merges store backend
  obtain ⟨c, d, hc, hd, hperm⟩ := hexchange recounted painted _ _ _ _ rfl
    (List.disjoint_iff_ne.2 (by decide +kernel)) hfirst hsecond
  obtain ⟨read, e, hok⟩ := (hanswered ⟨rows, by decide +kernel⟩ hread painted).2
  obtain ⟨-, -, -, hgreatest⟩ := happly painted read e hok
  refine ⟨by decide +kernel, ?_, ⟨c, d, _, hc, hd, hperm⟩, read, e, hok, ?_⟩
  · have hmerged := (hsave recounted _ _ hfirst).2
    rw [show store.table = "notes" from rfl, hrows] at hmerged
    exact hmerged
  · refine (hgreatest "legs" "4").2 ⟨by decide +kernel, fun other hother => ?_⟩
    have hbound : ∀ row ∈ rows, row.object = 1 → row.key = "legs" → row.value ≤ "4" := by
      decide +kernel
    rw [show store.table = "notes" from rfl, hrows] at hother
    exact hbound _ hother rfl rfl

end MetadataStore

end ObjectCatalog
