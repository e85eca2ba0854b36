import ObjectCatalog.Proofs.Repository.Reading
import ObjectCatalog.Proofs.Repository.Saving
import ObjectCatalog.Proofs.Text.Trimming

/-!
# What was saved is what is loaded

If an update is answered, a lookup returns the object as its holder has it, by its id and by its name,
and a second update has nothing to do (`Repository.update_round_trip`). It takes an object that knows
what is stored: the name of its row and the metadata that its rows amount to. What its holder did to it
does not matter, since it all goes into the difference, and the difference takes the stored metadata to
that of the object.

A step of this is to see where the tables are after each half of the update: the save writes the
metadata rows and leaves the objects alone, and the rename writes one row and leaves the metadata
alone.
-/

namespace ObjectCatalog

/-! ## 1. The tables after each half of an update -/

namespace Repository

variable {r : Repository} {b c : Backend} {t : ObjectTable} {rows : List MetadataRow}
  {object saved : NamedObject}

/-- After a save the metadata rows are those that the difference makes of them, and everything else
is as it was. -/
theorem serves_save (h : r.Serves b t rows) {x : Unit}
    (hsave : r.metadataStore.save object b = ((.ok x, saved), c)) :
    saved = object.markSaved ∧
      r.Serves c t (MetadataTable.afterSave rows object.id object.metadataDelta) := by
  obtain ⟨-, hcache, hobjects⟩ := save_eq hsave
  obtain ⟨hsaved, hrows⟩ := MetadataStore.save_eq_ok h.ready.metadata hsave
  refine ⟨hsaved, h.ready.of_database (hobjects.trans h.ready.objects?) hrows,
    h.coherent.of_same hobjects hcache, ?_⟩
  intro call key
  rw [hcache]
  exact h.works call key

theorem keeps_send_metadata {s : Statement} (hs : ¬ s.WritesEntries) (name : String) :
    Action.Keeps (fun b => b.database.metadata name = .ok rows) (Backend.send s) :=
  Action.meets_iff_keeps.1 <| Backend.meets_send
    (fun _ _ _ hb hrun => Database.metadata_of_run hs hrun hb) fun _ _ hb _ => hb

theorem keeps_rename_metadata (object : NamedObject) (name table : String) :
    Action.Keeps (fun b => b.database.metadata table = .ok rows) (r.rename object name) := by
  unfold rename
  refine Action.Keeps.bind (keeps_send_metadata id table) fun stored => ?_
  have hrename : Action.Keeps (fun b => b.database.metadata table = .ok rows)
      (Backend.send (.renameObject r.table name object.id)) := keeps_send_metadata id table
  refine Action.meets_iff_keeps.1 (((Action.meets_iff_keeps.2 hrename).adapt _).bind fun _ => ?_)
  exact Action.meets_iff_keeps.2 (keeps_invalidate (P := fun db => db.metadata table = .ok rows) _ _ _)

/-- After a rename the row has its new name, and everything else is as it was. -/
theorem serves_rename (h : r.Serves b t rows) {name : String} {x : Unit}
    (hrename : r.rename object name b = (.ok x, c)) :
    ∃ t', r.Serves c t' rows ∧ t.SetsRow t' object.id (some name) := by
  have hcoherent := keeps_rename object name b h.coherent
  have hworks := (alikeParts_works (r := r)).rename object name |>.keeps b h.works
  have hmetadata := keeps_rename_metadata (r := r) object name r.metadataStore.table b h.ready.metadata
  rw [hrename] at hcoherent hworks hmetadata
  rcases rename_eq hrename with ⟨e, habsurd, -⟩ | ⟨u, t', hu, ht', hset, -⟩
  · cases habsurd
  · rw [h.ready.objects?] at hu
    cases hu
    exact ⟨t', ⟨h.ready.of_database ht' hmetadata, hcoherent, hworks⟩, hset⟩

/-- The object knows its row and its metadata as they are stored. -/
def IsStored (object : NamedObject) (t : ObjectTable) (rows : List MetadataRow) : Prop :=
  t.rows[object.id]? = some object.persistedName ∧
    MetadataTable.loaded rows object.id = object.persistedMetadata

/-- After an update that is answered the tables hold what the object has, under its trimmed name. -/
theorem serves_update (h : r.Serves b t rows) (hstored : IsStored object t rows) {x : Unit}
    (hupdate : r.update object b = ((.ok x, saved), c)) :
    ∃ t' rows', r.Serves c t' rows' ∧ t'.rows[object.id]? = some (Text.trim object.name) ∧
      MetadataTable.loaded rows' object.id = object.metadata ∧
      saved = ⟨object.id, Text.trim object.name, object.metadata, Text.trim object.name,
        object.metadata⟩ := by
  rcases hsave : r.metadataStore.save object b with ⟨⟨e | y, o⟩, d⟩
  · rw [update_of_save_error hsave] at hupdate
    cases hupdate
  rw [update_of_save_ok hsave] at hupdate
  obtain ⟨rfl, hserves⟩ := serves_save h hsave
  have hloaded : MetadataTable.loaded
      (MetadataTable.afterSave rows object.id object.metadataDelta) object.id = object.metadata := by
    rw [MetadataTable.loaded_afterSave, hstored.2, NamedObject.applyTo_metadataDelta]
  -- The save leaves the name and what is known of it as they were.
  let o := object.markSaved
  by_cases hname : Text.trim o.name = o.persistedName
  · rw [updateName_of_same hname] at hupdate
    cases hupdate
    refine ⟨t, _, hserves, ?_, hloaded, ?_⟩
    · exact hstored.1.trans (congrArg some hname.symm)
    · show (⟨object.id, Text.trim o.name, object.metadata, o.persistedName, object.metadata⟩ :
        NamedObject) = _
      rw [← hname]
      rfl
  by_cases hempty : Text.trim o.name = ""
  · rw [updateName_of_empty hname hempty] at hupdate
    cases hupdate
  rcases hrename : r.rename o (Text.trim o.name) d with ⟨e | y, d'⟩
  · rw [updateName_of_rename_error hname hempty hrename] at hupdate
    cases hupdate
  · rw [updateName_of_rename_ok hname hempty hrename] at hupdate
    cases hupdate
    obtain ⟨t', hserves', hset⟩ := serves_rename hserves hrename
    refine ⟨t', _, hserves', hset.row.trans ?_, hloaded, rfl⟩
    show (t.rows[object.id]?).bind _ = _
    rw [hstored.1]
    rfl

/-! ## 2. The round trip -/

/-- **What was saved is what is loaded.** After any requests and whatever went from the cache, let an
object know what is stored, and let its holder do anything to it. If the update is then answered, the
object is as its holder left it but for the blanks around its name, a lookup by its id and one by its
name, with any blanks around it, return it, and updating it again sends nothing and asks nothing of
the cache. -/
theorem update_round_trip {db : Database} {cache : Cache} {desk : Desk} (hdb : r.StartsEmpty db)
    (hcache : cache = .memory ∨ cache = .null)
    (hmoves : Relation.ReflTransGen r.Moves ⟨.start db cache, ∅⟩ desk) (hworks : desk.backend.Works)
    (hready : r.Ready desk.backend.database t rows)
    (hname : t.rows[object.id]? = some object.persistedName)
    (hmetadata : MetadataTable.loaded rows object.id = object.persistedMetadata)
    (edits : List NamedObject.Edit) {object' : NamedObject} {after : Backend}
    (hupdate : r.update (object.editAll edits) desk.backend = ((.ok (), object'), after)) :
    (object'.id = object.id ∧ object'.name = Text.trim (object.editAll edits).name ∧
      object'.metadata = (object.editAll edits).metadata) ∧
    (∃ later, r.loadById object.id after = (.ok (some object'), later)) ∧
    (∀ before behind : String, (∀ c ∈ before.toList, Text.isBlank c = true) →
      (∀ c ∈ behind.toList, Text.isBlank c = true) →
      ∃ later, r.loadByName (before ++ object'.name ++ behind) after =
        (.ok (some object'), later)) ∧
    object'.persistedName = object'.name ∧ Text.trim object'.name = object'.name ∧
    object'.metadataDelta.isEmpty = true ∧
    r.update object' after = ((.ok (), object'), after) := by
  have hserves : r.Serves desk.backend t rows :=
    ⟨hready, coherent_of_moves hdb hcache hmoves, hworks⟩
  have hstored : IsStored (object.editAll edits) t rows := by
    rw [IsStored, NamedObject.id_editAll, NamedObject.persistedName_editAll,
      NamedObject.persistedMetadata_editAll]
    exact ⟨hname, hmetadata⟩
  obtain ⟨t', rows', hserves', hrow, hloaded, rfl⟩ := serves_update hserves hstored hupdate
  rw [NamedObject.id_editAll] at hrow hloaded hupdate ⊢
  -- The object is what its row and its metadata rows amount to.
  have hobject : NamedObject.stored rows' (object.id, Text.trim (object.editAll edits).name) =
      ⟨object.id, Text.trim (object.editAll edits).name, (object.editAll edits).metadata,
        Text.trim (object.editAll edits).name, (object.editAll edits).metadata⟩ := by
    rw [NamedObject.stored, hloaded]
    rfl
  have htrimmed : Text.trim (Text.trim (object.editAll edits).name) =
      Text.trim (object.editAll edits).name := Text.trim_trim _
  refine ⟨⟨rfl, rfl, rfl⟩, ?_, ?_, rfl, htrimmed, ?_, ?_⟩
  · obtain ⟨later, hload, -⟩ := loadById_eq hserves' object.id
    rw [hrow, Option.map_some, hobject] at hload
    exact ⟨later, hload⟩
  · intro before behind hbefore hbehind
    obtain ⟨later, hload, -⟩ :=
      find_eq hserves' (.ofName (before ++ Text.trim (object.editAll edits).name ++ behind))
    rw [Lookup.ofName, Text.trim_surrounded _ hbefore hbehind, Text.trim_trim, ObjectTable.find?,
      hserves'.sound.withName? hrow, Option.map_some, hobject] at hload
    refine ⟨later, ?_⟩
    rw [loadByName, Lookup.ofName, Text.trim_surrounded _ hbefore hbehind, Text.trim_trim]
    exact hload
  · exact NamedObject.isEmpty_metadataDelta_iff.2 rfl
  · apply update_of_stored
    · rfl
    · rfl
    · exact htrimmed

/-! ## 3. A small round trip

A bench has its metadata in another table than usual. Its wood is removed and set again, an empty key
gets an empty value, and its new name is padded with blanks. Both lookups find it in the end, though
its old name and its id were cached. -/

namespace GardenBench

def repository : Repository :=
  (Repository.ofType ⟨.sqlite, "", "", "", ""⟩ ⟨"bench", by decide⟩).withMetadataStore
    ⟨⟨.sqlite, "", "", "", ""⟩, "notes"⟩

def requests : List Request :=
  [.install, .create " porch " "first", .setMeta "first" "wood" "oak", .setMeta "first" "legs" "4",
    .update "first", .loadByName "porch" none, .loadById 1 none, .create "hall" "other"]

def before : Desk := repository.runAll ⟨.start .empty .memory, ∅⟩ requests

def bench : NamedObject :=
  let metadata : Metadata := .ofList [("legs", "4"), ("wood", "oak")]
  ⟨1, "porch", metadata, "porch", metadata⟩

def edits : List NamedObject.Edit :=
  [.removeMeta "wood", .setMeta "wood" "elm", .removeMeta "legs", .setMeta "" "", .setName "\tlawn "]

def updated : (Except Error Unit × NamedObject) × Backend :=
  repository.update (bench.editAll edits) before.backend

end GardenBench

open GardenBench in
theorem update_round_trip_gardenBench :
    updated.1.1 = .ok () ∧
    updated.1.2.metadata = .ofList [("", ""), ("wood", "elm")] ∧
    (∃ later, repository.loadById 1 updated.2 = (.ok (some updated.1.2), later)) ∧
    (∃ later, repository.loadByName "  lawn\n" updated.2 = (.ok (some updated.1.2), later)) ∧
    repository.update updated.1.2 updated.2 = ((.ok (), updated.1.2), updated.2) := by
  have hmoves : Relation.ReflTransGen repository.Moves ⟨.start .empty .memory, ∅⟩ before :=
    moves_runAll ⟨nofun, nofun, nofun, nofun, nofun, nofun, nofun, nofun, trivial⟩
  have hworks : before.backend.Works := works_runAll fun _ _ => rfl
  have hready : repository.Ready before.backend.database
      ⟨.binary, .ofList [((1 : Int64), "porch"), (2, "hall")], 2⟩
      [⟨1, "legs", "4"⟩, ⟨1, "wood", "oak"⟩] :=
    .of_isPlainName (by decide +kernel) (by decide +kernel) (by decide +kernel) (by decide +kernel)
  have hstored : MetadataTable.loaded [⟨1, "legs", "4"⟩, ⟨1, "wood", "oak"⟩] 1 =
      bench.persistedMetadata := by
    have hput : [⟨1, "legs", "4"⟩, ⟨1, "wood", "oak"⟩] =
        MetadataTable.put (MetadataTable.put [] 1 "legs" "4") 1 "wood" "oak" := by decide +kernel
    rw [hput, MetadataTable.loaded_put, MetadataTable.loaded_put, MetadataTable.loaded_nil]
    decide +kernel
  have hok : updated.1.1 = .ok () := by decide +kernel
  have hname : updated.1.2.name = "lawn" := by decide +kernel
  have hmetadata : updated.1.2.metadata = .ofList [("", ""), ("wood", "elm")] := by decide +kernel
  have hupdate : repository.update (bench.editAll edits) before.backend =
      ((.ok (), updated.1.2), updated.2) := by
    rw [← hok]
    rfl
  obtain ⟨-, hbyId, hbyName, -, -, -, hagain⟩ := update_round_trip startsEmpty_empty (.inl rfl) hmoves
    hworks hready (by decide +kernel) hstored edits hupdate
  have hpadded := hbyName "  " "\n" (List.all_eq_true.1 (by decide +kernel))
    (List.all_eq_true.1 (by decide +kernel))
  rw [hname] at hpadded
  exact ⟨hok, hmetadata, hbyId, hpadded, hagain⟩

end Repository

end ObjectCatalog
