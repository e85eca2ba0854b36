import ObjectCatalog.Proofs.Repository.Reading
import ObjectCatalog.Proofs.Search.ByMetadata

/-!
# A search and a lookup read the same metadata

A metadata search looks at rows, and a lookup folds rows into a map, of several values under a key the
greatest. The two would not agree on an object with two rows under one key, and nothing in a metadata
table forbids that. But no repository ever makes such rows: a save deletes a key before it inserts a
value for it, whatever the holder of the object believes to be stored, and no other request inserts any
(`Repository.unique_of_moves`).

So a search that the database takes selects an object exactly if the predicate holds of the map that a
lookup returns for it (`Repository.metaSearch_agrees_with_load`).
-/

namespace ObjectCatalog

/-! ## 1. Requests and what they insert -/

namespace Request

variable {r : Repository} {P : Database → Prop}

section Parts

variable (hsend : ∀ s : Statement, ¬ s.AddsEntry →
    Action.Keeps (fun b => P b.database) (Backend.send s))
include hsend

theorem alikeParts_of_noEntry : r.AlikeParts (Backend.Same fun b => P b.database) where
  send s _ hs _ := (hsend s hs).alike
  createObjects _ := (hsend _ id).alike
  insertName name := by
    unfold Repository.insertName
    split
    · exact (hsend _ id).alike
    · exact (hsend _ id).alike.bind fun _ => (hsend _ id).alike
  rename object name := by
    have hrename : Action.Keeps (fun b => P b.database)
        (Backend.send (.renameObject r.table name object.id)) := hsend _ id
    exact (hsend _ id).alike.bind fun _ => (hrename.alike.adapt _).bind fun _ =>
      (Repository.keeps_invalidate _ _ _).alike

theorem keeps_delete_of_noEntry (object : NamedObject) :
    Action.Keeps (fun b => P b.database) (r.delete object) :=
  (hsend _ id).bind fun _ => (hsend _ id).bind fun _ => (hsend _ id).bind fun _ =>
    Repository.keeps_invalidate _ _ _

theorem keeps_writeRemovals_of_noEntry (store : MetadataStore) (id : Int64) (keys : List String) :
    Action.Keeps (fun b => P b.database) (store.writeRemovals id keys) := by
  induction keys with
  | nil => exact Action.keeps_pure _
  | cons key rest ih =>
    have hdelete : Action.Keeps (fun b => P b.database)
        (Backend.send (.deleteEntry store.table id key)) := hsend _ fun h => h
    exact hdelete.bind fun _ => ih

end Parts

/-- An update and a save of metadata keep what the statements keep that write the difference. -/
theorem keeps_of_saves {request : Request} (hsaves : request.Saves)
    (hsend : ∀ s : Statement, ¬ s.AddsEntry →
      Action.Keeps (fun b => P b.database) (Backend.send s))
    {desk : Desk}
    (hupserts : ∀ {handle : String} {held : Handle}, desk.handles[handle]? = some held →
      ∀ entries, Action.Keeps (fun b => P b.database)
        (r.metadataStore.writeUpserts held.object.id entries))
    (h : P desk.backend.database) : P (request.run r desk).2.backend.database := by
  have hedit : ∀ {handle : String} {editing : Editing Unit},
      (∀ held, desk.handles[handle]? = some held →
        Editing.Meets (fun o b => o = held.object ∧ P b.database) editing
          (fun _ _ b => P b.database) (fun _ b => P b.database)) →
      P (desk.edit handle editing).2.backend.database := by
    intro handle editing hedit
    unfold Desk.edit Desk.withHandle
    cases hheld : desk.handles[handle]? with
    | none => exact h
    | some held => exact (hedit held hheld).after ⟨rfl, h⟩
  have hremovals := keeps_writeRemovals_of_noEntry hsend r.metadataStore
  cases request with
  | update handle =>
    refine hedit fun held hheld => ?_
    have hrename := ((alikeParts_of_noEntry hsend).rename (r := r) held.object
      (Text.trim held.object.name)).keeps
    exact (Repository.meets_update (hremovals _ _) (hupserts hheld _) (fun _ hb => hb)
      (fun _ _ hb => hb) fun _ => Action.meets_iff_keeps.2 hrename).mono (fun _ _ hb => hb)
      (fun _ _ _ hb => hb.2) fun _ _ hb => hb.2
  | saveMetadata handle =>
    refine hedit fun held hheld => ?_
    exact (MetadataStore.meets_save (hremovals _ _) (hupserts hheld _)).mono (fun _ _ hb => hb)
      (fun _ _ _ hb => hb.2) fun _ _ hb => hb.2
  | _ => exact hsaves.elim

/-- What every statement that inserts no metadata keeps, and the writing of values for objects that
are held keeps, is true of the database after every request, however it ends. -/
theorem keeps_of_upserts
    (hrun : ∀ {s : Statement} {answer : s.Answer} {db db' : Database}, ¬ s.AddsEntry →
      db.run s = .ok (answer, db') → P db → P db')
    (request : Request) {desk : Desk}
    (hupserts : ∀ {handle : String} {held : Handle}, desk.handles[handle]? = some held →
      ∀ entries, Action.Keeps (fun b => P b.database)
        (r.metadataStore.writeUpserts held.object.id entries))
    (h : P desk.backend.database) : P (request.run r desk).2.backend.database := by
  have hsend : ∀ s : Statement, ¬ s.AddsEntry →
      Action.Keeps (fun b => P b.database) (Backend.send s) := fun s hs =>
    Action.meets_iff_keeps.1 <| Backend.meets_send (fun _ _ _ hb hdone => hrun hs hdone hb)
      fun _ _ hb _ => hb
  by_cases hsaves : request.Saves
  · exact keeps_of_saves hsaves hsend hupserts h
  by_cases hdelete : request.IsDelete
  · cases request with
    | delete handle =>
      exact (Request.alike_delete (fun object => (keeps_delete_of_noEntry hsend object).alike) handle
        ⟨h, rfl⟩).backend.1
    | _ => exact hdelete.elim
  · have hfetch : ∀ key, Action.Keeps (fun b => P b.database) (Backend.fetch key) :=
      Backend.keeps_fetch fun _ _ hb => hb
    have hstore : ∀ key text, Action.Keeps (fun b => P b.database) (Backend.store key text) := by
      intro key text b hb
      rw [Backend.database_store]
      exact hb
    have hfindRow : ∀ lookup, Action.Alike (Backend.Same fun b => P b.database) (r.findRow lookup) :=
      fun lookup => Repository.alike_findRow_of_calls (hfetch _).alike (hsend _ id).alike
        fun text => (hstore _ text).alike
    exact (Request.alike_run (alikeParts_of_noEntry hsend) (fun hs => absurd hs hsaves)
      (fun _ => hfindRow) hdelete ⟨h, rfl⟩).backend.1

end Request

/-! ## 2. One row for each key -/

namespace Repository

variable {r : Repository} {name : String}

/-- A value is inserted when its key has no row, because the row was deleted before. -/
theorem keeps_upsert_unique (table : String) (id : Int64) (key value : String) :
    Action.Keeps (fun b => MetadataTable.Unique (b.database.entries name)) (do
      Backend.send (.deleteEntry table id key)
      Backend.send (.insertEntry table id key value)) := by
  refine Action.meets_iff_keeps.1 ?_
  refine Action.Meets.bind (Q := fun _ b => MetadataTable.Unique (b.database.entries name) ∧
    ∃ rows, b.database.metadata table = .ok (MetadataTable.withoutEntry rows id key)) ?_ fun _ => ?_
  · refine Backend.meets_send (fun b _ db hb hrun => ?_) fun _ _ hb _ => hb
    obtain ⟨rows, -, hdb⟩ := Database.rows_of_deleteEntry hrun
    refine ⟨hb.sublist (Database.entries_sublist_of_run (s := .deleteEntry table id key)
      (fun h => h) hrun), rows, ?_⟩
    show db.metadata table = _
    rw [hdb, Database.metadata_setTable_self]
  · refine Backend.meets_send (fun b _ db hb hrun => ?_) fun _ _ hb _ => hb.1
    obtain ⟨hunique, rows, hrows⟩ := hb
    obtain ⟨rows', hrows', hdb⟩ := Database.rows_of_insertEntry hrun
    rw [hrows] at hrows'
    cases hrows'
    show MetadataTable.Unique (db.entries name)
    rw [hdb, Database.entries_setTable]
    by_cases hkey : TableRef.key table = TableRef.key name
    · have hentries : b.database.entries name = MetadataTable.withoutEntry rows id key := by
        rw [Database.entries, ← Database.table?_congr hkey,
          Database.metadata_eq_ok_iff.1 hrows]
        rfl
      rw [hentries] at hunique
      rw [if_pos hkey]
      exact hunique.append (fun row hrow => (MetadataTable.mem_withoutEntry.1 hrow).2) value
    · rw [if_neg hkey]
      exact hunique

/-- The induction is on the values that are still to be written. -/
theorem keeps_writeUpserts_unique (store : MetadataStore) (id : Int64)
    (entries : List (String × String)) :
    Action.Keeps (fun b => MetadataTable.Unique (b.database.entries name))
      (store.writeUpserts id entries) := by
  induction entries with
  | nil => exact Action.keeps_pure _
  | cons entry rest ih =>
    have hsequence : store.writeUpserts id (entry :: rest) =
        (do
          Backend.send (.deleteEntry store.table id entry.1)
          Backend.send (.insertEntry store.table id entry.1 entry.2)) >>= fun _ =>
            store.writeUpserts id rest := by
      rw [bind_assoc]
      rfl
    rw [hsequence]
    exact (keeps_upsert_unique _ _ _ _).bind fun _ => ih

/-- No request gives a key a second row, whatever the handles know and however it ends. -/
theorem unique_request (request : Request) {desk : Desk}
    (h : MetadataTable.Unique (desk.backend.database.entries name)) :
    MetadataTable.Unique ((request.run r desk).2.backend.database.entries name) :=
  Request.keeps_of_upserts (P := fun db => MetadataTable.Unique (db.entries name))
    (fun hs hrun h => h.sublist (Database.entries_sublist_of_run hs hrun)) request
    (fun _ entries => keeps_writeUpserts_unique r.metadataStore _ entries) h

/-- Along a run every key keeps one row, if there were no rows at first. -/
theorem unique_of_moves {db : Database} {cache : Cache} {desk : Desk} (hempty : db.entries name = [])
    (h : Relation.ReflTransGen r.Moves ⟨.start db cache, ∅⟩ desk) :
    MetadataTable.Unique (desk.backend.database.entries name) := by
  induction h with
  | refl =>
    show MetadataTable.Unique (db.entries name)
    rw [hempty]
    exact MetadataTable.unique_nil
  | tail _ hmove ih =>
    cases hmove with
    | request store request hthere => exact unique_request request ih
    | evict key => exact ih
    | disturb fault hdelete => exact ih

end Repository

/-! ## 3. A predicate of a map -/

/-- Whether a clause holds of metadata: the map has its key, with a value that passes one of its
tests. -/
def Clause.holdsIn (metadata : Metadata) (clause : Clause) : Bool :=
  match metadata[clause.key]? with
  | some value => clause.value.values.any fun raw => (ValueTest.ofRaw raw).accepts value
  | none => false

/-- Whether a predicate holds of metadata: its clauses are folded from the left, each with its own
connector. -/
def Predicate.holdsIn (metadata : Metadata) (p : Predicate) : Bool :=
  match p.clauses with
  | [] => false
  | first :: rest =>
    rest.foldl (fun before clause => clause.connector.holds before (clause.holdsIn metadata))
      (first.holdsIn metadata)

namespace MetadataTable

variable {rows : List MetadataRow}

/-- Where each key has one row, a clause holds of the rows exactly if it holds of the map that is
read from them. -/
theorem Unique.clause_holdsOf (h : Unique rows) (id : Int64) (clause : Clause) :
    clause.holdsOf (entriesOf rows id) = clause.holdsIn (loaded rows id) := by
  rw [Bool.eq_iff_iff, Clause.holdsOf, List.any_eq_true, Clause.holdsIn]
  constructor
  · rintro ⟨⟨key, value⟩, hentry, hholds⟩
    obtain ⟨row, hrow, rfl, heq⟩ := mem_entriesOf.1 hentry
    cases heq
    rw [Bool.and_eq_true, beq_iff_eq] at hholds
    have hfound : (loaded rows row.object)[clause.key]? = some row.value := by
      rw [h.getElem?_loaded_eq_some_iff, ← hholds.1]
      exact hrow
    rw [hfound]
    exact hholds.2
  · intro hholds
    cases hfound : (loaded rows id)[clause.key]? with
    | none =>
      rw [hfound] at hholds
      cases hholds
    | some value =>
      rw [hfound] at hholds
      rw [h.getElem?_loaded_eq_some_iff] at hfound
      refine ⟨(clause.key, value), mem_entriesOf.2 ⟨_, hfound, rfl, rfl⟩, ?_⟩
      rw [Bool.and_eq_true, beq_iff_eq]
      exact ⟨rfl, hholds⟩

theorem Unique.predicate_holdsOf (h : Unique rows) (id : Int64) (p : Predicate) :
    p.holdsOf (entriesOf rows id) = p.holdsIn (loaded rows id) := by
  unfold Predicate.holdsOf Predicate.holdsIn
  cases p.clauses with
  | nil => rfl
  | cons first rest => simp only [h.clause_holdsOf]

end MetadataTable

/-! ## 4. The agreement -/

theorem MetadataSearchOptions.mem_of_mem_page {options : MetadataSearchOptions} {ids : List Int64}
    {id : Int64} (h : id ∈ options.page ids) : id ∈ ids := by
  have hordered := List.mem_of_mem_drop (List.mem_of_mem_take h)
  cases hdirection : options.direction with
  | ascending =>
    rw [hdirection] at hordered
    exact hordered
  | descending =>
    rw [hdirection] at hordered
    exact List.mem_reverse.1 hordered

/-- Objects that all have a row are loaded under their ids, and none is left out. -/
theorem NamedObject.map_id_stored {t : ObjectTable} (rows : List MetadataRow) {ids : List Int64}
    (h : ∀ id ∈ ids, ∃ name, t.rows[id]? = some name) :
    (ids.filterMap fun id => t.rows[id]?.map fun name => stored rows (id, name)).map (·.id) =
      ids := by
  induction ids with
  | nil => rfl
  | cons id rest ih =>
    obtain ⟨name, hrow⟩ := h id List.mem_cons_self
    rw [List.filterMap_cons, hrow, Option.map_some, List.map_cons,
      ih fun other hother => h other (List.mem_cons_of_mem _ hother)]
    rfl

namespace Repository

variable {r : Repository} {b : Backend} {t : ObjectTable} {rows : List MetadataRow} {p : Predicate}
  {plan : Plan}

theorem exists_row_of_mem_satisfying {id : Int64} (h : id ∈ t.satisfying rows p) :
    ∃ name, t.rows[id]? = some name := by
  have hmem := (ObjectTable.mem_satisfying.1 h).1
  rw [← Std.ExtTreeMap.isSome_getElem?_iff_mem, Option.isSome_iff_exists] at hmem
  exact hmem

/-- A search in a repository that serves answers how many objects satisfy its predicate, and the page
of them that it was asked for. The rows that are searched can be others than those that are loaded. -/
theorem metaSearch_eq {searched : List MetadataRow} (h : r.Serves b t rows)
    (hmeta : b.database.metadata r.metaTable = .ok searched)
    (hplan : Plan.ofPredicate r.metaTable p = .ok plan) (options : MetadataSearchOptions)
    (htaken : plan.Taken r.table options.direction searched) :
    ∃ c, r.metaSearch p options b = (.ok ⟨(t.satisfying searched p).length,
        (options.page (t.satisfying searched p)).filterMap fun id =>
          t.rows[id]?.map fun name => .stored rows (id, name)⟩, c) ∧
      r.Serves c t rows ∧ c.database = b.database := by
  let counted := b.record (.statement (.countMatches r.table plan) true)
  let listed := counted.record (.statement (.listMatches r.table plan options.direction
    (max options.limit 0) (max options.offset 0)) true)
  have hserves : r.Serves listed t rows :=
    h.of_database rfl ((h.coherent.record _).record _) h.works
  obtain ⟨c, hpage, hserves', hdb⟩ := loadAll_eq hserves (options.page (t.satisfying searched p))
  refine ⟨c, ?_, hserves', hdb⟩
  rw [metaSearch_of_taken hmeta h.ready.objects hplan options htaken, Action.map_eq_bind,
    Action.bind_of_ok hpage]
  rfl

/-- **A metadata search selects an object exactly if its predicate holds of the metadata that a lookup
returns.** After any requests the metadata table of a repository that has its own has one row for each
key of each object. And for every predicate that has a plan the two statements of a search are about a
list of ids: every object that is there is found by its id, and its id is on the list exactly if the
clauses, folded from the left, hold of its metadata. If the database takes the search, it answers the
length of the list and loads a page of it, and otherwise it fails and nothing has changed. -/
theorem metaSearch_agrees_with_load (hown : r.metadataStore = ⟨r.connection, r.metaTable⟩)
    {db : Database} {cache : Cache} {desk : Desk} (hdb : r.StartsEmpty db)
    (hempty : db.entries r.metaTable = []) (hcache : cache = .memory ∨ cache = .null)
    (hmoves : Relation.ReflTransGen r.Moves ⟨.start db cache, ∅⟩ desk) (hworks : desk.backend.Works)
    (hready : r.Ready desk.backend.database t rows) :
    MetadataTable.Unique rows ∧
    ∀ p plan, Plan.ofPredicate r.metaTable p = .ok plan →
      ∃ ids : List Int64, ids.Pairwise (· < ·) ∧
        (∀ id ∈ ids, ∃ name, t.rows[id]? = some name) ∧
        (∀ id name, t.rows[id]? = some name → ∃ object later,
          r.loadById id desk.backend = (.ok (some object), later) ∧
          object.id = id ∧ object.name = name ∧
          (id ∈ ids ↔ p.holdsIn object.metadata = true)) ∧
        ((∀ c ∈ p.clauses, c.IsShort) → MetadataTable.reachesLong rows plan.root = false) ∧
        ∀ options : MetadataSearchOptions,
          let count := Statement.countMatches r.table plan
          let list := Statement.listMatches r.table plan options.direction
            (max options.limit 0) (max options.offset 0)
          (MetadataTable.reachesLong rows plan.root = false →
            desk.backend.database.carryOut count = .ok (ids.length, desk.backend.database) ∧
            desk.backend.database.carryOut list =
              .ok (options.page ids, desk.backend.database)) ∧
          (plan.Taken r.table options.direction rows →
            ∃ result later, r.metaSearch p options desk.backend = (.ok result, later) ∧
              result.total = ids.length ∧ result.page.map (·.id) = options.page ids) ∧
          (¬ plan.Taken r.table options.direction rows →
            ∃ refusal later, desk.backend.SameState later ∧ r.metaSearch p options desk.backend =
              (.error (.storage (.database (Refusal.report refusal))), later)) := by
  have hserves : r.Serves desk.backend t rows :=
    ⟨hready, coherent_of_moves hdb hcache hmoves, hworks⟩
  have hmeta : desk.backend.database.metadata r.metaTable = .ok rows := by
    have h := hready.metadata
    rw [hown] at h
    exact h
  have hunique : MetadataTable.Unique rows := by
    rw [← Database.entries_eq_of_metadata hmeta]
    exact unique_of_moves hempty hmoves
  refine ⟨hunique, fun p plan hplan =>
    ⟨t.satisfying rows p, t.pairwise_satisfying rows p, fun _ => exists_row_of_mem_satisfying,
      ?_, ?_, fun options => ⟨fun hshort => ?_, fun htaken => ?_,
        metaSearch_of_not_taken hmeta hready.objects hplan options⟩⟩⟩
  · intro id name hrow
    obtain ⟨later, hload, -⟩ := loadById_eq hserves id
    rw [hrow, Option.map_some] at hload
    refine ⟨_, later, hload, rfl, rfl, ?_⟩
    rw [ObjectTable.mem_satisfying, hunique.predicate_holdsOf]
    have hthere : id ∈ t.rows := by
      rw [← Std.ExtTreeMap.isSome_getElem?_iff_mem, hrow]
      rfl
    exact and_iff_right hthere
  · intro hshort
    obtain ⟨first, rest, hp, -, rfl⟩ := Plan.ofPredicate_eq_ok_iff.1 hplan
    rw [hp] at hshort
    exact MetadataTable.reachesLong_ofClauses_eq_false hshort
  · obtain ⟨first, rest, hp, -, rfl⟩ := Plan.ofPredicate_eq_ok_iff.1 hplan
    exact ⟨Database.carryOut_countMatches hp hmeta hready.objects hshort,
      Database.carryOut_listMatches hp hmeta hready.objects hshort options⟩
  · obtain ⟨later, hsearch, -⟩ := metaSearch_eq hserves hmeta hplan options htaken
    refine ⟨_, later, hsearch, rfl, ?_⟩
    apply NamedObject.map_id_stored
    intro id hid
    exact exists_row_of_mem_satisfying (MetadataSearchOptions.mem_of_mem_page hid)

/-! ## 5. A small run

Two handles of one kettle both take its colour for a new key, and a kettle that was deleted gets a colour
through the handle that is left of it. There is one row for each of them, and a search for the last
colour of the first kettle finds it alone. -/

namespace TwoKettles

def repository : Repository := .ofType ⟨.sqlite, "", "", "", ""⟩ ⟨"kettle", by decide⟩

def requests : List Request :=
  [.install, .create "stove" "first", .loadById 1 (some "second"), .setMeta "first" "colour" "red",
    .update "first", .setMeta "second" "colour" "blue", .update "second", .create "shelf" "other",
    .delete "other", .setMeta "other" "colour" "blue", .saveMetadata "other"]

def desk : Desk := repository.runAll ⟨.start .empty .memory, ∅⟩ requests

def colours : List MetadataRow := [⟨1, "colour", "blue"⟩, ⟨2, "colour", "blue"⟩]

def blue : Predicate := .matching "colour" (.one "blue")

end TwoKettles

namespace TwoKettles

def objects : ObjectTable := ⟨.binary, .ofList [((1 : Int64), "stove")], 2⟩

theorem moves_desk : Relation.ReflTransGen repository.Moves ⟨.start .empty .memory, ∅⟩ desk := by
  have hplain : isPlainName repository.metadataStore.table = true := by decide +kernel
  refine moves_runAll ⟨nofun, nofun, nofun, nofun, nofun, nofun, nofun, nofun, fun _ => ?_, nofun,
    nofun, trivial⟩
  exact (MetadataStore.isThere_iff_of_isPlainName hplain).2
    ⟨[⟨1, "colour", "blue"⟩], by decide +kernel⟩

theorem metadata_desk : desk.backend.database.metadata repository.metaTable = .ok colours := by
  decide +kernel

theorem ready_desk : repository.Ready desk.backend.database objects colours :=
  .of_isPlainName (by decide +kernel) (by decide +kernel) (by decide +kernel) metadata_desk

end TwoKettles

open TwoKettles in
theorem metaSearch_agrees_with_load_twoKettles :
    desk.backend.database.metadata repository.metaTable = .ok colours ∧ MetadataTable.Unique colours ∧
    ∃ object later, repository.loadById 1 desk.backend = (.ok (some object), later) ∧
      blue.holdsIn object.metadata = true ∧
      ∃ result later, repository.metaSearch blue {} desk.backend = (.ok result, later) ∧
        result.page.map (·.id) = [1] := by
  let plan : Plan := ⟨repository.metaTable, .base ⟨0, "colour", [⟨.exact, "blue"⟩]⟩⟩
  have hplan : Plan.ofPredicate repository.metaTable blue = .ok plan := by decide +kernel
  have htaken : plan.Taken repository.table .descending colours :=
    ⟨by decide +kernel, by decide +kernel, by decide +kernel⟩
  obtain ⟨hunique, hagrees⟩ := metaSearch_agrees_with_load rfl startsEmpty_empty (by decide +kernel)
    (.inl rfl) moves_desk (works_runAll fun _ _ => rfl) ready_desk
  obtain ⟨ids, -, -, hload, -, hsearch⟩ := hagrees blue plan hplan
  obtain ⟨hanswers, hanswer, -⟩ := hsearch {}
  -- The search is for the kettle that is there.
  have hone : desk.backend.database.carryOut
      (.listMatches repository.table plan .descending (max 50 0) (max 0 0)) =
        .ok ([1], desk.backend.database) := by decide +kernel
  have hpage : MetadataSearchOptions.page {} ids = [1] :=
    (Prod.mk.inj (Except.ok.inj ((hanswers htaken.short).2.symm.trans hone))).1
  have hlisted : 1 ∈ MetadataSearchOptions.page {} ids := by
    rw [hpage]
    exact List.mem_cons_self
  have hfound : 1 ∈ ids := MetadataSearchOptions.mem_of_mem_page hlisted
  obtain ⟨object, later, hobject, -, -, hiff⟩ := hload 1 "stove" (by decide +kernel)
  obtain ⟨result, later', hresult, -, hids⟩ := hanswer htaken
  rw [hpage] at hids
  exact ⟨metadata_desk, hunique, object, later, hobject, hiff.1 hfound, result, later', hresult, hids⟩

open TwoKettles in
/-- The kettle has a colour and is blue, and the searches for this do not select it. -/
theorem kettle_not_selected :
    repository.StartsEmpty .empty ∧
    Relation.ReflTransGen repository.Moves ⟨.start .empty .memory, ∅⟩ desk ∧ desk.backend.Works ∧
    repository.Ready desk.backend.database objects colours ∧
    ∃ object later, repository.loadById 1 desk.backend = (.ok (some object), later) ∧
      ∀ p ∈ [Predicate.starred "colour" 50001, .repeated ⟨.or, "colour", .one "blue"⟩ 1100],
        (∃ plan, Plan.ofPredicate repository.metaTable p = .ok plan) ∧
        p.holdsIn object.metadata = true ∧
        ∀ options result later, repository.metaSearch p options desk.backend ≠ (.ok result, later) := by
  have hlong : Like.longestPattern < 50001 := by decide
  have hmany : Limit.nesting.bound < 1100 := by decide
  have hvalues : (⟨.or, "colour", .one "blue"⟩ : Clause).value.values ≠ [] := List.cons_ne_nil _ _
  have hserves : repository.Serves desk.backend objects colours :=
    ⟨ready_desk, coherent_of_moves startsEmpty_empty (.inl rfl) moves_desk,
      works_runAll fun _ _ => rfl⟩
  have hunique : MetadataTable.Unique colours := by
    rw [← Database.entries_eq_of_metadata metadata_desk]
    exact unique_of_moves (by decide +kernel) moves_desk
  have hholds : ∀ p : Predicate, p.holdsOf (MetadataTable.entriesOf colours 1) = true →
      p.holdsIn (NamedObject.stored colours (1, "stove")).metadata = true :=
    fun p h => (hunique.predicate_holdsOf 1 p).symm.trans h
  have hblue : ("colour", "blue") ∈ MetadataTable.entriesOf colours 1 :=
    MetadataTable.mem_entriesOf.2 ⟨⟨1, "colour", "blue"⟩, List.mem_cons_self, rfl, rfl⟩
  obtain ⟨later, hload, -⟩ := loadById_eq hserves 1
  have hrow : objects.rows[(1 : Int64)]? = some "stove" := by decide +kernel
  rw [hrow, Option.map_some] at hload
  refine ⟨startsEmpty_empty, moves_desk, works_runAll fun _ _ => rfl, ready_desk, _, later, hload,
    List.forall_mem_cons.2 ⟨⟨⟨_, Plan.ofPredicate_starred _ _ _⟩, ?_, ?_⟩,
      List.forall_mem_singleton.2 ⟨⟨_, Plan.ofPredicate_repeated hvalues _ _⟩, ?_, ?_⟩⟩⟩
  · exact hholds _ (Predicate.holdsOf_starred hblue 50000)
  · intro options result later hanswered
    obtain ⟨_, _, -, hrefused⟩ := metaSearch_starred metadata_desk ready_desk.objects
      (List.mem_cons_self : ⟨1, "colour", "blue"⟩ ∈ colours) rfl hlong options
    cases hanswered.symm.trans hrefused
  · have hclause : Clause.holdsOf (MetadataTable.entriesOf colours 1)
        ⟨.or, "colour", .one "blue"⟩ = true :=
      List.any_eq_true.2 ⟨_, hblue, by decide +kernel⟩
    exact hholds _ (Predicate.holdsOf_repeated hclause 1099)
  · intro options result later hanswered
    obtain ⟨_, _, -, hrefused⟩ := metaSearch_repeated metadata_desk ready_desk.objects hvalues hmany
      options
    cases hanswered.symm.trans hrefused

end Repository

end ObjectCatalog
