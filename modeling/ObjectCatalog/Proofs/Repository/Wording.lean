import ObjectCatalog.Proofs.Repository.Sending
import ObjectCatalog.Proofs.Sql.Bare

/-!
# What the texts of statements depend on

The texts that a request sends are made of the names of tables, of settings, of the order that a search
asks for, of whether it has a pattern at all, and of the shape of a predicate. This is the wording of a
request (`Request.wording`). Names, ids, metadata, the text that is searched for and the limits of a page
are data: they stand in the holes of a statement and reach the database as arguments.

So the kind of a statement and the wording of the request that sends it determine its text
(`Request.bare_of_sends`), and two runs that are worded in the same way send the same texts wherever they
send statements of the same kinds (`Repository.texts_carry_no_data`).
-/

namespace ObjectCatalog

/-! ## 1. Kinds of statements -/

/-- The kinds of statements. A lookup by id is another kind than one by name, and the index of one
column another than that of the other. -/
inductive StatementKind where
  | createObjects
  | createMetadata
  | createIndex (column : IndexedColumn)
  | insertObject
  | insertReturning
  | lastInsertId
  | renameObject
  | deleteObject
  | storedName
  | findById
  | findByName
  | countObjects
  | listObjects
  | deleteMetadata
  | deleteEntry
  | insertEntry
  | listMetadata
  | countMatches
  | listMatches
  deriving DecidableEq

def Statement.kind : Statement → StatementKind
  | .createObjects _ _ => .createObjects
  | .createMetadata _ _ => .createMetadata
  | .createIndex _ column => .createIndex column
  | .insertObject _ _ => .insertObject
  | .insertReturning _ _ => .insertReturning
  | .lastInsertId => .lastInsertId
  | .renameObject _ _ _ => .renameObject
  | .deleteObject _ _ => .deleteObject
  | .storedName _ _ => .storedName
  | .findObject _ (.id _) => .findById
  | .findObject _ (.name _) => .findByName
  | .countObjects _ _ => .countObjects
  | .listObjects _ _ _ _ _ _ => .listObjects
  | .deleteMetadata _ _ => .deleteMetadata
  | .deleteEntry _ _ _ => .deleteEntry
  | .insertEntry _ _ _ _ => .insertEntry
  | .listMetadata _ _ => .listMetadata
  | .countMatches _ _ => .countMatches
  | .listMatches _ _ _ _ _ => .listMatches

/-! ## 2. Wordings -/

/-- What the texts of a request may depend on, apart from the dialect. -/
structure Wording where
  table : String
  /-- The metadata table that searches read. -/
  metaTable : String
  /-- The metadata table that is written. -/
  storeTable : String
  tableOptions : String
  storeOptions : String
  /-- Whether a search is for a part of a name. -/
  filtered : Bool
  field : SortField
  direction : SortDirection
  shape : PredicateShape
  deriving DecidableEq

namespace Wording

/-- The statement of a kind without its data. -/
def statement (w : Wording) : StatementKind → Statement
  | .createObjects => .createObjects w.table w.tableOptions
  | .createMetadata => .createMetadata w.storeTable w.storeOptions
  | .createIndex column => .createIndex w.storeTable column
  | .insertObject => .insertObject w.table ""
  | .insertReturning => .insertReturning w.table ""
  | .lastInsertId => .lastInsertId
  | .renameObject => .renameObject w.table "" 0
  | .deleteObject => .deleteObject w.table 0
  | .storedName => .storedName w.table 0
  | .findById => .findObject w.table (.id 0)
  | .findByName => .findObject w.table (.name "")
  | .countObjects => .countObjects w.table (if w.filtered then some "" else none)
  | .listObjects =>
    .listObjects w.table (if w.filtered then some "" else none) w.field w.direction 0 0
  | .deleteMetadata => .deleteMetadata w.storeTable 0
  | .deleteEntry => .deleteEntry w.storeTable 0 ""
  | .insertEntry => .insertEntry w.storeTable 0 "" ""
  | .listMetadata => .listMetadata w.storeTable 0
  | .countMatches => .countMatches w.table (.ofShape w.metaTable w.shape)
  | .listMatches => .listMatches w.table (.ofShape w.metaTable w.shape) w.direction 0 0

/-- The text of all statements of a kind. -/
def text (w : Wording) (d : Dialect) (kind : StatementKind) : String :=
  (w.statement kind).text d

/-- A statement of a kind with these arguments. -/
def template (w : Wording) (d : Dialect) (kind : StatementKind) (args : List Arg) : Template :=
  ((w.statement kind).template d).fill args

end Wording

/-- How the tables of a repository are spoken of. -/
def Repository.wording (r : Repository) : Wording where
  table := r.table
  metaTable := r.metaTable
  storeTable := r.metadataStore.table
  tableOptions := r.connection.tableOptions
  storeOptions := r.metadataStore.connection.tableOptions
  filtered := false
  field := .id
  direction := .ascending
  shape := ⟨[], []⟩

/-- The wording of a request. Only searches have one of their own. -/
def Request.wording (r : Repository) : Request → Wording
  | .search query options => { r.wording with
      filtered := Text.trim query != ""
      field := options.field
      direction := options.direction }
  | .metaSearch p options => { r.wording with
      direction := options.direction
      shape := p.shape }
  | _ => r.wording

namespace Request

variable {r : Repository} {request : Request} {s : Statement}

theorem map_namePattern (query : String) :
    (Repository.namePattern query).map (fun _ => "") =
      if Text.trim query != "" then some "" else none := by
  unfold Repository.namePattern
  by_cases h : Text.trim query = "" <;> simp [h]

/-- Without its data a statement is what the wording of the request makes of its kind. -/
theorem bare_of_sends (h : request.Sends r s) : s.bare = (request.wording r).statement s.kind := by
  cases h with
  | findObject lookup => cases lookup <;> cases request <;> rfl
  | countObjects h =>
    rw [h, Statement.bare, map_namePattern]
    rfl
  | listObjects h =>
    rw [h, Statement.bare, map_namePattern]
    rfl
  | countMatches h hplan =>
    rw [h, Statement.bare, Plan.bare_eq_ofShape hplan]
    rfl
  | listMatches h hplan =>
    rw [h, Statement.bare, Plan.bare_eq_ofShape hplan]
    rfl
  | _ => cases request <;> rfl

theorem text_of_sends (h : request.Sends r s) (d : Dialect) :
    s.text d = (request.wording r).text d s.kind := by
  rw [← Statement.text_bare, bare_of_sends h]
  rfl

/-- The rest of a statement are its arguments, each in its hole. -/
theorem template_of_sends (h : request.Sends r s) (d : Dialect) :
    s.template d = (request.wording r).template d s.kind (s.args d) := by
  rw [Wording.template, ← bare_of_sends h, Statement.template_bare]
  exact (Template.fill_bare _).symm

end Request

/-! ## 3. What is sent -/

/-- The statement that was sent, if it was no call of the cache. -/
def Event.statement? : Event → Option Statement
  | .statement s _ => some s
  | .cacheCall _ _ => none

/-- The statements that a request sends from a desk, in order, and also those that are refused. -/
def Request.sent (request : Request) (r : Repository) (desk : Desk) : List Statement :=
  let desk : Desk := ⟨.start desk.backend.database desk.backend.cache, desk.handles⟩
  (request.run r desk).2.backend.journal.filterMap Event.statement?

/-- Whatever the tables, the cache and the handles hold, a request sends nothing but what it may. -/
theorem Request.sends_of_mem_sent {r : Repository} {request : Request} {desk : Desk} {s : Statement}
    (h : s ∈ request.sent r desk) : request.Sends r s := by
  -- The journal begins empty, and what is added to it is looked at once for each kind of event.
  let P : Backend → Prop := fun b => ∀ s ∈ b.journal.filterMap Event.statement?, request.Sends r s
  have hstatement : ∀ {b : Backend} {s : Statement} {bound : Bool}, request.Sends r s → P b →
      P (b.record (.statement s bound)) := by
    intro b s bound hs hb other hother
    rw [Backend.record, List.filterMap_append] at hother
    rcases List.mem_append.1 hother with hother | hother
    · exact hb other hother
    · exact List.mem_singleton.1 hother ▸ hs
  have hcall : ∀ {b c : Backend} {call : CacheCall} {key : String},
      c.journal = b.journal ++ [.cacheCall call key] → P b → P c := by
    intro b c call key hjournal hb other hother
    rw [hjournal, List.filterMap_append] at hother
    exact hb other ((List.mem_append.1 hother).resolve_right List.not_mem_nil)
  refine keeps_of_sends (P := P) (fun hs => ?_) (fun key b => hcall (Backend.journal_fetch key b))
    (fun key text b => hcall (Backend.journal_store key text b))
    (fun key b => hcall (Backend.journal_delete key b)) (fun _ habsurd => absurd habsurd List.not_mem_nil) s h
  exact Action.meets_iff_keeps.1 <| Backend.meets_send (fun _ _ _ hb _ => hstatement hs hb)
    fun _ _ hb _ => hstatement hs hb

/-- The texts that a request sends can be told from its wording and the kinds of its statements. -/
theorem Request.texts_sent (request : Request) (r : Repository) (desk : Desk) (d : Dialect) :
    (request.sent r desk).map (·.text d) =
      ((request.sent r desk).map (·.kind)).map ((request.wording r).text d) := by
  rw [List.map_map]
  exact List.map_congr_left fun s hs => text_of_sends (sends_of_mem_sent hs) d

/-! ## 4. Runs -/

namespace Repository

/-- What is sent along a run, for each of its requests. -/
def sentAll (r : Repository) (desk : Desk) : List Request → List (List Statement)
  | [] => []
  | request :: rest => request.sent r desk :: sentAll r (request.run r desk).2 rest

/-- Runs that are worded in the same way send the same texts where they send the same kinds. The
induction is on the requests of both runs at once. -/
theorem texts_sentAll {r r' : Repository} {d : Dialect} {requests requests' : List Request}
    (hwording : requests.map (·.wording r) = requests'.map (·.wording r')) {desk desk' : Desk}
    (hkinds : (r.sentAll desk requests).map (·.map (·.kind)) =
      (r'.sentAll desk' requests').map (·.map (·.kind))) :
    (r.sentAll desk requests).map (·.map (·.text d)) =
      (r'.sentAll desk' requests').map (·.map (·.text d)) := by
  induction requests generalizing requests' desk desk' with
  | nil =>
    cases requests' with
    | nil => rfl
    | cons request rest => cases hwording
  | cons request rest ih =>
    cases requests' with
    | nil => cases hwording
    | cons request' rest' =>
      obtain ⟨hfirst, hrest⟩ := List.cons.inj hwording
      obtain ⟨hkind, hkinds'⟩ := List.cons.inj hkinds
      have hsame : request.wording r = request'.wording r' := hfirst
      have hlike : (request.sent r desk).map (·.kind) = (request'.sent r' desk').map (·.kind) := hkind
      have htexts : (request.sent r desk).map (·.text d) =
          (request'.sent r' desk').map (·.text d) := by
        rw [request.texts_sent, request'.texts_sent, hsame, hlike]
      rw [sentAll, sentAll, List.map_cons, List.map_cons, ih hrest hkinds', htexts]

/-- **No data of a caller is in the text of a statement.** Two predicates of one shape have one text, in
every dialect, over every relation and after any number of placeholders, if one of them has a text at
all. Of every statement that a request sends, whatever it finds, the text is made of the wording of the
request and the kind of the statement, and all else that the statement has are the arguments in its
holes. And two runs that are worded in the same way and send statements of the same kinds send the same
texts. -/
theorem texts_carry_no_data (d : Dialect) :
    (∀ p q : Predicate, p.shape = q.shape → ∀ relation plan, Plan.ofPredicate relation p = .ok plan →
      ∃ plan', Plan.ofPredicate relation q = .ok plan' ∧ ∀ taken,
        (plan'.condition d taken).text = (plan.condition d taken).text ∧
        (plan'.condition d taken).taken = (plan.condition d taken).taken) ∧
    (∀ (r : Repository) (request : Request) (desk : Desk), ∀ s ∈ request.sent r desk,
      s.text d = (request.wording r).text d s.kind ∧
      s.template d = (request.wording r).template d s.kind (s.args d)) ∧
    ∀ (r r' : Repository) (requests requests' : List Request) (desk desk' : Desk),
      requests.map (·.wording r) = requests'.map (·.wording r') →
      (r.sentAll desk requests).map (·.map (·.kind)) =
        (r'.sentAll desk' requests').map (·.map (·.kind)) →
      (r.sentAll desk requests).map (·.map (·.text d)) =
        (r'.sentAll desk' requests').map (·.map (·.text d)) := by
  refine ⟨fun p q hshape relation plan hplan => ?_, fun r request desk s hs => ?_,
    fun r r' requests requests' desk desk' hwording hkinds => texts_sentAll hwording hkinds⟩
  · obtain ⟨plan', hplan', hbare⟩ := Plan.exists_of_shape_eq hshape hplan
    exact ⟨plan', hplan', Plan.condition_of_bare hbare d⟩
  · have hsends := Request.sends_of_mem_sent hs
    exact ⟨Request.text_of_sends hsends d, Request.template_of_sends hsends d⟩

/-! ## 5. Two small runs

The one is what a program is for, and in the other every name, key, value and query is a piece of a
statement. They send the same texts. -/

namespace QuotedNotes

def repository : Repository := .ofType ⟨.sqlite, "", "", "", ""⟩ ⟨"note", by decide⟩

def desk : Desk := ⟨.start .empty .null, ∅⟩

def run (name key value query : String) (limit : Int64) (p : Predicate) : List Request :=
  [.install, .create name "first", .setMeta "first" key value, .update "first",
    .search query { limit := limit }, .metaSearch p { limit := limit }]

def harmless : Predicate := .matching "colour" (.anyOf ["red", "*een"])

def hostile : Predicate := .matching "' OR m0.name <> '" (.anyOf ["?2", "*'; DROP TABLE note; --"])

def requests : List Request := run "tea" "colour" "blue" "milk" 50 harmless

def attack : List Request :=
  run "x'); DROP TABLE note; --" "m0" "$1' OR ''='" "%' ESCAPE '!' OR 1=1 --" 1 hostile

end QuotedNotes

open QuotedNotes in
theorem texts_carry_no_data_quotedNotes :
    (∃ plan plan', Plan.ofPredicate "note_meta" harmless = .ok plan ∧
      Plan.ofPredicate "note_meta" hostile = .ok plan' ∧
      (plan'.condition .postgres 3).text = (plan.condition .postgres 3).text) ∧
    (repository.sentAll desk attack).map (·.map (·.text .sqlite)) =
      (repository.sentAll desk requests).map (·.map (·.text .sqlite)) ∧
    ∀ s ∈ (Request.create "x'); DROP TABLE note; --" "first").sent repository desk,
      s.text .sqlite = repository.wording.text .sqlite s.kind := by
  obtain ⟨hconditions, -, -⟩ := texts_carry_no_data .postgres
  obtain ⟨-, hsent, hruns⟩ := texts_carry_no_data .sqlite
  refine ⟨?_, ?_, fun s hs => (hsent repository _ desk s hs).1⟩
  · have hplan : ∃ plan, Plan.ofPredicate "note_meta" harmless = .ok plan :=
      Plan.exists_ofPredicate_iff.2 (by decide +kernel)
    obtain ⟨plan, hplan⟩ := hplan
    obtain ⟨plan', hplan', htext⟩ := hconditions harmless hostile (by decide +kernel) _ plan hplan
    exact ⟨plan, plan', hplan, hplan', (htext 3).1⟩
  · exact hruns repository repository attack requests desk desk (by decide +kernel)
      (by decide +kernel)

end Repository

end ObjectCatalog
