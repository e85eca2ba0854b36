import ObjectCatalog.Proofs.Repository.Dialects
import ObjectCatalog.Session.Basic

/-!
# One store in three dialects

All repositories of a session speak the dialect of its one database. One list of operations is carried
out in two dialects here. Both sessions are compared with a third one, in the dialect whose metadata
tables bring their indexes with them, on the database without its indexes: an operation ends there as it
does in any dialect and leaves the same behind (`Session.visit_withoutIndexes`), and so does a list of
them (`Session.run_withoutIndexes`).

For this every table must have one use, and no table may have the name of an index
(`Layout.Apart`). Otherwise the indexes that are created by themselves are in the way of a table, or a
table is in theirs, and an installation fails that goes well in the third dialect.
-/

namespace ObjectCatalog

/-! ## 1. Sessions in a dialect -/

/-- The seat in a session whose database speaks another dialect. -/
def Seat.inDialect (seat : Seat) (d : Dialect) : Seat :=
  { seat with repository := seat.repository.inDialect d }

/-- The tables that can be edited at a seat. -/
def Seat.tables (seat : Seat) : EditedTables :=
  ⟨seat.repository.table, seat.repository.metadataStore.table⟩

/-- An operation and the seat at which it is done. -/
structure Visit where
  seat : Seat
  operation : Operation

def Visit.repository (v : Visit) : Repository :=
  v.seat.repository

/-- The tables that the seats of a list of operations use. -/
def layoutOf (visits : List Visit) : Layout where
  objects := visits.map fun v => v.repository.table
  metadata := visits.map fun v => v.repository.metadataStore.table

theorem has_layoutOf {visits : List Visit} {v : Visit} (hv : v ∈ visits) :
    (layoutOf visits).Has v.repository :=
  ⟨List.mem_map_of_mem hv, List.mem_map_of_mem hv⟩

namespace Session

variable {session session' : Session} {d d' : Dialect} {l : Layout} {v : Visit}

/-- The desk at which the requests of a seat are made. -/
def desk (session : Session) (seat : Seat) : Desk :=
  ⟨.start session.database (session.cacheOf seat), session.handles⟩

def visit (session : Session) (d : Dialect) (v : Visit) : Outcome × Session :=
  session.step (v.seat.inDialect d) v.operation

def outcomes (session : Session) (d : Dialect) : List Visit → List Outcome
  | [] => []
  | v :: rest => (session.visit d v).1 :: outcomes (session.visit d v).2 d rest

/-- The session after a list of operations. -/
def after (session : Session) (d : Dialect) (visits : List Visit) : Session :=
  visits.foldl (fun session v => (session.visit d v).2) session

theorem visit_request (session : Session) (d : Dialect) (seat : Seat) (request : Request) :
    session.visit d ⟨seat, .request request⟩ =
      let done := request.run (seat.repository.inDialect d) (session.desk seat)
      (⟨done.1.map .reply, done.2.backend.journal⟩,
        ⟨done.2.backend.database, session.caches.insert seat.cache done.2.backend.cache,
          done.2.handles⟩) := rfl

section Edits

variable {seat : Seat} {edit : TableEdit}

theorem visit_edit_of_error {refusal : Refusal}
    (h : edit.run seat.tables session.database = .error refusal) (d : Dialect) :
    session.visit d ⟨seat, .edit edit⟩ =
      (⟨.error (.storage (.database refusal.report)), []⟩, session) := by
  have hrun : edit.run (seat.inDialect d).tables session.database = .error refusal := h
  unfold Seat.tables at hrun
  simp only [visit, step, hrun]

theorem visit_edit_of_ok {reply : EditReply} {db : Database}
    (h : edit.run seat.tables session.database = .ok (reply, db)) (d : Dialect) :
    session.visit d ⟨seat, .edit edit⟩ =
      (⟨.ok (.edited reply), []⟩, { session with database := db }) := by
  have hrun : edit.run (seat.inDialect d).tables session.database = .ok (reply, db) := h
  unfold Seat.tables at hrun
  simp only [visit, step, hrun]

end Edits

/-! ## 2. Sessions without indexes -/

def withoutIndexes (session : Session) : Session :=
  { session with database := session.database.withoutIndexes }

theorem desk_withoutIndexes (session : Session) (seat : Seat) :
    session.withoutIndexes.desk seat =
      ⟨(session.desk seat).backend.withoutIndexes, session.handles⟩ := rfl

theorem withoutIndexes_of_isEmpty (caches : List (String × Cache)) {db : Database}
    (h : db.indexes = ∅) : (start db caches).withoutIndexes = start db caches := by
  rw [withoutIndexes, start, Database.withoutIndexes, ← h]

/-- Every operation ends in every dialect as it does in the one without indexes of its own, and leaves
the same behind but for the indexes. -/
theorem visit_withoutIndexes (hl : l.Apart) (hv : l.Has v.repository)
    (hread : v.repository.ReadAlike) (h : l.Fits session.database) (d : Dialect) :
    (session.withoutIndexes.visit .mySql v).1.result = (session.visit d v).1.result ∧
      (session.withoutIndexes.visit .mySql v).2 = (session.visit d v).2.withoutIndexes := by
  obtain ⟨seat, operation⟩ := v
  cases operation with
  | request request =>
    have halike := Request.mirrors_inDialect (b := (session.desk seat).backend) hl hv hread h request
      session.handles d
    rw [visit_request, visit_request, desk_withoutIndexes]
    refine ⟨congrArg (·.map Answer.reply) halike.answer, ?_⟩
    simp only [withoutIndexes, mk.injEq]
    exact ⟨halike.backend.database, congrArg (session.caches.insert seat.cache) halike.backend.cache,
      halike.handles⟩
  | edit edit =>
    have hname := h.unindexed seat.tables.objects (List.mem_append_left _ hv.objects)
    have hedit : edit.run seat.tables session.withoutIndexes.database =
        (edit.run seat.tables session.database).map fun done => (done.1, done.2.withoutIndexes) :=
      Database.edit_withoutIndexes hname edit
    rcases hrun : edit.run seat.tables session.database with refusal | ⟨reply, db⟩
    · rw [hrun] at hedit
      rw [visit_edit_of_error hrun, visit_edit_of_error hedit]
      exact ⟨rfl, rfl⟩
    · rw [hrun] at hedit
      rw [visit_edit_of_ok hrun, visit_edit_of_ok hedit]
      exact ⟨rfl, rfl⟩
  | dumpCache | putInCache | breakCache | repairCache => exact ⟨rfl, rfl⟩

/-- What an operation leaves fits the layout. -/
theorem fits_visit (hl : l.Apart) (hv : l.Has v.repository) (h : l.Fits session.database)
    (d : Dialect) : l.Fits (session.visit d v).2.database := by
  obtain ⟨seat, operation⟩ := v
  cases operation with
  | request request =>
    rw [visit_request]
    exact Layout.Fits.request (r := seat.repository.inDialect d) hl ⟨hv.objects, hv.metadata⟩ h request
  | edit edit =>
    rcases hrun : edit.run seat.tables session.database with refusal | ⟨reply, db⟩
    · rw [visit_edit_of_error hrun]
      exact h
    · rw [visit_edit_of_ok hrun]
      exact h.edit hl hv.objects hrun
  | dumpCache | putInCache | breakCache | repairCache => exact h

/-- So every list of operations ends as it does in the dialect without indexes of its own. The induction
is on the operations; that the database fits the layout carries it. -/
theorem run_withoutIndexes (hl : l.Apart) (h : l.Fits session.database) (d : Dialect)
    {visits : List Visit} (hhas : ∀ v ∈ visits, l.Has v.repository)
    (hread : ∀ v ∈ visits, v.repository.ReadAlike) :
    (session.withoutIndexes.outcomes .mySql visits).map (·.result) =
        (session.outcomes d visits).map (·.result) ∧
      session.withoutIndexes.after .mySql visits = (session.after d visits).withoutIndexes ∧
      l.Fits (session.after d visits).database := by
  induction visits generalizing session with
  | nil => exact ⟨rfl, rfl, h⟩
  | cons v rest ih =>
    have hv := hhas v List.mem_cons_self
    obtain ⟨hresult, hnext⟩ := visit_withoutIndexes hl hv (hread v List.mem_cons_self) h d
    obtain ⟨hresults, hafter, hfits⟩ := ih (fits_visit hl hv h d)
      (fun other hother => hhas other (List.mem_cons_of_mem _ hother))
      fun other hother => hread other (List.mem_cons_of_mem _ hother)
    rw [← hnext] at hresults hafter
    refine ⟨?_, hafter, hfits⟩
    rw [outcomes, outcomes, List.map_cons, List.map_cons, hresult, hresults]

/-- Nothing but their indexes tells two sessions apart. -/
structure SameStore (session session' : Session) : Prop where
  tables : session'.database.tables = session.database.tables
  lastInsertId : session'.database.lastInsertId = session.database.lastInsertId
  readOnly : session'.database.readOnly = session.database.readOnly
  caches : session'.caches = session.caches
  handles : session'.handles = session.handles

theorem SameStore.of_withoutIndexes (h : session'.withoutIndexes = session.withoutIndexes) :
    SameStore session session' where
  tables := congrArg (·.database.tables) h
  lastInsertId := congrArg (·.database.lastInsertId) h
  readOnly := congrArg (·.database.readOnly) h
  caches := congrArg (·.caches) h
  handles := congrArg (·.handles) h

end Session

/-! ## 3. What is sent -/

def Operation.Installs : Operation → Prop
  | .request asked => asked.Installs
  | _ => False

def Operation.IsCreate : Operation → Prop
  | .request asked => asked.IsCreate
  | _ => False

/-- No name of a table has a sign of a mark in it. -/
structure Repository.MarkFree (r : Repository) : Prop where
  table : markFree r.table = true
  metaTable : markFree r.metaTable = true
  metadataTable : markFree r.metadataStore.table = true

/-- What an operation sends in two dialects: the same calls of the cache, and, but for installations and
creations, the same statements with the same arguments, whose texts are the same up to the numbers of
their marks. An installation creates tables and indexes and sends nothing else. A creation inserts the
name in the way of its dialect. -/
structure Visit.SentAlike (v : Visit) (d d' : Dialect) (outcome outcome' : Outcome) : Prop where
  calls : shownCalls outcome'.sent = shownCalls outcome.sent
  statements : ¬ v.operation.Installs → ¬ v.operation.IsCreate → outcome'.sent = outcome.sent ∧
    ∀ s bound, .statement s bound ∈ outcome.sent → s.args d' = s.args d ∧
      (v.repository.MarkFree → Text.unnumbered (s.text d') = Text.unnumbered (s.text d))
  installation : v.operation.Installs → ∀ event ∈ outcome.sent ++ outcome'.sent, event.Creates
  creation : ∀ raw handle, v.operation = .request (.create raw handle) → ∃ bound,
    outcome.sent = d.creation v.repository.table raw bound outcome.result.isOk ∧
      outcome'.sent = d'.creation v.repository.table raw bound outcome'.result.isOk

/-- Neither installations nor creations call the cache. -/
theorem shownCalls_of_creates {sent : List Event} (h : ∀ event ∈ sent, event.Creates) :
    shownCalls sent = [] := by
  rw [shownCalls, List.filterMap_eq_nil_iff]
  intro event hevent
  cases event with
  | statement s bound => rfl
  | cacheCall call key => exact (h _ hevent).elim

theorem shownCalls_creation (d : Dialect) (table raw : String) (bound inserted : Bool) :
    shownCalls (d.creation table raw bound inserted) = [] := by
  unfold Dialect.creation Dialect.insertion
  split
  · rfl
  · split
    · rfl
    · cases inserted <;> rfl

/-- A statement of a request that installs nothing is the same in two dialects up to the numbers of its
marks. -/
theorem Request.spelled_alike {request : Request} {r : Repository} {s : Statement}
    (hs : request.Sends r s) (hinstalls : ¬ request.Installs) (d d' : Dialect) :
    s.args d' = s.args d ∧
      (r.MarkFree → Text.unnumbered (s.text d') = Text.unnumbered (s.text d)) := by
  have hcreates := not_creates_of_sends hs hinstalls
  refine ⟨Statement.args_eq_of_not_creates hcreates d d', fun hfree => ?_⟩
  have hnames : ∀ name ∈ s.names, markFree name = true := by
    intro name hname
    rcases names_of_sends hs hcreates name hname with rfl | rfl | rfl
    · exact hfree.table
    · exact hfree.metaTable
    · exact hfree.metadataTable
  rw [Statement.unnumbered_text hcreates hnames, Statement.unnumbered_text hcreates hnames]

namespace Visit.SentAlike

variable {v : Visit} {d d' : Dialect} {outcome outcome' : Outcome}

theorem of_installation (h : v.operation.Installs)
    (hcreates : ∀ event ∈ outcome.sent ++ outcome'.sent, event.Creates) :
    v.SentAlike d d' outcome outcome' where
  calls := by
    rw [shownCalls_of_creates fun event hevent => hcreates event (List.mem_append_left _ hevent),
      shownCalls_of_creates fun event hevent => hcreates event (List.mem_append_right _ hevent)]
  statements hinstalls := absurd h hinstalls
  installation _ := hcreates
  creation raw handle hcreate := by
    rw [hcreate] at h
    exact h.elim

theorem of_creation {raw handle : String} (bound : Bool)
    (h : v.operation = .request (.create raw handle))
    (hsent : outcome.sent = d.creation v.repository.table raw bound outcome.result.isOk)
    (hsent' : outcome'.sent = d'.creation v.repository.table raw bound outcome'.result.isOk) :
    v.SentAlike d d' outcome outcome' where
  calls := by rw [hsent, hsent', shownCalls_creation, shownCalls_creation]
  statements _ hcreate := by
    rw [h] at hcreate
    exact absurd trivial hcreate
  installation hinstalls := by
    rw [h] at hinstalls
    exact hinstalls.elim
  creation raw' handle' h' := by
    rw [h] at h'
    cases h'
    exact ⟨bound, hsent, hsent'⟩

theorem of_statements (hinstalls : ¬ v.operation.Installs) (hcreate : ¬ v.operation.IsCreate)
    (hsame : outcome'.sent = outcome.sent)
    (hspelled : ∀ s bound, .statement s bound ∈ outcome.sent → s.args d' = s.args d ∧
      (v.repository.MarkFree → Text.unnumbered (s.text d') = Text.unnumbered (s.text d))) :
    v.SentAlike d d' outcome outcome' where
  calls := by rw [hsame]
  statements _ _ := ⟨hsame, hspelled⟩
  installation h := absurd h hinstalls
  creation raw handle h := by
    rw [h] at hcreate
    exact absurd trivial hcreate

/-- An operation that is no request sends nothing. -/
theorem of_nothing (hrequest : ∀ request, v.operation ≠ .request request)
    (hsent : outcome.sent = []) (hsent' : outcome'.sent = []) :
    v.SentAlike d d' outcome outcome' := by
  obtain ⟨seat, operation⟩ := v
  cases operation with
  | request request => exact absurd rfl (hrequest request)
  | _ =>
    refine of_statements id id (hsent'.trans hsent.symm) fun s bound hs => ?_
    rw [hsent] at hs
    exact absurd hs List.not_mem_nil

end Visit.SentAlike

namespace Session

variable {session session' : Session} {d : Dialect} {v : Visit}

/-- Requests are made at desks that are the same but for the indexes. -/
theorem desk_of_same (h : session'.withoutIndexes = session.withoutIndexes) (seat : Seat) :
    session'.desk seat = ⟨(session'.desk seat).backend, session.handles⟩ ∧
      (session'.desk seat).backend.withoutIndexes = (session.desk seat).backend.withoutIndexes := by
  have hhandles : session'.handles = session.handles := congrArg (·.handles) h
  exact ⟨hhandles ▸ rfl, congrArg (fun session => (session.desk seat).backend) h⟩

theorem sent_request (session : Session) (d : Dialect) (seat : Seat) (request : Request) :
    (session.visit d ⟨seat, .request request⟩).1.sent =
      (request.run (seat.repository.inDialect d) (session.desk seat)).2.backend.journal := rfl

theorem result_request (session : Session) (d : Dialect) (seat : Seat) (request : Request) :
    (session.visit d ⟨seat, .request request⟩).1.result =
      (request.run (seat.repository.inDialect d) (session.desk seat)).1.map .reply := rfl

theorem isOk_request (session : Session) (d : Dialect) (seat : Seat) (request : Request) :
    (session.visit d ⟨seat, .request request⟩).1.result.isOk =
      (request.run (seat.repository.inDialect d) (session.desk seat)).1.isOk := by
  rw [result_request]
  cases (request.run (seat.repository.inDialect d) (session.desk seat)).1 <;> rfl

theorem sent_install (session : Session) (d : Dialect) (seat : Seat) {request : Request}
    (hinstalls : request.Installs) :
    ∀ event ∈ (session.visit d ⟨seat, .request request⟩).1.sent, event.Creates := by
  rw [sent_request]
  exact Request.creates_of_installs hinstalls fun _ hevent => absurd hevent List.not_mem_nil

theorem sent_create (seat : Seat) (hread : seat.repository.ReadAlike)
    (hkind : ∀ rows, session.database.table? seat.repository.table ≠ some (.metadata rows))
    (raw handle : String) :
    ∃ bound, ∀ (d : Dialect) (session' : Session),
      session'.withoutIndexes = session.withoutIndexes →
      (session'.visit d ⟨seat, .request (.create raw handle)⟩).1.sent =
        d.creation seat.repository.table raw bound
          (session'.visit d ⟨seat, .request (.create raw handle)⟩).1.result.isOk := by
  obtain ⟨bound, hjournal⟩ := Request.journal_create (b := (session.desk seat).backend) hread hkind
    session.handles raw handle
  refine ⟨bound, fun d session' hsame => ?_⟩
  obtain ⟨hdesk, hbackend⟩ := desk_of_same hsame seat
  rw [sent_request, isOk_request, hdesk, hjournal d _ hbackend]
  exact List.nil_append _

/-- Whatever else is sent is the same in both. -/
theorem sent_same (hsame : session'.withoutIndexes = session.withoutIndexes) (seat : Seat)
    {request : Request} (hinstalls : ¬ request.Installs) (hcreate : ¬ request.IsCreate)
    (d d' : Dialect) :
    (session'.visit d' ⟨seat, .request request⟩).1.sent =
      (session.visit d ⟨seat, .request request⟩).1.sent := by
  obtain ⟨hdesk, hbackend⟩ := desk_of_same hsame seat
  obtain ⟨hdesk', -⟩ := desk_of_same (rfl : session.withoutIndexes = session.withoutIndexes) seat
  rw [sent_request, sent_request, hdesk, hdesk', Request.journal_inDialect hinstalls hcreate,
    Request.journal_inDialect hinstalls hcreate, hbackend]

/-- An operation sends alike in two sessions that are the same but for their indexes. -/
theorem sent_alike (hsame : session'.withoutIndexes = session.withoutIndexes)
    (hread : v.repository.ReadAlike)
    (hkind : ∀ rows, session.database.table? v.repository.table ≠ some (.metadata rows))
    (d d' : Dialect) :
    v.SentAlike d d' (session.visit d v).1 (session'.visit d' v).1 := by
  obtain ⟨seat, operation⟩ := v
  cases operation with
  | request request =>
    by_cases hinstalls : request.Installs
    · refine .of_installation hinstalls fun event hevent => ?_
      rcases List.mem_append.1 hevent with hevent | hevent
      · exact sent_install session d seat hinstalls event hevent
      · exact sent_install session' d' seat hinstalls event hevent
    · by_cases hcreate : request.IsCreate
      · cases request with
        | create raw handle =>
          obtain ⟨bound, hsent⟩ := sent_create seat hread hkind raw handle
          exact .of_creation bound rfl (hsent d session rfl) (hsent d' session' hsame)
        | _ => exact hcreate.elim
      · refine .of_statements hinstalls hcreate (sent_same hsame seat hinstalls hcreate d d')
          fun s bound hs => ?_
        have hsent : s ∈ request.sent (seat.repository.inDialect d) (session.desk seat) :=
          List.mem_filterMap.2 ⟨_, hs, rfl⟩
        obtain ⟨hargs, htext⟩ :=
          Request.spelled_alike (Request.sends_of_mem_sent hsent) hinstalls d d'
        exact ⟨hargs, fun hfree => htext ⟨hfree.table, hfree.metaTable, hfree.metadataTable⟩⟩
  | edit edit =>
    have hnothing : ∀ (session : Session) (d : Dialect),
        (session.visit d ⟨seat, .edit edit⟩).1.sent = [] := by
      intro session d
      rcases hrun : edit.run seat.tables session.database with refusal | ⟨reply, db⟩
      · rw [visit_edit_of_error hrun]
      · rw [visit_edit_of_ok hrun]
    exact .of_nothing nofun (hnothing session d) (hnothing session' d')
  | dumpCache | putInCache | breakCache | repairCache => exact .of_nothing nofun rfl rfl

/-- The object that a creation answers is that of the row it added. -/
theorem row_of_create (hread : v.repository.ReadAlike)
    (hkind : ∀ rows, session.database.table? v.repository.table ≠ some (.metadata rows))
    {raw handle : String} {held : Handle} (hcreate : v.operation = .request (.create raw handle))
    (hresult : (session.visit d v).1.result = .ok (.reply (.object held))) :
    held.object.name = Text.trim raw ∧ v.repository.AddsRow session.database
      (session.visit d v).2.database held.object.id held.object.name := by
  obtain ⟨seat, operation⟩ := v
  cases hcreate
  rw [visit_request] at hresult ⊢
  rcases hrun : (Request.create raw handle).run (seat.repository.inDialect d) (session.desk seat) with
    ⟨e | reply, desk⟩
  · rw [hrun] at hresult
    cases hresult
  · rw [hrun] at hresult
    cases hresult
    exact Request.row_of_create hread hkind hrun

/-! ## 4. Three dialects -/

/-- **The three dialects are one store.** Where every table has one use, no table has the name of an
index, and the database reads the spellings of all dialects alike, a list of operations from an empty
database ends in the same results in any two dialects, and leaves the same tables, caches and handles.
At every operation the same is sent but for the numbers of marks, for installations and for the
statements of a creation: these insert the name with a clause that returns the id, or ask for the id
after an insertion that succeeded. Either way the object that a creation answers is the row that it
added. -/
theorem dialects_are_one_store {db : Database} (htables : db.tables = ∅) (hindexes : db.indexes = ∅)
    (caches : List (String × Cache)) {visits : List Visit} (hapart : (layoutOf visits).Apart)
    (hread : ∀ v ∈ visits, v.repository.ReadAlike) (d d' : Dialect) :
    ((start db caches).outcomes d' visits).map (·.result) =
        ((start db caches).outcomes d visits).map (·.result) ∧
    ((start db caches).after d visits).SameStore ((start db caches).after d' visits) ∧
    (∀ before v rest, visits = before ++ v :: rest →
      let session := (start db caches).after d before
      let session' := (start db caches).after d' before
      v.SentAlike d d' (session.visit d v).1 (session'.visit d' v).1 ∧
      ∀ raw handle held, v.operation = .request (.create raw handle) →
        (session.visit d v).1.result = .ok (.reply (.object held)) →
        held.object.name = Text.trim raw ∧ v.repository.AddsRow session.database
          (session.visit d v).2.database held.object.id held.object.name) ∧
    ∀ table name, markFree table = true →
      (Statement.insertReturning table name).args d = (Statement.insertObject table name).args d' ∧
      Text.unnumbered ((Statement.insertReturning table name).text d) =
        Text.unnumbered ((Statement.insertObject table name).text d') ++ " RETURNING id" := by
  have hfits : (layoutOf visits).Fits (start db caches).database :=
    Layout.fits_of_isEmpty htables hindexes
  have hself := withoutIndexes_of_isEmpty caches hindexes
  have hrun := fun d {before : List Visit} (hbefore : ∀ v ∈ before, v ∈ visits) =>
    run_withoutIndexes hapart hfits d (fun v hv => has_layoutOf (hbefore v hv))
      fun v hv => hread v (hbefore v hv)
  rw [hself] at hrun
  have hsame : ∀ {before : List Visit}, (∀ v ∈ before, v ∈ visits) →
      ((start db caches).after d' before).withoutIndexes =
        ((start db caches).after d before).withoutIndexes :=
    fun hbefore => (hrun d' hbefore).2.1.symm.trans (hrun d hbefore).2.1
  refine ⟨?_, .of_withoutIndexes (hsame fun _ hv => hv), fun before v rest hvisits => ?_,
    fun table name hfree => ⟨rfl, Statement.unnumbered_insertReturning hfree name d d'⟩⟩
  · exact (hrun d' fun _ hv => hv).1.symm.trans (hrun d fun _ hv => hv).1
  · have hbefore : ∀ other ∈ before, other ∈ visits := by
      intro other hother
      rw [hvisits]
      exact List.mem_append_left _ hother
    have hv : v ∈ visits := by
      rw [hvisits]
      exact List.mem_append_right _ List.mem_cons_self
    have hkind := (hrun d hbefore).2.2.objects v.repository.table (has_layoutOf hv).objects
    exact ⟨sent_alike (hsame hbefore) (hread v hv) hkind d d',
      fun raw handle held => row_of_create (hread v hv) hkind⟩

end Session

/-! ## 5. Two shelves

Two types share a database, each with a cache of its own. A row is added behind the back of a
repository, so that the next id is not the second one, and its name is taken; metadata is saved and
loaded. -/

namespace Session

namespace TwoShelves

def connection : Connection := ⟨.sqlite, "home_", "InnoDB", "utf8mb4", "utf8mb4_bin"⟩

def books : Seat := ⟨.ofType connection ⟨"book", by decide⟩, "near"⟩

def vases : Seat := ⟨.ofType connection ⟨"vase", by decide⟩, "far"⟩

def shelves : List (String × Cache) := [("near", .memory), ("far", .null)]

def beforeAtlas : List Visit :=
  [⟨books, .request .install⟩, ⟨vases, .request .install⟩, ⟨vases, .request (.create "tall" "tall")⟩,
    ⟨books, .edit (.insertRow 4 "globe")⟩]

def atlas : Visit := ⟨books, .request (.create " atlas" "atlas")⟩

def afterAtlas : List Visit :=
  [⟨books, .request (.create "globe" "globe")⟩, ⟨books, .request (.setMeta "atlas" "year" "1897")⟩,
    ⟨books, .request (.update "atlas")⟩, ⟨books, .request (.loadByName "atlas" none)⟩]

def visits : List Visit := beforeAtlas ++ atlas :: afterAtlas

def layout : Layout := ⟨["home_book", "home_vase"], ["home_book_meta", "home_vase_meta"]⟩

theorem apart : layout.Apart := by
  refine ⟨by decide +kernel, fun m hm column => ?_⟩
  revert m hm
  cases column <;> decide +kernel

def sessionIn (d : Dialect) : Session := (start .empty shelves).after d beforeAtlas

def outcomeIn (d : Dialect) : Outcome := ((sessionIn d).visit d atlas).1

end TwoShelves

open TwoShelves in
theorem dialects_are_one_store_twoShelves :
    ((start .empty shelves).outcomes .postgres visits).map (·.result.isOk) =
      [true, true, true, true, true, false, true, true, true] ∧
    ((start .empty shelves).outcomes .mySql visits).map (·.result) =
      ((start .empty shelves).outcomes .postgres visits).map (·.result) ∧
    ((start .empty shelves).after .postgres visits).SameStore
      ((start .empty shelves).after .mySql visits) ∧
    (outcomeIn .postgres).sent = [.statement (.insertReturning "home_book" "atlas") true] ∧
    (outcomeIn .mySql).sent =
      [.statement (.insertObject "home_book" "atlas") true, .statement .lastInsertId true] ∧
    atlas.SentAlike .postgres .mySql (outcomeIn .postgres) (outcomeIn .mySql) := by
  have hapart : (layoutOf visits).Apart :=
    apart.mono (List.subset_def.2 (by decide +kernel)) (List.subset_def.2 (by decide +kernel))
  have hseats : ∀ v ∈ visits, v.repository = books.repository ∨ v.repository = vases.repository := by
    decide +kernel
  have hread : ∀ v ∈ visits, v.repository.ReadAlike := by
    intro v hv
    rcases hseats v hv with hbooks | hvases
    · exact hbooks ▸ Repository.readAlike_of_isPlainName (by decide +kernel) (by decide +kernel)
    · exact hvases ▸ Repository.readAlike_of_isPlainName (by decide +kernel) (by decide +kernel)
  have htables : Database.empty.tables = ∅ := rfl
  have hindexes : Database.empty.indexes = ∅ := rfl
  obtain ⟨hresults, hsame, hsent, -⟩ :=
    dialects_are_one_store htables hindexes shelves hapart hread .postgres .mySql
  refine ⟨by decide +kernel, hresults, hsame, by decide +kernel, by decide +kernel, ?_⟩
  rw [outcomeIn, outcomeIn, sessionIn, sessionIn]
  exact (hsent beforeAtlas atlas afterAtlas rfl).1

/-! ## 6. Names that clash

Two lists of operations on an empty database that go well in the dialect without indexes of its own only.
In the one the index of a metadata table would get the name of an object table. In the other the object
table of one type is the metadata table of another, and has no columns that could be indexed. -/

namespace ClashingNames

def connection : Connection := ⟨.sqlite, "", "", "", ""⟩

def underIndex : Repository :=
  (Repository.ofType connection ⟨"coin_object", by decide⟩).withMetadataStore ⟨connection, "coin"⟩

def indexed : List Visit := [⟨⟨underIndex, ""⟩, .request .install⟩]

def shared : List Visit :=
  [⟨⟨.ofType connection ⟨"coin_meta", by decide⟩, ""⟩, .request .install⟩,
    ⟨⟨.ofType connection ⟨"coin", by decide⟩, ""⟩, .request .install⟩]

/-- Which of the operations go well in a dialect. -/
def succeed (visits : List Visit) (d : Dialect) : List Bool :=
  ((start .empty []).outcomes d visits).map (·.result.isOk)

end ClashingNames

open ClashingNames in
theorem not_dialects_are_one_store :
    (∀ v ∈ indexed ++ shared, v.repository.ReadAlike) ∧
    succeed indexed .sqlite = [false] ∧ succeed indexed .mySql = [true] ∧
    succeed shared .sqlite = [true, false] ∧ succeed shared .mySql = [true, true] ∧
    ¬ ∀ (visits : List Visit) (d d' : Dialect), (∀ v ∈ visits, v.repository.ReadAlike) →
      ((start .empty []).outcomes d visits).map (·.result) =
        ((start .empty []).outcomes d' visits).map (·.result) := by
  have hplain : ∀ v ∈ indexed ++ shared, isPlainName v.repository.table = true ∧
      isPlainName v.repository.metadataStore.table = true := by decide +kernel
  have hread : ∀ v ∈ indexed ++ shared, v.repository.ReadAlike :=
    fun v hv => Repository.readAlike_of_isPlainName (hplain v hv).1 (hplain v hv).2
  have hsqlite : succeed indexed .sqlite = [false] := by decide +kernel
  have hmySql : succeed indexed .mySql = [true] := by decide +kernel
  refine ⟨hread, hsqlite, hmySql, by decide +kernel, by decide +kernel, fun hall => ?_⟩
  have hresults := hall indexed .sqlite .mySql fun v hv => hread v (List.mem_append_left _ hv)
  have hsucceed : succeed indexed .sqlite = succeed indexed .mySql := by
    have hmap := congrArg (List.map Except.isOk) hresults
    rw [List.map_map, List.map_map] at hmap
    exact hmap
  rw [hsqlite, hmySql] at hsucceed
  exact absurd hsucceed (by decide)

end Session

end ObjectCatalog
