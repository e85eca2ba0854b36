import ObjectCatalog.Proofs.Database.Locality
import ObjectCatalog.Proofs.Repository.Apart

/-!
# Repositories of different types

Two repositories on one store and with one cache act on one backend. If their types are apart, neither
can tell that the other is there: in every interleaving of their requests each of them answers as if
the requests of the other had not been made, and no request of the other changes its rows, its metadata
or what its lookups find (`Repository.types_isolated`).

The proof compares the run with the run in which the other's requests are left out. Their backends
agree on all that the one repository can see (`Repository.Agrees`): its tables and indexes, and the
entries under its keys. Its own requests are alike on such backends, and a request of the other leaves a
backend that agrees with the one before.
-/

namespace ObjectCatalog

/-- Whether a cache keeps its entries and which calls fail is not changed by an entry. -/
theorem Cache.put_eq (cache : Cache) (key value : String) :
    (cache.put key value).keeps = cache.keeps ∧ (cache.put key value).fault = cache.fault := by
  unfold put
  split
  · exact ⟨rfl, rfl⟩
  · exact ⟨rfl, rfl⟩

namespace Repository

variable {r r' : Repository} {b b' : Backend}

/-! ## What a repository sees -/

/-- Backends that are the same as far as a repository can see. -/
structure Agrees (r : Repository) (b b' : Backend) : Prop where
  database : b.database.AgreesOn r.names b'.database
  keeps : b'.cache.keeps = b.cache.keeps
  fault : b'.cache.fault = b.cache.fault
  entry : ∀ lookup, b'.cache.get? (r.lookupKey lookup) = b.cache.get? (r.lookupKey lookup)

theorem Agrees.refl (r : Repository) (b : Backend) : r.Agrees b b :=
  ⟨.refl _ _, rfl, rfl, fun _ => rfl⟩

theorem Agrees.trans {b'' : Backend} (h : r.Agrees b b') (h' : r.Agrees b' b'') :
    r.Agrees b b'' :=
  ⟨h.database.trans h'.database, h'.keeps.trans h.keeps, h'.fault.trans h.fault,
    fun lookup => (h'.entry lookup).trans (h.entry lookup)⟩

theorem Agrees.record (h : r.Agrees b b') (event event' : Event) :
    r.Agrees (b.record event) (b'.record event') :=
  ⟨h.database, h.keeps, h.fault, h.entry⟩

/-- What was sent is not seen. -/
theorem Agrees.recorded (h : r.Agrees b b') (event : Event) : r.Agrees b (b'.record event) :=
  ⟨h.database, h.keeps, h.fault, h.entry⟩

/-! ## Its own calls -/

theorem alike_send_agrees {s : Statement} (hs : s.IsAmong r.names) :
    Action.Alike r.Agrees (Backend.send s) := by
  intro b b' h
  have hdone := h.database.run hs.2 hs.1
  rcases hrun : b.database.run s with refusal | ⟨answer, db⟩
  · rcases hrun' : b'.database.run s with refusal' | ⟨answer', db'⟩
    · rw [hrun, hrun'] at hdone
      cases hdone
      rw [Backend.send_of_error hrun, Backend.send_of_error hrun']
      exact ⟨rfl, h.record _ _⟩
    · rw [hrun, hrun'] at hdone
      cases hdone
  · rcases hrun' : b'.database.run s with refusal' | ⟨answer', db'⟩
    · rw [hrun, hrun'] at hdone
      cases hdone
    · rw [hrun, hrun'] at hdone
      cases hdone with
      | ok hsame =>
        rw [Backend.send_of_ok hrun, Backend.send_of_ok hrun']
        exact ⟨congrArg Except.ok hsame.answer, hsame.database, h.keeps, h.fault, h.entry⟩

theorem alike_fetch_agrees (lookup : Lookup) :
    Action.Alike r.Agrees (Backend.fetch (r.lookupKey lookup)) := by
  intro b b' h
  rcases hfault : b.cache.fault .fetch (r.lookupKey lookup) with _ | failure
  · rw [Backend.fetch_of_none hfault, Backend.fetch_of_none (h.fault ▸ hfault), h.entry lookup]
    exact ⟨rfl, h.record _ _⟩
  · rw [Backend.fetch_of_some hfault, Backend.fetch_of_some (h.fault ▸ hfault)]
    exact ⟨rfl, h.record _ _⟩

theorem Agrees.put (h : r.Agrees b b') (key value : String) (event event' : Event) :
    r.Agrees { b.record event with cache := b.cache.put key value }
      { b'.record event' with cache := b'.cache.put key value } := by
  obtain ⟨hkeep, hfault⟩ := Cache.put_eq b.cache key value
  obtain ⟨hkeep', hfault'⟩ := Cache.put_eq b'.cache key value
  refine ⟨h.database, (hkeep'.trans h.keeps).trans hkeep.symm,
    (hfault'.trans h.fault).trans hfault.symm, fun lookup => ?_⟩
  show (b'.cache.put key value).get? _ = (b.cache.put key value).get? _
  by_cases hkeeps : b.cache.keeps = true
  · rw [Cache.get?_put hkeeps, Cache.get?_put (h.keeps.trans hkeeps), h.entry lookup]
  · have hnot := Bool.eq_false_iff.2 hkeeps
    rw [Cache.put_of_not_keeps hnot, Cache.put_of_not_keeps (h.keeps.trans hnot), h.entry lookup]

/-- An entry that another puts in is not seen. -/
theorem Agrees.put_other (h : r.Agrees b b') {key : String}
    (hkey : ∀ lookup, r.lookupKey lookup ≠ key) (value : String) (event : Event) :
    r.Agrees b { b'.record event with cache := b'.cache.put key value } := by
  obtain ⟨hkeep, hfault⟩ := Cache.put_eq b'.cache key value
  refine ⟨h.database, hkeep.trans h.keeps, hfault.trans h.fault, fun lookup => ?_⟩
  show (b'.cache.put key value).get? _ = _
  by_cases hkeeps : b'.cache.keeps = true
  · rw [Cache.get?_put hkeeps, if_neg (hkey lookup).symm, h.entry lookup]
  · rw [Cache.put_of_not_keeps (Bool.eq_false_iff.2 hkeeps), h.entry lookup]

theorem alike_store_agrees (lookup : Lookup) (value : String) :
    Action.Alike r.Agrees (Backend.store (r.lookupKey lookup) value) := by
  intro b b' h
  rcases hfault : b.cache.fault .store (r.lookupKey lookup) with _ | failure
  · rw [Backend.store_of_none hfault, Backend.store_of_none (h.fault ▸ hfault)]
    exact ⟨rfl, h.put _ _ _ _⟩
  · rw [Backend.store_of_some hfault, Backend.store_of_some (h.fault ▸ hfault)]
    exact ⟨rfl, h.record _ _⟩

theorem alike_delete_agrees (lookup : Lookup) :
    Action.Alike r.Agrees (Backend.delete (r.lookupKey lookup)) := by
  intro b b' h
  rcases hfault : b.cache.fault .delete (r.lookupKey lookup) with _ | failure
  · rw [Backend.delete_of_none hfault, Backend.delete_of_none (h.fault ▸ hfault)]
    refine ⟨rfl, h.database, h.keeps, h.fault, fun other => ?_⟩
    simp only [Cache.get?_drop, h.entry other]
  · rw [Backend.delete_of_some hfault, Backend.delete_of_some (h.fault ▸ hfault)]
    exact ⟨rfl, h.record _ _⟩

theorem alike_findRow_agrees (lookup : Lookup) :
    Action.Alike r.Agrees (r.findRow lookup) :=
  alike_findRow_of_calls (alike_fetch_agrees lookup)
    (alike_send_agrees (.of_table rfl List.mem_cons_self)) (alike_store_agrees lookup)

theorem alike_find_agrees (lookup : Lookup) : Action.Alike r.Agrees (r.find lookup) :=
  alike_find (fun _ _ _ hs => alike_send_agrees hs) alike_findRow_agrees lookup

/-- The id that an insertion assigned, which the database remembers. -/
theorem assigned_of_send {name : String} {answer : Unit}
    (h : Backend.send (.insertObject r.table name) b = (.ok answer, b')) :
    ∃ t t' id, b.database.objects? r.table = some t ∧ t.insert r.table name = .ok (id, t') ∧
      b'.database.lastInsertId = id := by
  rcases hrun : b.database.run (.insertObject r.table name) with refusal | ⟨answer', db⟩
  · rw [Backend.send_of_error hrun] at h
    cases h
  · rw [Backend.send_of_ok hrun] at h
    cases h
    obtain ⟨t, t', id, ht, hinsert, -, hid⟩ := Database.run_insertObject hrun
    exact ⟨t, t', id, ht, hinsert, hid⟩

/-- The id that was last assigned is not among what a repository sees. It asks for it right after an
insertion, and then it is that of the new row. -/
theorem alike_insertName_agrees (name : String) :
    Action.Alike r.Agrees (r.insertName name) := by
  unfold insertName
  split
  · exact alike_send_agrees (.of_table rfl List.mem_cons_self)
  intro b b' h
  have hself : (Statement.insertObject r.table name).IsAmong r.names :=
    .of_table rfl List.mem_cons_self
  obtain ⟨hresult, hafter⟩ := alike_send_agrees hself b b' h
  rcases hb : Backend.send (.insertObject r.table name) b with ⟨result, c⟩
  rcases hb' : Backend.send (.insertObject r.table name) b' with ⟨result', c'⟩
  rw [hb, hb'] at hresult hafter
  obtain rfl : result' = result := hresult
  cases result' with
  | error e =>
    rw [Action.bind_of_error hb, Action.bind_of_error hb']
    exact ⟨rfl, hafter⟩
  | ok answer =>
    obtain ⟨t, t₁, id, ht, hinsert, hid⟩ := assigned_of_send hb
    obtain ⟨t', t₁', id', ht', hinsert', hid'⟩ := assigned_of_send hb'
    have hasked : ∀ c : Backend, Backend.send .lastInsertId c =
        (.ok c.database.lastInsertId, c.record (.statement .lastInsertId true)) :=
      fun c => Backend.send_of_ok rfl
    rw [Action.bind_of_ok hb, Action.bind_of_ok hb', hasked c, hasked c', hid, hid']
    -- Both insertions are into the same table.
    rw [Database.objects?, h.database.table? _ List.mem_cons_self, ← Database.objects?, ht] at ht'
    cases ht'
    rw [hinsert] at hinsert'
    cases hinsert'
    exact ⟨rfl, hafter.record _ _⟩

/-- A request of the repository is answered alike. -/
theorem alike_request_agrees (request : Request) {handles : Std.ExtTreeMap String Handle}
    (h : r.Agrees b b') :
    Desk.Alike r.Agrees (request.run r ⟨b, handles⟩) (request.run r ⟨b', handles⟩) := by
  have hsend : ∀ s : Statement, s.IsAmong r.names → Action.Alike r.Agrees (Backend.send s) :=
    fun _ hs => alike_send_agrees hs
  have hparts : r.AlikeParts r.Agrees :=
    ⟨fun s _ _ => hsend s, fun _ => hsend _ (.of_table rfl List.mem_cons_self),
      alike_insertName_agrees, alike_rename alike_delete_agrees hsend⟩
  have hsave : Editing.Alike r.Agrees r.metadataStore.save :=
    MetadataStore.alike_save fun s _ hs => hsend s (isAmong_names hs)
  by_cases hrequest : request.IsDelete
  · cases request with
    | delete handle => exact Request.alike_delete (alike_delete alike_delete_agrees hsend) handle h
    | _ => exact hrequest.elim
  · exact Request.alike_run hparts (fun _ => hsave) (fun _ => alike_findRow_agrees) hrequest h

/-! ## The calls of others -/

variable {ι : Type} {repositories : ι → Repository} {db db' : Database}

/-- Repositories that cannot meet in a database: their tables are different ones, or there are no tables
and none of theirs can be created. -/
def NeverMeet (repositories : ι → Repository) (db : Database) : Prop :=
  (∀ i j, i ≠ j → (repositories i).Disjoint (repositories j)) ∨
    (∀ i, (repositories i).Barren) ∧ db = .empty

/-- Where none of its tables can be created a repository leaves an empty database empty. -/
theorem Barren.run_empty (h : r.Barren) {s : Statement} (hs : ∀ name ∈ s.names, name ∈ r.names)
    {answer : s.Answer} (hrun : Database.empty.run s = .ok (answer, db')) : db' = .empty := by
  have hnone : ∀ name, Database.empty.table? name = none := fun _ => Std.ExtTreeMap.getElem?_empty
  cases Database.run_effect hrun with
  | nothing hdb => exact hdb
  | creation hname _ _ hadd =>
    obtain ⟨⟨ref, href⟩, -⟩ := Database.addTable_eq_ok hadd
    exact absurd href (h _ (hs _ hname) ref)
  | objects _ ht => rw [hnone] at ht; cases ht
  | metadata _ hrows => rw [hnone] at hrows; cases hrows
  | index _ _ htable => rw [hnone] at htable; cases htable

theorem NeverMeet.run (h : NeverMeet repositories db) {i : ι} {s : Statement}
    (hs : ∀ name ∈ s.names, name ∈ (repositories i).names) {answer : s.Answer}
    (hrun : db.run s = .ok (answer, db')) : NeverMeet repositories db' := by
  rcases h with hdisjoint | ⟨hbarren, rfl⟩
  · exact .inl hdisjoint
  · exact .inr ⟨hbarren, (hbarren i).run_empty hs hrun⟩

/-- A statement of one repository changes nothing that another sees. -/
theorem NeverMeet.agreesOn (h : NeverMeet repositories db) {i j : ι} (hne : j ≠ i) {s : Statement}
    (hs : ∀ name ∈ s.names, name ∈ (repositories j).names) {answer : s.Answer}
    (hrun : db.run s = .ok (answer, db')) : db.AgreesOn (repositories i).names db' := by
  rcases h with hdisjoint | ⟨hbarren, rfl⟩
  · refine Database.agreesOn_of_run hrun fun name hname other hother hkey => ?_
    exact hdisjoint j i hne other (hs other hother) name hname hkey
  · rw [(hbarren j).run_empty hs hrun]
    exact .refl _ _

/-- The keys of one repository are no keys of another. -/
def KeysApart (repositories : ι → Repository) : Prop :=
  ∀ i j, i ≠ j → ∀ lookup lookup',
    (repositories i).lookupKey lookup ≠ (repositories j).lookupKey lookup'

theorem NeverMeet.request_own (h : NeverMeet repositories b.database) (i : ι) (request : Request)
    (handles : Std.ExtTreeMap String Handle) :
    NeverMeet repositories (request.run (repositories i) ⟨b, handles⟩).2.backend.database :=
  Request.keeps_database (fun hs hrun hmeet => hmeet.run hs hrun) request h

/-- A request of one repository, whatever objects it is made with, changes nothing that another
sees. -/
theorem agrees_request_other (hkeys : KeysApart repositories) (h : NeverMeet repositories b.database)
    {i j : ι} (hne : j ≠ i) (request : Request) (handles : Std.ExtTreeMap String Handle) :
    (repositories i).Agrees b (request.run (repositories j) ⟨b, handles⟩).2.backend := by
  refine (Request.keeps_backend (P := fun c => NeverMeet repositories c.database ∧
    (repositories i).Agrees b c) (fun s hs => ?_) (fun lookup => ?_) (fun lookup value => ?_)
    (fun lookup => ?_) request ⟨h, .refl _ b⟩).2
  · refine Action.meets_iff_keeps.1 (Backend.meets_send ?_ fun c _ hc _ => ⟨hc.1, hc.2.recorded _⟩)
    rintro c answer db ⟨hmeet, hagrees⟩ hrun
    have hsees := hagrees.database.trans (hmeet.agreesOn hne hs hrun)
    exact ⟨hmeet.run hs hrun, hsees, hagrees.keeps, hagrees.fault, hagrees.entry⟩
  · exact Backend.keeps_fetch (fun c event hc => ⟨hc.1, hc.2.recorded event⟩) _
  · refine Action.meets_iff_keeps.1
      (Backend.meets_store ?_ fun c event hc => ⟨hc.1, hc.2.recorded event⟩)
    rintro c ⟨hmeet, hagrees⟩
    exact ⟨hmeet, hagrees.put_other (fun own => hkeys i j hne.symm own lookup) _ _⟩
  · rintro c ⟨hmeet, hagrees⟩
    rcases hfault : c.cache.fault .delete ((repositories j).lookupKey lookup) with _ | failure
    · rw [Backend.delete_of_none hfault]
      refine ⟨hmeet, hagrees.database, hagrees.keeps, hagrees.fault, fun own => ?_⟩
      have hkey := (hkeys i j hne.symm own lookup).symm
      simp only [Cache.get?_drop, if_neg hkey, hagrees.entry own]
    · rw [Backend.delete_of_some hfault]
      exact ⟨hmeet, hagrees.recorded _⟩

end Repository

/-! ## Runs -/

/-- A request of one of several programs. -/
structure Turn (ι : Type) where
  who : ι
  request : Request

/-- What several programs share, and the handles that each of them has. -/
structure SharedDesk (ι : Type) where
  backend : Backend
  handles : ι → Std.ExtTreeMap String Handle

namespace SharedDesk

variable {ι : Type} [DecidableEq ι]

def start (database : Database) (cache : Cache) : SharedDesk ι :=
  ⟨.start database cache, fun _ => ∅⟩

/-- Lets a program make its request, of the repository that is its own. -/
def turn (repositories : ι → Repository) (shared : SharedDesk ι) (t : Turn ι) :
    Except Error Reply × SharedDesk ι :=
  let (answer, desk) := t.request.run (repositories t.who) ⟨shared.backend, shared.handles t.who⟩
  (answer, ⟨desk.backend, fun i => if i = t.who then desk.handles else shared.handles i⟩)

def run (repositories : ι → Repository) : SharedDesk ι → List (Turn ι) → SharedDesk ι
  | shared, [] => shared
  | shared, t :: rest => run repositories (shared.turn repositories t).2 rest

/-- The answers that one of the programs gets, in order. -/
def answersOf (repositories : ι → Repository) (i : ι) :
    SharedDesk ι → List (Turn ι) → List (Except Error Reply)
  | _, [] => []
  | shared, t :: rest =>
    let (answer, after) := shared.turn repositories t
    if t.who = i then answer :: answersOf repositories i after rest
    else answersOf repositories i after rest

/-- Two states in which one of the programs is in the same position. -/
structure SameFor (repositories : ι → Repository) (i : ι) (shared shared' : SharedDesk ι) : Prop where
  backend : (repositories i).Agrees shared.backend shared'.backend
  handles : shared'.handles i = shared.handles i

open Repository

variable {repositories : ι → Repository} {i : ι} {alone shared : SharedDesk ι} {t : Turn ι}

theorem turn_own (h : SameFor repositories i alone shared) (ht : t.who = i) :
    (shared.turn repositories t).1 = (alone.turn repositories t).1 ∧
      SameFor repositories i (alone.turn repositories t).2 (shared.turn repositories t).2 := by
  subst ht
  have halike : Desk.Alike (repositories t.who).Agrees
      (t.request.run (repositories t.who) ⟨alone.backend, alone.handles t.who⟩)
      (t.request.run (repositories t.who) ⟨shared.backend, shared.handles t.who⟩) := by
    rw [h.handles]
    exact alike_request_agrees t.request h.backend
  refine ⟨halike.answer, halike.backend, ?_⟩
  show (if t.who = t.who then _ else _) = if t.who = t.who then _ else _
  rw [if_pos rfl, if_pos rfl]
  exact halike.handles

theorem turn_other (hkeys : KeysApart repositories)
    (hmeet : NeverMeet repositories shared.backend.database) (ht : t.who ≠ i) :
    SameFor repositories i shared (shared.turn repositories t).2 := by
  refine ⟨agrees_request_other hkeys hmeet ht t.request _, ?_⟩
  exact if_neg ht.symm

theorem neverMeet_turn (hmeet : NeverMeet repositories shared.backend.database) (t : Turn ι) :
    NeverMeet repositories (shared.turn repositories t).2.backend.database :=
  hmeet.request_own t.who t.request _

theorem neverMeet_run (hmeet : NeverMeet repositories shared.backend.database)
    (turns : List (Turn ι)) :
    NeverMeet repositories (shared.run repositories turns).backend.database := by
  induction turns generalizing shared with
  | nil => exact hmeet
  | cons t rest ih => exact ih (neverMeet_turn hmeet t)

/-- What carries the induction is that the program is in the same position in both runs: the turns of
others leave it there in the one run, and the other run does without them. -/
theorem answersOf_filter (hkeys : KeysApart repositories) (turns : List (Turn ι))
    (h : SameFor repositories i alone shared)
    (hmeet : NeverMeet repositories shared.backend.database) :
    answersOf repositories i shared turns =
      answersOf repositories i alone (turns.filter (·.who = i)) := by
  induction turns generalizing alone shared with
  | nil => rfl
  | cons t rest ih =>
    have hmeet' := neverMeet_turn hmeet t
    by_cases ht : t.who = i
    · obtain ⟨hanswer, hafter⟩ := turn_own h ht
      rw [List.filter_cons_of_pos (by simpa using ht), answersOf, answersOf]
      simp only [if_pos ht]
      rw [hanswer, ih hafter hmeet']
    · have hother := turn_other hkeys hmeet ht
      rw [List.filter_cons_of_neg (by simpa using ht), answersOf]
      simp only [if_neg ht]
      exact ih ⟨h.backend.trans hother.backend, hother.handles.trans h.handles⟩ hmeet'

end SharedDesk

namespace Repository

open SharedDesk

variable {ι : Type} [DecidableEq ι]

/-- What a repository holds, and what it finds, is the same in two states. -/
structure SameView (r : Repository) (b b' : Backend) : Prop where
  objects : b'.database.objects? r.table = b.database.objects? r.table
  metadata : b'.database.entries r.metadataStore.table = b.database.entries r.metadataStore.table
  found : ∀ lookup, (r.find lookup b').1 = (r.find lookup b).1

theorem Agrees.sameView {r : Repository} {b b' : Backend} (h : r.Agrees b b') : r.SameView b b' := by
  have hstore : r.metadataStore.table ∈ r.names :=
    List.mem_cons_of_mem _ (List.mem_cons_of_mem _ List.mem_cons_self)
  refine ⟨?_, ?_, fun lookup => (alike_find_agrees lookup b b' h).1⟩
  · rw [Database.objects?, Database.objects?, h.database.table? _ List.mem_cons_self]
  · rw [Database.entries, Database.entries, h.database.table? _ hstore]

/-- **Repositories of types that are apart do not notice each other.** Whatever requests are made of them
in whatever order, with one cache between them, each answers its own requests as if no others were made;
and what another is asked to do leaves its rows, its metadata and all that its lookups find as they
are. -/
theorem types_isolated {c : Connection} {types : ι → TypeName}
    (h : ∀ i j, i ≠ j → TypeName.Apart c.dialect (types i) (types j)) (cache : Cache)
    (turns : List (Turn ι)) (i : ι) :
    let repositories := fun i => Repository.ofType c (types i)
    let shared : SharedDesk ι := .start .empty cache
    shared.answersOf repositories i turns =
        shared.answersOf repositories i (turns.filter (·.who = i)) ∧
      ∀ t : Turn ι, t.who ≠ i →
        let now := shared.run repositories turns
        (repositories i).SameView now.backend (now.turn repositories t).2.backend := by
  intro repositories shared
  have hkeys : KeysApart repositories := fun i j hne => (h i j hne).lookupKey_ne
  have hmeet : NeverMeet repositories shared.backend.database :=
    (TypeName.disjoint_or_barren h).imp_right fun hbarren => ⟨hbarren, rfl⟩
  refine ⟨answersOf_filter hkeys turns ⟨.refl _ _, rfl⟩ hmeet, fun t ht => ?_⟩
  exact (turn_other hkeys (neverMeet_run hmeet turns) ht).backend.sameView

/-! Two types one of which has a name that begins with the name of the other. There is a blue object of
each, the first of its table, and the second program renames its own and deletes it. -/

namespace ClocksAndHands

def types : Fin 2 → TypeName
  | 0 => ⟨"clock", by decide⟩
  | 1 => ⟨"clock_hand", by decide⟩

def repositories (i : Fin 2) : Repository := .ofType ⟨.sqlite, "", "", "", ""⟩ (types i)

def turns : List (Turn (Fin 2)) :=
  [⟨0, .install⟩, ⟨1, .install⟩, ⟨0, .create "blue" "clock"⟩, ⟨1, .create "blue" "hand"⟩,
    ⟨1, .loadById 1 none⟩, ⟨0, .loadById 1 none⟩, ⟨1, .setName "hand" "red"⟩,
    ⟨1, .update "hand"⟩, ⟨0, .loadByName "blue" none⟩, ⟨1, .delete "hand"⟩, ⟨0, .search "" {}⟩]

def before : SharedDesk (Fin 2) := (SharedDesk.start .empty .memory).run repositories turns

def lastTurn : Turn (Fin 2) := ⟨1, .create "blue" "other"⟩

end ClocksAndHands

open ClocksAndHands in
theorem types_isolated_clocksAndHands :
    (∀ i j, i ≠ j → TypeName.Apart .sqlite (types i) (types j)) ∧
    (SharedDesk.start .empty .memory).answersOf repositories 0 turns =
      (SharedDesk.start .empty .memory).answersOf repositories 0 (turns.filter (·.who = 0)) ∧
    ((SharedDesk.start .empty .memory).answersOf repositories 0 turns).getLast? =
      some (.ok (.page 1 [.ofObject (.fresh 1 "blue")])) ∧
    (repositories 0).SameView before.backend (before.turn repositories lastTurn).2.backend := by
  have hapart : ∀ i j, i ≠ j → TypeName.Apart .sqlite (types i) (types j) := by decide +kernel
  have hlast : ((SharedDesk.start .empty .memory).answersOf repositories 0 turns).getLast? =
      some (.ok (.page 1 [.ofObject (.fresh 1 "blue")])) := by decide +kernel
  have hisolated := types_isolated (c := ⟨.sqlite, "", "", "", ""⟩) hapart .memory turns 0
  exact ⟨hapart, hisolated.1, hlast, hisolated.2 lastTurn (by decide)⟩

/-! Types that are not apart. The first object of `item_name` is cached where `item` looks for the object
that is named `1`, `item_meta` has its objects in the table in which `item` has its metadata, and an index
of `item` needs the name that the table of `item_meta_object` has. -/

namespace ItemsAndOthers

def types (other : TypeName) : Fin 2 → TypeName
  | 0 => ⟨"item", by decide⟩
  | 1 => other

def repositories (other : TypeName) (i : Fin 2) : Repository :=
  .ofType ⟨.sqlite, "", "", "", ""⟩ (types other i)

def itemName : TypeName := ⟨"item_name", by decide⟩

def itemMeta : TypeName := ⟨"item_meta", by decide⟩

def itemMetaObject : TypeName := ⟨"item_meta_object", by decide⟩

/-- An object of the other type is cached under its id, and an item is looked for by name. -/
def loads : List (Turn (Fin 2)) :=
  [⟨0, .install⟩, ⟨1, .install⟩, ⟨1, .create "tag" "held"⟩, ⟨1, .loadById 1 none⟩,
    ⟨0, .loadByName "1" none⟩]

def installs : List (Turn (Fin 2)) := [⟨1, .install⟩, ⟨0, .install⟩]

/-- The last answer about items: among the requests of the other type, and without them. -/
def lastAnswers (other : TypeName) (turns : List (Turn (Fin 2))) :
    Option (Except Error Reply) × Option (Except Error Reply) :=
  let start : SharedDesk (Fin 2) := .start .empty .memory
  ((start.answersOf (repositories other) 0 turns).getLast?,
    (start.answersOf (repositories other) 0 (turns.filter (·.who = 0))).getLast?)

end ItemsAndOthers

open ItemsAndOthers in
/-- A type answers with an object of another type, or cannot be installed beside it. -/
theorem answer_of_other_type :
    (types itemName 0 ≠ types itemName 1 ∧ lastAnswers itemName loads =
      (some (.ok (.object (.ofObject (.fresh 1 "tag")))), some (.ok .noObject))) ∧
    (types itemMeta 0 ≠ types itemMeta 1 ∧ lastAnswers itemMeta installs =
      (some (.error (.storage (.database (Refusal.noColumn "object").report))), some (.ok .done))) ∧
    (types itemMetaObject 0 ≠ types itemMetaObject 1 ∧ lastAnswers itemMetaObject installs =
      (some (.error (.storage (.database (Refusal.isTable "item_meta_object").report))),
        some (.ok .done))) := by
  refine ⟨⟨by decide, ?_⟩, ⟨by decide, ?_⟩, ⟨by decide, ?_⟩⟩
  all_goals decide +kernel

end Repository

end ObjectCatalog
