import ObjectCatalog.Database.Edit
import ObjectCatalog.Session.Request

/-!
# Sessions

A session is one database, the caches and the handles that a program uses with it, and any number
of repositories, each on one of the caches. Besides requests a session has operations that a
repository does not make: a cache is looked into, filled or broken, and tables are edited behind
the repository's back.

Every step also answers what was sent while it ran, in the form in which it is shown: the text of a
statement on one line, and its arguments if they were bound.
-/

namespace ObjectCatalog

/-- A repository together with the name of its cache. -/
structure Seat where
  repository : Repository
  cache : String

/-- Everything a session keeps between two operations. -/
structure Session where
  database : Database
  caches : Std.ExtTreeMap String Cache
  handles : Std.ExtTreeMap String Handle

/-- What can be done in a session. -/
inductive Operation where
  | request (request : Request)
  | dumpCache
  | putInCache (key value : String)
  | breakCache (call : CacheCall) (failure : CacheFailure)
  | repairCache
  | edit (edit : TableEdit)

inductive Answer where
  | reply (reply : Reply)
  | entries (entries : List (String × String))
  /-- An entry was put into the cache, if the cache keeps any. -/
  | stored
  | done
  | edited (reply : EditReply)

/-- An operation's answer or error, and what was sent. -/
structure Outcome where
  result : Except Error Answer
  sent : List Event

structure ShownStatement where
  text : String
  /-- The arguments, if the database got as far as binding them. -/
  args : Option (List Arg)

/-- The statements among what was sent, in order. -/
def shownStatements (d : Dialect) (sent : List Event) : List ShownStatement :=
  sent.filterMap fun event =>
    match event with
    | .statement s bound =>
      some ⟨Text.squeeze (s.text d), if bound then some (s.args d) else none⟩
    | .cacheCall _ _ => none

/-- The calls of the cache among what was sent, in order. -/
def shownCalls (sent : List Event) : List (CacheCall × String) :=
  sent.filterMap fun event =>
    match event with
    | .cacheCall call key => some (call, key)
    | .statement _ _ => none

namespace Session

def start (database : Database) (caches : List (String × Cache)) : Session :=
  ⟨database, .ofList caches, ∅⟩

def cacheOf (session : Session) (seat : Seat) : Cache :=
  (session.caches[seat.cache]?).getD .null

def setCache (session : Session) (seat : Seat) (cache : Cache) : Session :=
  { session with caches := session.caches.insert seat.cache cache }

/-- Carries out an operation at a seat. -/
def step (session : Session) (seat : Seat) : Operation → Outcome × Session
  | .request request =>
    -- Every request begins with an empty journal, so what it holds afterwards is its own.
    let desk : Desk := ⟨.start session.database (session.cacheOf seat), session.handles⟩
    let (result, desk) := request.run seat.repository desk
    let session : Session := ⟨desk.backend.database, session.caches, desk.handles⟩
    (⟨result.map .reply, desk.backend.journal⟩, session.setCache seat desk.backend.cache)
  | .dumpCache => (⟨.ok (.entries (session.cacheOf seat).entries.toList), []⟩, session)
  | .putInCache key value =>
    (⟨.ok .stored, []⟩, session.setCache seat ((session.cacheOf seat).put key value))
  | .breakCache call failure =>
    (⟨.ok .done, []⟩, session.setCache seat ((session.cacheOf seat).breakCall call failure))
  | .repairCache => (⟨.ok .done, []⟩, session.setCache seat (session.cacheOf seat).repair)
  | .edit edit =>
    let tables : EditedTables := ⟨seat.repository.table, seat.repository.metadataStore.table⟩
    match edit.run tables session.database with
    | .error refusal => (⟨.error (.storage (.database refusal.report)), []⟩, session)
    | .ok (reply, database) => (⟨.ok (.edited reply), []⟩, { session with database := database })

end Session

end ObjectCatalog
