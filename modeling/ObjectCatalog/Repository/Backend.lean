import ObjectCatalog.Cache
import ObjectCatalog.Database.Basic
import ObjectCatalog.Object.Basic

/-!
# The backend of a repository

A repository acts on a database and a cache. An `Action` is what one of its calls does to them: it
ends in a value or in an error, and in either case the backend keeps what was done up to then.
Nothing is rolled back.

The backend also keeps a journal of what was sent: every statement, and every call of the cache,
in order and whether it succeeded or not. The journal decides nothing; it is there to be shown and
to be reasoned about.
-/

namespace ObjectCatalog

inductive Event where
  /-- A statement, and whether the database got as far as binding its arguments. -/
  | statement (statement : Statement) (bound : Bool)
  | cacheCall (call : CacheCall) (key : String)
  deriving DecidableEq

structure Backend where
  database : Database
  cache : Cache
  journal : List Event

/-- What a call does to the backend. -/
abbrev Action := ExceptT Error (StateM Backend)

namespace Backend

def start (database : Database) (cache : Cache) : Backend := ⟨database, cache, []⟩

def record (b : Backend) (event : Event) : Backend :=
  { b with journal := b.journal ++ [event] }

def send (s : Statement) : Action s.Answer := ExceptT.mk fun b =>
  match b.database.run s with
  | .error refusal =>
    (.error (.storage (.database refusal.report)), b.record (.statement s refusal.wasPrepared))
  | .ok (answer, database) =>
    (.ok answer, { b.record (.statement s true) with database := database })

def fetch (key : String) : Action (Option String) := ExceptT.mk fun b =>
  let b := b.record (.cacheCall .fetch key)
  match b.cache.fetch key with
  | .error failure => (.error (.cache failure), b)
  | .ok entry => (.ok entry, b)

def store (key value : String) : Action Unit := ExceptT.mk fun b =>
  let b := b.record (.cacheCall .store key)
  match b.cache.store key value with
  | .error failure => (.error (.cache failure), b)
  | .ok cache => (.ok (), { b with cache := cache })

def delete (key : String) : Action Unit := ExceptT.mk fun b =>
  let b := b.record (.cacheCall .delete key)
  match b.cache.delete key with
  | .error failure => (.error (.cache failure), b)
  | .ok cache => (.ok (), { b with cache := cache })

end Backend

/-- An action that works on an object and leaves it changed, whether it succeeds or not. -/
abbrev Editing := ExceptT Error (StateT NamedObject (StateM Backend))

/-- An action that leaves the object as it is. -/
def Action.editing {α : Type} (action : Action α) : Editing α := ExceptT.mk fun object backend =>
  let (result, backend) := action backend
  ((result, object), backend)

/-- An editing of a given object, as an action that also answers what the object became. -/
def Editing.on {α : Type} (edit : Editing α) (object : NamedObject) (backend : Backend) :
    Except Error α × NamedObject × Backend :=
  let ((result, object), backend) := edit object backend
  (result, object, backend)

end ObjectCatalog
