import ObjectCatalog.Error
import Std.Data.ExtTreeMap

/-!
# Caches

A cache maps keys to texts and is asked before the database. Two are shipped: one that keeps what
is stored in it, and one that keeps nothing, so that every lookup goes to the database.

Nothing is promised about a cache. An entry may be gone at any time, and any call may fail. The
second is part of the state: `fault` says for each kind of call and each key whether it fails now
and with what reason, and it may change between any two operations. A failed call has no effect.
-/

namespace ObjectCatalog

inductive CacheCall where
  | fetch
  | store
  | delete
  deriving DecidableEq, Repr

def CacheCall.label : CacheCall → String
  | .fetch => "fetch"
  | .store => "store"
  | .delete => "delete"

def CacheCall.ofLabel? (label : String) : Option CacheCall :=
  [CacheCall.fetch, .store, .delete].find? fun c => c.label == label

/-- A cache at one moment. -/
structure Cache where
  /-- Whether it keeps what is stored in it. -/
  keeps : Bool
  entries : Std.ExtTreeMap String String
  /-- Why a call for a key fails now, if it does. -/
  fault : CacheCall → String → Option CacheFailure

namespace Cache

/-- A cache that keeps its entries, with none in it. -/
def memory : Cache := ⟨true, ∅, fun _ _ => none⟩

/-- A cache that keeps nothing. -/
def null : Cache := ⟨false, ∅, fun _ _ => none⟩

def get? (cache : Cache) (key : String) : Option String :=
  cache.entries[key]?

/-- Puts an entry in; a cache that keeps nothing is left as it is. -/
def put (cache : Cache) (key value : String) : Cache :=
  if cache.keeps then { cache with entries := cache.entries.insert key value } else cache

/-- Takes an entry out, if it is there. -/
def drop (cache : Cache) (key : String) : Cache :=
  { cache with entries := cache.entries.erase key }

def clear (cache : Cache) : Cache :=
  { cache with entries := ∅ }

def size (cache : Cache) : Nat :=
  cache.entries.size

/-- Lets one kind of call fail from now on, whatever its key. The other kinds work. -/
def breakCall (cache : Cache) (call : CacheCall) (failure : CacheFailure) : Cache :=
  { cache with fault := fun c _ => if c = call then some failure else none }

/-- Lets every call work. -/
def repair (cache : Cache) : Cache :=
  { cache with fault := fun _ _ => none }

def fetch (cache : Cache) (key : String) : Except CacheFailure (Option String) :=
  match cache.fault .fetch key with
  | some failure => .error failure
  | none => .ok (cache.get? key)

def store (cache : Cache) (key value : String) : Except CacheFailure Cache :=
  match cache.fault .store key with
  | some failure => .error failure
  | none => .ok (cache.put key value)

/-- Deletes the entry under a key; that none is there is no error. -/
def delete (cache : Cache) (key : String) : Except CacheFailure Cache :=
  match cache.fault .delete key with
  | some failure => .error failure
  | none => .ok (cache.drop key)

/-! ## What the operations do to the entries -/

theorem get?_put {cache : Cache} (h : cache.keeps = true) (key value k : String) :
    (cache.put key value).get? k = if key = k then some value else cache.get? k := by
  simp [get?, put, h, Std.ExtTreeMap.getElem?_insert]

theorem put_of_not_keeps {cache : Cache} (h : cache.keeps = false) (key value : String) :
    cache.put key value = cache := by
  simp [put, h]

theorem get?_drop (cache : Cache) (key k : String) :
    (cache.drop key).get? k = if key = k then none else cache.get? k := by
  simp [get?, drop, Std.ExtTreeMap.getElem?_erase]

end Cache

end ObjectCatalog
