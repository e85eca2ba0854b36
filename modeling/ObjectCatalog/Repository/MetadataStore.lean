import ObjectCatalog.Repository.Backend
import ObjectCatalog.Repository.Connection

/-!
# Metadata stores

A metadata store keeps the metadata of objects in a table of its own, one row for each key of each
object. It reads everything at once and writes differences: a save sends statements only for what
changed since the object was read or saved, first the removals and then the new values, each part
in the order of keys.

A new value replaces the rows of its key, however many there are. A read that meets several values
under one key takes the last of them in the order of text.
-/

namespace ObjectCatalog

structure MetadataStore where
  connection : Connection
  table : String
  deriving DecidableEq

namespace MetadataStore

/-- The metadata that rows sorted by key and value amount to: of several values under a key the
last one stands. -/
def gather (entries : List (String × String)) : Metadata :=
  entries.foldl (fun found (key, value) => found.insert key value) ∅

def apply (store : MetadataStore) (object : NamedObject) : Action NamedObject := do
  let entries ← Backend.send (.listMetadata store.table object.id)
  pure (object.hydrate (gather entries))

/-- Deletes keys of an object one by one. -/
def writeRemovals (store : MetadataStore) (id : Int64) : List String → Action Unit
  | [] => pure ()
  | key :: rest => do
    Backend.send (.deleteEntry store.table id key)
    writeRemovals store id rest

/-- Writes values of an object one by one, each in place of all that its key had. -/
def writeUpserts (store : MetadataStore) (id : Int64) : List (String × String) → Action Unit
  | [] => pure ()
  | (key, value) :: rest => do
    Backend.send (.deleteEntry store.table id key)
    Backend.send (.insertEntry store.table id key value)
    writeUpserts store id rest

/-- Writes what changed in the metadata of an object, and remembers it as stored. If a statement
fails, the rest is not written and the object still counts as changed. -/
def save (store : MetadataStore) : Editing Unit := do
  let object ← get
  let delta := object.metadataDelta
  if delta.isEmpty then pure ()
  else do
    (writeRemovals store object.id delta.removals).editing
    (writeUpserts store object.id delta.upserts).editing
    set object.markSaved

def remove (store : MetadataStore) (id : Int64) : Action Unit :=
  Backend.send (.deleteMetadata store.table id)

/-- Creates the table and its indexes unless they are there. One dialect declares the indexes with
the table. -/
def install (store : MetadataStore) : Action Unit := do
  match store.connection.dialect with
  | .mySql => Backend.send (.createMetadata store.table store.connection.tableOptions)
  | .postgres | .sqlite => do
    Backend.send (.createMetadata store.table "")
    Backend.send (.createIndex store.table .object)
    Backend.send (.createIndex store.table .name)

end MetadataStore

end ObjectCatalog
