import Std.Data.ExtTreeMap

/-!
# Named objects

An object has an id, a name and metadata, and it remembers the name and the metadata it was last
stored with. What is remembered is what lets a rename be told from a save that changes nothing, and
lets a save write the difference only.

Metadata is a finite map from keys to values. Two of them are equal if they agree at every key, and
their listing is in increasing order of the keys, the order in which text sorts in the store.
-/

namespace ObjectCatalog

abbrev Metadata := Std.ExtTreeMap String String

/-- An object as its holder sees it. -/
structure NamedObject where
  id : Int64
  name : String
  metadata : Metadata
  /-- The name the object was last stored with, as far as its holder knows. -/
  persistedName : String
  /-- The metadata the object was last stored with, as far as its holder knows. -/
  persistedMetadata : Metadata
  deriving DecidableEq

/-- What has to be written to bring stored metadata up to date, each part in the order of keys. -/
structure MetadataDelta where
  upserts : List (String × String)
  removals : List String
  deriving DecidableEq

def MetadataDelta.isEmpty (delta : MetadataDelta) : Bool :=
  delta.upserts.isEmpty && delta.removals.isEmpty

/-- Metadata brought up to date: the removed keys go, and then the new values are set. -/
def MetadataDelta.applyTo (delta : MetadataDelta) (stored : Metadata) : Metadata :=
  delta.upserts.foldl (fun m (key, value) => m.insert key value)
    (delta.removals.foldl (fun m key => m.erase key) stored)

namespace NamedObject

/-- An object just stored or found, without metadata. -/
def fresh (id : Int64) (name : String) : NamedObject :=
  ⟨id, name, ∅, name, ∅⟩

def getMeta (object : NamedObject) (key : String) : Option String :=
  object.metadata[key]?

def setMeta (object : NamedObject) (key value : String) : NamedObject :=
  { object with metadata := object.metadata.insert key value }

def removeMeta (object : NamedObject) (key : String) : NamedObject :=
  { object with metadata := object.metadata.erase key }

/-- Gives the object another name. Nothing is stored by it. -/
def setName (object : NamedObject) (name : String) : NamedObject :=
  { object with name := name }

/-- The entries that were added or changed and the keys that were removed since the object was last
stored. -/
def metadataDelta (object : NamedObject) : MetadataDelta where
  upserts := object.metadata.toList.filter fun (key, value) =>
    object.persistedMetadata[key]? != some value
  removals := object.persistedMetadata.keys.filter fun key => !object.metadata.contains key

/-- Replaces the metadata by what is stored. -/
def hydrate (object : NamedObject) (stored : Metadata) : NamedObject :=
  { object with metadata := stored, persistedMetadata := stored }

def markSaved (object : NamedObject) : NamedObject :=
  { object with persistedMetadata := object.metadata }

/-- Takes a name and remembers it as stored. -/
def markRenamed (object : NamedObject) (name : String) : NamedObject :=
  { object with name := name, persistedName := name }

end NamedObject

end ObjectCatalog
