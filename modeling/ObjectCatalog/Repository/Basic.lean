import ObjectCatalog.Identifier
import ObjectCatalog.Object.CachedRow
import ObjectCatalog.Repository.MetadataStore
import ObjectCatalog.Text.Blank

/-!
# Repositories

A repository keeps the objects of one type: their names in a table of objects, their metadata in a
metadata store, and the rows that were looked up in a cache. Names are unique within the type and
are stored trimmed.

A row may be cached under two keys, one made from its id and one from its name. Both go when the
row is renamed or deleted, and so does the key of the name that the row really had: the holder of
an object may not know that someone else renamed it. A lookup by name is cached only if the name
asked for is the name that is stored, letter by letter, because those are the keys that are
cleared.
-/

namespace ObjectCatalog

structure Repository where
  connection : Connection
  typeName : TypeName
  metadataStore : MetadataStore
  deriving DecidableEq

namespace Repository

def table (r : Repository) : String :=
  r.connection.table r.typeName.text

/-- The name of the metadata table that belongs to the object table. Metadata searches read this
one, also where a repository was given another metadata store. -/
def metaTable (r : Repository) : String :=
  r.connection.table (r.typeName.text ++ "_meta")

/-- The repository of a type, with its own metadata table. -/
def ofType (connection : Connection) (typeName : TypeName) : Repository :=
  ⟨connection, typeName, ⟨connection, connection.table (typeName.text ++ "_meta")⟩⟩

/-- The repository with its metadata kept elsewhere. -/
def withMetadataStore (r : Repository) (store : MetadataStore) : Repository :=
  { r with metadataStore := store }

/-- What all cache keys of the repository begin with. -/
def cacheStem (r : Repository) : String :=
  r.connection.tablePrefix ++ r.typeName.text ++ "_"

def idKey (r : Repository) (id : Int64) : String :=
  r.cacheStem ++ Text.Numeral.ofInt id.toInt

def nameKey (r : Repository) (name : String) : String :=
  r.cacheStem ++ "name_" ++ name

def lookupKey (r : Repository) : Lookup → String
  | .id id => r.idKey id
  | .name name => r.nameKey name

/-- Turns the refusal of a name that is taken into the error that says so. -/
def nameError (name : String) : Error → Error
  | .storage error => if error.isDuplicateKey then .duplicateName name else .storage error
  | error => error

/-- Creates the object table and whatever the metadata store needs. -/
def install (r : Repository) : Action Unit := do
  Backend.send (.createObjects r.table r.connection.tableOptions)
  r.metadataStore.install

/-- Inserts a row and answers its id. Where the insert cannot answer it, the same connection is
asked for it next. -/
def insertName (r : Repository) (name : String) : Action Int64 :=
  if r.connection.dialect.supportsReturning then Backend.send (.insertReturning r.table name)
  else do
    Backend.send (.insertObject r.table name)
    Backend.send .lastInsertId

def create (r : Repository) (raw : String) : Action NamedObject := do
  let name := Text.trim raw
  if name = "" then throw (.invalidArgument .emptyName)
  else do
    let id ← ExceptT.adapt (nameError name) (r.insertName name)
    pure (.fresh id name)

/-- Deletes the cache entries of a row: that of its id, that of the name its holder knows, and
that of the name it has, if that is another. -/
def invalidate (r : Repository) (id : Int64) (known : String) (stored : Option String) :
    Action Unit := do
  Backend.delete (r.idKey id)
  Backend.delete (r.nameKey known)
  match stored with
  | some name => if name = known then pure () else Backend.delete (r.nameKey name)
  | none => pure ()

/-- Stores the new name of an object, given its trimmed form. -/
def rename (r : Repository) (object : NamedObject) (name : String) : Action Unit := do
  let stored ← Backend.send (.storedName r.table object.id)
  ExceptT.adapt (nameError name) (Backend.send (.renameObject r.table name object.id))
  r.invalidate object.id object.persistedName stored

/-- Saves what changed in an object: its metadata first, and then its name, if the trimmed name is
another than the one last stored. -/
def update (r : Repository) : Editing Unit := do
  -- The metadata is saved first, so it is stored even if the name turns out to be unusable.
  r.metadataStore.save
  let object ← get
  let name := Text.trim object.name
  if name = object.persistedName then set (object.setName name)
  else if name = "" then throw (.invalidArgument .emptyName)
  else do
    (r.rename object name).editing
    -- Not reached if only the cache failed: the row then has the new name, and the object still
    -- remembers the old one.
    set (object.markRenamed name)

/-- Deletes an object: its row, then its metadata, then its cache entries. -/
def delete (r : Repository) (object : NamedObject) : Action Unit := do
  -- Afterwards there is no row left that could tell under which name it was cached.
  let stored ← Backend.send (.storedName r.table object.id)
  Backend.send (.deleteObject r.table object.id)
  r.metadataStore.remove object.id
  r.invalidate object.id object.persistedName stored

/-- Whether the answer to a lookup may be cached under the lookup's key. -/
def cachesAs : Lookup → CachedRow → Bool
  | .id _, _ => true
  | .name name, row => name == row.name

/-- The row of a lookup, from the cache or else from the table. A row from the table is cached. -/
def findRow (r : Repository) (lookup : Lookup) : Action (Option CachedRow) := do
  let key := r.lookupKey lookup
  match ← Backend.fetch key with
  | some text =>
    match CachedRow.parse? text with
    | some row => pure (some row)
    | none => throw .payload
  | none =>
    match ← Backend.send (.findObject r.table lookup) with
    | none => pure none
    | some (id, name) =>
      let row : CachedRow := ⟨id, name⟩
      -- The table may have matched a name that is spelled differently.
      if cachesAs lookup row then do
        Backend.store key row.print
        pure (some row)
      else pure (some row)

def find (r : Repository) (lookup : Lookup) : Action (Option NamedObject) := do
  match ← r.findRow lookup with
  | none => pure none
  | some row => some <$> r.metadataStore.apply (.fresh row.id row.name)

/-- The object that a text asks for, by id if it is digits and by name otherwise. -/
def load (r : Repository) (text : String) : Action (Option NamedObject) :=
  r.find (.ofText text)

def loadById (r : Repository) (id : Int64) : Action (Option NamedObject) :=
  r.find (.id id)

/-- The object with a name, even if the name looks like an id. -/
def loadByName (r : Repository) (name : String) : Action (Option NamedObject) :=
  r.find (.ofName name)

end Repository

end ObjectCatalog
