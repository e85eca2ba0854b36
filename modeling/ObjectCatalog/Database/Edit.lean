import ObjectCatalog.Database.Basic

/-!
# Edits behind the back of a repository

Tables are shared with other programs, and what those do to them need not respect the rules of a
repository: rows appear, change and vanish, metadata is added for objects that are not there, whole
tables go. These are such edits, on the tables of one repository. The constraints of the tables
hold for them too.
-/

namespace ObjectCatalog

structure EditedTables where
  objects : String
  metadata : String
  deriving DecidableEq

inductive TableEdit where
  /-- Creates the object table with names that are compared without regard to case. -/
  | createFolding
  | dropObjects
  | dropMetadata
  | insertRow (id : Int64) (name : String)
  | renameRow (id : Int64) (name : String)
  | deleteRow (id : Int64)
  | insertEntry (object : Int64) (key value : String)
  /-- Changes nothing and lists all rows. -/
  | listRows
  deriving DecidableEq

inductive EditReply where
  | done
  | affected (rows : Nat)
  | rows (objects : List (Int64 × String)) (metadata : List MetadataRow)
  deriving DecidableEq

namespace MetadataRow

/-- Whether one row may come before another in a listing by object, key and value. -/
def mayPrecede (a b : MetadataRow) : Bool :=
  a.object < b.object ||
    (a.object == b.object && (a.key < b.key || (a.key == b.key && a.value ≤ b.value)))

end MetadataRow

namespace TableEdit

/-- Creates a table that must not be there yet. -/
def createTable (db : Database) (name : String) (table : Table) : Except Refusal Database :=
  match db.table? name with
  | some _ => .error (.tableExists name)
  | none => db.addTable name table

def rowsWith (db : Database) (name : String) (id : Int64) : Except Refusal Nat := do
  let table ← db.objects name
  pure (if table.rows.contains id then 1 else 0)

/-- What an edit answers and how it leaves the database, or why it is refused. -/
def run (tables : EditedTables) (db : Database) :
    TableEdit → Except Refusal (EditReply × Database)
  | .createFolding => do
    pure (.done, ← createTable db tables.objects (.objects (.empty .ignoreCase)))
  | .dropObjects => do
    pure (.done, ← db.dropTable tables.objects)
  | .dropMetadata => do
    pure (.done, ← db.dropTable tables.metadata)
  | .insertRow id name => do
    let db ← db.updateObjects tables.objects fun table => table.insertAt tables.objects id name
    pure (.affected 1, db)
  | .renameRow id name => do
    let count ← rowsWith db tables.objects id
    let db ← db.updateObjects tables.objects fun table => table.rename tables.objects id name
    pure (.affected count, db)
  | .deleteRow id => do
    let count ← rowsWith db tables.objects id
    let db ← db.updateObjects tables.objects fun table => .ok (table.delete id)
    pure (.affected count, db)
  | .insertEntry object key value => do
    let db ← db.updateMetadata tables.metadata (· ++ [⟨object, key, value⟩])
    pure (.affected 1, db)
  | .listRows => do
    let table ← db.objects tables.objects
    let rows ← db.metadata tables.metadata
    pure (.rows table.toList (rows.mergeSort MetadataRow.mayPrecede), db)

end TableEdit

end ObjectCatalog
