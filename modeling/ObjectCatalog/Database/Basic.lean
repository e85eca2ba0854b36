import ObjectCatalog.Database.MetadataTable
import ObjectCatalog.Database.ObjectTable

/-!
# The database

A database holds tables under keys, and the texts that stand for a table in statements have the
same key. Object tables and metadata tables share the one space of names, and so do the indexes of
metadata tables: two repositories whose names clash meet here.

`Database.carryOut` says what a statement does that could be read, and `Database.run` whether it
could. A refused statement leaves the database as it was.
-/

namespace ObjectCatalog

/-- A table, with its columns. -/
inductive Table where
  /-- Columns `id` and `name`. -/
  | objects (table : ObjectTable)
  /-- Columns `object`, `name` and `value`. -/
  | metadata (rows : List MetadataRow)
  deriving DecidableEq

structure Database where
  /-- The tables under their keys. -/
  tables : Std.ExtTreeMap String Table
  /-- The table of every index, both under their keys. -/
  indexes : Std.ExtTreeMap String String
  /-- The id that the last insert into an object table assigned. -/
  lastInsertId : Int64
  /-- Nothing can be put in. -/
  readOnly : Bool
  deriving DecidableEq

namespace Database

def empty : Database := ⟨∅, ∅, 0, false⟩

/-- The database without tables that cannot get any. -/
def sealed : Database := { empty with readOnly := true }

def table? (db : Database) (name : String) : Option Table :=
  db.tables[TableRef.key name]?

def setTable (db : Database) (name : String) (table : Table) : Database :=
  { db with tables := db.tables.insert (TableRef.key name) table }

/-- The tables in which the database keeps its own list of tables, in lower case. -/
def catalogNames : List String :=
  ["sqlite_master", "sqlite_schema", "sqlite_temp_master", "sqlite_temp_schema"]

/-- The refusal of a statement about the objects of a table that was not created. The database's
own list of tables is there all the same, but its rows have no ids. -/
def missing (name : String) : Refusal :=
  if catalogNames.contains (TableRef.key name) then .noColumn "id" else .noTable name

/-- The object table of a name. A table that has no ids is of no use to a statement about them. -/
def objects (db : Database) (name : String) : Except Refusal ObjectTable :=
  match db.table? name with
  | some (.objects table) => .ok table
  | some (.metadata _) => .error (.noColumn "id")
  | none => .error (missing name)

def metadata (db : Database) (name : String) : Except Refusal (List MetadataRow) :=
  match db.table? name with
  | some (.metadata rows) => .ok rows
  | some (.objects _) => .error (.noColumn "object")
  | none => .error (.noTable name)

/-- The table that a text names if a new one can get that name: it names one, in a schema that is
there, and names like it are not the database's own. -/
def newTable (name : String) : Except Refusal TableRef :=
  match TableRef.fault? .defined name " (", TableRef.ofText? name with
  | some fault, _ => .error (.unreadable fault)
  | none, none => .error (.unreadable .incomplete)
  | none, some ref =>
    match ref.missingSchema? with
    | some schema => .error (.noSchema schema)
    | none =>
      if "sqlite_".toList.isPrefixOf (Text.foldCase ref.name.name).toList then
        .error (.reservedName ref.name.name)
      else .ok ref

/-- Puts in a table under a name that has none yet. -/
def addTable (db : Database) (name : String) (table : Table) : Except Refusal Database := do
  let ref ← newTable name
  if db.indexes.contains (TableRef.key name) then throw (.isIndex ref.name.name)
  else if db.readOnly then throw .readOnly
  -- A definition is kept without its condition, and what begins with this word reads as one.
  else if ref.name.isWord "if" then throw (.badDefinition ref.name.name)
  else pure (db.setTable name table)

/-- Puts in a table unless there is one of that name. -/
def ensureTable (db : Database) (name : String) (table : Table) : Except Refusal Database :=
  match db.table? name with
  | some _ => .ok db
  | none => db.addTable name table

/-- Takes out a table with its indexes. Its name is the end of the statement, and a statement is
sent without the blanks at its end. -/
def dropTable (db : Database) (name : String) : Except Refusal Database :=
  let name := Text.trimEnd name
  match db.table? name with
  | none => .error (.noTable name)
  | some _ =>
    .ok { db with
      tables := db.tables.erase (TableRef.key name)
      indexes := db.indexes.filter fun _ owner => owner != TableRef.key name }

/-- Whether a table has a column that may be indexed. Both kinds have a column `name`. -/
def hasColumn : Table → IndexedColumn → Bool
  | .metadata _, _ => true
  | .objects _, .name => true
  | .objects _, .object => false

/-- Puts in the index of a column unless it is there. -/
def ensureIndex (db : Database) (name : String) (column : IndexedColumn) :
    Except Refusal Database :=
  let index := column.indexName name
  match db.table? name with
  | none => .error (.noTable name)
  | some table =>
    if (db.table? index).isSome then .error (.isTable (TableRef.plainName index))
    else if db.indexes.contains (TableRef.key index) then .ok db
    else if !hasColumn table column then .error (.noColumn column.column)
    else .ok { db with indexes := db.indexes.insert (TableRef.key index) (TableRef.key name) }

def insertObject (db : Database) (name value : String) : Except Refusal (Int64 × Database) := do
  let table ← db.objects name
  let (id, table) ← table.insert name value
  -- The id is remembered for a dialect that has to ask for it.
  pure (id, { db.setTable name (.objects table) with lastInsertId := id })

def updateObjects (db : Database) (name : String)
    (change : ObjectTable → Except Refusal ObjectTable) : Except Refusal Database := do
  let table ← db.objects name
  let table ← change table
  pure (db.setTable name (.objects table))

def updateMetadata (db : Database) (name : String)
    (change : List MetadataRow → List MetadataRow) : Except Refusal Database := do
  let rows ← db.metadata name
  pure (db.setTable name (.metadata (change rows)))

/-- Refuses a pattern that is too long, if there is a row to hold against it. -/
def checkPattern (pattern : Option String) (rows : Nat) : Except Refusal Unit :=
  if 0 < rows && pattern.any (Like.longestPattern < ·.utf8ByteSize) then .error .longPattern
  else .ok ()

/-- The number of rows whose column `name` matches a pattern. Both kinds of tables have one. -/
def countNames (db : Database) (name : String) (pattern : Option String) : Except Refusal Nat :=
  match db.table? name with
  | some (.objects table) => do
    checkPattern pattern table.rows.size
    pure (table.matching pattern).length
  | some (.metadata rows) => do
    checkPattern pattern rows.length
    pure (rows.filter fun row =>
      match pattern with
      | none => true
      | some p => Like.matchesText (some Like.escapeMark) p row.key).length
  | none => .error (missing name)

/-- The objects that a metadata search finds. A pattern that is too long is refused where a value is
held against it. -/
def found (db : Database) (name : String) (plan : Plan) :
    Except Refusal (Std.ExtTreeSet Int64) := do
  let rows ← db.metadata plan.relation
  let table ← db.objects name
  if MetadataTable.reachesLong rows plan.root then throw .longPattern
  else pure (MetadataTable.found rows table.toList plan.root)

/-- What a statement that could be read answers and how it leaves the database, or why it is not
carried out. -/
def carryOut (db : Database) : (s : Statement) → Except Refusal (s.Answer × Database)
  | .createObjects name _ => do
    pure ((), ← db.ensureTable name (.objects (.empty .binary)))
  | .createMetadata name _ => do
    pure ((), ← db.ensureTable name (.metadata []))
  | .createIndex name column => do
    pure ((), ← db.ensureIndex name column)
  | .insertObject name value =>
    match db.table? name with
    | some (.metadata _) => .error (.valueRequired name "object")
    | _ => do
      let (_, db) ← db.insertObject name value
      pure ((), db)
  | .insertReturning name value => db.insertObject name value
  | .lastInsertId => .ok (db.lastInsertId, db)
  | .renameObject name value id => do
    pure ((), ← db.updateObjects name fun table => table.rename name id value)
  | .deleteObject name id => do
    pure ((), ← db.updateObjects name fun table => .ok (table.delete id))
  | .storedName name id => do
    let table ← db.objects name
    pure (table.rows[id]?, db)
  | .findObject name lookup => do
    let table ← db.objects name
    pure (table.find? lookup, db)
  | .countObjects name pattern => do
    pure (← db.countNames name pattern, db)
  | .listObjects name pattern field direction limit offset => do
    let table ← db.objects name
    checkPattern pattern table.rows.size
    let rows := ObjectTable.sorted table.collation field direction (table.matching pattern)
    pure (window limit offset (rows.map (·.1)), db)
  | .deleteMetadata name object => do
    pure ((), ← db.updateMetadata name (MetadataTable.withoutObject · object))
  | .deleteEntry name object key => do
    pure ((), ← db.updateMetadata name (MetadataTable.withoutEntry · object key))
  | .insertEntry name object key value => do
    pure ((), ← db.updateMetadata name (· ++ [⟨object, key, value⟩]))
  | .listMetadata name object => do
    let rows ← db.metadata name
    pure (MetadataTable.entriesOf rows object, db)
  | .countMatches name plan => do
    pure ((← db.found name plan).size, db)
  | .listMatches name plan direction limit offset => do
    let ids := (← db.found name plan).toList
    let ids := match direction with
      | .ascending => ids
      | .descending => ids.reverse
    pure (window limit offset ids, db)

/-- Why the text of a statement is refused, whatever the database holds. -/
def textRefusal? (s : Statement) : Option Refusal :=
  match s.exceeded? with
  | some limit => some (.tooLarge limit)
  | none => ((s.template .sqlite).fault? .sqlite).map .unreadable

/-- What a statement answers and how it leaves the database, or why it is not carried out. -/
def run (db : Database) (s : Statement) : Except Refusal (s.Answer × Database) :=
  match textRefusal? s with
  | some refusal => .error refusal
  | none => db.carryOut s

def execute (db : Database) (s : Statement) : Except Refusal s.Answer × Database :=
  match db.run s with
  | .error refusal => (.error refusal, db)
  | .ok (answer, db) => (.ok answer, db)

end Database

end ObjectCatalog
