import ObjectCatalog.Lookup
import ObjectCatalog.Sql.Condition
import ObjectCatalog.Sql.Like

/-!
# Statements

Everything the store asks of a database, as data. A statement names its tables, carries the values
it was made for, and has a template: the values sit in the holes of the template and nowhere else,
with the one exception of the options of a table, which are settings and not data.

The columns of a new table stand on lines of their own. Where statements are listed this makes no
difference, but a comment in a table's name ends with the line.

The type of a statement's answer depends on the statement, so code that sends one gets what that
statement can answer and nothing else.
-/

namespace ObjectCatalog

inductive SortField where
  | id
  | name
  deriving DecidableEq, Repr

inductive SortDirection where
  | ascending
  | descending
  deriving DecidableEq, Repr

inductive IndexedColumn where
  | object
  | name
  deriving DecidableEq, Repr

def SortField.column : SortField → String
  | .id => "id"
  | .name => "name"

def SortDirection.keyword : SortDirection → String
  | .ascending => "ASC"
  | .descending => "DESC"

def IndexedColumn.column : IndexedColumn → String
  | .object => "object"
  | .name => "name"

def IndexedColumn.indexName (column : IndexedColumn) (table : String) : String :=
  table ++ "_" ++ column.column

inductive Statement where
  /-- Creates an object table unless there is a table of that name. -/
  | createObjects (table options : String)
  /-- Creates a metadata table unless there is a table of that name. -/
  | createMetadata (table options : String)
  /-- Creates the index of a metadata column unless it is there. -/
  | createIndex (table : String) (column : IndexedColumn)
  /-- Inserts an object; its id has to be asked for afterwards. -/
  | insertObject (table name : String)
  | insertReturning (table name : String)
  | lastInsertId
  | renameObject (table name : String) (id : Int64)
  | deleteObject (table : String) (id : Int64)
  /-- Answers the name in the row with the given id. -/
  | storedName (table : String) (id : Int64)
  | findObject (table : String) (lookup : Lookup)
  /-- Counts the rows whose name matches the pattern, or all rows. -/
  | countObjects (table : String) (pattern : Option String)
  /-- Answers a page of the ids of those rows. -/
  | listObjects (table : String) (pattern : Option String) (field : SortField)
      (direction : SortDirection) (limit offset : Int64)
  | deleteMetadata (table : String) (object : Int64)
  /-- Deletes all values an object has under a key. -/
  | deleteEntry (table : String) (object : Int64) (key : String)
  | insertEntry (table : String) (object : Int64) (key value : String)
  /-- Answers the metadata rows of an object, sorted by key and then by value. -/
  | listMetadata (table : String) (object : Int64)
  /-- Counts the objects of a table whose metadata satisfies the plan. -/
  | countMatches (table : String) (plan : Plan)
  /-- Answers a page of the ids of those objects. -/
  | listMatches (table : String) (plan : Plan) (direction : SortDirection) (limit offset : Int64)
  deriving DecidableEq

namespace Statement

/-- What a database answers to a statement that it carries out. -/
abbrev Answer : Statement → Type
  | .insertReturning _ _ | .lastInsertId => Int64
  | .storedName _ _ => Option String
  | .findObject _ _ => Option (Int64 × String)
  | .countObjects _ _ | .countMatches _ _ => Nat
  | .listObjects _ _ _ _ _ _ | .listMatches _ _ _ _ _ => List Int64
  | .listMetadata _ _ => List (String × String)
  | _ => Unit

/-- The restriction of a name search to names that match a pattern. -/
def namesLike : Option String → Template
  | none => []
  | some pattern =>
    [.text " WHERE name LIKE ", .hole (.text pattern),
      .text (" ESCAPE '" ++ String.singleton Like.escapeMark ++ "'")]

/-- The end of a page query: the limit comes before the offset. -/
def pageEnd (limit offset : Int64) : Template :=
  [.text " LIMIT ", .hole (.int limit), .text " OFFSET ", .hole (.int offset)]

/-- The tables of a metadata search: a starting row for every metadata row of an existing object. -/
def matchSource (table : String) (plan : Plan) : Template :=
  [.text " FROM ", .table .named plan.relation, .text (" " ++ rowAlias 0 ++ " INNER JOIN "),
    .table .named table, .text (" o ON o.id = " ++ rowAlias 0 ++ ".object WHERE ")]

/-- The definitions of columns and keys, one on a line. -/
def definitions (lines : List String) : String :=
  " (\n    " ++ ",\n    ".intercalate lines ++ "\n)"

def objectColumns (d : Dialect) : List String :=
  ["id " ++ d.serialPrimaryKey, "name VARCHAR(255) NOT NULL UNIQUE"]

/-- The definitions of a metadata table. The third dialect declares its indexes with them. -/
def metadataColumns (d : Dialect) : List String :=
  ["object BIGINT NOT NULL", "name VARCHAR(255) NOT NULL", "value TEXT NOT NULL"] ++
    match d with
    | .mySql => ["KEY object (object)", "KEY name (name)"]
    | .postgres | .sqlite => []

def creation (table : String) (columns : List String) (options : String) : Template :=
  [.text "CREATE TABLE IF NOT EXISTS ", .table .defined table,
    .text (definitions columns ++ options)]

def template (d : Dialect) : Statement → Template
  | .createObjects table options => creation table (objectColumns d) options
  | .createMetadata table options => creation table (metadataColumns d) options
  | .createIndex table column =>
    [.text "CREATE INDEX IF NOT EXISTS ", .table .named (column.indexName table), .text " ON ",
      .table .indexed table, .text (" (" ++ column.column ++ ")")]
  | .insertObject table name =>
    [.text "INSERT INTO ", .table .named table, .text " (name) VALUES (", .hole (.text name),
      .text ")"]
  | .insertReturning table name =>
    [.text "INSERT INTO ", .table .named table, .text " (name) VALUES (", .hole (.text name),
      .text ") RETURNING id"]
  | .lastInsertId => [.text "SELECT CAST(LAST_INSERT_ID() AS SIGNED) AS id"]
  | .renameObject table name id =>
    [.text "UPDATE ", .table .named table, .text " SET name = ", .hole (.text name),
      .text " WHERE id = ", .hole (.int id)]
  | .deleteObject table id =>
    [.text "DELETE FROM ", .table .named table, .text " WHERE id = ", .hole (.int id)]
  | .storedName table id =>
    [.text "SELECT name FROM ", .table .source table, .text " WHERE id = ", .hole (.int id)]
  | .findObject table (.id id) =>
    [.text "SELECT name, id FROM ", .table .source table, .text " WHERE id = ", .hole (.int id)]
  | .findObject table (.name name) =>
    [.text "SELECT name, id FROM ", .table .source table, .text " WHERE name = ",
      .hole (.text name)]
  | .countObjects table pattern =>
    .text "SELECT COUNT(*) AS total FROM " :: .table .source table :: namesLike pattern
  | .listObjects table pattern field direction limit offset =>
    .text "SELECT id FROM " :: .table .source table :: namesLike pattern ++
      .text (" ORDER BY " ++ field.column ++ " " ++ direction.keyword) :: pageEnd limit offset
  | .deleteMetadata table object =>
    [.text "DELETE FROM ", .table .named table, .text " WHERE object = ", .hole (.int object)]
  | .deleteEntry table object key =>
    [.text "DELETE FROM ", .table .named table, .text " WHERE object = ", .hole (.int object),
      .text " AND name = ", .hole (.text key)]
  | .insertEntry table object key value =>
    [.text "INSERT INTO ", .table .named table, .text " (object, name, value) VALUES (",
      .hole (.int object), .text ", ", .hole (.text key), .text ", ", .hole (.text value),
      .text ")"]
  | .listMetadata table object =>
    [.text "SELECT name, value FROM ", .table .source table, .text " WHERE object = ",
      .hole (.int object), .text " ORDER BY name, value"]
  | .countMatches table plan =>
    .text ("SELECT COUNT(DISTINCT " ++ rowAlias 0 ++ ".object) AS total") ::
      matchSource table plan ++ plan.template
  | .listMatches table plan direction limit offset =>
    .text ("SELECT " ++ rowAlias 0 ++ ".object AS id") :: matchSource table plan ++
      plan.template ++
      .text (" GROUP BY " ++ rowAlias 0 ++ ".object ORDER BY " ++ rowAlias 0 ++ ".object " ++
        direction.keyword) :: pageEnd limit offset

def text (d : Dialect) (s : Statement) : String :=
  (s.template d).text d

def args (d : Dialect) (s : Statement) : List Arg :=
  (s.template d).args

end Statement

end ObjectCatalog
