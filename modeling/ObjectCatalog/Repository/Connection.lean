import ObjectCatalog.Sql.Dialect

/-!
# Connections

What all tables of one store have in common: the dialect their database speaks, the stem their
names begin with, and the options they are created with.
-/

namespace ObjectCatalog

structure Connection where
  dialect : Dialect
  tablePrefix : String
  engine : String
  charset : String
  collation : String
  deriving DecidableEq

namespace Connection

def table (c : Connection) (name : String) : String :=
  c.tablePrefix ++ name

/-- The options at the end of a table's creation. One dialect has them. -/
def tableOptions (c : Connection) : String :=
  match c.dialect with
  | .mySql =>
    " ENGINE=" ++ c.engine ++ " DEFAULT CHARSET=" ++ c.charset ++ " COLLATE=" ++ c.collation
  | .postgres | .sqlite => ""

end Connection

end ObjectCatalog
