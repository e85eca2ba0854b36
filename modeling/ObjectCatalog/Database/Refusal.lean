import ObjectCatalog.Error
import ObjectCatalog.Sql.Limit
import ObjectCatalog.Sql.TableRef

/-!
# Refusals

Why a database does not carry out a statement. A statement may fail before it runs, when it is
prepared: it is no sentence of the language, or a table or a column it names is not there. Or it
runs into a constraint. Only in the second case were its arguments bound, so the two are told
apart.
-/

namespace ObjectCatalog

inductive Refusal where
  | unreadable (fault : SyntaxFault)
  | tooLarge (limit : Limit)
  | noTable (table : String)
  | noColumn (column : String)
  | tableExists (table : String)
  | noSchema (schema : String)
  /-- Names like this are the database's own. -/
  | reservedName (name : String)
  /-- The definition of the table could not be read back. -/
  | badDefinition (name : String)
  /-- A table has the name of the index. -/
  | isTable (name : String)
  /-- An index has the name of the table. -/
  | isIndex (name : String)
  | readOnly
  | nameTaken (table : String)
  | idTaken (table : String)
  /-- A column that needs a value got none. -/
  | valueRequired (table column : String)
  | longPattern
  | full
  deriving DecidableEq, Repr

namespace Refusal

/-- Whether the statement was prepared, so that its arguments were bound. -/
def wasPrepared : Refusal → Bool
  | .unreadable _ | .tooLarge _ | .noTable _ | .noColumn _ | .tableExists _ | .noSchema _
  | .reservedName _ | .isTable _ | .isIndex _ => false
  | .badDefinition _ | .readOnly | .nameTaken _ | .idTaken _ | .valueRequired _ _ | .longPattern
  | .full => true

def report : Refusal → DatabaseError
  | .unreadable fault => ⟨false, some "1", fault.message⟩
  | .tooLarge limit => ⟨false, some "1", limit.message⟩
  | .noTable table => ⟨false, some "1", "no such table: " ++ TableRef.labelOf table⟩
  | .noColumn column => ⟨false, some "1", "no such column: " ++ column⟩
  | .tableExists table => ⟨false, some "1", "table " ++ table ++ " already exists"⟩
  | .noSchema schema => ⟨false, some "1", "unknown database " ++ schema⟩
  | .reservedName name => ⟨false, some "1", "object name reserved for internal use: " ++ name⟩
  | .badDefinition name =>
    ⟨false, some "11", "malformed database schema (" ++ name ++ ") - near \"(\": syntax error"⟩
  | .isTable name => ⟨false, some "1", "there is already a table named " ++ name⟩
  | .isIndex name => ⟨false, some "1", "there is already an index named " ++ name⟩
  | .readOnly => ⟨false, some "8", "attempt to write a readonly database"⟩
  | .nameTaken table => ⟨true, some "2067", "UNIQUE constraint failed: " ++ table ++ ".name"⟩
  | .idTaken table => ⟨true, some "1555", "UNIQUE constraint failed: " ++ table ++ ".id"⟩
  | .valueRequired table column =>
    ⟨false, some "1299", "NOT NULL constraint failed: " ++ table ++ "." ++ column⟩
  | .longPattern => ⟨false, some "1", "LIKE or GLOB pattern too complex"⟩
  | .full => ⟨false, some "13", "database or disk is full"⟩

end Refusal

end ObjectCatalog
