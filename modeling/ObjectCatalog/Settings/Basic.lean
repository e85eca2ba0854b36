import ObjectCatalog.Error
import ObjectCatalog.Repository.Connection
import ObjectCatalog.Text.Blank
import Std.Data.ExtTreeMap

/-!
# Settings

What a store needs to know before it can connect: where the database is, what its table names begin
with, the options of its tables, and how many connections it may hold. All but the first have a
default. The settings come from the environment, where a variable that is set to the empty text is
set all the same.
-/

namespace ObjectCatalog

/-- The variables of a process and their values. -/
abbrev Environment := Std.ExtTreeMap String String

structure Settings where
  databaseUrl : String
  tablePrefix : String := ""
  engine : String := "InnoDB"
  charset : String := "utf8mb4"
  collation : String := "utf8mb4_unicode_ci"
  maxConnections : Nat := 5
  deriving DecidableEq, Repr

namespace Settings

/-- The settings for a database with everything else at its default. -/
def ofUrl (url : String) : Settings := { databaseUrl := url }

/-- The first number above those of 32 bits. -/
def countBound : Nat := 4294967296

/-- Reads a number of 32 bits: digits, after a plus sign if there is one. -/
def count? (cs : List Char) : Option Nat :=
  let digits := if cs.head? == some '+' then cs.drop 1 else cs
  match Text.Numeral.read? digits with
  | some n => if n < countBound then some n else none
  | none => none

/-- The number of connections that a text asks for. A store holds one at least. -/
def readMaxConnections (given : String) : Except SettingFault Nat :=
  match count? (Text.trimChars given.toList) with
  | some n => .ok (max n 1)
  | none => .error (.maxConnections given)

/-- The settings that an environment gives. Of a missing URL and a bad number, the URL is reported
first. -/
def ofEnvironment (env : Environment) : Except SettingFault Settings := do
  let url ← match env["DATABASE_URL"]? with
    | some url => pure url
    | none => throw .urlMissing
  let defaults := ofUrl url
  let connections ← match env["DB_MAX_CONNECTIONS"]? with
    | some given => readMaxConnections given
    | none => pure defaults.maxConnections
  pure { defaults with
    tablePrefix := env["TABLE_PREFIX"]?.getD defaults.tablePrefix
    engine := env["DB_ENGINE"]?.getD defaults.engine
    charset := env["DB_CHARSET"]?.getD defaults.charset
    collation := env["DB_COLLATE"]?.getD defaults.collation
    maxConnections := connections }

def connection (s : Settings) (d : Dialect) : Connection :=
  ⟨d, s.tablePrefix, s.engine, s.charset, s.collation⟩

end Settings

end ObjectCatalog
