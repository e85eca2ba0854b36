import ObjectCatalog.Error
import ObjectCatalog.Text.Lowercase

/-!
# Dialects

Three databases are spoken to. They differ in how a statement marks the place of an argument, in
how a table numbers its rows, and in whether an insert can return the number it assigned. The rest
of a statement's text is the same for all.
-/

namespace ObjectCatalog

inductive Dialect where
  | postgres
  | sqlite
  | mySql
  deriving DecidableEq, Repr

namespace Dialect

/-- The scheme of a URL, in lower case: all before the first colon. -/
def schemeOf (url : String) : String :=
  Text.lowercase (String.ofList (url.toList.takeWhile (· != ':')))

/-- The dialect of the database a URL leads to. -/
def ofUrl (url : String) : Except SettingFault Dialect :=
  let scheme := schemeOf url
  if scheme = "postgres" || scheme = "postgresql" then .ok .postgres
  else if scheme = "sqlite" then .ok .sqlite
  else if scheme = "mysql" || scheme = "mariadb" then .ok .mySql
  else .error (.unsupportedScheme scheme)

def name : Dialect → String
  | .postgres => "Postgres"
  | .sqlite => "Sqlite"
  | .mySql => "MySql"

def label : Dialect → String
  | .postgres => "postgres"
  | .sqlite => "sqlite"
  | .mySql => "mysql"

def ofLabel? (label : String) : Option Dialect :=
  [Dialect.postgres, .sqlite, .mySql].find? fun d => d.label == label

/-- The mark of the `n`-th argument of a statement, counted from one. Only the third dialect has
marks without numbers, and there the order of the marks is the order of the arguments. -/
def placeholder (d : Dialect) (n : Nat) : String :=
  match d with
  | .postgres => "$" ++ Text.Numeral.ofNat n
  | .sqlite => "?" ++ Text.Numeral.ofNat n
  | .mySql => "?"

/-- Whether an insert can return the id it assigned. -/
def supportsReturning : Dialect → Bool
  | .postgres | .sqlite => true
  | .mySql => false

/-- The column of a table that numbers its rows and never uses a number twice. -/
def serialPrimaryKey : Dialect → String
  | .postgres => "BIGSERIAL PRIMARY KEY"
  | .sqlite => "INTEGER PRIMARY KEY AUTOINCREMENT"
  | .mySql => "BIGINT NOT NULL AUTO_INCREMENT PRIMARY KEY"

end Dialect

end ObjectCatalog
