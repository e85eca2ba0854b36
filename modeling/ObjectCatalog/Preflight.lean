import ObjectCatalog.Repository.Search
import ObjectCatalog.Settings.Connect
import ObjectCatalog.Text.Quoted

/-!
# The preflight check

Before a service starts, the preflight check tells whether its settings lead to a database and
whether the tables of its types answer. It prints what it finds line by line and stops at the first
thing that is wrong. On request it creates the tables first.

The check is a function of the arguments and the environment, so its whole output can be computed;
the command line only prints it.
-/

namespace ObjectCatalog.Preflight

structure Report where
  exit : Nat
  output : String
  /-- The first line of the error output, without its end; empty if there is none. -/
  complaint : String
  deriving DecidableEq, Repr

def usage : String :=
  "Usage: cargo run --bin preflight -- [--install] <type_name>..."

/-- What the program explains after the usage line. -/
def usageDetails : String :=
  "\nRequires env vars:\nDATABASE_URL\nOptional:\n" ++
    "TABLE_PREFIX, DB_ENGINE, DB_CHARSET, DB_COLLATE, DB_MAX_CONNECTIONS\n"

/-- A check under way: the lines it printed, in order, and what it acts on. -/
structure Progress where
  lines : List String
  backend : Backend

/-- A step of a check. It may print, and it ends the check with a complaint or goes on. -/
abbrev Step := ExceptT String (StateM Progress)

def say (line : String) : Step Unit :=
  modify fun p => { p with lines := p.lines ++ [line] }

/-- Carries out an action of a repository; an error becomes a complaint. -/
def act {α : Type} (action : Action α) (complain : Error → String) : Step α :=
  ExceptT.mk fun p =>
    let (result, backend) := action p.backend
    (result.mapError complain, { p with backend := backend })

/-- The page that is asked for: only the count matters. -/
def firstObject : SearchOptions := { limit := 1 }

/-- Checks the tables of one type. -/
def checkType (connection : Connection) (install : Bool) (name : String) : Step Unit := do
  match TypeName.ofText? name with
  | none => throw (Error.invalidArgument (.typeName name)).message
  | some typeName => do
    let r := Repository.ofType connection typeName
    if install then do
      act r.install Error.message
      say ("  Installed schema for '" ++ name ++ "' (" ++ r.table ++ ", " ++ r.metaTable ++ ").")
    let found ← act (r.search "" firstObject) fun error =>
      "Failed to query '" ++ r.table ++ "': " ++ error.message
    say ("  " ++ name ++ ": " ++ Text.Numeral.ofNat found.total ++ " objects")

/-- Checks the tables of types in order. -/
def checkTypes (connection : Connection) (install : Bool) : List String → Step Unit
  | [] => pure ()
  | name :: rest => do
    checkType connection install name
    checkTypes connection install rest

def check (env : Environment) (install : Bool) (names : List String) : Step Unit := do
  match Settings.ofEnvironment env with
  | .error fault => throw (Error.configuration fault).message
  | .ok settings => do
    say "> Preflight:"
    say ("  TABLE_PREFIX=" ++ Text.quoted settings.tablePrefix)
    say ("  DB_MAX_CONNECTIONS=" ++ Text.Numeral.ofNat settings.maxConnections)
    match settings.connect with
    | .error error => throw error.message
    | .ok (connection, database) => do
      -- Nothing is cached: the check is about the tables.
      modify fun p => { p with backend := .start database .null }
      say ("  Connected (" ++ connection.dialect.name ++ ").")
      checkTypes connection install names
      say "> Preflight OK."

def printed (lines : List String) : String :=
  String.join (lines.map (· ++ "\n"))

/-- A text up to its first line break, which is a line feed or a carriage return and one. -/
def firstLine (s : String) : String :=
  let line := s.toList.takeWhile (· != '\n')
  String.ofList (if line.getLast? == some '\r' then line.dropLast else line)

/-- The arguments that name types. -/
def typeNames (args : List String) : List String :=
  args.filter fun arg => !("--".toList.isPrefixOf arg.toList)

/-- Runs the check. Asking for help, or naming no type, only explains the usage. -/
def run (args : List String) (env : Environment) : Report :=
  let names := typeNames args
  if args.contains "-h" || args.contains "--help" || names.isEmpty then ⟨2, "", usage⟩
  else
    let (result, progress) :=
      check env (args.contains "--install") names ⟨[], .start .empty .null⟩
    match result with
    | .ok () => ⟨0, printed progress.lines, ""⟩
    | .error complaint => ⟨1, printed progress.lines, firstLine ("Error: " ++ complaint)⟩

end ObjectCatalog.Preflight
