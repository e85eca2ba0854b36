import ObjectCatalog.Text.Numeral
import ObjectCatalog.Text.Quoted

/-!
# Errors

Every call of the store ends in a value or in one of the errors below. They are causes: each says
what was wrong, and `Error.message` is the one place where causes become sentences.

A caller usually needs to tell one of them from the rest, the taken name, so a refusal of the
database that reports a broken uniqueness constraint is turned into `duplicateName` by the calls
that write names. Every other refusal is passed on as the database reported it.
-/

namespace ObjectCatalog

/-- What is wrong with one clause of a predicate. -/
inductive ClauseFault where
  | notObject
  | noConnector
  | noKey
  | nonScalarValue
  | noValue
  deriving DecidableEq, Repr

/-- Why a call's arguments make no sense. -/
inductive ArgumentFault where
  | emptyName
  | typeName (text : String)
  /-- A predicate without clauses has no plan. -/
  | emptyPredicate
  /-- A metadata search for everything is refused: there is a search for that. -/
  | emptySearch
  | emptyValueSet (key : String)
  | predicateNotArray
  | clause (index : Nat) (fault : ClauseFault)
  /-- A reason in the caller's own words. -/
  | stated (reason : String)
  deriving DecidableEq, Repr

/-- What is missing or wrong in the settings. -/
inductive SettingFault where
  | urlMissing
  | maxConnections (given : String)
  | unsupportedScheme (scheme : String)
  /-- A reason in the caller's own words. -/
  | stated (reason : String)
  deriving DecidableEq, Repr

/-- Why a call of the cache failed: the root cause, and what was being attempted around it,
outermost attempt first. -/
structure CacheFailure where
  contexts : List String
  cause : String
  deriving DecidableEq, Repr

/-- How a database reports that it refused a statement. -/
structure DatabaseError where
  /-- The driver recognised a broken uniqueness constraint. -/
  unique : Bool
  code : Option String
  message : String
  deriving DecidableEq, Repr

/-- What is wrong with the URL of a database. -/
inductive UrlFault where
  | noScheme
  | noHost
  | badHost
  | badAddress
  | badNumber
  | unknownParameter (name : String)
  | unknownValue (name value : String)
  deriving DecidableEq, Repr

/-- What the storage layer reports. -/
inductive StorageError where
  | database (error : DatabaseError)
  | rowNotFound
  | url (fault : UrlFault)
  | unreachable
  deriving DecidableEq, Repr

inductive Error where
  | duplicateName (name : String)
  | invalidArgument (fault : ArgumentFault)
  | storage (error : StorageError)
  | cache (failure : CacheFailure)
  /-- A cached payload is not a cached row. -/
  | payload
  | configuration (fault : SettingFault)
  deriving DecidableEq, Repr

/-- Results of calls can be compared when their errors and their values can. -/
instance decidableEqResult {ε α : Type} [DecidableEq ε] [DecidableEq α] :
    DecidableEq (Except ε α)
  | .error e, .error f =>
    if h : e = f then isTrue (congrArg _ h) else isFalse fun same => h (Except.error.inj same)
  | .ok a, .ok b =>
    if h : a = b then isTrue (congrArg _ h) else isFalse fun same => h (Except.ok.inj same)
  | .error _, .ok _ => isFalse fun same => nomatch same
  | .ok _, .error _ => isFalse fun same => nomatch same

/-- The codes by which the three databases report a taken key: that of the SQL standard, the two of
SQLite (a unique column, a primary key), and that of MySQL. -/
def StorageError.duplicateCodes : List String :=
  ["23505", "2067", "1555", "1062"]

def StorageError.isDuplicateKey : StorageError → Bool
  | .database error =>
    error.unique || (error.code.map duplicateCodes.contains).getD false
  | .rowNotFound | .url _ | .unreachable => false

def Error.isDuplicateName : Error → Bool
  | .duplicateName _ => true
  | _ => false

/-- The failure that a chain of reasons describes: the last is the root cause. A chain without
reasons says no more than that the cache is down. -/
def CacheFailure.ofChain (chain : List String) : CacheFailure :=
  match chain.getLast? with
  | some cause => ⟨chain.dropLast, cause⟩
  | none => ⟨[], "down"⟩

/-! ## Messages -/

def ClauseFault.message : ClauseFault → String
  | .notObject => "must be an object"
  | .noConnector => "must have a key or a single connector entry"
  | .noKey => "has no usable key"
  | .nonScalarValue => "has a non-scalar value"
  | .noValue => "has no value"

def ArgumentFault.message : ArgumentFault → String
  | .emptyName => "object name must not be empty"
  | .typeName text => "'" ++ text ++ "' is not a valid type name"
  | .emptyPredicate => "metadata predicate must not be empty"
  | .emptySearch =>
    "metadata predicate must not be empty; use search() to list all objects"
  | .emptyValueSet key => "value set for metadata key '" ++ key ++ "' is empty"
  | .predicateNotArray => "predicate must be an array of clauses"
  | .clause index fault => "clause " ++ Text.Numeral.ofNat index ++ " " ++ fault.message
  | .stated reason => reason

def SettingFault.message : SettingFault → String
  | .urlMissing => "DATABASE_URL must be set"
  | .maxConnections given => "DB_MAX_CONNECTIONS must be a valid u32, got '" ++ given ++ "'"
  | .unsupportedScheme scheme => "unsupported database scheme '" ++ scheme ++ "'"
  | .stated reason => reason

/-- The whole chain of a cache failure, outermost attempt first. -/
def CacheFailure.message (failure : CacheFailure) : String :=
  ": ".intercalate (failure.contexts ++ [failure.cause])

def UrlFault.message : UrlFault → String
  | .noScheme => "relative URL without a base"
  | .noHost => "empty host"
  | .badHost => "invalid domain character"
  | .badAddress => "invalid IPv6 address"
  | .badNumber => "invalid port number"
  | .unknownParameter name =>
    "unknown query parameter " ++ Text.backticked name ++ " while parsing connection URL"
  | .unknownValue name value =>
    "unknown value " ++ Text.quoted value ++ " for " ++ Text.backticked name

def StorageError.message : StorageError → String
  | .database error =>
    "error returned from database: (code: " ++ error.code.getD "" ++ ") " ++ error.message
  | .rowNotFound => "no rows returned by a query that expected to return at least one row"
  | .url fault => "error with configuration: " ++ fault.message
  | .unreachable => "error communicating with database: connection refused"

def Error.message : Error → String
  | .duplicateName name => "an object named '" ++ name ++ "' already exists"
  | .invalidArgument fault => "invalid argument: " ++ fault.message
  | .storage error => error.message
  | .cache failure => "cache failure: " ++ failure.message
  | .payload => "cache payload error"
  | .configuration fault => "configuration error: " ++ fault.message

end ObjectCatalog
