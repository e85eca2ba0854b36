import ObjectCatalog.Database.Basic
import ObjectCatalog.Settings.Basic
import ObjectCatalog.Settings.DatabaseUrl

/-!
# Connecting

A store is connected to the database its URL names. The scheme decides the dialect, and a scheme
that is none of the known ones is a fault of the settings. This library has one database to offer,
the one in memory; a URL that leads anywhere else is one whose database does not answer.
-/

namespace ObjectCatalog

/-- The refusal to open a database file that is not there. -/
def cannotOpen : DatabaseError := ⟨false, some "14", "unable to open database file"⟩

/-- The refusal of a file system that is not known. -/
def noFileSystem (name : String) : DatabaseError := ⟨false, some "1", "no such vfs: " ++ name⟩

/-- Opens the database of a URL, which has to be one in memory. -/
def openDatabase (url : String) : Except StorageError Database :=
  match Location.ofUrl url with
  | .error fault => .error (.url fault)
  | .ok location =>
    match Access.ofParameters location.parameters with
    | .error fault => .error (.url fault)
    | .ok access =>
      match access.fileSystem.filter (!Access.fileSystems.contains ·) with
      | some name => .error (.database (noFileSystem name))
      | none =>
        if !access.opensInMemory location.place then .error (.database cannotOpen)
        else .ok (if access.readOnly then .sealed else .empty)

/-- Connects a store. Only the dialect of files knows databases in memory. -/
def Settings.connect (s : Settings) : Except Error (Connection × Database) :=
  match Dialect.ofUrl s.databaseUrl with
  | .error fault => .error (.configuration fault)
  | .ok .sqlite =>
    match openDatabase s.databaseUrl with
    | .ok database => .ok (s.connection .sqlite, database)
    | .error error => .error (.storage error)
  | .ok _ => .error (.storage .unreachable)

end ObjectCatalog
