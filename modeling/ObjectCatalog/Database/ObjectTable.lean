import ObjectCatalog.Database.Refusal
import ObjectCatalog.Lookup
import ObjectCatalog.Sql.Like
import ObjectCatalog.Sql.Statement
import Std.Data.ExtTreeMap

/-!
# Object tables

An object table holds names under ids. Ids are the primary key, so the rows are a finite map; that
names differ is a constraint that inserts and renames check, and what counts as the same name is
the column's collation. A new row gets an id above every id the table ever held, whether the row
that held it is still there or not.
-/

namespace ObjectCatalog

/-- How the names of a table are compared: for equality, for order and for uniqueness. -/
inductive Collation where
  | binary
  | ignoreCase
  deriving DecidableEq, Repr

/-- A text whose bytes from the first NUL character on are all NUL. -/
def blankedFromNul (name : String) : String :=
  let seen := name.toList.takeWhile (·.toNat != 0)
  let hidden := name.toList.drop seen.length
  String.ofList (seen ++ hidden.flatMap fun c => List.replicate c.utf8Size '\x00')

/-- What a collation compares of a text. Without regard to case a text is read up to its first NUL
character, and of what is behind it only the length counts. -/
def Collation.key (c : Collation) (name : String) : String :=
  match c with
  | .binary => name
  | .ignoreCase => Text.foldCase (blankedFromNul name)

/-- Whether two names are the same to a collation. -/
def Collation.same (c : Collation) (a b : String) : Bool :=
  c.key a == c.key b

structure ObjectTable where
  collation : Collation
  rows : Std.ExtTreeMap Int64 String
  /-- The largest id the table ever held, or zero if it never held a positive one. -/
  highestId : Int64
  deriving DecidableEq

namespace ObjectTable

def empty (collation : Collation) : ObjectTable := ⟨collation, ∅, 0⟩

/-- The rows in the order of their ids. -/
def toList (t : ObjectTable) : List (Int64 × String) :=
  t.rows.toList

def withName? (t : ObjectTable) (name : String) : Option (Int64 × String) :=
  t.toList.find? fun row => t.collation.same row.2 name

/-- The row that a lookup finds, with the name as it is stored. -/
def find? (t : ObjectTable) : Lookup → Option (Int64 × String)
  | .id id => t.rows[id]?.map (id, ·)
  | .name name => t.withName? name

def insertAt (t : ObjectTable) (table : String) (id : Int64) (name : String) :
    Except Refusal ObjectTable :=
  if t.rows.contains id then .error (.idTaken table)
  else if (t.withName? name).isSome then .error (.nameTaken table)
  else .ok { t with rows := t.rows.insert id name, highestId := max t.highestId id }

def insert (t : ObjectTable) (table name : String) : Except Refusal (Int64 × ObjectTable) :=
  -- No id is given twice, so once the last one was held there is no other.
  if t.highestId = Int64.maxValue then .error .full
  else
    let id := t.highestId + 1
    if (t.withName? name).isSome then .error (.nameTaken table)
    else .ok (id, { t with rows := t.rows.insert id name, highestId := id })

/-- Gives a row another name; without such a row nothing happens. -/
def rename (t : ObjectTable) (table : String) (id : Int64) (name : String) :
    Except Refusal ObjectTable :=
  if !t.rows.contains id then .ok t
  -- The row itself does not stand in its own way: it may change the case of its name.
  else if t.toList.any fun row => row.1 != id && t.collation.same row.2 name then
    .error (.nameTaken table)
  else .ok { t with rows := t.rows.insert id name }

def delete (t : ObjectTable) (id : Int64) : ObjectTable :=
  { t with rows := t.rows.erase id }

/-- The rows whose name matches a pattern, or all rows. -/
def matching (t : ObjectTable) (pattern : Option String) : List (Int64 × String) :=
  t.toList.filter fun row =>
    match pattern with
    | none => true
    | some p => Like.matchesText (some Like.escapeMark) p row.2

/-- Whether one row may come before another in a sort. -/
def mayPrecede (c : Collation) (field : SortField) (a b : Int64 × String) : Bool :=
  match field with
  | .id => a.1 ≤ b.1
  | .name => c.key a.2 ≤ c.key b.2

/-- Rows in the order of a sort. -/
def sorted (c : Collation) (field : SortField) (direction : SortDirection)
    (rows : List (Int64 × String)) : List (Int64 × String) :=
  rows.mergeSort fun a b =>
    match direction with
    | .ascending => mayPrecede c field a b
    | .descending => mayPrecede c field b a

end ObjectTable

/-- The part of a list that a limit and an offset select. A negative limit is none at all, and a
negative offset skips nothing. -/
def window {α : Type} (limit offset : Int64) (items : List α) : List α :=
  let rest := items.drop offset.toInt.toNat
  if limit < 0 then rest else rest.take limit.toInt.toNat

end ObjectCatalog
