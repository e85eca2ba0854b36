import ObjectCatalog.Json.Printer
import ObjectCatalog.Json.Reader

/-!
# Cached rows

The cache keeps the id and the name of an object as a JSON text. It is written in one form, an
object with the members `id` and `name`, and read in every form that carries the same two values:
the members in any order and among others, which are skipped whatever they hold, or an array of the
two. A member that is given twice is an error, and so is an id that was not written as a whole
number of 64 bits.

What is skipped has to be well formed and no more: it may be nested to any depth, its strings may
hold half a surrogate pair and its numbers may have any size.
-/

namespace ObjectCatalog

/-- The part of an object that is cached. -/
structure CachedRow where
  id : Int64
  name : String
  deriving DecidableEq

namespace CachedRow

/-- The id a tree stands for. Negative zero is not written as a whole number. -/
def idOf? : Json.Tree → Option Int64
  | .number ⟨negative, digits, none, none⟩ =>
    let n := Text.Numeral.value digits
    if negative then
      if n = 0 || Text.Numeral.signedBound < n then none else some (Int64.ofInt (-n))
    else if n < Text.Numeral.signedBound then some (Int64.ofNat n) else none
  | _ => none

def nameOf? : Json.Tree → Option String
  | .string units => Json.decodeString? units
  | _ => none

/-- Reads the members of an object one by one; `id` and `name` hold what was read of them. -/
def ofMembers? (id : Option Int64) (name : Option String) :
    List (List Json.StringUnit × Json.Tree) → Option CachedRow
  | [] =>
    match id, name with
    | some id, some name => some ⟨id, name⟩
    | _, _ => none
  | (units, tree) :: rest =>
    match Json.decodeString? units with
    | none => none
    | some key =>
      if key = "id" then
        match id, idOf? tree with
        | none, some value => ofMembers? (some value) name rest
        | _, _ => none
      else if key = "name" then
        match name, nameOf? tree with
        | none, some value => ofMembers? id (some value) rest
        | _, _ => none
      else ofMembers? id name rest

def ofTree? : Json.Tree → Option CachedRow
  | .object members => ofMembers? none none members
  | .array [id, name] =>
    match idOf? id, nameOf? name with
    | some id, some name => some ⟨id, name⟩
    | _, _ => none
  | _ => none

def parse? (text : String) : Option CachedRow :=
  (Json.Tree.parse? text).bind ofTree?

def printChars (row : CachedRow) : List Char :=
  "\x7b\"id\":".toList ++ Text.Numeral.signed row.id.toInt ++ ",\"name\":".toList ++
    Json.quote row.name ++ ['\x7d']

def print (row : CachedRow) : String :=
  String.ofList (printChars row)

end CachedRow

end ObjectCatalog
