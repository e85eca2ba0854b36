import ObjectCatalog.Text.Blank
import ObjectCatalog.Text.Numeral

/-!
# Lookups

An object is asked for by its id or by its name. A caller that has only a text, from a command or
an address line, gets the reading that is usually meant: digits are an id, all else is a name. The
texts without a reading as an id are the exact complement, and that includes numbers too large to
be one.
-/

namespace ObjectCatalog

inductive Lookup where
  | id (id : Int64)
  | name (name : String)
  deriving DecidableEq

namespace Lookup

/-- Reads a text: digits of a number that can be an id are one, anything else is a name. Blanks
around either do not count. -/
def ofText (raw : String) : Lookup :=
  let trimmed := Text.trim raw
  match Text.Numeral.read? trimmed.toList with
  | some n => if n < Text.Numeral.signedBound then .id (Int64.ofNat n) else .name trimmed
  | none => .name trimmed

/-- The lookup of a name as a caller gives it. -/
def ofName (raw : String) : Lookup :=
  .name (Text.trim raw)

end Lookup

end ObjectCatalog
