import ObjectCatalog.Text.PrintData
import ObjectCatalog.Text.Runs

/-!
# Quoted text for reports

The readiness report shows the table name stem between double quotes, so that blanks and invisible
characters in a misread setting can be seen. The quote and the backslash are escaped, the common
controls have letters, and every other character that is not shown as itself is written by its
number. The apostrophe needs no escape here.
-/

namespace ObjectCatalog.Text

/-- Digits of a number to base sixteen, in lower case and without leading zeros. -/
def hexDigits (n : Nat) : List Char :=
  Nat.toDigits 16 n

/-- How one character stands between the quotes. -/
def quotedChar (c : Char) : List Char :=
  if c == '"' then ['\\', '"']
  else if c == '\\' then ['\\', '\\']
  else if c == '\t' then ['\\', 't']
  else if c == '\n' then ['\\', 'n']
  else if c == '\r' then ['\\', 'r']
  else if c.toNat == 0 then ['\\', '0']
  else if inRuns PrintData.hiddenRuns c.toNat then
    ['\\', 'u', '\x7b'] ++ hexDigits c.toNat ++ ['\x7d']
  else [c]

/-- A text between double quotes, with all that would not be shown as itself escaped. -/
def quoted (s : String) : String :=
  String.ofList ('"' :: s.toList.flatMap quotedChar ++ ['"'])

/-- A text between backticks, as it stands. -/
def backticked (s : String) : String :=
  "\x60" ++ s ++ "\x60"

end ObjectCatalog.Text
