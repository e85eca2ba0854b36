import ObjectCatalog.Json.Basic

/-!
# Writing JSON

Values are written without blanks. In a string the quote and the backslash are escaped, and so is
every control character below U+0020: five of them by a letter, the others by four hexadecimal
digits in lower case. All other characters stand for themselves.
-/

namespace ObjectCatalog.Json

/-- The hexadecimal digit of a number below sixteen. -/
def hexDigit (n : Nat) : Char :=
  Nat.digitChar n

def escape (c : Char) : List Char :=
  if c == '"' then ['\\', '"']
  else if c == '\\' then ['\\', '\\']
  else if c == '\x08' then ['\\', 'b']
  else if c == '\t' then ['\\', 't']
  else if c == '\n' then ['\\', 'n']
  else if c == '\x0c' then ['\\', 'f']
  else if c == '\r' then ['\\', 'r']
  else if c.toNat < 0x20 then
    ['\\', 'u', '0', '0', hexDigit (c.toNat / 16), hexDigit (c.toNat % 16)]
  else [c]

def quote (s : String) : List Char :=
  '"' :: s.toList.flatMap escape ++ ['"']

mutual

def printChars : Json → List Char
  | .null => ['n', 'u', 'l', 'l']
  | .bool true => ['t', 'r', 'u', 'e']
  | .bool false => ['f', 'a', 'l', 's', 'e']
  | .number n => n.text.toList
  | .string s => quote s
  | .array items => '[' :: printItems items
  | .object members => '\x7b' :: printMembers members

/-- The items of an array up to its closing bracket. -/
def printItems : List Json → List Char
  | [] => [']']
  | [item] => printChars item ++ [']']
  | item :: rest => printChars item ++ ',' :: printItems rest

/-- The members of an object up to its closing brace. -/
def printMembers : List (String × Json) → List Char
  | [] => ['\x7d']
  | [(key, value)] => quote key ++ ':' :: printChars value ++ ['\x7d']
  | (key, value) :: rest => quote key ++ ':' :: printChars value ++ ',' :: printMembers rest

end

def print (value : Json) : String :=
  String.ofList (printChars value)

end ObjectCatalog.Json
