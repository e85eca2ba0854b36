import ObjectCatalog.Text.Ascii
import ObjectCatalog.Text.Numeral

/-!
# The tokens of a JSON text

A JSON text is first cut into tokens by a machine that looks at one character at a time. It knows
what is well formed within a token: which escapes a string may hold, that a control character may
not stand in one, how a number is written. What a token *means* is left open, because the readers
differ: a string that is skipped may hold half of a surrogate pair, a string that is read may not;
a number that is skipped may exceed every range.

The machine's state is a `Mode`, and reading is a recursion over the characters, so it needs no
bound of its own.
-/

namespace ObjectCatalog.Json

/-- One unit of a string between its quotes: a character, or the number of a `\u` escape. -/
inductive StringUnit where
  | char (c : Char)
  | code (n : Nat)
  deriving DecidableEq, Repr

/-- A number as it was written: `-whole.fraction e exponent`, with nothing for a part that is
absent. All parts are runs of digits. -/
structure NumberLiteral where
  negative : Bool
  whole : List Char
  fraction : Option (List Char)
  exponent : Option (Bool × List Char)
  deriving DecidableEq, Repr

inductive Mark where
  | openObject | closeObject | openArray | closeArray | colon | comma
  deriving DecidableEq, Repr

inductive Token where
  | mark (m : Mark)
  | string (units : List StringUnit)
  | number (literal : NumberLiteral)
  | null
  | bool (b : Bool)
  deriving DecidableEq, Repr

/-- Where the machine stands: between tokens, in a number or a word, in a string, after a
backslash in it, or among the four digits of a `\u` escape. What was read of the token is held
last part first. -/
inductive Mode where
  | between
  | number (read : List Char)
  | word (read : List Char)
  | string (read : List StringUnit)
  | escape (read : List StringUnit)
  | code (read : List StringUnit) (value digits : Nat)

/-- The blanks that may stand between tokens. -/
def isSpace (c : Char) : Bool :=
  c == ' ' || c == '\t' || c == '\n' || c == '\r'

/-- The characters a number is made of. -/
def isNumberPart (c : Char) : Bool :=
  c.isDigit || c == '-' || c == '+' || c == '.' || c == 'e' || c == 'E'

def mark? (c : Char) : Option Mark :=
  if c == '\x7b' then some .openObject
  else if c == '\x7d' then some .closeObject
  else if c == '[' then some .openArray
  else if c == ']' then some .closeArray
  else if c == ':' then some .colon
  else if c == ',' then some .comma
  else none

/-- The character that a one-letter escape stands for. -/
def escaped? (c : Char) : Option Char :=
  if c == '"' then some '"'
  else if c == '\\' then some '\\'
  else if c == '/' then some '/'
  else if c == 'b' then some '\x08'
  else if c == 'f' then some '\x0c'
  else if c == 'n' then some '\n'
  else if c == 'r' then some '\r'
  else if c == 't' then some '\t'
  else none

/-- The exponent part of a number: a sign if any, then digits to the end. -/
def exponent? (cs : List Char) : Option (Bool × List Char) :=
  let (negative, digits) :=
    match cs with
    | '-' :: rest => (true, rest)
    | '+' :: rest => (false, rest)
    | rest => (false, rest)
  if Text.Numeral.isRun digits then some (negative, digits) else none

/-- What follows the whole part of a number: a fraction and an exponent, each only if its mark is
there. -/
def numberTail? (negative : Bool) (whole : List Char) : List Char → Option NumberLiteral
  | [] => some ⟨negative, whole, none, none⟩
  | '.' :: rest =>
    let digits := rest.takeWhile Char.isDigit
    if digits.isEmpty then none
    else
      match rest.dropWhile Char.isDigit with
      | [] => some ⟨negative, whole, some digits, none⟩
      | c :: power =>
        if c == 'e' || c == 'E' then
          (exponent? power).map fun e => ⟨negative, whole, some digits, some e⟩
        else none
  | c :: power =>
    if c == 'e' || c == 'E' then
      (exponent? power).map fun e => ⟨negative, whole, none, some e⟩
    else none

/-- Reads a number: a minus sign if any, then `0` or digits that do not begin with `0`, then the
rest. -/
def numberLiteral? (cs : List Char) : Option NumberLiteral :=
  let (negative, unsigned) :=
    match cs with
    | '-' :: rest => (true, rest)
    | rest => (false, rest)
  let whole := unsigned.takeWhile Char.isDigit
  if whole.isEmpty || (whole.head? == some '0' && 1 < whole.length) then none
  else numberTail? negative whole (unsigned.dropWhile Char.isDigit)

def word? (cs : List Char) : Option Token :=
  if cs == ['n', 'u', 'l', 'l'] then some .null
  else if cs == ['t', 'r', 'u', 'e'] then some (.bool true)
  else if cs == ['f', 'a', 'l', 's', 'e'] then some (.bool false)
  else none

/-- The token that ends where the machine stands between two characters, if one does. -/
def Mode.finish : Mode → Option (List Token)
  | .between => some []
  | .number read => (numberLiteral? read.reverse).map fun literal => [.number literal]
  | .word read => (word? read.reverse).map fun token => [token]
  | .string _ | .escape _ | .code _ _ _ => none

/-- One character read between tokens: the token it is, if it is one by itself, and how to go on. -/
def start (c : Char) : Option (List Token × Mode) :=
  if isSpace c then some ([], .between)
  else if c == '"' then some ([], .string [])
  else if isNumberPart c then some ([], .number [c])
  else if c.isAlpha then some ([], .word [c])
  else (mark? c).map fun m => ([.mark m], .between)

/-- One step of the machine: the tokens that end with this character, and how to go on. A number
or a word ends before the first character that cannot continue it. -/
def Mode.step (mode : Mode) (c : Char) : Option (List Token × Mode) :=
  match mode with
  | .between => start c
  | .number read =>
    if isNumberPart c then some ([], .number (c :: read))
    else do
      -- The character that ends one token may begin the next.
      let ended ← (Mode.number read).finish
      let (begun, next) ← start c
      pure (ended ++ begun, next)
  | .word read =>
    if c.isAlpha then some ([], .word (c :: read))
    else do
      let ended ← (Mode.word read).finish
      let (begun, next) ← start c
      pure (ended ++ begun, next)
  | .string read =>
    if c == '"' then some ([.string read.reverse], .between)
    else if c == '\\' then some ([], .escape read)
    else if c.toNat < 0x20 then none
    else some ([], .string (.char c :: read))
  | .escape read =>
    if c == 'u' then some ([], .code read 0 0)
    else (escaped? c).map fun d => ([], .string (.char d :: read))
  | .code read value digits =>
    (Text.hexValue? c).map fun d =>
      let value := 16 * value + d
      if digits == 3 then ([], .string (.code value :: read))
      else ([], .code read value (digits + 1))

/-- The tokens of the rest of a text, read from a given mode on; `done` holds the tokens before it,
last token first. -/
def tokensFrom (done : List Token) (mode : Mode) : List Char → Option (List Token)
  | [] => mode.finish.map (done.reverse ++ ·)
  | c :: cs =>
    match mode.step c with
    | none => none
    | some (ended, next) => tokensFrom (ended.reverse ++ done) next cs

/-- The tokens of a text, or nothing if some part of it is no token. -/
def tokens? (text : String) : Option (List Token) :=
  tokensFrom [] .between text.toList

end ObjectCatalog.Json
