import ObjectCatalog.Text.Ascii
import ObjectCatalog.Text.Blank

/-!
# Lexemes

How the database cuts a statement into lexemes. The names of tables are spliced into statements as
they stand, and where such a name is more than a plain word, this is what decides how much of the
statement it is: a blank or a comment in it separates, a quotation in it may reach to the end.

Blanks and comments are no lexemes. A quotation that is not closed, a number that runs into
letters and a character without a meaning are lexemes of a kind of their own, because a statement
may fail earlier than where they stand. A statement ends at its first NUL character.

`scan` says what begins at a character and how long it is, and `lexFrom` goes over the characters
and leaves out those that were already taken; so it is a recursion over the text.
-/

namespace ObjectCatalog

inductive LexemeKind where
  /-- A name without quotes, or a word of the language. -/
  | word
  /-- A name or a text between quotes or brackets. -/
  | quotation
  /-- A number, a blob, or the place of an argument. -/
  | value
  | mark
  /-- No part of any statement. -/
  | illegal
  deriving DecidableEq, Repr

structure Lexeme where
  kind : LexemeKind
  text : String
  deriving DecidableEq, Repr

/-- The words of the language that cannot name anything, in lower case. -/
def reservedWords : List String :=
  ["add", "all", "alter", "and", "as", "autoincrement", "between", "case", "check", "collate",
    "commit", "constraint", "create", "default", "deferrable", "delete", "distinct", "drop",
    "else", "escape", "except", "exists", "foreign", "from", "group", "having", "in", "index",
    "insert", "intersect", "into", "is", "isnull", "join", "limit", "not", "nothing", "notnull",
    "null", "on", "or", "order", "primary", "references", "returning", "select", "set", "table",
    "then", "to", "transaction", "union", "unique", "update", "using", "values", "when", "where"]

def isReserved (word : String) : Bool :=
  reservedWords.contains (Text.foldCase word)

namespace Lexeme

def isNameStart (c : Char) : Bool :=
  Text.isIdentifierStart c || 0x80 ≤ c.toNat

def isNameRest (c : Char) : Bool :=
  Text.isIdentifierRest c || c == '$' || 0x80 ≤ c.toNat

/-- Whether a run of blanks goes on with a character. The vertical tab begins no such run. -/
def isBlankRest (c : Char) : Bool :=
  Text.isAsciiBlank c || c == '\x0b'

/-- The number of characters in front of a text that pass a test. -/
def runLength (test : Char → Bool) (cs : List Char) : Nat :=
  (cs.takeWhile test).length

/-! ## What begins where -/

/-- The length of a comment after its opening: to its end, or to the end of the text. -/
def commentLength : List Char → Nat
  | [] => 0
  | '*' :: '/' :: _ => 2
  | _ :: cs => commentLength cs + 1

/-- The length of a quotation after its first mark, if it is closed. A doubled mark stands for the
mark itself. -/
def quotationLength? (mark : Char) : List Char → Option Nat
  | [] => none
  | c :: cs =>
    if c == mark then
      match cs with
      | d :: rest => if d == mark then (quotationLength? mark rest).map (· + 2) else some 1
      | [] => some 1
    else (quotationLength? mark cs).map (· + 1)

/-- A quotation after its first mark; the whole rest of the text is no lexeme if it is not
closed. -/
def scanQuotation (mark : Char) (cs : List Char) : LexemeKind × Nat :=
  match quotationLength? mark cs with
  | some length => (.quotation, length)
  | none => (.illegal, cs.length)

/-- A name in brackets, after the first of them. It cannot hold the second. -/
def scanBrackets (cs : List Char) : LexemeKind × Nat :=
  let inner := runLength (· != ']') cs
  if inner < cs.length then (.quotation, inner + 1) else (.illegal, inner)

def fractionLength : List Char → Nat
  | '.' :: cs => runLength Char.isDigit cs + 1
  | _ => 0

/-- The length of the exponent in front of a text. A letter without digits is none. -/
def exponentLength : List Char → Nat
  | e :: sign :: cs =>
    if e == 'e' || e == 'E' then
      if sign.isDigit then runLength Char.isDigit cs + 2
      else if (sign == '+' || sign == '-') && (cs.head?.map Char.isDigit).getD false then
        runLength Char.isDigit cs + 2
      else 0
    else 0
  | _ => 0

/-- Whether a text begins with a number to base sixteen. -/
def isHexNumber : List Char → Bool
  | '0' :: x :: d :: _ => (x == 'x' || x == 'X') && Text.isHexDigit d
  | _ => false

/-- A number and its length. It must not run into a word, unless it is to base sixteen. -/
def scanNumber (cs : List Char) : LexemeKind × Nat :=
  if isHexNumber cs then (.value, runLength Text.isHexDigit (cs.drop 2) + 2)
  else
    let whole := runLength Char.isDigit cs
    let fraction := whole + fractionLength (cs.drop whole)
    let number := fraction + exponentLength (cs.drop fraction)
    let word := runLength isNameRest (cs.drop number)
    if word = 0 then (.value, number) else (.illegal, number + word)

/-- A blob after its letter and its first mark: an even number of digits to base sixteen. -/
def scanBlob (cs : List Char) : LexemeKind × Nat :=
  let digits := runLength Text.isHexDigit cs
  let inner := runLength (· != '\'') cs
  let kind := if digits = inner && inner < cs.length && digits % 2 = 0 then .value else .illegal
  (kind, if inner < cs.length then inner + 1 else inner)

/-- The place of an argument after its mark; `named` tells whether a name was seen. The name may be
in parts joined by `::`, and may end in parentheses without a blank between them. -/
def scanPlace (named : Bool) : List Char → LexemeKind × Nat
  | [] => (if named then .value else .illegal, 0)
  | c :: cs =>
    let more (taken : Nat) (rest : LexemeKind × Nat) := (rest.1, rest.2 + taken)
    if isNameRest c then more 1 (scanPlace true cs)
    else if named && c == '(' then
      let inner := runLength (fun d => !isBlankRest d && d != ')') cs
      if cs[inner]? == some ')' then (.value, inner + 2) else (.illegal, inner + 1)
    else
      match c, cs with
      | ':', ':' :: rest => more 2 (scanPlace named rest)
      | _, _ => (if named then .value else .illegal, 0)

/-- The marks of the language; of two that begin alike, the longer comes first. -/
def marks : List (List Char) :=
  ["->>", "->", "-", "==", "=", "<=", "<>", "<<", "<", ">=", ">>", ">", "||", "|", "!=", "(", ")",
    ";", "+", "*", "/", "%", ",", "&", "~", "."].map String.toList

/-- A mark and its length, or a character without a meaning. -/
def scanMark (cs : List Char) : LexemeKind × Nat :=
  match marks.find? (·.isPrefixOf cs) with
  | some mark => (.mark, mark.length)
  | none => (.illegal, 1)

/-- What begins at a character, if it is a lexeme and no blank or comment, and how many of the
characters after it belong to it. -/
def scan (c : Char) (cs : List Char) : Option LexemeKind × Nat :=
  let found (lexeme : LexemeKind × Nat) := (some lexeme.1, lexeme.2)
  let whole (lexeme : LexemeKind × Nat) := (some lexeme.1, lexeme.2 - 1)
  if Text.isAsciiBlank c then (none, runLength isBlankRest cs)
  -- The byte order mark is a blank of its own.
  else if c == '\ufeff' then (none, 0)
  else if c == '-' && cs.head? == some '-' then (none, runLength (· != '\n') cs)
  else if c == '/' && cs.head? == some '*' && 1 < cs.length then
    (none, commentLength (cs.drop 1) + 1)
  else if c == '\'' || c == '"' || c.toNat == 0x60 then found (scanQuotation c cs)
  else if c == '[' then found (scanBrackets cs)
  else if c.isDigit || (c == '.' && (cs.head?.map Char.isDigit).getD false) then
    whole (scanNumber (c :: cs))
  else if c == '?' then (some .value, runLength Char.isDigit cs)
  else if c == '$' || c == '@' || c == ':' || c == '#' then found (scanPlace false cs)
  else if (c == 'x' || c == 'X') && cs.head? == some '\'' then
    let blob := scanBlob (cs.drop 1)
    (some blob.1, blob.2 + 1)
  else if isNameStart c then (some .word, runLength isNameRest cs)
  else whole (scanMark (c :: cs))

/-- The lexemes of a text whose first `taken` characters belong to what came before. -/
def lexFrom : Nat → List Char → List Lexeme
  | _, [] => []
  | taken + 1, _ :: cs => lexFrom taken cs
  | 0, c :: cs =>
    match scan c cs with
    | (none, length) => lexFrom length cs
    | (some kind, length) => ⟨kind, String.ofList (c :: cs.take length)⟩ :: lexFrom length cs

def lex (text : String) : List Lexeme :=
  lexFrom 0 (text.toList.takeWhile (·.toNat != 0))

/-! ## What a lexeme says -/

def isName (lexeme : Lexeme) : Bool :=
  match lexeme.kind with
  | .word => !isReserved lexeme.text
  | .quotation => true
  | .value | .mark | .illegal => false

def isMark (lexeme : Lexeme) (text : String) : Bool :=
  lexeme.kind == .mark && lexeme.text == text

def isWord (lexeme : Lexeme) (word : String) : Bool :=
  lexeme.kind == .word && Text.foldCase lexeme.text == word

/-- A text with every doubled mark made single. -/
def undouble (mark : Char) : List Char → List Char
  | [] => []
  | [c] => [c]
  | c :: d :: cs =>
    if c == mark && d == mark then c :: undouble mark cs else c :: undouble mark (d :: cs)

/-- The name that a lexeme gives: a quotation without its quotes, anything else as it stands. -/
def name (lexeme : Lexeme) : String :=
  match lexeme.kind, lexeme.text.toList with
  | .quotation, '[' :: cs => String.ofList cs.dropLast
  | .quotation, mark :: cs => String.ofList (undouble mark cs.dropLast)
  | _, _ => lexeme.text

end Lexeme

end ObjectCatalog
