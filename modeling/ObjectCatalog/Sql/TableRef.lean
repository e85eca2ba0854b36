import ObjectCatalog.Sql.Lexeme

/-!
# Tables in statements

A statement names its tables by a text that is spliced into it. Most such texts are one plain word,
and a plain word stands for the table of that name wherever it is put. Any other text has to be
read as the database reads it: together with what follows it in the statement, at the place where
it stands. `fault?` is that reading. It finds a fault unless the text gives one table, by a name
and perhaps a schema, and the statement goes on after it as it should.

`key` says which table it is. Names are the same whatever the case of their ASCII letters, and the
main schema need not be named.
-/

namespace ObjectCatalog

inductive SyntaxFault where
  /-- It cannot go on with this lexeme. -/
  | near (lexeme : String)
  /-- This is no lexeme. -/
  | unrecognized (text : String)
  | incomplete
  deriving DecidableEq, Repr

def SyntaxFault.message : SyntaxFault → String
  | .near lexeme => "near \"" ++ lexeme ++ "\": syntax error"
  | .unrecognized text => "unrecognized token: \"" ++ text ++ "\""
  | .incomplete => "incomplete input"

/-- The fault of a lexeme that stands where it cannot. -/
def Lexeme.fault (lexeme : Lexeme) : SyntaxFault :=
  if lexeme.kind = .illegal then .unrecognized lexeme.text else .near lexeme.text

/-- Whether a text is one plain word that can name a table. A byte order mark in front of a word is
not a part of it. -/
def isPlainName (name : String) : Bool :=
  (match name.toList with
    | [] => false
    | c :: cs => Lexeme.isNameStart c && c != '\ufeff' && cs.all Lexeme.isNameRest) &&
  !isReserved name

structure TableRef where
  schema : Option Lexeme
  name : Lexeme
  deriving DecidableEq, Repr

namespace TableRef

def takeName : List Lexeme → Except SyntaxFault (Lexeme × List Lexeme)
  | [] => .error .incomplete
  | lexeme :: rest => if lexeme.isName then .ok (lexeme, rest) else .error lexeme.fault

/-- Takes a table off the front: a name, or a schema, a dot and a name. -/
def take (lexemes : List Lexeme) : Except SyntaxFault (TableRef × List Lexeme) := do
  let (first, rest) ← takeName lexemes
  if (rest.head?.map (·.isMark ".")).getD false then do
    let (second, rest) ← takeName (rest.drop 1)
    pure (⟨some first, second⟩, rest)
  else pure (⟨none, first⟩, rest)

/-- The lexemes of a text that has a blank before it. -/
def lexAfterBlank (text : String) : List Lexeme :=
  Lexeme.lex (" " ++ text)

/-- The table a text gives, if it gives one and nothing else. -/
def ofText? (text : String) : Option TableRef :=
  match take (lexAfterBlank text) with
  | .ok (ref, []) => some ref
  | _ => none

/-- The table in reports: its name, after its schema if that was given. -/
def label (ref : TableRef) : String :=
  (ref.schema.map fun schema => schema.name ++ ".").getD "" ++ ref.name.name

/-- The table that a text begins with, in reports. -/
def labelOf (text : String) : String :=
  if isPlainName text then text
  else
    match take (lexAfterBlank text) with
    | .ok (ref, _) => ref.label
    | .error _ => text

/-! ## Which table it is -/

/-- The mark of a name that is none of the main schema. No name holds a NUL character. -/
def apart : String := "\x00"

/-- The key of a table; nothing if there is no such schema. -/
def key? (ref : TableRef) : Option String :=
  let name := Text.foldCase ref.name.name
  match ref.schema.map fun schema => Text.foldCase schema.name with
  | none => some name
  | some schema =>
    if schema = "main" then some name
    else if schema = "temp" then some (schema ++ apart ++ name)
    else none

/-- The schema of a table as it was written, if there is no such schema. -/
def missingSchema? (ref : TableRef) : Option String :=
  if ref.key?.isNone then ref.schema.map (·.text) else none

/-- The key of the table that a text gives. A text that gives none has a key without a table. -/
def key (text : String) : String :=
  if isPlainName text then Text.foldCase text
  else ((ofText? text).bind key?).getD (apart ++ text)

/-- The plain name of a table, without its schema. -/
def plainName (text : String) : String :=
  if isPlainName text then text else ((ofText? text).map (·.name.name)).getD text

/-! ## Where a table can stand -/

/-- A place for the name of a table in a statement. -/
inductive Place where
  /-- A table that is created; its columns follow. -/
  | defined
  /-- The table of an index. It cannot have a schema. -/
  | indexed
  /-- The tables of a query: there may be several, and anything that can follow them. -/
  | source
  /-- Any other place: one table. -/
  | named
  deriving DecidableEq, Repr

/-- Whether a lexeme may stand for another as far as the form of a statement goes. -/
def sameRole (a b : Lexeme) : Bool :=
  a == b || (a.isName && b.isName)

/-- Compares what follows a table with what should follow it. -/
def deviation? : List Lexeme → List Lexeme → Option SyntaxFault
  | [], [] => none
  | [], _ :: _ => some .incomplete
  | lexeme :: _, [] => some lexeme.fault
  | lexeme :: found, wanted :: rest =>
    if sameRole lexeme wanted then deviation? found rest else some lexeme.fault

/-- How far a list of tables was read. -/
inductive SourceState where
  | table
  /-- A name was read that may be a schema. -/
  | schemaOrTable
  /-- The name after a schema has to follow. -/
  | inSchema
  /-- A table was read, and a name of its own may follow. -/
  | read
  | ownName
  /-- A table and its own name were read. -/
  | renamed
  /-- A word about a join was read; so many more may follow. -/
  | joining (words : Nat)
  /-- So many parentheses were opened in place of a table. -/
  | opened (depth : Nat)
  /-- One of these has to follow. -/
  | wanting (texts : List String)
  /-- What follows the tables, within so many parentheses. -/
  | clauses (depth : Nat)
  deriving DecidableEq, Repr

/-- The words that say what kind of join follows. -/
def joinWords : List String :=
  ["cross", "full", "inner", "left", "natural", "outer", "right"]

/-- The words with which a query goes on after its tables, and what some of them have to be
followed by. -/
def clauseWords : List (String × List String) :=
  [("except", ["select", "values"]), ("group", ["by"]), ("having", []), ("indexed", ["by"]),
    ("intersect", ["select", "values"]), ("limit", []), ("not", ["indexed"]), ("on", []),
    ("order", ["by"]), ("union", ["all", "select", "values"]), ("using", ["("]), ("where", [])]

def queryWords : List String :=
  ["select", "values", "with"]

def isOneOf (lexeme : Lexeme) (words : List String) : Bool :=
  words.any lexeme.isWord

/-- Reads on after a table that cannot get a name of its own any more. -/
def afterRenamed (lexeme : Lexeme) : Except SyntaxFault SourceState :=
  if lexeme.isMark "," || lexeme.isWord "join" then .ok .table
  else if isOneOf lexeme joinWords then .ok (.joining 2)
  else
    match clauseWords.find? (lexeme.isWord ·.1) with
    | some (_, []) => .ok (.clauses 0)
    | some (_, texts) => .ok (.wanting texts)
    | none => .error lexeme.fault

/-- Reads on after a table. Parentheses give it arguments. -/
def afterTable (lexeme : Lexeme) : Except SyntaxFault SourceState :=
  if lexeme.isWord "as" then .ok .ownName
  else if lexeme.isMark "(" then .ok (.clauses 1)
  else if isOneOf lexeme joinWords || lexeme.isWord "indexed" then afterRenamed lexeme
  else if lexeme.isName then .ok .renamed
  else afterRenamed lexeme

/-- Reads one lexeme of a list of tables and what follows them. -/
def SourceState.step (lexeme : Lexeme) : SourceState → Except SyntaxFault SourceState
  | .table =>
    if lexeme.isMark "(" then .ok (.opened 1)
    else if lexeme.isName then .ok .schemaOrTable
    else .error lexeme.fault
  | .schemaOrTable => if lexeme.isMark "." then .ok .inSchema else afterTable lexeme
  | .inSchema => if lexeme.isName then .ok .read else .error lexeme.fault
  | .read => afterTable lexeme
  | .ownName => if lexeme.isName then .ok .renamed else .error lexeme.fault
  | .renamed => afterRenamed lexeme
  | .joining words =>
    if lexeme.isWord "join" then .ok .table
    else if lexeme.isName && 0 < words then .ok (.joining (words - 1))
    else .error lexeme.fault
  | .opened depth =>
    if lexeme.isMark "(" then .ok (.opened (depth + 1))
    else if lexeme.isName || isOneOf lexeme queryWords then .ok (.clauses depth)
    else .error lexeme.fault
  | .wanting texts =>
    if texts.contains (Text.foldCase lexeme.text) then
      .ok (.clauses (if lexeme.isMark "(" then 1 else 0))
    else .error lexeme.fault
  | .clauses depth =>
    if lexeme.kind = .illegal || (lexeme.isMark ")" && depth = 0) then .error lexeme.fault
    else if lexeme.isMark "(" then .ok (.clauses (depth + 1))
    else if lexeme.isMark ")" then .ok (.clauses (depth - 1))
    else .ok (.clauses depth)

def SourceState.mayEnd : SourceState → Bool
  | .schemaOrTable | .read | .renamed | .clauses 0 => true
  | .table | .inSchema | .ownName | .joining _ | .opened _ | .wanting _ | .clauses (_ + 1) => false

/-- The fault of a query from its tables on. A statement ends at a semicolon. -/
def sourceFault? (state : SourceState) : List Lexeme → Option SyntaxFault
  | [] => if state.mayEnd then none else some .incomplete
  | lexeme :: rest =>
    if lexeme.isMark ";" then if state.mayEnd then none else some lexeme.fault
    else
      match state.step lexeme with
      | .error fault => some fault
      | .ok next => sourceFault? next rest

/-- What is left after a table at a place. -/
def restAt (place : Place) (lexemes : List Lexeme) : Except SyntaxFault (List Lexeme) :=
  match place with
  | .indexed => (·.2) <$> takeName lexemes
  | .defined => do
    let (_, rest) ← take lexemes
    -- A table can also be created from a query; then it is the query that is missing.
    if (rest.head?.map (·.isWord "as")).getD false then
      throw ((rest[1]?.map Lexeme.fault).getD .incomplete)
    else pure rest
  | .named | .source => (·.2) <$> take lexemes

/-- The fault of a statement from the text of a table on, if `following` should follow it. -/
def fault? (place : Place) (text following : String) : Option SyntaxFault :=
  if isPlainName text then none
  else
    let lexemes := lexAfterBlank (text ++ following)
    match place with
    | .source => sourceFault? .table lexemes
    | .defined | .indexed | .named =>
      match restAt place lexemes with
      | .error fault => some fault
      | .ok rest => deviation? rest (Lexeme.lex following)

/-- A plain word is a table wherever it stands. -/
theorem fault?_of_isPlainName {text : String} (h : isPlainName text = true) (place : Place)
    (following : String) : fault? place text following = none := by
  simp [fault?, h]

end TableRef

end ObjectCatalog
