import ObjectCatalog.Settings.Basic
import ObjectCatalog.Text.Runs
import ObjectCatalog.Text.WordData

/-!
# Environment files

Variables that the environment does not set may be set by a file of lines `KEY=value`. A line may
begin with the word `export`; blank lines and lines that begin with `#` are skipped. A value may be
quoted, in single quotes as it stands and in double quotes with escapes, and outside single quotes
`$name` and `${name}` stand for the value of a variable. After an unquoted blank only a comment may
follow.

A variable that is already set keeps its value, so the environment wins over the file and the first
of two lines over the second. Reading stops at the first line that is not understood; what was read
before it counts.
-/

namespace ObjectCatalog.EnvFile

inductive Line where
  | nothing
  | entry (key value : String)
  deriving DecidableEq

/-- Whether the unquoted part of a value is read or a part in double quotes. -/
inductive Quoting where
  | plain
  | double
  deriving DecidableEq

/-- Where the reader of a value stands. The names of variables are held last character first. -/
inductive Mode where
  | text (quoting : Quoting)
  | single
  | escaped (quoting : Quoting)
  /-- After a dollar sign, in the name of a variable. -/
  | name (quoting : Quoting) (read : List Char)
  /-- In the name of a variable between braces. -/
  | braced (quoting : Quoting) (read : List Char)
  | ending

/-- Whether a character may stand in a name after a dollar sign. -/
def isWordChar (c : Char) : Bool :=
  Text.inRuns Text.WordData.alphanumericRuns c.toNat

/-- The value that a variable's name, held last character first, stands for. A variable that is not
set stands for the empty text. -/
def substitute (env : Environment) (name : List Char) : List Char :=
  (env[String.ofList name.reverse]?.getD "").toList

/-- One step in unquoted text or in double quotes: the characters it adds to the value, and how to
go on. -/
def stepText (quoting : Quoting) (c : Char) : List Char × Mode :=
  if c == '$' then ([], .name quoting [])
  else if c == '\\' then ([], .escaped quoting)
  else
    match quoting with
    | .double => if c == '"' then ([], .text .plain) else ([c], .text .double)
    | .plain =>
      if c == '\'' then ([], .single)
      else if c == '"' then ([], .text .double)
      else if c == ' ' || c == '\t' then ([], .ending)
      else ([c], .text .plain)

/-- What an escaped character stands for. -/
def unescape? (c : Char) : Option Char :=
  if c == '\\' || c == '\'' || c == '"' || c == '$' || c == ' ' then some c
  else if c == 'n' then some '\n'
  else none

/-- One step: the characters it adds to the value, and how to go on. A name that is not in braces
ends before the first character that is neither a letter nor a digit, and that character then
stands for itself, whatever it is. -/
def step? (env : Environment) (mode : Mode) (c : Char) : Option (List Char × Mode) :=
  match mode with
  | .text quoting => some (stepText quoting c)
  | .single => some (if c == '\'' then ([], .text .plain) else ([c], .single))
  | .escaped quoting => (unescape? c).map fun d => ([d], .text quoting)
  | .name quoting read =>
    if isWordChar c then some ([], .name quoting (c :: read))
    else if c == '\x7b' && read.isEmpty then some ([], .braced quoting [])
    -- A second dollar sign ends one name and begins another.
    else if c == '$' then some (substitute env read, .name quoting [])
    else some (substitute env read ++ [c], .text quoting)
  | .braced quoting read =>
    if c == '\x7d' then some (substitute env read, .text quoting)
    else some ([], .braced quoting (c :: read))
  | .ending => if c == ' ' || c == '\t' then some ([], .ending) else none

/-- What is added to the value where it ends; nothing is added if a quote or a brace is open. -/
def finish? (env : Environment) : Mode → Option (List Char)
  | .text .plain | .escaped .plain | .ending => some []
  | .name .plain read => some (substitute env read)
  | _ => none

/-- Whether the value ends before a character, because a comment begins there. -/
def startsComment : Mode → Char → Bool
  | .ending, c => c == '#'
  | _, _ => false

def valueFrom (env : Environment) (mode : Mode) : List Char → Option (List Char)
  | [] => finish? env mode
  | c :: cs =>
    if startsComment mode c then some []
    else
      match step? env mode c with
      | none => none
      | some (added, next) => (valueFrom env next cs).map (added ++ ·)

/-- Whether a character may begin the name of a variable that a line sets. -/
def isKeyStart (c : Char) : Bool :=
  c.isAlpha || c == '_'

/-- Whether a character may stand in that name. -/
def isKeyRest (c : Char) : Bool :=
  c.isAlphanum || c == '_' || c == '.'

/-- The name a line begins with, and the rest of the line. -/
def key? (cs : List Char) : Option (List Char × List Char) :=
  match cs.head? with
  | some c => if isKeyStart c then some (cs.takeWhile isKeyRest, cs.dropWhile isKeyRest) else none
  | none => none

/-- The rest of a line after an equals sign and the blanks around it. -/
def afterEquals? (cs : List Char) : Option (List Char) :=
  match cs.dropWhile Text.isBlank with
  | '=' :: rest => some (rest.dropWhile Text.isBlank)
  | _ => none

/-- The name that a line sets, and what stands for its value. The word `export` is a name itself if
an equals sign follows it. -/
def assignment? (cs : List Char) : Option (List Char × List Char) := do
  let (key, rest) ← key? cs
  match afterEquals? rest with
  | some value => pure (key, value)
  | none =>
    if key == "export".toList then do
      let (key, rest) ← key? (rest.dropWhile Text.isBlank)
      let value ← afterEquals? rest
      pure (key, value)
    else none

/-- What a line says, or nothing if it is not understood. -/
def line? (env : Environment) (raw : List Char) : Option Line :=
  let cs := Text.trimChars raw
  if cs.isEmpty || cs.head? == some '#' then some .nothing
  else
    match assignment? cs with
    | none => none
    | some (key, written) =>
      if written.isEmpty || written.head? == some '#' then some (.entry (String.ofList key) "")
      else
        (valueFrom env (.text .plain) written).map fun value =>
          .entry (String.ofList key) (String.ofList value)

/-- The lines of a text; `line` holds the line being read, last character first. -/
def linesFrom (line : List Char) : List Char → List (List Char)
  | [] => [line.reverse]
  | c :: cs => if c == '\n' then line.reverse :: linesFrom [] cs else linesFrom (c :: line) cs

def define (env : Environment) (key value : String) : Environment :=
  if env.contains key then env else env.insert key value

def loadLines (env : Environment) : List (List Char) → Environment
  | [] => env
  | raw :: rest =>
    match line? env raw with
    | none => env
    | some .nothing => loadLines env rest
    | some (.entry key value) => loadLines (define env key value) rest

def load (env : Environment) (text : String) : Environment :=
  loadLines env (linesFrom [] text.toList)

end ObjectCatalog.EnvFile
