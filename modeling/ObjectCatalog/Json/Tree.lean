import ObjectCatalog.Json.Token

/-!
# The tree of a JSON text

The tokens of a text are assembled into a tree that still holds everything as it was written:
strings as units, numbers as literals, the members of an object in order and with their
repetitions. A reader then takes from the tree what its rules allow. The tree has no bound on its
depth; a reader that has one imposes it.

Assembly is a stack machine. The stack holds the containers that are open, and `Expect` says what
may come next, so a token either fits or the text is refused.
-/

namespace ObjectCatalog.Json

/-- A JSON text taken apart, with nothing decoded. -/
inductive Tree where
  | null
  | bool (b : Bool)
  | number (literal : NumberLiteral)
  | string (units : List StringUnit)
  | array (items : List Tree)
  | object (members : List (List StringUnit × Tree))

/-- The members of an object that are complete, last one first. -/
abbrev Members := List (List StringUnit × Tree)

/-- An open container that waits for a value: an array with its items so far, last one first, or
an object with its members so far and the key of the next. -/
inductive Frame where
  | items (before : List Tree)
  | member (before : Members) (key : List StringUnit)

inductive Expect where
  | value
  | itemOrClose
  | key (before : Members)
  | keyOrClose
  | colon (before : Members) (key : List StringUnit)
  /-- A value is complete: what follows it depends on the innermost open container. -/
  | after (value : Tree)

/-- The machine between two tokens. -/
structure Assembly where
  stack : List Frame
  expect : Expect

/-- A token where a value may begin. -/
def Assembly.begin? (stack : List Frame) : Token → Option Assembly
  | .null => some ⟨stack, .after .null⟩
  | .bool b => some ⟨stack, .after (.bool b)⟩
  | .number literal => some ⟨stack, .after (.number literal)⟩
  | .string units => some ⟨stack, .after (.string units)⟩
  | .mark .openArray => some ⟨.items [] :: stack, .itemOrClose⟩
  | .mark .openObject => some ⟨stack, .keyOrClose⟩
  | .mark _ => none

/-- A token after a complete value. -/
def Assembly.follow? (value : Tree) : List Frame → Mark → Option Assembly
  | .items before :: stack, .comma => some ⟨.items (value :: before) :: stack, .value⟩
  | .items before :: stack, .closeArray => some ⟨stack, .after (.array (value :: before).reverse)⟩
  | .member before key :: stack, .comma => some ⟨stack, .key ((key, value) :: before)⟩
  | .member before key :: stack, .closeObject =>
    some ⟨stack, .after (.object ((key, value) :: before).reverse)⟩
  | _, _ => none

def Assembly.step? (m : Assembly) (token : Token) : Option Assembly :=
  match m.expect with
  | .value => begin? m.stack token
  | .itemOrClose =>
    match token, m.stack with
    | .mark .closeArray, _ :: stack => some ⟨stack, .after (.array [])⟩
    | _, _ => begin? m.stack token
  | .key before =>
    match token with
    | .string key => some ⟨m.stack, .colon before key⟩
    | _ => none
  | .keyOrClose =>
    match token with
    | .string key => some ⟨m.stack, .colon [] key⟩
    | .mark .closeObject => some ⟨m.stack, .after (.object [])⟩
    | _ => none
  | .colon before key =>
    match token with
    | .mark .colon => some ⟨.member before key :: m.stack, .value⟩
    | _ => none
  | .after value =>
    match token with
    | .mark mark => follow? value m.stack mark
    | _ => none

/-- The tree that is complete when the tokens end here. -/
def Assembly.finish? (m : Assembly) : Option Tree :=
  match m.stack, m.expect with
  | [], .after value => some value
  | _, _ => none

def assemble? (m : Assembly) : List Token → Option Tree
  | [] => m.finish?
  | token :: rest =>
    match m.step? token with
    | none => none
    | some next => assemble? next rest

/-- The tree of a text that is one JSON value with nothing but blanks around it. -/
def Tree.parse? (text : String) : Option Tree :=
  match tokens? text with
  | none => none
  | some tokens => assemble? ⟨[], .value⟩ tokens

end ObjectCatalog.Json
