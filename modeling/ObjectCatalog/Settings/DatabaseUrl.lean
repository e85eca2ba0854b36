import ObjectCatalog.Error
import ObjectCatalog.Text.Ascii

/-!
# Database URLs

The URL of a database in files or in memory: after its scheme the place of the database, and after
a question mark the parameters of the connection, as in `sqlite:place?mode=rw&cache=shared`. Two
slashes before the place make it begin with an authority, which has to be well formed even though
no server is asked.

`Location.ofUrl` takes a URL apart and `Access.ofParameters` reads the parameters. Whether the
place is the memory is said by `opensInMemory`: by its name, by being left empty, or by a
parameter.
-/

namespace ObjectCatalog

/-- What a URL of this kind leads to. -/
structure Location where
  place : List Char
  /-- The parameters in order, still encoded. -/
  parameters : List (List Char × List Char)
  deriving DecidableEq

/-- What the parameters of a connection ask for. -/
structure Access where
  inMemory : Bool := false
  readOnly : Bool := false
  /-- The files are taken to never change. -/
  immutable : Bool := false
  fileSystem : Option String := none
  deriving DecidableEq

/-- The parts of a text between the places of a mark. -/
def splitAtMark (mark : Char) : List Char → List (List Char)
  | [] => [[]]
  | c :: cs =>
    match splitAtMark mark cs with
    | part :: parts => if c == mark then [] :: part :: parts else (c :: part) :: parts
    | [] => [[c]]

/-- A text with `%41` and the like read as the characters they stand for. What stands for no ASCII
character is left as it is: nothing beyond ASCII has a meaning here. -/
def percentDecoded : List Char → List Char
  | '%' :: a :: b :: cs =>
    match Text.hexValue? a, Text.hexValue? b with
    | some high, some low =>
      if high < 8 then Char.ofNat (high * 16 + low) :: percentDecoded cs
      else '%' :: a :: b :: percentDecoded cs
    | _, _ => '%' :: percentDecoded (a :: b :: cs)
  | c :: cs => c :: percentDecoded cs
  | [] => []

namespace Location

/-- A URL as it is read: without controls and spaces at its ends, and on one line. -/
def cleaned (url : String) : List Char :=
  let trimmed := url.toList.dropWhile (·.toNat ≤ 0x20)
  let trimmed := (trimmed.reverse.dropWhile (·.toNat ≤ 0x20)).reverse
  trimmed.filter fun c => !(c == '\t' || c == '\n' || c == '\r')

/-! ## Authorities -/

/-- Whether a character may stand in the name of a host. -/
def isHostChar (c : Char) : Bool :=
  !(c.toNat == 0 || " :<>[\\]^|@".toList.contains c)

/-- Whether a text is an address of four numbers. -/
def isQuadAddress (cs : List Char) : Bool :=
  let parts := splitAtMark '.' cs
  parts.length == 4 && parts.all fun part =>
    match Text.Numeral.read? part with
    | some n => n ≤ 255 && Text.Numeral.digits n == part
    | none => false

/-- How many of the eight groups of a long address a part stands for; none if it is malformed. -/
def groupSize? (last : Bool) (part : List Char) : Option Nat :=
  if !part.isEmpty && part.length ≤ 4 && part.all Text.isHexDigit then some 1
  else if last && isQuadAddress part then some 2
  else none

/-- The number of groups that parts without an omission stand for. -/
def groups? : List (List Char) → Option Nat
  | [] => some 0
  | [part] => groupSize? true part
  | part :: parts => do pure ((← groupSize? false part) + (← groups? parts))

/-- Whether a text does not begin with a colon, unless it begins with two. -/
def beginsWhole (cs : List Char) : Bool :=
  cs.head? != some ':' || "::".toList.isPrefixOf cs

/-- Whether a text is an address of eight groups, with colons between them. Two colons in a row
stand once for groups that are zero. -/
def isLongAddress (cs : List Char) : Bool :=
  let parts := splitAtMark ':' cs
  -- Two colons at an end leave an empty part more than two colons in between.
  let parts := if [[], []].isPrefixOf parts then parts.drop 1 else parts
  let parts := if [[], []].isSuffixOf parts then parts.dropLast else parts
  let front := parts.takeWhile (!·.isEmpty)
  !cs.isEmpty && beginsWhole cs && beginsWhole cs.reverse &&
    match parts.dropWhile (!·.isEmpty) with
    | [] => groups? front == some 8
    | _ :: back =>
      match groups? back with
      | some after =>
        front.all (fun part => (groupSize? false part).isSome) && front.length + after < 8
      | none => false

def hostFault? (host : List Char) : Option UrlFault :=
  if host.head? == some '[' then
    if host.getLast? == some ']' && isLongAddress (host.drop 1).dropLast then none
    else some .badAddress
  else if host.all isHostChar then none
  else some .badHost

/-- The fault of what stands behind a host: digits for a number of 16 bits, or nothing. -/
def numberFault? (number : List Char) : Option UrlFault :=
  if number.isEmpty then none
  else
    match Text.Numeral.read? number with
    | some n => if n < 65536 then none else some .badNumber
    | none => some .badNumber

/-- A host, and what follows the colon behind it. Colons in brackets belong to the host. -/
def hostAndNumber (cs : List Char) : List Char × Option (List Char) :=
  let inner := if cs.head? == some '[' then cs.takeWhile (· != ']') else []
  let rest := cs.drop inner.length
  let host := inner ++ rest.takeWhile (· != ':')
  let after := rest.dropWhile (· != ':')
  (host, if after.isEmpty then none else some (after.drop 1))

/-- An authority as it is kept, without a colon that nothing follows. -/
def authority (cs : List Char) : Except UrlFault (List Char) :=
  let user := ((cs.reverse.dropWhile (· != '@')).reverse)
  let (host, number) := hostAndNumber (cs.drop user.length)
  if host.isEmpty && !cs.isEmpty then .error .noHost
  else
    match hostFault? host, numberFault? (number.getD []) with
    | some fault, _ => .error fault
    | none, some fault => .error fault
    | none, none => .ok (if number == some [] then cs.dropLast else cs)

/-! ## The parts of a URL -/

/-- A text without the given one in front, however often it stands there; `n` bounds how often. -/
def dropStems (stem : List Char) : Nat → List Char → List Char
  | 0, cs => cs
  | n + 1, cs => if stem.isPrefixOf cs then dropStems stem n (cs.drop stem.length) else cs

/-- A parameter: a name, and its value after an equals sign. -/
def parameter (cs : List Char) : List Char × List Char :=
  (cs.takeWhile (· != '='), (cs.dropWhile (· != '=')).drop 1)

/-- The parts of what stands after the scheme. The scheme may be repeated, with or without its
slashes. -/
def ofRest (rest : List Char) : Location :=
  let url := "sqlite:".toList ++ rest
  let url := dropStems "sqlite://".toList url.length url
  let url := dropStems "sqlite:".toList url.length url
  let query := (url.dropWhile (· != '?')).drop 1
  ⟨url.takeWhile (· != '?'), ((splitAtMark '&' query).filter (!·.isEmpty)).map parameter⟩

def ofUrl (url : String) : Except UrlFault Location :=
  let cs := cleaned url
  match cs.dropWhile (· != ':') with
  | [] => .error .noScheme
  | _ :: '/' :: '/' :: rest =>
    let isEnd (c : Char) := c == '/' || c == '?' || c == '#'
    match authority (rest.takeWhile (!isEnd ·)) with
    | .error fault => .error fault
    | .ok authority => .ok (ofRest ("//".toList ++ authority ++ rest.dropWhile (!isEnd ·)))
  | _ :: rest => .ok (ofRest rest)

end Location

namespace Access

/-- A name or a value of a parameter: a plus sign is a space. -/
def decoded (cs : List Char) : String :=
  String.ofList (percentDecoded (cs.map fun c => if c == '+' then ' ' else c))

/-- What the value of a parameter adds. -/
def add (access : Access) (name value : String) : Except UrlFault Access :=
  let unknown : Except UrlFault Access := .error (.unknownValue name value)
  match name with
  | "mode" =>
    match value with
    | "ro" => .ok { access with readOnly := true }
    | "rw" | "rwc" => .ok access
    | "memory" => .ok { access with inMemory := true }
    | _ => unknown
  | "cache" => if value = "private" || value = "shared" then .ok access else unknown
  | "immutable" =>
    match value with
    | "true" | "1" => .ok { access with immutable := true }
    | "false" | "0" => .ok { access with immutable := false }
    | _ => unknown
  | "vfs" => .ok { access with fileSystem := some value }
  | _ => .error (.unknownParameter name)

/-- What the parameters ask for together. -/
def ofParameters (parameters : List (List Char × List Char)) : Except UrlFault Access :=
  parameters.foldlM (fun access (name, value) => access.add (decoded name) (decoded value)) {}

/-- The file systems that can be named. -/
def fileSystems : List String :=
  ["unix", "unix-none", "unix-dotfile", "unix-excl", "memdb"]

/-- Whether a place is opened in memory. An empty place is a nameless database, which begins empty
too. A place that is the name of the memory in other letters is still that name, unless it is
written into another name to carry a parameter. -/
def opensInMemory (access : Access) (place : List Char) : Bool :=
  let file := percentDecoded place
  let carried := access.immutable || access.fileSystem.isSome
  place == ":memory:".toList || (access.inMemory && !file.contains '\x00') || file.isEmpty ||
    (!carried && (file == ":memory:".toList || file == "file:".toList ||
      file == "file::memory:".toList))

end Access

end ObjectCatalog
