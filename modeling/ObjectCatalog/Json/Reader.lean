import ObjectCatalog.Json.Basic
import ObjectCatalog.Json.Tree

/-!
# Reading JSON values

The strict reader of a tree: strings must be text, so a `\u` escape of a surrogate counts only as
half of a pair; numbers must have a finite nearest value; containers may be nested at most
`maxDepth` deep. A number that was written without fraction and exponent and fits 64 bits, with a
sign or without one, is a whole number. Negative zero has no whole form, so it is a real one.

The nearest value is the one that a reader has to find. A faster one that computes with the digits in
floating point itself misses it now and then by a unit in the last place, if a numeral has more digits
than fit a significand or a large exponent: it may take `3.0000000000000005e25` for `3e25`. That
arithmetic is not followed here. It would show in the text of such a number and nowhere else.

What is read is well-formed (`Json.wellFormed_of_ofTree?`), and comes as a `Json.Value`.
-/

namespace ObjectCatalog.Json

def isHighSurrogate (n : Nat) : Bool :=
  0xD800 ≤ n && n < 0xDC00

def isLowSurrogate (n : Nat) : Bool :=
  0xDC00 ≤ n && n < 0xE000

def pairedChar (high low : Nat) : Char :=
  Char.ofNat (0x10000 + (high - 0xD800) * 0x400 + (low - 0xDC00))

/-- The characters of a string; nothing if it holds half of a surrogate pair alone. -/
def decodeUnits : List StringUnit → Option (List Char)
  | [] => some []
  | .char c :: rest => (decodeUnits rest).map (c :: ·)
  | .code high :: .code low :: rest =>
    if isHighSurrogate high && isLowSurrogate low then
      (decodeUnits rest).map (pairedChar high low :: ·)
    else if isHighSurrogate high || isLowSurrogate high then none
    else (decodeUnits (.code low :: rest)).map (Char.ofNat high :: ·)
  | .code n :: rest =>
    if isHighSurrogate n || isLowSurrogate n then none
    else (decodeUnits rest).map (Char.ofNat n :: ·)

/-- The text of a string, if it is one. -/
def decodeString? (units : List StringUnit) : Option String :=
  (decodeUnits units).map String.ofList

/-- The weight of a number's last digit as a power of ten. -/
def NumberLiteral.tens (l : NumberLiteral) : Int :=
  let power : Int :=
    match l.exponent with
    | none => 0
    | some (negative, digits) =>
      if negative then -(Text.Numeral.value digits : Int) else Text.Numeral.value digits
  power - (l.fraction.getD []).length

/-- The number as a binary floating-point number, if it has a finite one. -/
def NumberLiteral.real? (l : NumberLiteral) : Option Number :=
  let digits := Text.Numeral.value (l.whole ++ l.fraction.getD [])
  (Decimal.Binary64.nearest? l.negative digits l.tens).map .real

def NumberLiteral.number? (l : NumberLiteral) : Option Number :=
  if l.fraction.isSome || l.exponent.isSome then l.real?
  else
    let n := Text.Numeral.value l.whole
    if l.negative then
      if n = 0 || Text.Numeral.signedBound < n then l.real? else some (.whole (-n))
    else if n < Text.Numeral.unsignedBound then some (.whole n) else l.real?

/-- How many containers may be open at once in a text that is read strictly. -/
def maxDepth : Nat := 127

/-- The value of a tree whose containers are nested at most `depth` deep. -/
def ofTree? : Nat → Tree → Option Json
  | _, .null => some .null
  | _, .bool b => some (.bool b)
  | _, .number literal => literal.number?.map .number
  | _, .string units => (decodeString? units).map .string
  | 0, .array _ => none
  | 0, .object _ => none
  | depth + 1, .array items => (items.mapM (ofTree? depth)).map .array
  | depth + 1, .object members => do
    let read ← members.mapM fun (units, tree) => do
      let key ← decodeString? units
      let value ← ofTree? depth tree
      pure (key, value)
    -- Of a repeated key the last value stands.
    pure (.object (read.foldl (fun done (key, value) => setMember key value done) []))

/-! ## What is read is well-formed -/

theorem wellFormed_of_real? {l : NumberLiteral} {n : Number} (h : l.real? = some n) :
    WellFormed (.number n) := by
  obtain ⟨x, hx, rfl⟩ := Option.map_eq_some_iff.1 h
  exact .real hx

theorem wellFormed_of_number? {l : NumberLiteral} {n : Number} (h : l.number? = some n) :
    WellFormed (.number n) := by
  have hsigned : Text.Numeral.signedBound ≤ Text.Numeral.unsignedBound := by decide
  unfold NumberLiteral.number? at h
  split at h
  · exact wellFormed_of_real? h
  simp only at h
  split at h
  · -- A negative number is whole if it is not below the least one with a sign.
    split at h
    · exact wellFormed_of_real? h
    · rename_i hfits
      cases h
      rw [Bool.or_eq_true, decide_eq_true_iff, decide_eq_true_iff, not_or] at hfits
      exact .whole (by omega) (by omega)
  · split at h
    · cases h
      exact .whole (by omega) (by omega)
    · exact wellFormed_of_real? h

/-- What is read of a list one by one is read of its members. -/
theorem exists_of_mem_mapM {α β : Type} {f : α → Option β} {items : List α} {results : List β}
    (h : items.mapM f = some results) {result : β} (hresult : result ∈ results) :
    ∃ item ∈ items, f item = some result := by
  induction items generalizing results with
  | nil =>
    cases h
    cases hresult
  | cons item rest ih =>
    rw [List.mapM_cons] at h
    obtain ⟨first, hfirst, h⟩ := Option.bind_eq_some_iff.1 h
    obtain ⟨others, hothers, h⟩ := Option.bind_eq_some_iff.1 h
    cases h
    rcases List.mem_cons.1 hresult with rfl | hmem
    · exact ⟨item, List.mem_cons_self, hfirst⟩
    · obtain ⟨item', hitem, hread⟩ := ih hothers hmem
      exact ⟨item', List.mem_cons_of_mem _ hitem, hread⟩

theorem wellFormed_foldl_setMember {read done : List (String × Json)}
    (hdone : WellFormed (.object done)) (hread : ∀ member ∈ read, member.2.WellFormed) :
    WellFormed (.object
      (read.foldl (fun done (key, value) => setMember key value done) done)) := by
  induction read generalizing done with
  | nil => exact hdone
  | cons member rest ih =>
    obtain ⟨hmember, hrest⟩ := List.forall_mem_cons.1 hread
    exact ih (hdone.setMember hmember) hrest

/-- The value of a tree is well-formed. The induction is on the depth: what is in a container is read
with one less. -/
theorem wellFormed_of_ofTree? {depth : Nat} {tree : Tree} {value : Json}
    (h : ofTree? depth tree = some value) : value.WellFormed := by
  induction depth using Nat.strongRecOn generalizing tree value with
  | ind depth ih =>
    cases tree with
    | null =>
      rw [ofTree?] at h
      cases h
      exact .null
    | bool b =>
      rw [ofTree?] at h
      cases h
      exact .bool b
    | number literal =>
      rw [ofTree?] at h
      obtain ⟨n, hn, rfl⟩ := Option.map_eq_some_iff.1 h
      exact wellFormed_of_number? hn
    | string units =>
      rw [ofTree?] at h
      obtain ⟨s, -, rfl⟩ := Option.map_eq_some_iff.1 h
      exact .string s
    | array items =>
      cases depth with
      | zero => cases h
      | succ depth =>
        obtain ⟨values, hvalues, rfl⟩ := Option.map_eq_some_iff.1 h
        refine .array fun value hvalue => ?_
        obtain ⟨item, -, hitem⟩ := exists_of_mem_mapM hvalues hvalue
        exact ih depth (Nat.lt_succ_self depth) hitem
    | object members =>
      cases depth with
      | zero => cases h
      | succ depth =>
        obtain ⟨read, hread, h⟩ := Option.bind_eq_some_iff.1 h
        cases h
        refine wellFormed_foldl_setMember (.object List.nodup_nil nofun) fun member hmember => ?_
        obtain ⟨⟨units, tree⟩, -, hmember⟩ := exists_of_mem_mapM hread hmember
        obtain ⟨key, -, hmember⟩ := Option.bind_eq_some_iff.1 hmember
        obtain ⟨value, hvalue, hmember⟩ := Option.bind_eq_some_iff.1 hmember
        cases hmember
        exact ih depth (Nat.lt_succ_self depth) hvalue

/-! ## Texts -/

/-- Reads a text as JSON, with containers nested at most `depth` deep. -/
def parseWithin? (depth : Nat) (text : String) : Option Value :=
  ((Tree.parse? text).bind (ofTree? depth)).pmap Value.mk fun _ h => by
    obtain ⟨tree, -, hread⟩ := Option.bind_eq_some_iff.1 h
    exact wellFormed_of_ofTree? hread

def parse? (text : String) : Option Value :=
  parseWithin? maxDepth text

end ObjectCatalog.Json
