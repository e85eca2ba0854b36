import ObjectCatalog.Text.Ascii

/-!
# Pattern matching

The `LIKE` of the database: `%` stands for any run of characters, `_` for any one character, and
every other character for itself, ASCII letters in either case. A statement may name an escape
character, which takes the meaning from the character after it; a pattern that ends in the escape
character matches nothing. A NUL character ends a pattern and a text, and the two noncharacters at the
end of the first plane are read as the character that replaces what cannot be read, so these three are
one character here.

What a pattern means is said by `matchElements`, which tries a run on every suffix of the text. With
many runs it would try the same suffix over and over, so a whole text is matched by
`matchSuffixes`: it goes over the elements once, from the last to the first, and knows for every
suffix of the text whether the elements match it. The two agree.

`containing` writes a text as a pattern for all texts that contain it.
-/

namespace ObjectCatalog.Like

inductive Element where
  | run
  | one
  | char (c : Char)
  deriving DecidableEq

/-- The elements of a pattern; nothing if it ends in its escape character. -/
def elements? (escape : Option Char) : List Char → Option (List Element)
  | [] => some []
  | c :: cs =>
    if some c = escape then
      match cs with
      | [] => none
      | d :: rest => (elements? escape rest).map (.char d :: ·)
    else
      let element := if c = '%' then .run else if c = '_' then .one else .char c
      (elements? escape cs).map (element :: ·)

/-- A text and all that is left of it after dropping characters from its front. -/
def suffixes : List Char → List (List Char)
  | [] => [[]]
  | c :: cs => (c :: cs) :: suffixes cs

/-- Whether the elements match a whole text. -/
def matchElements : List Element → List Char → Bool
  | [], text => text.isEmpty
  | .run :: rest, text => (suffixes text).any (matchElements rest)
  | .one :: _, [] => false
  | .one :: rest, _ :: text => matchElements rest text
  | .char _ :: _, [] => false
  | .char c :: rest, d :: text => c.toLower == d.toLower && matchElements rest text

/-- Whether any answer from a place on is true, for every place. -/
def anyFrom (answers : List Bool) : List Bool :=
  answers.foldr (fun answer found => (answer || found.head?.getD false) :: found) []

/-- Whether the elements match a text, and each suffix of it, the longest first. -/
def matchSuffixes : List Element → List Char → List Bool
  | [], text => text.map (fun _ => false) ++ [true]
  | .run :: rest, text => anyFrom (matchSuffixes rest text)
  | .one :: rest, text => (matchSuffixes rest text).drop 1 ++ [false]
  | .char c :: rest, text =>
    List.zipWith (fun d matched => c.toLower == d.toLower && matched) text
      ((matchSuffixes rest text).drop 1) ++ [false]

/-- A character as the database reads it. -/
def readChar (c : Char) : Char :=
  if c = '\uFFFE' ∨ c = '\uFFFF' then '\uFFFD' else c

/-- What the database sees of a text, be it a pattern or not: the characters before its first NUL
character, as it reads them. -/
def seen (s : String) : List Char :=
  (s.toList.takeWhile (·.toNat != 0)).map readChar

def matchesText (escape : Option Char) (pattern text : String) : Bool :=
  match elements? escape (seen pattern) with
  | none => false
  | some elements => (matchSuffixes elements (seen text)).head?.getD false

/-- The number of bytes that a pattern may have. -/
def longestPattern : Nat := 50000

def escapeMark : Char := '!'

/-- A character as a pattern for just that character. -/
def escapeChar (c : Char) : List Char :=
  if c == '%' || c == '_' || c == escapeMark then [escapeMark, c] else [c]

/-- A pattern for all texts that contain the given one. -/
def containing (text : String) : String :=
  String.ofList ('%' :: text.toList.flatMap escapeChar ++ ['%'])

/-! ## The two matchers agree -/

theorem suffixes_eq_cons (text : List Char) :
    suffixes text = text :: (suffixes text).drop 1 := by
  cases text <;> rfl

theorem anyFrom_map_suffixes (f : List Char → Bool) (text : List Char) :
    anyFrom ((suffixes text).map f) = (suffixes text).map fun t => (suffixes t).any f := by
  induction text with
  | nil => simp [suffixes, anyFrom]
  | cons c cs ih =>
    rw [suffixes, List.map_cons, List.map_cons, ← ih]
    show (f (c :: cs) || (anyFrom ((suffixes cs).map f)).head?.getD false) ::
      anyFrom ((suffixes cs).map f) = _
    rw [ih, suffixes_eq_cons cs]
    simp [suffixes]

/-- The answers for all suffixes are those of the elements themselves. -/
theorem matchSuffixes_eq_map (elements : List Element) (text : List Char) :
    matchSuffixes elements text = (suffixes text).map (matchElements elements) := by
  induction elements with
  | nil =>
    induction text with
    | nil => rfl
    | cons c cs ih =>
      simp only [matchSuffixes, suffixes, List.map_cons, List.cons_append] at ih ⊢
      rw [ih]
      rfl
  | cons element rest ih =>
    have head (cs : List Char) : (suffixes cs).map (matchElements rest) =
        matchElements rest cs :: ((suffixes cs).map (matchElements rest)).drop 1 := by
      rw [suffixes_eq_cons cs]
      rfl
    cases element with
    | run =>
      rw [matchSuffixes, ih, anyFrom_map_suffixes]
      rfl
    | one =>
      rw [matchSuffixes, ih]
      clear ih
      induction text with
      | nil => rfl
      | cons c cs ih =>
        show (suffixes cs).map (matchElements rest) ++ [false] = matchElements rest cs :: _
        rw [head, List.cons_append, ih]
    | char d =>
      rw [matchSuffixes, ih]
      clear ih
      induction text with
      | nil => rfl
      | cons c cs ih =>
        show List.zipWith _ (c :: cs) ((suffixes cs).map (matchElements rest)) ++ [false] =
          (d.toLower == c.toLower && matchElements rest cs) :: _
        rw [head, List.zipWith_cons_cons, List.cons_append, ih]

/-- A whole text is matched as the elements say. -/
theorem matchesText_eq (escape : Option Char) (pattern text : String) :
    matchesText escape pattern text =
      match elements? escape (seen pattern) with
      | none => false
      | some elements => matchElements elements (seen text) := by
  unfold matchesText
  split
  · rfl
  · rw [matchSuffixes_eq_map, suffixes_eq_cons]
    rfl

end ObjectCatalog.Like
