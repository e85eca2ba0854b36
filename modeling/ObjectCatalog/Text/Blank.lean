/-!
# Blank characters and trimming

Names, lookups, connectors and numbers arrive with whatever surrounds them in a form field or a
configuration file, so every entry point trims first. What counts as surrounding is the Unicode
property `White_Space`, which is both wider than the ASCII blanks (it has the no-break space, the
ideographic space and the line separators) and narrower than "looks empty": the zero-width space,
the byte-order mark and the information separators U+001C to U+001F are ordinary characters here.

Trimming is stated on lists of characters, as dropping blanks from the front of the text and from
the front of its reversal. The lemmas say what that leaves: a text whose ends are not blank, which
trimming again does not change.

Squeezing a text onto one line is about layout and not about what was typed into a field, so it
moves the ASCII blanks and nothing else.
-/

namespace ObjectCatalog.Text

/-- Membership in the Unicode property `White_Space`. The set is closed: the property has not
gained or lost a character since U+180E left it. -/
def isBlank (c : Char) : Bool :=
  let n := c.toNat
  (9 ≤ n && n ≤ 13) || n == 0x20 || n == 0x85 || n == 0xA0 || n == 0x1680 ||
    (0x2000 ≤ n && n ≤ 0x200A) || n == 0x2028 || n == 0x2029 || n == 0x202F || n == 0x205F ||
    n == 0x3000

def trimEndChars (cs : List Char) : List Char :=
  (cs.reverse.dropWhile isBlank).reverse

def trimChars (cs : List Char) : List Char :=
  trimEndChars (cs.dropWhile isBlank)

def trimEnd (s : String) : String :=
  String.ofList (trimEndChars s.toList)

def trim (s : String) : String :=
  String.ofList (trimChars s.toList)

/-- Whether a character is an ASCII blank. The vertical tab is not among them. -/
def isAsciiBlank (c : Char) : Bool :=
  c == ' ' || c == '\t' || c == '\n' || c == '\x0c' || c == '\r'

/-- The maximal runs of characters that are not ASCII blanks, in order; `word` holds the run being
read, last character first. -/
def wordsFrom (word : List Char) : List Char → List (List Char)
  | [] => if word.isEmpty then [] else [word.reverse]
  | c :: cs =>
    if isAsciiBlank c then
      if word.isEmpty then wordsFrom [] cs else word.reverse :: wordsFrom [] cs
    else wordsFrom (c :: word) cs

/-- A text on one line: each run of ASCII blanks becomes one space, and the ends have none.
Statements are listed in this form, whatever layout they were sent in. -/
def squeeze (s : String) : String :=
  " ".intercalate ((wordsFrom [] s.toList).map String.ofList)

/-! ## What trimming leaves -/

@[simp] theorem toList_trim (s : String) : (trim s).toList = trimChars s.toList := by
  simp [trim]

theorem dropWhile_eq_self_of_head {p : Char → Bool} {cs : List Char}
    (h : ∀ c, cs.head? = some c → p c = false) : cs.dropWhile p = cs := by
  cases cs with
  | nil => rfl
  | cons c cs => simp [h c rfl]

theorem head?_dropWhile_isBlank (cs : List Char) :
    ∀ c, (cs.dropWhile isBlank).head? = some c → isBlank c = false := by
  intro c hc
  have h := List.head?_dropWhile_not isBlank cs
  rw [hc] at h
  simpa using h

theorem trimEndChars_initial (cs : List Char) : trimEndChars cs <+: cs := by
  have h := (List.dropWhile_suffix isBlank (l := cs.reverse))
  have := List.reverse_prefix.2 h
  simpa [trimEndChars] using this

/-- Trimming the end of a text that begins with a character that stays leaves that beginning. -/
theorem head?_trimEndChars {cs : List Char} {c : Char} (h : (trimEndChars cs).head? = some c) :
    cs.head? = some c := by
  obtain ⟨rest, hrest⟩ := trimEndChars_initial cs
  rw [← hrest]
  cases hd : trimEndChars cs with
  | nil => simp [hd] at h
  | cons d ds => simpa [hd] using h

theorem trimEndChars_trimEndChars (cs : List Char) :
    trimEndChars (trimEndChars cs) = trimEndChars cs := by
  have h : (cs.reverse.dropWhile isBlank).dropWhile isBlank = cs.reverse.dropWhile isBlank :=
    dropWhile_eq_self_of_head (head?_dropWhile_isBlank _)
  simp [trimEndChars, h]

/-- A trimmed text has no blank in front. -/
theorem head?_trimChars (cs : List Char) :
    ∀ c, (trimChars cs).head? = some c → isBlank c = false := fun c hc =>
  head?_dropWhile_isBlank cs c (head?_trimEndChars hc)

/-- Trimming a second time changes nothing. -/
@[simp] theorem trimChars_trimChars (cs : List Char) :
    trimChars (trimChars cs) = trimChars cs := by
  show trimEndChars ((trimChars cs).dropWhile isBlank) = trimChars cs
  rw [dropWhile_eq_self_of_head (head?_trimChars cs)]
  exact trimEndChars_trimEndChars _

@[simp] theorem trim_trim (s : String) : trim (trim s) = trim s := by
  apply String.toList_inj.1
  simp

end ObjectCatalog.Text
