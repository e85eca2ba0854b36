import ObjectCatalog.Text.CaseData
import ObjectCatalog.Text.Runs

/-!
# Lower case in every script

The scheme of a connection URL is compared in lower case, and an unsupported one is reported in
lower case, so the fold is visible for any text. It is the full one of the Unicode standard: each
character by the table of one-character folds, the dotted capital I as a letter and a combining
dot, and the capital sigma by its place. At the end of a word the sigma becomes `ς`, elsewhere `σ`;
a word ends where, marks and punctuation that ignore case aside, a letter stands before and none
after.
-/

namespace ObjectCatalog.Text

/-- The letters and other characters that have a case. -/
def isCased (c : Char) : Bool :=
  inRuns CaseData.casedRuns c.toNat

/-- The characters that do not end a word for the purpose of letter case. -/
def isCaseIgnorable (c : Char) : Bool :=
  inRuns CaseData.ignorableRuns c.toNat

/-- The one-character lower case; a character without one is its own. -/
def lowerChar (c : Char) : Char :=
  let n := c.toNat
  match CaseData.lowerRuns.find? fun (first, last, step, _) =>
      first ≤ n && n ≤ last && (n - first) % step == 0 with
  | some (_, _, _, shift) => Char.ofNat (Int.toNat (n + shift))
  | none => c

/-- Whether the next character that counts is a cased one. -/
def meetsCased (cs : List Char) : Bool :=
  ((cs.dropWhile isCaseIgnorable).head?.map isCased).getD false

/-- Folds a text whose part already read is `before`, last character first. -/
def lowerFrom (before : List Char) : List Char → List Char
  | [] => []
  | c :: cs =>
    let folded :=
      -- A sigma is final where a word ends with it; alone it is not a word.
      if c == 'Σ' then
        if meetsCased before && !meetsCased cs then ['ς'] else ['σ']
      else if c == 'İ' then ['i', '\u0307']
      else [lowerChar c]
    folded ++ lowerFrom (c :: before) cs

def lowercase (s : String) : String :=
  String.ofList (lowerFrom [] s.toList)

end ObjectCatalog.Text
