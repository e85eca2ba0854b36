/-!
# ASCII letters, digits and case

The store compares text in two ways: exactly, or with the 26 ASCII letters folded to lower case.
The second comparison belongs to case-insensitive name columns, to pattern matching and to the
connector keywords, and it folds nothing beyond ASCII: `É` and `é` stay different texts.

`Char.toLower` of the core library folds exactly these letters, so case folding is a map over the
characters, and its laws are those of a map.
-/

namespace ObjectCatalog.Text

def foldCase (s : String) : String :=
  s.map Char.toLower

def sameFolded (s t : String) : Bool :=
  foldCase s == foldCase t

/-- The characters that may stand in an identifier after its first. -/
def isIdentifierRest (c : Char) : Bool :=
  c.isAlphanum || c == '_'

/-- The characters that may begin an identifier. -/
def isIdentifierStart (c : Char) : Bool :=
  c.isAlpha || c == '_'

def hexValue? (c : Char) : Option Nat :=
  if c.isDigit then some (c.toNat - '0'.toNat)
  else if 'a' ≤ c && c ≤ 'f' then some (c.toNat - 'a'.toNat + 10)
  else if 'A' ≤ c && c ≤ 'F' then some (c.toNat - 'A'.toNat + 10)
  else none

def isHexDigit (c : Char) : Bool :=
  (hexValue? c).isSome

@[simp] theorem toList_foldCase (s : String) : (foldCase s).toList = s.toList.map Char.toLower := by
  simp [foldCase, String.toList_map]

@[simp] theorem length_foldCase (s : String) : (foldCase s).toList.length = s.toList.length := by
  simp

theorem foldCase_append (s t : String) : foldCase (s ++ t) = foldCase s ++ foldCase t := by
  apply String.toList_inj.1
  simp

theorem isIdentifierRest_of_start {c : Char} (h : isIdentifierStart c = true) :
    isIdentifierRest c = true := by
  simp only [isIdentifierStart, isIdentifierRest, Char.isAlphanum, Bool.or_eq_true] at h ⊢
  exact h.imp_left .inl

theorem sameFolded_iff (s t : String) : sameFolded s t = true ↔ foldCase s = foldCase t := by
  simp [sameFolded]

/-- What folds to a character that is no lower-case letter is that character. -/
theorem eq_of_toLower_eq {c d : Char} (h : c.toLower = d) (hd : d.isLower = false) : c = d := by
  unfold Char.toLower at h
  split at h
  · rename_i hupper
    -- An upper-case letter folds to a lower-case one.
    have hge : 65 ≤ c.toNat := UInt32.le_iff_toNat_le.1 hupper.1
    have hle : c.toNat ≤ 90 := UInt32.le_iff_toNat_le.1 hupper.2
    have hval : d.val.toNat = (c.toNat + 32) % 4294967296 := by
      rw [← h]
      rfl
    have ha : 'a'.val ≤ d.val := UInt32.le_iff_toNat_le.2 <| by
      rw [show 'a'.val.toNat = 97 from rfl]
      omega
    have hz : d.val ≤ 'z'.val := UInt32.le_iff_toNat_le.2 <| by
      rw [show 'z'.val.toNat = 122 from rfl]
      omega
    have hlower : d.isLower = true :=
      Bool.and_eq_true_iff.2 ⟨decide_eq_true ha, decide_eq_true hz⟩
    rw [hlower] at hd
    cases hd
  · exact h

end ObjectCatalog.Text
