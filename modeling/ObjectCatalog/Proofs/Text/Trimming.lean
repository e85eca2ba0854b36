import Mathlib.Data.List.TakeWhile
import ObjectCatalog.Text.Blank

/-!
# What trimming is

The trimmed form of a text is the part that is left when the blanks around it are taken off, as many as
there are on either side (`IsTrimOf`). There is one such part, and `trim` answers it (`isTrimOf_iff`), so
a text may be known to be the trimmed form of another without trimming it.
-/

namespace ObjectCatalog.Text

/-- A text with no blank at its ends, and the same with blanks around it. -/
structure IsTrimOf (inner raw : String) : Prop where
  around : ∃ before behind : String, (∀ c ∈ before.toList, isBlank c = true) ∧
    (∀ c ∈ behind.toList, isBlank c = true) ∧ raw = before ++ inner ++ behind
  head : ∀ c, inner.toList.head? = some c → isBlank c = false
  last : ∀ c, inner.toList.getLast? = some c → isBlank c = false

/-- Blanks around a text go when it is trimmed. -/
theorem trim_surrounded {before behind : String} (text : String)
    (hbefore : ∀ c ∈ before.toList, isBlank c = true)
    (hbehind : ∀ c ∈ behind.toList, isBlank c = true) :
    trim (before ++ text ++ behind) = trim text := by
  have hend : ∀ cs : List Char, trimEndChars (cs ++ behind.toList) = trimEndChars cs := by
    intro cs
    have hblank : ∀ c ∈ behind.toList.reverse, isBlank c = true := by
      intro c hc
      exact hbehind c (List.mem_reverse.1 hc)
    rw [trimEndChars, List.reverse_append, List.dropWhile_append_of_pos hblank, trimEndChars]
  have hchars : trimChars (before.toList ++ text.toList ++ behind.toList) =
      trimChars text.toList := by
    rw [List.append_assoc, trimChars, List.dropWhile_append_of_pos hbefore,
      List.dropWhile_append, trimChars]
    by_cases hall : (text.toList.dropWhile isBlank).isEmpty = true
    · -- Nothing but blanks is left on either side.
      have hnone := List.dropWhile_eq_nil_iff.2 hbehind
      rw [if_pos hall, hnone, List.isEmpty_iff.1 hall]
    · rw [if_neg hall, hend]
  apply String.toList_inj.1
  rw [toList_trim, toList_trim, String.toList_append, String.toList_append, hchars]

/-- Without a blank at either end there is nothing to take off. -/
theorem trim_of_ends {text : String}
    (hhead : ∀ c, text.toList.head? = some c → isBlank c = false)
    (hlast : ∀ c, text.toList.getLast? = some c → isBlank c = false) : trim text = text := by
  have hend : text.toList.reverse.dropWhile isBlank = text.toList.reverse := by
    apply dropWhile_eq_self_of_head
    intro c hc
    exact hlast c (by rwa [List.head?_reverse] at hc)
  apply String.toList_inj.1
  rw [toList_trim, trimChars, dropWhile_eq_self_of_head hhead, trimEndChars, hend,
    List.reverse_reverse]

theorem trim_of_no_blank {text : String} (h : ∀ c ∈ text.toList, isBlank c = false) :
    trim text = text :=
  trim_of_ends (fun c hc => h c (List.mem_of_head? hc)) fun c hc => h c (List.mem_of_getLast? hc)

/-- What is taken off in front is blank, and so is what is taken off behind. -/
theorem exists_around_trim (raw : String) :
    ∃ before behind : String, (∀ c ∈ before.toList, isBlank c = true) ∧
      (∀ c ∈ behind.toList, isBlank c = true) ∧ raw = before ++ trim raw ++ behind := by
  have hfront := List.takeWhile_append_dropWhile (p := isBlank) (l := raw.toList)
  have hback := List.takeWhile_append_dropWhile (p := isBlank)
    (l := (raw.toList.dropWhile isBlank).reverse)
  refine ⟨String.ofList (raw.toList.takeWhile isBlank),
    String.ofList ((raw.toList.dropWhile isBlank).reverse.takeWhile isBlank).reverse,
    fun c hc => ?_, fun c hc => ?_, ?_⟩
  · rw [String.toList_ofList] at hc
    exact List.mem_takeWhile_imp hc
  · rw [String.toList_ofList, List.mem_reverse] at hc
    exact List.mem_takeWhile_imp hc
  · apply String.toList_inj.1
    rw [String.toList_append, String.toList_append, String.toList_ofList, String.toList_ofList,
      toList_trim, trimChars, trimEndChars, List.append_assoc, ← List.reverse_append, hback,
      List.reverse_reverse, hfront]

theorem isTrimOf_iff {inner raw : String} : IsTrimOf inner raw ↔ inner = trim raw := by
  constructor
  · rintro ⟨⟨before, behind, hbefore, hbehind, rfl⟩, hhead, hlast⟩
    rw [trim_surrounded inner hbefore hbehind, trim_of_ends hhead hlast]
  · rintro rfl
    refine ⟨exists_around_trim raw, fun c hc => ?_, fun c hc => ?_⟩
    · rw [toList_trim] at hc
      exact head?_trimChars _ c hc
    · rw [toList_trim, trimChars, trimEndChars, List.getLast?_reverse] at hc
      exact head?_dropWhile_isBlank _ c hc

end ObjectCatalog.Text
