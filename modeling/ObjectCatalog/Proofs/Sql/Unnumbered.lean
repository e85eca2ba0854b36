import ObjectCatalog.Proofs.Sql.Marks

/-!
# Texts without numbers in their marks

The dialects write the marks of arguments differently, and that is all the difference there is between
their spellings of one template. So if every mark is reduced to a question mark (`Text.unnumbered`), the
text that is left is the same for all of them, and it is the spelling of the dialect whose marks have no
numbers (`Template.unnumbered_textFrom`). As for the marks themselves, no other text may have a sign in
it and no digit may follow a hole.
-/

namespace ObjectCatalog

/-! ## 1. Leaving numbers out -/

/-- A text in which every mark is a question mark; `inMark` says whether digits that come first belong
to a mark. -/
def unnumberedFrom (inMark : Bool) : List Char → List Char
  | [] => []
  | c :: rest =>
    if isMarkSign c then '?' :: unnumberedFrom true rest
    else if inMark && c.isDigit then unnumberedFrom true rest
    else c :: unnumberedFrom false rest

def Text.unnumbered (text : String) : String :=
  String.ofList (unnumberedFrom false text.toList)

/-- What is neither a sign nor a digit of a mark stays, and after it there is no mark. -/
theorem unnumberedFrom_cons {inMark : Bool} {c : Char} (hsign : isMarkSign c = false)
    (hdigit : inMark = true → c.isDigit = false) (rest : List Char) :
    unnumberedFrom inMark (c :: rest) = c :: unnumberedFrom false rest := by
  have hskip : (inMark && c.isDigit) = false := by
    cases inMark with
    | false => rfl
    | true => exact hdigit rfl
  rw [unnumberedFrom, hsign, hskip]
  rfl

/-- Text without signs stays as it is. The induction is on this text. -/
theorem unnumberedFrom_append {cs : List Char} (h : cs.all (fun c => !isMarkSign c) = true)
    (rest : List Char) : unnumberedFrom false (cs ++ rest) = cs ++ unnumberedFrom false rest := by
  induction cs with
  | nil => rfl
  | cons c cs ih =>
    rw [List.all_cons, Bool.and_eq_true, Bool.not_eq_true'] at h
    rw [List.cons_append, unnumberedFrom_cons h.1 fun hmark => absurd hmark Bool.false_ne_true,
      ih h.2, List.cons_append]

/-- Of a mark the question mark is left. The induction is on its digits. -/
theorem unnumberedFrom_mark {digits : List Char} {sign : Char} (hsign : isMarkSign sign = true)
    (hdigits : ∀ c ∈ digits, c.isDigit = true) (inMark : Bool) (rest : List Char) :
    unnumberedFrom inMark (sign :: digits ++ rest) = '?' :: unnumberedFrom true rest := by
  have hskip : unnumberedFrom true (digits ++ rest) = unnumberedFrom true rest := by
    induction digits with
    | nil => rfl
    | cons c digits ih =>
      have hc := hdigits c List.mem_cons_self
      rw [List.cons_append, unnumberedFrom, isMarkSign_of_isDigit hc, hc]
      exact ih fun other hother => hdigits other (List.mem_cons_of_mem _ hother)
  rw [List.cons_append, unnumberedFrom, if_pos hsign, hskip]

/-! ## 2. Templates -/

namespace Template

/-- **Without numbers a template is spelled in one way.** The induction is on the pieces; after a hole
the text that comes next must not be taken for the end of its mark. -/
theorem unnumberedFrom_textFrom {t : Template} (hspaced : t.spaced = true)
    (htables : ∀ name ∈ t.tables, markFree name = true) (d : Dialect) (taken taken' : Nat)
    {inMark : Bool} (hmark : inMark = true → t.breaks = true) :
    unnumberedFrom inMark (t.textFrom d taken).toList = (t.textFrom .mySql taken').toList := by
  induction t generalizing taken taken' inMark with
  | nil => rfl
  | cons piece rest ih =>
    have houtside : false = true → breaks rest = true := fun h => absurd h Bool.false_ne_true
    cases piece with
    | text s =>
      rw [spaced, Bool.and_eq_true] at hspaced
      have hrest := ih hspaced.2 htables taken taken' houtside
      rw [textFrom, textFrom, String.toList_append, String.toList_append, ← hrest]
      cases inMark with
      | false => exact unnumberedFrom_append hspaced.1 _
      | true =>
        -- The text has a first character, and it is no digit.
        have hbreaks := hmark rfl
        have hfree := hspaced.1
        rw [breaks] at hbreaks
        rw [markFree] at hfree
        cases hchars : s.toList with
        | nil =>
          rw [hchars] at hbreaks
          cases hbreaks
        | cons c cs =>
          rw [hchars] at hbreaks hfree
          have hdigit : c.isDigit = false := by simpa using hbreaks
          rw [List.all_cons, Bool.and_eq_true, Bool.not_eq_true'] at hfree
          rw [List.cons_append, unnumberedFrom_cons hfree.1 fun _ => hdigit,
            unnumberedFrom_append hfree.2, List.cons_append]
    | table place name =>
      have hnot : inMark = false := by
        cases inMark with
        | false => rfl
        | true => cases hmark rfl
      have hrest := ih hspaced (fun other hother => htables other (List.mem_cons_of_mem _ hother))
        taken taken' houtside
      rw [textFrom, textFrom, String.toList_append, String.toList_append, ← hrest, hnot]
      exact unnumberedFrom_append (htables name List.mem_cons_self) _
    | hole arg =>
      rw [spaced, Bool.and_eq_true] at hspaced
      have hrest := ih hspaced.2 htables (taken + 1) (taken' + 1) fun _ : true = true => hspaced.1
      obtain ⟨sign, digits, hsign, hdigits, hplaceholder⟩ := d.exists_placeholder_eq (taken + 1)
      have hquestion : Dialect.mySql.placeholder (taken' + 1) = String.ofList ['?'] := rfl
      rw [textFrom, textFrom, String.toList_append, String.toList_append, hplaceholder, hquestion,
        String.toList_ofList, String.toList_ofList, unnumberedFrom_mark hsign hdigits, hrest,
        List.singleton_append]

theorem unnumbered_text {t : Template} (hspaced : t.spaced = true)
    (htables : ∀ name ∈ t.tables, markFree name = true) (d : Dialect) :
    Text.unnumbered (t.text d) = t.text .mySql := by
  rw [Text.unnumbered, text, text, unnumberedFrom_textFrom hspaced htables d 0 0
    fun h => absurd h Bool.false_ne_true, String.ofList_toList]

end Template

end ObjectCatalog
