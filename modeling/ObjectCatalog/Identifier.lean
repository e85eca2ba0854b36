import ObjectCatalog.Text.Ascii

/-!
# Type names

The type name of a repository becomes part of table names, and those are spliced into statements
as they are. So a type name is a plain identifier, and a value of `TypeName` carries the proof:
code that builds a table name cannot be given anything else.
-/

namespace ObjectCatalog

/-- An ASCII letter or an underscore, followed by ASCII letters, digits and underscores. -/
def isIdentifierChars : List Char → Bool
  | [] => false
  | c :: cs => Text.isIdentifierStart c && cs.all Text.isIdentifierRest

def isIdentifier (s : String) : Bool :=
  isIdentifierChars s.toList

theorem isIdentifierRest_of_mem {s : String} (h : isIdentifier s = true) {c : Char}
    (hc : c ∈ s.toList) : Text.isIdentifierRest c = true := by
  rw [isIdentifier] at h
  cases hchars : s.toList with
  | nil =>
    rw [hchars] at hc
    cases hc
  | cons first rest =>
    rw [hchars, isIdentifierChars, Bool.and_eq_true, List.all_eq_true] at h
    rcases List.mem_cons.1 (hchars ▸ hc) with rfl | hc
    · exact Text.isIdentifierRest_of_start h.1
    · exact h.2 c hc

structure TypeName where
  text : String
  valid : isIdentifier text = true
  deriving DecidableEq

/-- The type name a text is, if it is an identifier. -/
def TypeName.ofText? (s : String) : Option TypeName :=
  if h : isIdentifier s = true then some ⟨s, h⟩ else none

namespace TypeName

theorem ext_text {s t : TypeName} (h : s.text = t.text) : s = t := by
  cases s; cases t; simp_all

theorem ofText?_eq_some_iff {s : String} {t : TypeName} : ofText? s = some t ↔ t.text = s := by
  unfold ofText?
  split
  · rename_i h
    constructor
    · intro e; cases e; rfl
    · intro e; subst e; rfl
  · rename_i h
    constructor
    · intro e; cases e
    · intro e; subst e; exact absurd t.valid h

end TypeName

end ObjectCatalog
