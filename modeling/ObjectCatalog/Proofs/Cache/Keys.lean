import ObjectCatalog.Repository.Basic

/-!
# The keys of a repository

Two lookups of one repository have the same key only if they are the same lookup. After the common
stem the key of an id goes on with a digit or a minus sign and the key of a name with a letter, so
neither is ever taken for the other, and what follows in each is the id or the name itself.
-/

namespace ObjectCatalog

namespace Repository

variable {r : Repository}

theorem idKey_injective {id id' : Int64} (h : r.idKey id = r.idKey id') : id = id' := by
  have htexts : Text.Numeral.ofInt id.toInt = Text.Numeral.ofInt id'.toInt :=
    String.append_right_inj _ |>.1 h
  have hdigits := congrArg String.toList htexts
  rw [Text.Numeral.ofInt, Text.Numeral.ofInt, String.toList_ofList, String.toList_ofList] at hdigits
  exact Int64.toInt_inj.1 (Text.Numeral.signed_injective hdigits)

theorem nameKey_injective {name name' : String} (h : r.nameKey name = r.nameKey name') :
    name = name' :=
  String.append_right_inj _ |>.1 h

/-- A numeral has nothing in it but digits and a minus sign. -/
theorem notMem_signed {c : Char} (hdigit : ¬ c.isDigit) (hminus : c ≠ '-') (n : Int) :
    c ∉ Text.Numeral.signed n := by
  have hdigits : ∀ m, c ∉ Text.Numeral.digits m :=
    fun m hm => hdigit (Text.Numeral.isDigit_of_mem_digits hm)
  cases n with
  | ofNat m => exact hdigits m
  | negSucc m =>
    intro hc
    rcases List.mem_cons.1 hc with hfirst | hc
    · exact hminus hfirst
    · exact hdigits (m + 1) hc

theorem idKey_ne_nameKey (id : Int64) (name : String) : r.idKey id ≠ r.nameKey name := by
  intro h
  rw [idKey, nameKey, String.append_assoc] at h
  have htexts : Text.Numeral.ofInt id.toInt = "name_" ++ name := String.append_right_inj _ |>.1 h
  have hletters := congrArg String.toList htexts
  rw [Text.Numeral.ofInt, String.toList_ofList, String.toList_append] at hletters
  refine notMem_signed (c := 'n') (by decide) (by decide) id.toInt ?_
  rw [hletters]
  exact List.mem_append_left _ (by decide)

/-- A key tells the lookup. -/
theorem lookupKey_injective {lookup lookup' : Lookup}
    (h : r.lookupKey lookup = r.lookupKey lookup') : lookup = lookup' := by
  cases lookup with
  | id id =>
    cases lookup' with
    | id id' => exact congrArg Lookup.id (idKey_injective h)
    | name name => exact absurd h (idKey_ne_nameKey id name)
  | name name =>
    cases lookup' with
    | id id => exact absurd h.symm (idKey_ne_nameKey id name)
    | name name' => exact congrArg Lookup.name (nameKey_injective h)

end Repository

end ObjectCatalog
