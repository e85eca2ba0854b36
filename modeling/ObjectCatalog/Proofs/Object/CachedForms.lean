import ObjectCatalog.Object.CachedRow
import ObjectCatalog.Proofs.Json.Trees

/-!
# The texts of a cached row

A row is written in one form and read in many. What these are is said here by the text alone
(`CachedRow.WrittenIn`): an object in which one member gives the id and one the name, among any others
and in any order, or an array of the two. Strings may use escapes, the numeral of an id has no fraction
and no exponent, and blanks may stand where JSON has them. These are the texts that are read as the row,
and there are no others (`CachedRow.parse?_eq_some_iff`).

The members are read one by one with what was found so far. So the induction on them carries, for the id
and for the name, that it was found before or is given once by what is still to come
(`CachedRow.Found`).
-/

namespace ObjectCatalog

namespace Json

/-! ## 1. Strings -/

/-- The characters a string stands for. Two codes that are the halves of a surrogate pair stand for one
character, and a half alone for none. -/
inductive UnitsDenote : List StringUnit → List Char → Prop
  | nil : UnitsDenote [] []
  | char {c : Char} {units : List StringUnit} {cs : List Char} (h : UnitsDenote units cs) :
      UnitsDenote (.char c :: units) (c :: cs)
  | code {n : Nat} {units : List StringUnit} {cs : List Char}
      (hhigh : isHighSurrogate n = false) (hlow : isLowSurrogate n = false)
      (h : UnitsDenote units cs) : UnitsDenote (.code n :: units) (Char.ofNat n :: cs)
  | pair {high low : Nat} {units : List StringUnit} {cs : List Char}
      (hhigh : isHighSurrogate high = true) (hlow : isLowSurrogate low = true)
      (h : UnitsDenote units cs) :
      UnitsDenote (.code high :: .code low :: units) (pairedChar high low :: cs)

theorem decodeUnits_code_of_not_surrogate {n : Nat} (hhigh : isHighSurrogate n = false)
    (hlow : isLowSurrogate n = false) (rest : List StringUnit) :
    decodeUnits (.code n :: rest) = (decodeUnits rest).map (Char.ofNat n :: ·) := by
  cases rest with
  | nil => simp [decodeUnits, hhigh, hlow]
  | cons unit rest =>
    cases unit with
    | char c => simp [decodeUnits, hhigh, hlow]
    | code low =>
      rw [decodeUnits]
      simp [hhigh, hlow]

theorem UnitsDenote.decodeUnits {units : List StringUnit} {cs : List Char}
    (h : UnitsDenote units cs) : decodeUnits units = some cs := by
  induction h with
  | nil => rfl
  | char _ ih => rw [Json.decodeUnits, ih, Option.map_some]
  | code hhigh hlow _ ih => rw [decodeUnits_code_of_not_surrogate hhigh hlow, ih, Option.map_some]
  | pair hhigh hlow _ ih => rw [Json.decodeUnits, hhigh, hlow, Bool.and_self, if_pos rfl, ih, Option.map_some]

/-- By induction as the units are decoded: two codes are looked at together. -/
theorem denote_of_decodeUnits {units : List StringUnit} {cs : List Char}
    (h : decodeUnits units = some cs) : UnitsDenote units cs := by
  fun_induction decodeUnits units generalizing cs with
  | case1 =>
    obtain rfl := Option.some.inj h
    exact .nil
  | case2 c rest ih =>
    obtain ⟨cs, hcs, rfl⟩ := Option.map_eq_some_iff.1 h
    exact .char (ih hcs)
  | case3 high low rest hpair ih =>
    obtain ⟨cs, hcs, rfl⟩ := Option.map_eq_some_iff.1 h
    rw [Bool.and_eq_true] at hpair
    exact .pair hpair.1 hpair.2 (ih hcs)
  | case4 => cases h
  | case5 high low rest hpair hsingle ih =>
    obtain ⟨cs, hcs, rfl⟩ := Option.map_eq_some_iff.1 h
    rw [Bool.not_eq_true, Bool.or_eq_false_iff] at hsingle
    exact .code hsingle.1 hsingle.2 (ih hcs)
  | case6 => cases h
  | case7 n rest hnext hsingle ih =>
    obtain ⟨cs, hcs, rfl⟩ := Option.map_eq_some_iff.1 h
    rw [Bool.not_eq_true, Bool.or_eq_false_iff] at hsingle
    exact .code hsingle.1 hsingle.2 (ih hcs)

theorem decodeString?_eq_some_iff {units : List StringUnit} {s : String} :
    decodeString? units = some s ↔ UnitsDenote units s.toList := by
  rw [decodeString?, Option.map_eq_some_iff]
  constructor
  · rintro ⟨cs, hcs, rfl⟩
    rw [String.toList_ofList]
    exact denote_of_decodeUnits hcs
  · intro h
    exact ⟨s.toList, h.decodeUnits, String.ofList_toList⟩

theorem decodeString?_eq_none_iff {units : List StringUnit} :
    decodeString? units = none ↔ ∀ s : String, ¬ UnitsDenote units s.toList := by
  rw [Option.eq_none_iff_forall_ne_some]
  simp only [ne_eq, decodeString?_eq_some_iff]

/-! ## 2. Members -/

/-- A member of an object with this key. -/
def HasKey (key : String) (member : List StringUnit × Tree) : Prop :=
  UnitsDenote member.1 key.toList

/-- Exactly one member has the key, and this is its tree. -/
inductive OnlyMember (key : String) (tree : Tree) : List (List StringUnit × Tree) → Prop
  | here {units : List StringUnit} {rest : List (List StringUnit × Tree)}
      (h : UnitsDenote units key.toList) (hrest : ∀ member ∈ rest, ¬ HasKey key member) :
      OnlyMember key tree ((units, tree) :: rest)
  | later {member : List StringUnit × Tree} {rest : List (List StringUnit × Tree)}
      (hne : ¬ HasKey key member) (h : OnlyMember key tree rest) :
      OnlyMember key tree (member :: rest)

end Json

namespace CachedRow

/-! ## 3. Rows -/

/-- The numeral of an id: digits, after a minus sign if it is negative. Zero has no minus sign. -/
inductive IdWritten : Json.Tree → Int64 → Prop
  | natural {digits : List Char} {id : Int64} (h : id.toInt = Text.Numeral.value digits) :
      IdWritten (.number ⟨false, digits, none, none⟩) id
  | negative {digits : List Char} {id : Int64} (h : id.toInt = -Text.Numeral.value digits)
      (hne : id ≠ 0) : IdWritten (.number ⟨true, digits, none, none⟩) id

inductive NameWritten : Json.Tree → String → Prop
  | string {units : List Json.StringUnit} {name : String} (h : Json.UnitsDenote units name.toList) :
      NameWritten (.string units) name

/-- A tree that gives the id and the name of a row. All keys have to be text, but other members may hold
anything. -/
inductive CarriedBy (row : CachedRow) : Json.Tree → Prop
  | array {id name : Json.Tree} (hid : IdWritten id row.id) (hname : NameWritten name row.name) :
      CarriedBy row (.array [id, name])
  | object {members : List (List Json.StringUnit × Json.Tree)} {id name : Json.Tree}
      (hkeys : ∀ member ∈ members, ∃ key, Json.HasKey key member)
      (hid : Json.OnlyMember "id" id members) (hidWritten : IdWritten id row.id)
      (hname : Json.OnlyMember "name" name members) (hnameWritten : NameWritten name row.name) :
      CarriedBy row (.object members)

/-- A text of a row: the tokens of a tree that gives it, with blanks between them. -/
def WrittenIn (row : CachedRow) (text : String) : Prop :=
  ∃ tree : Json.Tree, Json.Spells tree.tokens text.toList ∧ row.CarriedBy tree

theorem ofInt_eq_iff {n : Int} (hge : -9223372036854775808 ≤ n) (hlt : n < 9223372036854775808)
    {id : Int64} : Int64.ofInt n = id ↔ id.toInt = n := by
  constructor
  · rintro rfl
    exact Int64.toInt_ofInt_of_le hge hlt
  · intro h
    rw [← h, Int64.ofInt_toInt]

theorem idOf?_natural {digits : List Char} {id : Int64} :
    idOf? (.number ⟨false, digits, none, none⟩) = some id ↔ id.toInt = Text.Numeral.value digits := by
  have hle : id.toInt ≤ 2 ^ 63 - 1 := Int64.toInt_le id
  have hbound : Text.Numeral.signedBound = 2 ^ 63 := rfl
  simp only [idOf?, Bool.false_eq_true, if_false]
  rw [Option.ite_none_right_eq_some]
  by_cases hlt : Text.Numeral.value digits < Text.Numeral.signedBound
  · rw [and_iff_right hlt, Option.some_inj, ← Int64.ofInt_eq_ofNat, ofInt_eq_iff (by omega) (by omega)]
  · refine iff_of_false (fun h => hlt h.1) ?_
    omega

theorem idOf?_negative {digits : List Char} {id : Int64} :
    idOf? (.number ⟨true, digits, none, none⟩) = some id ↔
      id.toInt = -Text.Numeral.value digits ∧ id ≠ 0 := by
  have hge : -2 ^ 63 ≤ id.toInt := Int64.le_toInt id
  have hbound : Text.Numeral.signedBound = 2 ^ 63 := rfl
  have hzero : id = 0 ↔ id.toInt = 0 := by rw [← Int64.toInt_inj, Int64.toInt_zero]
  simp only [idOf?, if_true]
  rw [Option.ite_none_left_eq_some, Bool.or_eq_true, decide_eq_true_iff, decide_eq_true_iff, not_or,
    ne_eq, hzero]
  by_cases hbounds : ¬ Text.Numeral.value digits = 0 ∧
      ¬ Text.Numeral.signedBound < Text.Numeral.value digits
  · rw [and_iff_right hbounds, Option.some_inj, ofInt_eq_iff (by omega) (by omega)]
    omega
  · refine iff_of_false (fun h => hbounds h.1) ?_
    omega

theorem idOf?_eq_some_iff {tree : Json.Tree} {id : Int64} :
    idOf? tree = some id ↔ IdWritten tree id := by
  constructor
  · intro h
    unfold idOf? at h
    split at h
    · rename_i negative digits
      cases negative with
      | false => exact .natural (idOf?_natural.1 h)
      | true =>
        obtain ⟨hvalue, hne⟩ := idOf?_negative.1 h
        exact .negative hvalue hne
    · cases h
  · intro h
    cases h with
    | natural h => exact idOf?_natural.2 h
    | negative h hne => exact idOf?_negative.2 ⟨h, hne⟩

theorem nameOf?_eq_some_iff {tree : Json.Tree} {name : String} :
    nameOf? tree = some name ↔ NameWritten tree name := by
  constructor
  · intro h
    unfold nameOf? at h
    split at h
    · exact .string (Json.decodeString?_eq_some_iff.1 h)
    · cases h
  · intro h
    cases h with
    | string h => exact Json.decodeString?_eq_some_iff.2 h

/-- A value for a key: what was found before if no member has the key, and otherwise what is read of the
one member that has it. -/
inductive Found {α : Type} (read : Json.Tree → Option α) (key : String) (value : α) :
    Option α → List (List Json.StringUnit × Json.Tree) → Prop
  | before {members : List (List Json.StringUnit × Json.Tree)}
      (h : ∀ member ∈ members, ¬ Json.HasKey key member) : Found read key value (some value) members
  | here {tree : Json.Tree} {members : List (List Json.StringUnit × Json.Tree)}
      (h : Json.OnlyMember key tree members) (hread : read tree = some value) :
      Found read key value none members

section Found

variable {α : Type} {read : Json.Tree → Option α} {key : String} {value : α} {before : Option α}
  {member : List Json.StringUnit × Json.Tree} {rest : List (List Json.StringUnit × Json.Tree)}

theorem found_nil : Found read key value before [] ↔ before = some value := by
  constructor
  · intro h
    cases h with
    | before => rfl
    | here h => cases h
  · rintro rfl
    exact .before (by simp)

/-- A member with another key makes no difference. -/
theorem found_cons_of_not (h : ¬ Json.HasKey key member) :
    Found read key value before (member :: rest) ↔ Found read key value before rest := by
  constructor
  · intro hfound
    cases hfound with
    | before hnone => exact .before (List.forall_mem_cons.1 hnone).2
    | here honly hread =>
      cases honly with
      | here hname => exact absurd hname h
      | later _ honly => exact .here honly hread
  · intro hfound
    cases hfound with
    | before hnone => exact .before (List.forall_mem_cons.2 ⟨h, hnone⟩)
    | here honly hread => exact .here (.later h honly) hread

/-- A member with the key has to be the first, and gives the value. -/
theorem found_cons_of_key (h : Json.HasKey key member) :
    Found read key value before (member :: rest) ↔
      before = none ∧ ∃ v, read member.2 = some v ∧ Found read key value (some v) rest := by
  constructor
  · intro hfound
    cases hfound with
    | before hnone => exact absurd h (hnone member List.mem_cons_self)
    | here honly hread =>
      cases honly with
      | here _ hrest => exact ⟨rfl, value, hread, .before hrest⟩
      | later hne => exact absurd h hne
  · rintro ⟨rfl, v, hread, hfound⟩
    cases hfound with
    | before hrest => exact .here (.here h hrest) hread

end Found

section Members

variable {row : CachedRow} {id : Option Int64} {name : Option String} {units : List Json.StringUnit}
  {tree : Json.Tree} {rest : List (List Json.StringUnit × Json.Tree)}

theorem ofMembers?_id (h : Json.decodeString? units = some "id") :
    ofMembers? id name ((units, tree) :: rest) = some row ↔
      id = none ∧ ∃ v, idOf? tree = some v ∧ ofMembers? (some v) name rest = some row := by
  simp only [ofMembers?, h, if_true]
  cases id <;> cases idOf? tree <;> simp

theorem ofMembers?_name (h : Json.decodeString? units = some "name") :
    ofMembers? id name ((units, tree) :: rest) = some row ↔
      name = none ∧ ∃ v, nameOf? tree = some v ∧ ofMembers? id (some v) rest = some row := by
  have hne : "name" ≠ "id" := by decide
  simp only [ofMembers?, h, if_neg hne, if_true]
  cases name <;> cases nameOf? tree <;> simp

theorem ofMembers?_other {key : String} (h : Json.decodeString? units = some key) (hid : key ≠ "id")
    (hname : key ≠ "name") :
    ofMembers? id name ((units, tree) :: rest) = ofMembers? id name rest := by
  simp only [ofMembers?, h, if_neg hid, if_neg hname]

/-- By induction on the members that are still to be read. -/
theorem ofMembers?_eq_some_iff {members : List (List Json.StringUnit × Json.Tree)} :
    ofMembers? id name members = some row ↔
      (∀ member ∈ members, ∃ key, Json.HasKey key member) ∧
        Found idOf? "id" row.id id members ∧ Found nameOf? "name" row.name name members := by
  induction members generalizing id name with
  | nil =>
    obtain ⟨rowId, rowName⟩ := row
    rw [found_nil, found_nil]
    cases id <;> cases name <;> simp [ofMembers?]
  | cons member rest ih =>
    obtain ⟨units, tree⟩ := member
    rw [List.forall_mem_cons]
    cases hkey : Json.decodeString? units with
    | none =>
      have hnone := Json.decodeString?_eq_none_iff.1 hkey
      refine iff_of_false ?_ ?_
      · simp [ofMembers?, hkey]
      · rintro ⟨⟨⟨key, hname⟩, -⟩, -⟩
        exact hnone key hname
    | some key =>
      have hname : ∀ other, Json.HasKey other (units, tree) ↔ other = key := by
        intro other
        rw [Json.HasKey, ← Json.decodeString?_eq_some_iff, hkey, Option.some_inj, eq_comm]
      -- A member has one key, so it counts for the id, for the name or for neither.
      have hreadable : ∃ key, Json.HasKey key (units, tree) := ⟨key, (hname key).2 rfl⟩
      rw [and_iff_right hreadable]
      by_cases hid : key = "id"
      · subst hid
        have hnot : ¬ Json.HasKey "name" (units, tree) := by simp [hname]
        rw [ofMembers?_id hkey, found_cons_of_key ((hname _).2 rfl), found_cons_of_not hnot]
        simp only [ih]
        grind
      · by_cases hname' : key = "name"
        · subst hname'
          have hnot : ¬ Json.HasKey "id" (units, tree) := by simp [hname]
          rw [ofMembers?_name hkey, found_cons_of_key ((hname _).2 rfl), found_cons_of_not hnot]
          simp only [ih]
          grind
        · have hnot : ∀ other, other ≠ key → ¬ Json.HasKey other (units, tree) := by simp [hname]
          rw [ofMembers?_other hkey hid hname', found_cons_of_not (hnot _ (Ne.symm hid)),
            found_cons_of_not (hnot _ (Ne.symm hname')), ih]

end Members

/-- What is given once is found where nothing was found before. -/
theorem found_none {α : Type} {read : Json.Tree → Option α} {key : String} {value : α}
    {members : List (List Json.StringUnit × Json.Tree)} :
    Found read key value none members ↔
      ∃ tree, Json.OnlyMember key tree members ∧ read tree = some value := by
  constructor
  · rintro (_ | ⟨honly, hread⟩)
    exact ⟨_, honly, hread⟩
  · rintro ⟨tree, honly, hread⟩
    exact .here honly hread

theorem ofTree?_array {row : CachedRow} {id name : Json.Tree} :
    ofTree? (.array [id, name]) = some row ↔
      idOf? id = some row.id ∧ nameOf? name = some row.name := by
  obtain ⟨rowId, rowName⟩ := row
  simp only [ofTree?]
  cases idOf? id <;> cases nameOf? name <;> simp

theorem ofTree?_eq_some_iff {row : CachedRow} {tree : Json.Tree} :
    ofTree? tree = some row ↔ row.CarriedBy tree := by
  constructor
  · intro h
    unfold ofTree? at h
    split at h
    · obtain ⟨hkeys, hid, hname⟩ := ofMembers?_eq_some_iff.1 h
      obtain ⟨id, honlyId, hid⟩ := found_none.1 hid
      obtain ⟨name, honlyName, hname⟩ := found_none.1 hname
      exact .object hkeys honlyId (idOf?_eq_some_iff.1 hid) honlyName (nameOf?_eq_some_iff.1 hname)
    · obtain ⟨hid, hname⟩ := ofTree?_array.1 h
      exact .array (idOf?_eq_some_iff.1 hid) (nameOf?_eq_some_iff.1 hname)
    · cases h
  · intro h
    cases h with
    | array hid hname =>
      exact ofTree?_array.2 ⟨idOf?_eq_some_iff.2 hid, nameOf?_eq_some_iff.2 hname⟩
    | object hkeys honlyId hid honlyName hname =>
      exact ofMembers?_eq_some_iff.2 ⟨hkeys, found_none.2 ⟨_, honlyId, idOf?_eq_some_iff.2 hid⟩,
        found_none.2 ⟨_, honlyName, nameOf?_eq_some_iff.2 hname⟩⟩

/-- A text is read as a row if and only if it is one of the texts of the row. -/
theorem parse?_eq_some_iff {row : CachedRow} {text : String} :
    parse? text = some row ↔ row.WrittenIn text := by
  rw [parse?, Option.bind_eq_some_iff]
  simp only [Json.Tree.parse?_eq_some_iff, ofTree?_eq_some_iff, WrittenIn]

end CachedRow

end ObjectCatalog
