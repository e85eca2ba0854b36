import Mathlib.Data.List.Forall2
import ObjectCatalog.Predicate.Reader
import ObjectCatalog.Predicate.Writer
import ObjectCatalog.Proofs.Results

/-!
# The grammar of predicates in JSON

What may be written for a predicate is said here without the reader, as relations between a value and
what it stands for, one for each part: scalars and their texts, the value of a clause, an entry around
the body of its clause, and the entry of a clause (`Clause.Written`). What may be wrong with an entry is
a relation too (`Clause.Faulty`): each fault with the checks before it passed.

Every function of the reader decides the relation of its part, and so the whole reader accepts what is
written by the grammar, and of any other value that a text can have it reports the first entry that is
not (`Predicate.ofJson_reads_grammar`). The written form of a predicate is in the grammar whatever its keys
and values are, because no connector is spelled like the member that marks a body.
-/

namespace ObjectCatalog

/-! ## 1. The grammar -/

namespace Json

/-- The value under a key is that of the first member with the key. -/
inductive Member (key : String) (value : Json) : List (String × Json) → Prop
  | here (rest : List (String × Json)) : Member key value ((key, value) :: rest)
  | later {k : String} {v : Json} {rest : List (String × Json)} (hne : k ≠ key)
      (h : Member key value rest) : Member key value ((k, v) :: rest)

/-- A value is an object with this value under the key. -/
inductive HasField : Json → String → Json → Prop
  | object {members : List (String × Json)} {key : String} {value : Json}
      (h : Member key value members) : HasField (.object members) key value

/-- A scalar and the text it stands for. -/
inductive Scalar : Json → String → Prop
  | string (s : String) : Scalar (.string s) s
  | number (n : Number) : Scalar (.number n) n.text
  | yes : Scalar (.bool true) "true"
  | no : Scalar (.bool false) "false"

end Json

/-- What is written as the value of a clause: a scalar for one value, an array for several. -/
inductive ValueMatch.Written : Json → ValueMatch → Prop
  | one {value : Json} {text : String} (h : value.Scalar text) : Written value (.one text)
  | anyOf {items : List Json} {texts : List String} (h : List.Forall₂ Json.Scalar items texts) :
      Written (.array items) (.anyOf texts)

namespace Clause

/-- A body has a scalar under `key`. -/
def HasKey (body : Json) (key : String) : Prop :=
  ∃ scalar, body.HasField "key" scalar ∧ scalar.Scalar key

/-- An entry around a body. -/
inductive Wraps : Json → Connector → Json → Prop
  /-- An entry with a member `key` is its own body, whatever its other members are. -/
  | bare {members : List (String × Json)} {value : Json} (h : Json.Member "key" value members) :
      Wraps (.object members) .or (.object members)
  /-- The one member of any other entry has the body, under the connector. -/
  | wrapped {word : String} {body : Json} {connector : Connector} (hword : word ≠ "key")
      (hconnector : connector = .and ↔ Text.foldCase (Text.trim word) = "and") :
      Wraps (.object [(word, body)]) connector body

/-- The entry of a clause. -/
inductive Written : Json → Clause → Prop
  | entry {entry body value : Json} {connector : Connector} {key : String} {choice : ValueMatch}
      (hwraps : Wraps entry connector body) (hkey : HasKey body key)
      (hvalue : body.HasField "value" value) (hchoice : ValueMatch.Written value choice) :
      Written entry ⟨connector, key, choice⟩

/-- The first thing that is wrong with an entry. -/
inductive Faulty : Json → ClauseFault → Prop
  | notObject {entry : Json} (h : ∀ members, entry ≠ .object members) : Faulty entry .notObject
  | noConnector {members : List (String × Json)} (hkey : ∀ value, ¬ Json.Member "key" value members)
      (hone : members.length ≠ 1) : Faulty (.object members) .noConnector
  | noKey {entry body : Json} {connector : Connector} (hwraps : Wraps entry connector body)
      (hkey : ∀ key, ¬ HasKey body key) : Faulty entry .noKey
  | noValue {entry body : Json} {connector : Connector} {key : String}
      (hwraps : Wraps entry connector body) (hkey : HasKey body key)
      (hvalue : ∀ value, ¬ body.HasField "value" value) : Faulty entry .noValue
  | nonScalarValue {entry body value : Json} {connector : Connector} {key : String}
      (hwraps : Wraps entry connector body) (hkey : HasKey body key)
      (hvalue : body.HasField "value" value) (hchoice : ∀ choice, ¬ ValueMatch.Written value choice) :
      Faulty entry .nonScalarValue

end Clause

/-! ## 2. Values and their parts -/

namespace Json

/-- The induction is on the members that are still to be looked at. -/
theorem lookup_eq_some_iff {key : String} {value : Json} {members : List (String × Json)} :
    lookup key members = some value ↔ Member key value members := by
  induction members with
  | nil => exact ⟨nofun, nofun⟩
  | cons member rest ih =>
    obtain ⟨k, v⟩ := member
    rw [lookup]
    split
    · rename_i hkey
      subst hkey
      constructor
      · rintro ⟨⟩
        exact .here rest
      · intro h
        cases h with
        | here => rfl
        | later hne => exact absurd rfl hne
    · rename_i hne
      rw [ih]
      constructor
      · exact .later hne
      · intro h
        cases h with
        | here => exact absurd rfl hne
        | later _ h => exact h

theorem lookup_eq_none_iff {key : String} {members : List (String × Json)} :
    lookup key members = none ↔ ∀ value, ¬ Member key value members := by
  rw [Option.eq_none_iff_forall_ne_some]
  exact forall_congr' fun value => not_congr lookup_eq_some_iff

theorem field?_eq_some_iff {key : String} {value body : Json} :
    body.field? key = some value ↔ body.HasField key value := by
  constructor
  · intro h
    cases body with
    | object members => exact .object (lookup_eq_some_iff.1 h)
    | _ => cases h
  · rintro ⟨h⟩
    exact lookup_eq_some_iff.2 h

theorem scalarText?_eq_some_iff {value : Json} {text : String} :
    value.scalarText? = some text ↔ value.Scalar text := by
  constructor
  · intro h
    cases value with
    | string =>
      cases h
      exact .string _
    | number n =>
      cases h
      exact .number n
    | bool b =>
      cases b with
      | false =>
        cases h
        exact .no
      | true =>
        cases h
        exact .yes
    | null | array | object => cases h
  · intro h
    cases h with
    | string | number | yes | no => rfl

/-- No array is a scalar. -/
theorem not_scalar_array {items : List Json} {text : String} : ¬ Scalar (.array items) text :=
  fun h => nomatch h

end Json

namespace Clause

/-! ## 3. The reader, function by function -/

theorem valueText_eq_ok_iff {value : Json} {text : String} :
    valueText value = .ok text ↔ value.Scalar text := by
  rw [← Json.scalarText?_eq_some_iff, valueText]
  cases value.scalarText? with
  | none => simp
  | some found => simp

theorem valueText_eq_error {value : Json} {fault : ClauseFault} (h : valueText value = .error fault) :
    fault = .nonScalarValue := by
  unfold valueText at h
  split at h
  · cases h
  · cases h
    rfl

/-- An array is read item by item. The induction is on the items. -/
theorem mapM_valueText_eq_ok_iff {items : List Json} {texts : List String} :
    items.mapM valueText = .ok texts ↔ List.Forall₂ Json.Scalar items texts := by
  induction items generalizing texts with
  | nil =>
    rw [List.forall₂_nil_left_iff, List.mapM_nil]
    exact ⟨fun h => (Except.ok.inj h).symm, fun h => h ▸ rfl⟩
  | cons item rest ih =>
    rw [List.mapM_cons, List.forall₂_cons_left_iff]
    simp only [bind_eq_ok_iff_exists, valueText_eq_ok_iff, ih]
    constructor
    · rintro ⟨text, hscalar, others, hothers, heq⟩
      cases heq
      exact ⟨text, others, hscalar, hothers, rfl⟩
    · rintro ⟨text, others, hscalar, hothers, rfl⟩
      exact ⟨text, hscalar, others, hothers, rfl⟩

theorem mapM_valueText_eq_error {items : List Json} {fault : ClauseFault}
    (h : items.mapM valueText = .error fault) : fault = .nonScalarValue := by
  induction items with
  | nil => cases h
  | cons item rest ih =>
    rw [List.mapM_cons, bind_eq_error_iff_or] at h
    obtain hitem | ⟨text, -, hothers⟩ := h
    · exact valueText_eq_error hitem
    · obtain hrest | ⟨others, -, hpure⟩ := bind_eq_error_iff_or.1 hothers
      · exact ih hrest
      · cases hpure

/-- What is read of the member `value`: an array is not read as a scalar, nor a scalar as an array. -/
def choiceOf (value : Json) : Except ClauseFault ValueMatch :=
  match value with
  | .array items => (items.mapM valueText).map .anyOf
  | value => (valueText value).map .one

theorem matchOf_eq (body : Json) :
    matchOf body = match body.field? "value" with
      | none => .error .noValue
      | some value => choiceOf value := by
  unfold matchOf choiceOf
  cases body.field? "value" with
  | none => rfl
  | some value => cases value <;> rfl

theorem choiceOf_eq_ok_iff {value : Json} {choice : ValueMatch} :
    choiceOf value = .ok choice ↔ ValueMatch.Written value choice := by
  -- Whatever is no array is read as one scalar.
  by_cases harray : ∃ items, value = .array items
  · obtain ⟨items, rfl⟩ := harray
    rw [choiceOf, map_eq_ok_iff_exists]
    constructor
    · rintro ⟨texts, hitems, rfl⟩
      exact .anyOf (mapM_valueText_eq_ok_iff.1 hitems)
    · intro h
      cases h with
      | one hscalar => exact absurd hscalar Json.not_scalar_array
      | anyOf hitems => exact ⟨_, mapM_valueText_eq_ok_iff.2 hitems, rfl⟩
  · have hscalar : choiceOf value = (valueText value).map .one := by
      cases value with
      | array items => exact absurd ⟨items, rfl⟩ harray
      | _ => rfl
    rw [hscalar, map_eq_ok_iff_exists]
    constructor
    · rintro ⟨text, htext, rfl⟩
      exact .one (valueText_eq_ok_iff.1 htext)
    · intro h
      cases h with
      | one h => exact ⟨_, valueText_eq_ok_iff.2 h, rfl⟩
      | anyOf => exact absurd ⟨_, rfl⟩ harray

theorem choiceOf_eq_error {value : Json} {fault : ClauseFault} (h : choiceOf value = .error fault) :
    fault = .nonScalarValue := by
  unfold choiceOf at h
  split at h
  · exact mapM_valueText_eq_error (map_eq_error_iff.1 h)
  · exact valueText_eq_error (map_eq_error_iff.1 h)

theorem keyOf_eq_ok_iff {body : Json} {key : String} : keyOf body = .ok key ↔ HasKey body key := by
  have hkey : (body.field? "key").bind Json.scalarText? = some key ↔ HasKey body key := by
    rw [Option.bind_eq_some_iff]
    exact exists_congr fun scalar =>
      and_congr Json.field?_eq_some_iff Json.scalarText?_eq_some_iff
  rw [← hkey, keyOf]
  cases (body.field? "key").bind Json.scalarText? with
  | none => simp
  | some found => simp

theorem keyOf_eq_error {body : Json} {fault : ClauseFault} (h : keyOf body = .error fault) :
    fault = .noKey := by
  unfold keyOf at h
  split at h
  · cases h
  · cases h
    rfl

/-- The connector of a word is AND exactly if the word says so. -/
theorem ofWord_eq_iff {word : String} {connector : Connector} :
    Connector.ofWord word = connector ↔
      (connector = .and ↔ Text.foldCase (Text.trim word) = "and") := by
  have hand : Text.foldCase "and" = "and" := by decide +kernel
  rw [Connector.ofWord]
  split
  · rename_i hsame
    rw [Text.sameFolded_iff, hand] at hsame
    cases connector <;> simp [hsame]
  · rename_i hsame
    rw [Text.sameFolded_iff, hand] at hsame
    cases connector <;> simp [hsame]

/-- An entry with a member `key` is read as a body. -/
theorem unwrap_of_member {members : List (String × Json)} {value : Json}
    (h : Json.Member "key" value members) :
    unwrap (.object members) = .ok (.or, .object members) := by
  simp only [unwrap, Json.lookup_eq_some_iff.2 h]

/-- A wrapper has no member `key` unless it is named so. -/
theorem not_member_singleton {word : String} {body : Json} (hword : word ≠ "key") (value : Json) :
    ¬ Json.Member "key" value [(word, body)] := by
  intro h
  cases h with
  | here => exact hword rfl
  | later _ h => cases h

theorem unwrap_of_wrapper {word : String} {body : Json} (hword : word ≠ "key") :
    unwrap (.object [(word, body)]) = .ok (Connector.ofWord word, body) := by
  simp only [unwrap, Json.lookup_eq_none_iff.2 (not_member_singleton hword)]

theorem unwrap_of_length_ne {members : List (String × Json)}
    (hkey : ∀ value, ¬ Json.Member "key" value members) (hone : members.length ≠ 1) :
    unwrap (.object members) = .error .noConnector := by
  rw [← Json.lookup_eq_none_iff] at hkey
  match members with
  | [] => simp only [unwrap, hkey]
  | [_] => exact absurd rfl hone
  | _ :: _ :: _ => simp only [unwrap, hkey]

/-- An object is an entry with a member `key`, or has one member under another name, or neither. -/
theorem object_cases (members : List (String × Json)) :
    (∃ value, Json.Member "key" value members) ∨
    (∃ word body, word ≠ "key" ∧ members = [(word, body)]) ∨
    ((∀ value, ¬ Json.Member "key" value members) ∧ members.length ≠ 1) := by
  by_cases hkey : ∃ value, Json.Member "key" value members
  · exact .inl hkey
  · by_cases hone : members.length = 1
    · obtain ⟨⟨word, body⟩, rfl⟩ := List.length_eq_one_iff.1 hone
      refine .inr (.inl ⟨word, body, fun hword => ?_, rfl⟩)
      subst hword
      exact hkey ⟨body, .here []⟩
    · exact .inr (.inr ⟨not_exists.1 hkey, hone⟩)

theorem unwrap_eq_ok_iff {entry body : Json} {connector : Connector} :
    unwrap entry = .ok (connector, body) ↔ Wraps entry connector body := by
  constructor
  · intro h
    cases entry with
    | object members =>
      obtain ⟨value, hkey⟩ | ⟨word, value, hword, rfl⟩ | ⟨hkey, hone⟩ := object_cases members
      · rw [unwrap_of_member hkey] at h
        cases h
        exact .bare hkey
      · rw [unwrap_of_wrapper hword] at h
        cases h
        exact .wrapped hword (ofWord_eq_iff.1 rfl)
      · rw [unwrap_of_length_ne hkey hone] at h
        cases h
    | _ => cases h
  · intro h
    cases h with
    | bare hkey => exact unwrap_of_member hkey
    | wrapped hword hconnector => rw [unwrap_of_wrapper hword, ofWord_eq_iff.2 hconnector]

theorem unwrap_eq_error_iff {entry : Json} {fault : ClauseFault} :
    unwrap entry = .error fault ↔
      (fault = .notObject ∧ ∀ members, entry ≠ .object members) ∨
      (fault = .noConnector ∧ ∃ members, entry = .object members ∧
        (∀ value, ¬ Json.Member "key" value members) ∧ members.length ≠ 1) := by
  constructor
  · intro h
    cases entry with
    | object members =>
      obtain ⟨value, hkey⟩ | ⟨word, value, hword, rfl⟩ | ⟨hkey, hone⟩ := object_cases members
      · rw [unwrap_of_member hkey] at h
        cases h
      · rw [unwrap_of_wrapper hword] at h
        cases h
      · rw [unwrap_of_length_ne hkey hone] at h
        cases h
        exact .inr ⟨rfl, members, rfl, hkey, hone⟩
    | _ =>
      cases h
      exact .inl ⟨rfl, nofun⟩
  · rintro (⟨rfl, hnone⟩ | ⟨rfl, members, rfl, hkey, hone⟩)
    · cases entry with
      | object members => exact absurd rfl (hnone members)
      | _ => rfl
    · exact unwrap_of_length_ne hkey hone

theorem keyOf_eq_error_iff {body : Json} {fault : ClauseFault} :
    keyOf body = .error fault ↔ fault = .noKey ∧ ∀ key, ¬ HasKey body key :=
  eq_error_iff_of_eq_ok_iff (fun _ => keyOf_eq_ok_iff) fun _ => keyOf_eq_error

theorem matchOf_eq_ok_iff {body : Json} {choice : ValueMatch} :
    matchOf body = .ok choice ↔
      ∃ value, body.HasField "value" value ∧ ValueMatch.Written value choice := by
  rw [matchOf_eq]
  cases hvalue : body.field? "value" with
  | none =>
    refine iff_of_false nofun ?_
    rintro ⟨value, hfield, -⟩
    rw [Json.field?_eq_some_iff.2 hfield] at hvalue
    cases hvalue
  | some value =>
    simp only [choiceOf_eq_ok_iff, ← Json.field?_eq_some_iff, hvalue, Option.some.injEq,
      exists_eq_left']

theorem matchOf_eq_error_iff {body : Json} {fault : ClauseFault} :
    matchOf body = .error fault ↔
      (fault = .noValue ∧ ∀ value, ¬ body.HasField "value" value) ∨
      (fault = .nonScalarValue ∧ ∃ value, body.HasField "value" value ∧
        ∀ choice, ¬ ValueMatch.Written value choice) := by
  have hchoice : ∀ value, choiceOf value = .error fault ↔
      fault = .nonScalarValue ∧ ∀ choice, ¬ ValueMatch.Written value choice := fun value =>
    eq_error_iff_of_eq_ok_iff (fun _ => choiceOf_eq_ok_iff) fun _ => choiceOf_eq_error
  rw [matchOf_eq]
  cases hvalue : body.field? "value" with
  | none =>
    have hnone : ∀ value, ¬ body.HasField "value" value := fun value hfield => by
      rw [Json.field?_eq_some_iff.2 hfield] at hvalue
      cases hvalue
    simp [hnone, eq_comm]
  | some value =>
    simp only [hchoice, ← Json.field?_eq_some_iff, hvalue, Option.some.injEq, exists_eq_left',
      forall_eq', and_false, false_or]

/-! ## 4. Clauses

An entry is read in three steps, and the first that fails says what is wrong.
-/

theorem ofJson_eq (entry : Json) :
    Clause.ofJson entry = unwrap entry >>= fun wrapped => keyOf wrapped.2 >>= fun key =>
      matchOf wrapped.2 >>= fun choice => .ok ⟨wrapped.1, key, choice⟩ :=
  rfl

theorem ofJson_eq_ok_iff {entry : Json} {clause : Clause} :
    Clause.ofJson entry = .ok clause ↔ Written entry clause := by
  simp only [ofJson_eq, bind_eq_ok_iff_exists, Prod.exists, unwrap_eq_ok_iff, keyOf_eq_ok_iff,
    matchOf_eq_ok_iff]
  constructor
  · rintro ⟨connector, body, hwraps, key, hkey, choice, ⟨value, hvalue, hchoice⟩, hclause⟩
    cases hclause
    exact .entry hwraps hkey hvalue hchoice
  · rintro ⟨hwraps, hkey, hvalue, hchoice⟩
    exact ⟨_, _, hwraps, _, hkey, _, ⟨_, hvalue, hchoice⟩, rfl⟩

theorem ofJson_eq_error_iff {entry : Json} {fault : ClauseFault} :
    Clause.ofJson entry = .error fault ↔ Faulty entry fault := by
  simp only [ofJson_eq, bind_eq_error_iff_or, Prod.exists, unwrap_eq_ok_iff, unwrap_eq_error_iff,
    keyOf_eq_ok_iff, keyOf_eq_error_iff, matchOf_eq_error_iff]
  constructor
  · rintro ((⟨rfl, hobject⟩ | ⟨rfl, members, rfl, hkey, hone⟩) | ⟨connector, body, hwraps, hrest⟩)
    · exact .notObject hobject
    · exact .noConnector hkey hone
    · obtain ⟨rfl, hkey⟩ | ⟨key, hkey, (⟨rfl, hvalue⟩ | ⟨rfl, value, hvalue, hchoice⟩) | hnone⟩ := hrest
      · exact .noKey hwraps hkey
      · exact .noValue hwraps hkey hvalue
      · exact .nonScalarValue hwraps hkey hvalue hchoice
      · obtain ⟨choice, -, h⟩ := hnone
        cases h
  · intro h
    cases h with
    | notObject hobject => exact .inl (.inl ⟨rfl, hobject⟩)
    | noConnector hkey hone => exact .inl (.inr ⟨rfl, _, rfl, hkey, hone⟩)
    | noKey hwraps hkey => exact .inr ⟨_, _, hwraps, .inl ⟨rfl, hkey⟩⟩
    | noValue hwraps hkey hvalue =>
      exact .inr ⟨_, _, hwraps, .inr ⟨_, hkey, .inl (.inl ⟨rfl, hvalue⟩)⟩⟩
    | nonScalarValue hwraps hkey hvalue hchoice =>
      exact .inr ⟨_, _, hwraps, .inr ⟨_, hkey, .inl (.inr ⟨rfl, _, hvalue, hchoice⟩)⟩⟩

/-- An entry has one fault at most, and none if a clause is written by it. -/
theorem Faulty.not_written {entry : Json} {fault : ClauseFault} {clause : Clause}
    (h : Faulty entry fault) : ¬ Written entry clause := by
  rw [← ofJson_eq_error_iff] at h
  rw [← ofJson_eq_ok_iff, h]
  nofun

theorem keyword_ne_key (connector : Connector) : connector.keyword ≠ "key" := by
  cases connector <;> decide

theorem and_iff_keyword (connector : Connector) :
    connector = .and ↔ Text.foldCase (Text.trim connector.keyword) = "and" := by
  cases connector <;> decide +kernel

/-- The written form of a clause is in the grammar: a keyword is a word for its connector, and none
is the name that makes an entry a body. -/
theorem written_toJson (clause : Clause) : Written clause.toJson clause := by
  obtain ⟨connector, key, value⟩ := clause
  refine .entry (.wrapped (keyword_ne_key connector) (and_iff_keyword connector))
    ⟨.string key, .object (.here _), .string key⟩ (.object (.later (by decide) (.here []))) ?_
  cases value with
  | one text => exact .one (.string text)
  | anyOf texts =>
    refine .anyOf (List.forall₂_map_left_iff.2 (List.forall₂_same.2 fun text _ => ?_))
    exact .string text

end Clause

/-! ## 5. Predicates -/

namespace Predicate

/-- The entry at `index` is the first by which no clause is written, and `fault` is what is wrong with
it. -/
structure FirstFault (entries : List Json) (index : Nat) (fault : ClauseFault) : Prop where
  before : ∀ i < index, ∃ entry clause, entries[i]? = some entry ∧ Clause.Written entry clause
  here : ∃ entry, entries[index]? = some entry ∧ Clause.Faulty entry fault

theorem firstFault_zero {entry : Json} {rest : List Json} {fault : ClauseFault} :
    FirstFault (entry :: rest) 0 fault ↔ Clause.Faulty entry fault := by
  constructor
  · rintro ⟨-, first, hfirst, hfault⟩
    cases hfirst
    exact hfault
  · intro h
    exact ⟨fun i hi => absurd hi (Nat.not_lt_zero i), entry, rfl, h⟩

theorem firstFault_succ {entry : Json} {rest : List Json} {index : Nat} {fault : ClauseFault} :
    FirstFault (entry :: rest) (index + 1) fault ↔
      (∃ clause, Clause.Written entry clause) ∧ FirstFault rest index fault := by
  constructor
  · rintro ⟨hbefore, hhere⟩
    obtain ⟨first, clause, hfirst, hwritten⟩ := hbefore 0 (Nat.succ_pos index)
    cases hfirst
    refine ⟨⟨clause, hwritten⟩, fun i hi => ?_, by simpa using hhere⟩
    simpa using hbefore (i + 1) (Nat.succ_lt_succ hi)
  · rintro ⟨⟨clause, hwritten⟩, hbefore, hhere⟩
    refine ⟨fun i hi => ?_, by simpa using hhere⟩
    cases i with
    | zero => exact ⟨entry, clause, rfl, hwritten⟩
    | succ i => simpa using hbefore i (Nat.lt_of_succ_lt_succ hi)

/-- The induction is on the entries that are still to be read. -/
theorem clausesOfJson_eq_ok_iff (start : Nat) {entries : List Json} {clauses : List Clause} :
    clausesOfJson start entries = .ok clauses ↔ List.Forall₂ Clause.Written entries clauses := by
  induction entries generalizing start clauses with
  | nil =>
    rw [List.forall₂_nil_left_iff, clausesOfJson]
    exact ⟨fun h => (Except.ok.inj h).symm, fun h => h ▸ rfl⟩
  | cons entry rest ih =>
    rw [List.forall₂_cons_left_iff, clausesOfJson]
    cases hentry : Clause.ofJson entry with
    | error fault =>
      refine iff_of_false nofun ?_
      rintro ⟨clause, others, hwritten, -⟩
      exact (Clause.ofJson_eq_error_iff.1 hentry).not_written hwritten
    | ok clause =>
      show (clausesOfJson (start + 1) rest).map (clause :: ·) = .ok clauses ↔ _
      rw [map_eq_ok_iff_exists]
      constructor
      · rintro ⟨others, hothers, rfl⟩
        exact ⟨clause, others, Clause.ofJson_eq_ok_iff.1 hentry, (ih (start + 1)).1 hothers, rfl⟩
      · rintro ⟨first, others, hwritten, hothers, rfl⟩
        cases hentry.symm.trans (Clause.ofJson_eq_ok_iff.2 hwritten)
        exact ⟨others, (ih (start + 1)).2 hothers, rfl⟩

/-- Entries are read from the first on, so the entry that is reported is the first at fault. The
induction is on the entries that are still to be read, of which the first has the index `start`. -/
theorem clausesOfJson_eq_error_iff {start : Nat} {entries : List Json} {fault : ArgumentFault} :
    clausesOfJson start entries = .error fault ↔
      ∃ index reason, fault = .clause (start + index) reason ∧ FirstFault entries index reason := by
  induction entries generalizing start with
  | nil =>
    refine iff_of_false nofun ?_
    rintro ⟨index, reason, -, -, entry, hentry, -⟩
    cases hentry
  | cons entry rest ih =>
    rw [clausesOfJson]
    cases hentry : Clause.ofJson entry with
    | error found =>
      -- This entry is at fault, so it is the first, and it has no other fault.
      have hfaulty := Clause.ofJson_eq_error_iff.1 hentry
      constructor
      · rintro ⟨⟩
        exact ⟨0, found, rfl, firstFault_zero.2 hfaulty⟩
      · rintro ⟨index, reason, rfl, hfirst⟩
        cases index with
        | zero =>
          have hreason := Clause.ofJson_eq_error_iff.2 (firstFault_zero.1 hfirst)
          rw [hentry] at hreason
          cases hreason
          rfl
        | succ index =>
          obtain ⟨⟨clause, hwritten⟩, -⟩ := firstFault_succ.1 hfirst
          exact absurd hwritten hfaulty.not_written
    | ok clause =>
      -- The first one at fault is among the rest, where it has an index that is one less.
      have hwritten := Clause.ofJson_eq_ok_iff.1 hentry
      show (clausesOfJson (start + 1) rest).map (clause :: ·) = .error fault ↔ _
      rw [map_eq_error_iff, ih]
      constructor
      · rintro ⟨index, reason, rfl, hfirst⟩
        refine ⟨index + 1, reason, ?_, firstFault_succ.2 ⟨⟨clause, hwritten⟩, hfirst⟩⟩
        rw [Nat.add_assoc, Nat.add_comm 1]
      · rintro ⟨index, reason, rfl, hfirst⟩
        cases index with
        | zero => exact absurd hwritten (firstFault_zero.1 hfirst).not_written
        | succ index =>
          refine ⟨index, reason, ?_, (firstFault_succ.1 hfirst).2⟩
          rw [Nat.add_assoc, Nat.add_comm 1]

theorem ofJson_array (entries : List Json) :
    ofJson (.array entries) = (clausesOfJson 0 entries).map mk :=
  rfl

theorem ofJson_of_not_array {value : Json} (h : ∀ entries, value ≠ .array entries) :
    ofJson value = .error .predicateNotArray := by
  cases value with
  | array entries => exact absurd rfl (h entries)
  | _ => rfl

theorem ofJson_eq_ok_iff {value : Json} {p : Predicate} :
    ofJson value = .ok p ↔
      ∃ entries, value = .array entries ∧ List.Forall₂ Clause.Written entries p.clauses := by
  by_cases harray : ∃ entries, value = .array entries
  · obtain ⟨entries, rfl⟩ := harray
    simp only [Json.array.injEq, exists_eq_left', ← clausesOfJson_eq_ok_iff 0]
    rw [ofJson_array, map_eq_ok_iff_exists]
    constructor
    · rintro ⟨clauses, hclauses, rfl⟩
      exact hclauses
    · intro hclauses
      exact ⟨p.clauses, hclauses, rfl⟩
  · rw [ofJson_of_not_array (not_exists.1 harray)]
    exact iff_of_false nofun fun ⟨entries, hvalue, _⟩ => harray ⟨entries, hvalue⟩

theorem ofJson_eq_error_iff {value : Json} {fault : ArgumentFault} :
    ofJson value = .error fault ↔
      (fault = .predicateNotArray ∧ ∀ entries, value ≠ .array entries) ∨
      ∃ entries index reason, value = .array entries ∧ FirstFault entries index reason ∧
        fault = .clause index reason := by
  by_cases harray : ∃ entries, value = .array entries
  · obtain ⟨entries, rfl⟩ := harray
    rw [ofJson_array, map_eq_error_iff, clausesOfJson_eq_error_iff]
    constructor
    · rintro ⟨index, reason, rfl, hfirst⟩
      exact .inr ⟨entries, index, reason, rfl, hfirst, by rw [Nat.zero_add]⟩
    · rintro (⟨-, hnone⟩ | ⟨_, index, reason, ⟨⟩, hfirst, rfl⟩)
      · exact absurd rfl (hnone entries)
      · exact ⟨index, reason, by rw [Nat.zero_add], hfirst⟩
  · have hnone := not_exists.1 harray
    rw [ofJson_of_not_array hnone]
    constructor
    · rintro ⟨⟩
      exact .inl ⟨rfl, hnone⟩
    · rintro (⟨rfl, -⟩ | ⟨entries, _, _, hvalue, -⟩)
      · rfl
      · exact absurd hvalue (hnone entries)

/-- Joining clauses one after the other. The induction is on the clauses that are still to be joined. -/
theorem clauses_foldl_join (clauses : List Clause) (p : Predicate) :
    (clauses.foldl (fun p clause => p.join clause.connector clause.key clause.value) p).clauses =
      p.clauses ++ clauses := by
  induction clauses generalizing p with
  | nil => exact (List.append_nil _).symm
  | cons clause rest ih => rw [List.foldl_cons, ih, join, List.append_assoc, List.singleton_append]

end Predicate

/-! ## 6. Messages -/

namespace ArgumentFault

/-- A numeral ends where the first blank is. -/
theorem digits_append_blank_inj {m n : Nat} {rest rest' : List Char}
    (h : Text.Numeral.digits m ++ ' ' :: rest = Text.Numeral.digits n ++ ' ' :: rest') :
    m = n ∧ rest = rest' := by
  have hdigits : ∀ k, ∀ c ∈ Text.Numeral.digits k, Char.isDigit c = true :=
    fun k c hc => Text.Numeral.isDigit_of_mem_digits hc
  have htake := congrArg (List.takeWhile Char.isDigit) h
  rw [List.takeWhile_append_of_pos (hdigits m), List.takeWhile_append_of_pos (hdigits n),
    List.takeWhile_cons_of_neg (by decide), List.takeWhile_cons_of_neg (by decide), List.append_nil,
    List.append_nil] at htake
  obtain rfl := Text.Numeral.digits_injective htake
  exact ⟨rfl, (List.cons.inj (List.append_cancel_left h)).2⟩

theorem message_clause (index : Nat) (reason : ClauseFault) :
    (clause index reason).message =
      "clause " ++ Text.Numeral.ofNat index ++ " " ++ reason.message :=
  rfl

theorem toList_message_clause (index : Nat) (reason : ClauseFault) :
    (clause index reason).message.toList =
      "clause ".toList ++ (Text.Numeral.digits index ++ ' ' :: reason.message.toList) := by
  have hblank : " ".toList = [' '] := by decide
  have hnumeral : (Text.Numeral.ofNat index).toList = Text.Numeral.digits index :=
    String.toList_ofList
  rw [message_clause, String.append_assoc, String.append_assoc, String.toList_append,
    String.toList_append, String.toList_append, hnumeral, hblank, List.singleton_append]

/-- The message about an entry tells which entry it is about and what is wrong with it. -/
theorem message_clause_inj {index index' : Nat} {reason reason' : ClauseFault} :
    (clause index reason).message = (clause index' reason').message ↔
      index = index' ∧ reason = reason' := by
  constructor
  · intro h
    have hchars := congrArg String.toList h
    rw [toList_message_clause, toList_message_clause] at hchars
    obtain ⟨hindex, hreason⟩ := digits_append_blank_inj (List.append_cancel_left hchars)
    refine ⟨hindex, ?_⟩
    cases reason <;> cases reason' <;> first | rfl | exact absurd hreason (by decide)
  · rintro ⟨rfl, rfl⟩
    rfl

theorem message_clause_ne_predicateNotArray (index : Nat) (reason : ClauseFault) :
    (clause index reason).message ≠ predicateNotArray.message := by
  intro h
  have hstart : "clause ".toList.head? = some 'c' := by decide
  have hother : predicateNotArray.message.toList.head? = some 'p' := by decide
  have hchars := congrArg (fun s => s.toList.head?) h
  simp only [toList_message_clause, List.head?_append, hstart, hother, Option.some_or] at hchars
  exact absurd hchars (by decide)

end ArgumentFault

/-! ## 7. The reader as a whole -/

namespace Predicate

/-- The reader accepts the arrays of which every entry has a clause written by it, and answers these
clauses in order. Otherwise it answers with the first entry at fault and the first check that this
entry fails, in a message that no other entry and no other check has. What joining clauses makes is
what is read of the array with an entry for each, under the keyword of its connector. -/
theorem ofJson_reads_grammar :
    (∀ (value : Json.Value) p, ofJson value = .ok p ↔
      ∃ entries, value.json = .array entries ∧ List.Forall₂ Clause.Written entries p.clauses) ∧
    (∀ (value : Json.Value) fault, ofJson value = .error fault ↔
      (fault = .predicateNotArray ∧ ∀ entries, value.json ≠ .array entries) ∨
      ∃ entries index reason, value.json = .array entries ∧ FirstFault entries index reason ∧
        fault = .clause index reason) ∧
    (∀ index index' reason reason', (ArgumentFault.clause index reason).message =
      (ArgumentFault.clause index' reason').message ↔ index = index' ∧ reason = reason') ∧
    (∀ index reason,
      (ArgumentFault.clause index reason).message ≠ ArgumentFault.predicateNotArray.message) ∧
    ∀ clauses : List Clause,
      (toJson ⟨clauses⟩).json = .array (clauses.map Clause.toJson) ∧
      ofJson (toJson ⟨clauses⟩) =
        .ok (clauses.foldl (fun p clause => p.join clause.connector clause.key clause.value)
          empty) := by
  refine ⟨fun _ _ => ofJson_eq_ok_iff, fun _ _ => ofJson_eq_error_iff,
    fun _ _ _ _ => ArgumentFault.message_clause_inj,
    ArgumentFault.message_clause_ne_predicateNotArray, fun clauses => ⟨rfl, ?_⟩⟩
  refine ofJson_eq_ok_iff.2 ⟨_, rfl, ?_⟩
  rw [clauses_foldl_join, empty, List.nil_append, List.forall₂_map_left_iff, List.forall₂_same]
  exact fun clause _ => clause.written_toJson

end Predicate

end ObjectCatalog
