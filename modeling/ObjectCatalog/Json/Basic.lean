import ObjectCatalog.Decimal.Shortest

/-!
# JSON values

Predicates are given as JSON, and rows are cached as JSON. A value keeps the one distinction that
later shows: a number is a whole number if it was written as one and fits 64 bits with or without
sign, and a binary floating-point number otherwise, so that `1` and `1.0` stay different texts.
An object is the list of its members; a reader that meets a key twice keeps the last value.

Not all that can be put together so is the value of a text. `Json.WellFormed` says what is, and a
`Json.Value` is a value with the proof that it is one.
-/

namespace ObjectCatalog

namespace Json

/-- A number as a reader understands it. -/
inductive Number where
  | whole (n : Int)
  | real (x : Decimal.Binary64)
  deriving DecidableEq, Repr

/-- The text of a number, in its shortest form. -/
def Number.text : Number → String
  | .whole n => Text.Numeral.ofInt n
  | .real x => x.text

end Json

inductive Json where
  | null
  | bool (b : Bool)
  | number (n : Json.Number)
  | string (s : String)
  | array (items : List Json)
  | object (members : List (String × Json))
  deriving Repr

namespace Json

/-- The value under a key, if the list of members has it. -/
def lookup (key : String) : List (String × Json) → Option Json
  | [] => none
  | (k, v) :: rest => if k = key then some v else lookup key rest

/-- A member of a value; nothing if the value is no object or has no such key. -/
def field? (key : String) : Json → Option Json
  | .object members => lookup key members
  | _ => none

/-- The members with one more: a key that is there already gets the new value in its old place. -/
def setMember (key : String) (value : Json) : List (String × Json) → List (String × Json)
  | [] => [(key, value)]
  | (k, v) :: rest => if k = key then (k, value) :: rest else (k, v) :: setMember key value rest

/-- The text of a string, a number or a truth value; other values have none. -/
def scalarText? : Json → Option String
  | .string s => some s
  | .number n => some n.text
  | .bool true => some "true"
  | .bool false => some "false"
  | _ => none

def ofInt (n : Int) : Json :=
  .number (.whole n)

/-- The values that a text can have: a whole number fits 64 bits, with a sign or without one, a real
one is the nearest to some numeral, and no object has a key twice. -/
inductive WellFormed : Json → Prop
  | null : WellFormed .null
  | bool (b : Bool) : WellFormed (.bool b)
  | whole {n : Int} (lower : -(Text.Numeral.signedBound : Int) ≤ n)
      (upper : n < Text.Numeral.unsignedBound) : WellFormed (.number (.whole n))
  | real {negative : Bool} {digits : Nat} {tens : Int} {x : Decimal.Binary64}
      (h : Decimal.Binary64.nearest? negative digits tens = some x) : WellFormed (.number (.real x))
  | string (s : String) : WellFormed (.string s)
  | array {items : List Json} (h : ∀ item ∈ items, item.WellFormed) : WellFormed (.array items)
  | object {members : List (String × Json)} (hkeys : (members.map (·.1)).Nodup)
      (h : ∀ member ∈ members, member.2.WellFormed) : WellFormed (.object members)

/-- A value that a text can have. -/
structure Value where
  json : Json
  wellFormed : json.WellFormed

instance : CoeOut Value Json :=
  ⟨Value.json⟩

/-! ## Members stay well-formed -/

section Members

variable {key : String} {value : Json} {members : List (String × Json)}

theorem mem_map_setMember {k : String} :
    k ∈ (setMember key value members).map (·.1) ↔ k = key ∨ k ∈ members.map (·.1) := by
  induction members with
  | nil => simp [setMember]
  | cons member rest ih =>
    obtain ⟨k', v⟩ := member
    rw [setMember]
    split
    · rename_i hkey
      simp [hkey]
    · rw [List.map_cons, List.map_cons, List.mem_cons, List.mem_cons, ih]
      exact or_left_comm

theorem eq_or_mem_of_mem_setMember {member : String × Json}
    (h : member ∈ setMember key value members) : member.2 = value ∨ member ∈ members := by
  induction members with
  | nil =>
    rw [setMember, List.mem_singleton] at h
    exact .inl (congrArg Prod.snd h)
  | cons first rest ih =>
    obtain ⟨k, v⟩ := first
    rw [setMember] at h
    split at h
    · rcases List.mem_cons.1 h with rfl | hrest
      · exact .inl rfl
      · exact .inr (List.mem_cons_of_mem _ hrest)
    · rcases List.mem_cons.1 h with rfl | hrest
      · exact .inr List.mem_cons_self
      · exact (ih hrest).imp_right (List.mem_cons_of_mem _)

theorem nodup_map_setMember (h : (members.map (·.1)).Nodup) :
    ((setMember key value members).map (·.1)).Nodup := by
  induction members with
  | nil => simp [setMember]
  | cons first rest ih =>
    obtain ⟨k, v⟩ := first
    rw [List.map_cons, List.nodup_cons] at h
    rw [setMember]
    split
    · exact List.nodup_cons.2 h
    · rename_i hkey
      rw [List.map_cons, List.nodup_cons, mem_map_setMember, not_or]
      exact ⟨⟨hkey, h.1⟩, ih h.2⟩

/-- An object that gets one more member stays one. -/
theorem WellFormed.setMember (hobject : WellFormed (.object members)) (hvalue : value.WellFormed) :
    WellFormed (.object (setMember key value members)) := by
  obtain - | - | - | - | - | - | ⟨hkeys, hmembers⟩ := hobject
  refine .object (nodup_map_setMember hkeys) fun member hmember => ?_
  rcases eq_or_mem_of_mem_setMember hmember with hnew | hold
  · exact hnew ▸ hvalue
  · exact hmembers member hold

end Members

end Json

end ObjectCatalog
