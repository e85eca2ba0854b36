import ObjectCatalog.Sql.Dialect
import ObjectCatalog.Sql.TableRef

/-!
# Statement templates

A statement is a template: fixed text with holes, and in each hole the argument that is bound
there. Text and arguments are both read off the one list of pieces, the text by writing a
placeholder for every hole, the arguments by collecting them. So the placeholders of a statement
line up with its arguments by construction, whatever the dialect, and no argument can reach the
text.

The names of tables are text, but text that a setting or a caller chose. They are pieces of their
own, so that a statement can be asked whether each of them can stand where it stands.

Placeholders are numbered in the order of the text. A condition that is compiled by itself may
follow others in a statement, so numbering starts after the placeholders that are already taken.
-/

namespace ObjectCatalog

inductive Arg where
  | int (n : Int64)
  | text (s : String)
  deriving DecidableEq

/-- A part of a statement: text as it stands, the name of a table, or a hole with its argument. -/
inductive Piece where
  | text (s : String)
  | table (place : TableRef.Place) (name : String)
  | hole (arg : Arg)
  deriving DecidableEq

/-- A statement before its placeholders are written. -/
abbrev Template := List Piece

namespace Template

/-- The text of a template after `taken` placeholders. -/
def textFrom (d : Dialect) (taken : Nat) : Template → String
  | [] => ""
  | .text s :: rest => s ++ textFrom d taken rest
  | .table _ name :: rest => name ++ textFrom d taken rest
  | .hole _ :: rest => d.placeholder (taken + 1) ++ textFrom d (taken + 1) rest

def text (d : Dialect) (t : Template) : String :=
  textFrom d 0 t

/-- The arguments in the order of their holes. -/
def args : Template → List Arg
  | [] => []
  | .text _ :: rest => args rest
  | .table _ _ :: rest => args rest
  | .hole arg :: rest => arg :: args rest

/-- The fault of the first table that cannot stand where it stands. -/
def fault? (d : Dialect) : Template → Option SyntaxFault
  | [] => none
  | .text _ :: rest | .hole _ :: rest => fault? d rest
  | .table place name :: rest =>
    match TableRef.fault? place name (textFrom d 0 rest) with
    | some fault => some fault
    | none => fault? d rest

/-! ## Pieces put together -/

theorem args_append (s t : Template) : args (s ++ t) = args s ++ args t := by
  induction s with
  | nil => rfl
  | cons piece rest ih => cases piece <;> simp [args, ih]

theorem textFrom_append (d : Dialect) (taken : Nat) (s t : Template) :
    textFrom d taken (s ++ t) = textFrom d taken s ++ textFrom d (taken + s.args.length) t := by
  induction s generalizing taken with
  | nil => simp [textFrom, args]
  | cons piece rest ih =>
    cases piece with
    | text s => simp [textFrom, args, ih, String.append_assoc]
    | table place name => simp [textFrom, args, ih, String.append_assoc]
    | hole arg =>
      simp only [List.cons_append, textFrom, args, ih, List.length_cons, String.append_assoc]
      rw [Nat.add_assoc, Nat.add_comm 1]

/-! ## Plain tables -/

def tables : Template → List String
  | [] => []
  | .text _ :: rest | .hole _ :: rest => tables rest
  | .table _ name :: rest => name :: tables rest

theorem tables_append (s t : Template) : tables (s ++ t) = tables s ++ tables t := by
  induction s with
  | nil => rfl
  | cons piece rest ih =>
    cases piece with
    | text s => exact ih
    | hole arg => exact ih
    | table place name => rw [List.cons_append, tables, tables, ih, List.cons_append]

/-- Tables with plain names can stand anywhere. -/
theorem fault?_of_isPlainName (d : Dialect) {t : Template}
    (h : ∀ name ∈ t.tables, isPlainName name = true) : t.fault? d = none := by
  induction t with
  | nil => rfl
  | cons piece rest ih =>
    cases piece with
    | text s => exact ih h
    | hole arg => exact ih h
    | table place name =>
      rw [fault?, TableRef.fault?_of_isPlainName (h name List.mem_cons_self)]
      exact ih fun other hother => h other (List.mem_cons_of_mem _ hother)

end Template

end ObjectCatalog
