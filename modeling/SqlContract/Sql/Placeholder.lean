/-
Positional parameters of a SQL text.

A placeholder `?N` binds parameter `N`, and a bare `?` binds the parameter one past the largest
number used before it.  The remote engine takes its own placeholders `%s`, in the order of the
text, and reads every other percent sign as doubled.

* `placeholderNumbers`, `placeholderCount` — the numbers of the placeholders of a text, and how
  many parameters they bind;
* `pyformat` — the text in the form that the remote engine takes;
* `LongNumber`, `longNumber?` — a number that has more digits than are read.
-/

import SqlContract.Sql.Piece

set_option autoImplicit false
set_option relaxedAutoImplicit false

namespace SqlContract.Sql

open SqlContract.Text

/-- The number of a placeholder with the given digits, behind placeholders up to `largest`. -/
def placeholderNumber (largest : Nat) (digits : List Char) : Nat :=
  if digits.isEmpty then largest + 1 else number digits

/-- The numbers of the placeholders among some pieces, behind placeholders up to `largest`. -/
def numbersFrom (largest : Nat) : List Piece → List Nat
  | [] => []
  | .placeholder digits :: ps =>
      let n := placeholderNumber largest digits
      n :: numbersFrom (max largest n) ps
  | _ :: ps => numbersFrom largest ps

/-- The number of the parameter that each placeholder of a text binds, in order.  Numbers count
from one; only a placeholder that says so has the number zero. -/
def placeholderNumbers (s : List Char) : List Nat :=
  numbersFrom 0 (scan s)

/-- The position of the parameter that each placeholder binds, counted from zero. -/
def placeholderIndexes (s : List Char) : List Int :=
  (placeholderNumbers s).map fun (n : Nat) => (n : Int) - 1

/-- The number of parameters that a text binds: the largest number of a placeholder. -/
def placeholderCount (s : List Char) : Nat :=
  (placeholderNumbers s).foldl max 0

/-- A number that has more digits than are read. -/
structure LongNumber where
  /-- How many digits are read at most. -/
  limit : Nat
  digits : Nat
  deriving DecidableEq, Repr

/-- The wording of the error that such a number is. -/
def LongNumber.message (n : LongNumber) : String :=
  s!"Exceeds the limit ({n.limit} digits) for integer string conversion: value has {n.digits} " ++
    "digits; use sys.set_int_max_str_digits() to increase the limit"

/-- How many digits a number may have unless another limit is set. -/
def defaultDigitLimit : Nat := 4300

/-- The first number of a placeholder that has more digits than are read.  Leading zeros are digits.
Without a limit there is none. -/
def longNumber? (limit : Option Nat) (s : List Char) : Option LongNumber :=
  limit.bind fun most => (scan s).findSome? fun
    | .placeholder digits => if most < digits.length then some ⟨most, digits.length⟩ else none
    | _ => none

/-- The item of a list at a position; a negative position counts from the end. -/
def item? {α : Type} (items : List α) (i : Int) : Option α :=
  let n := if i < 0 then i + items.length else i
  if n < 0 then none else items[n.toNat]?

/-- The items of a list at some positions.  A position out of range gives none. -/
def arrange? {α : Type} (items : List α) (order : List Int) : Option (List α) :=
  order.mapM (item? items)

/-- Doubles the percent signs of a text. -/
def doublePercent (s : List Char) : List Char :=
  s.flatMap fun c => if c = '%' then ['%', '%'] else [c]

/-- A piece as the remote engine takes it. -/
def Piece.pyformat : Piece → List Char
  | .placeholder _ => ['%', 's']
  | p => doublePercent p.text

/-- The text with every placeholder written `%s` and every other percent sign doubled, inside
literals and comments too. -/
def pyformat (s : List Char) : List Char :=
  (scan s).flatMap Piece.pyformat

end SqlContract.Sql
