/-
Tables and contracts, and other fixed shapes, read from values.

Reading is lax: values are converted where the meaning is plain, and unknown keys are ignored.

* `required`, `defaulted` — a field of a mapping;
* `checkTuple`, `checkWord`, `checkOption` — the values of fields;
* `Table.ofValue`, `Contract.ofValue` — a table and a contract.
-/

import SqlContract.Contract
import SqlContract.Validation.Record

set_option autoImplicit false
set_option relaxedAutoImplicit false

namespace SqlContract

open Checked

variable {α : Type}

/-- The field of a mapping that must be there. -/
def required (entries : List (Value × Value)) (name : String) (read : Value → Checked α) :
    Checked α :=
  inside (.name name) <|
    match Value.entry? entries name with
    | some v => read v
    | none => fail .missing

/-- The field of a mapping that may be left out. -/
def defaulted (entries : List (Value × Value)) (name : String) (default : α)
    (read : Value → Checked α) : Checked α :=
  match Value.entry? entries name with
  | some v => inside (.name name) (read v)
  | none => .ok default

/-- A value read as a mapping. -/
def checkShape (read : List (Value × Value) → Checked α) : Value → Checked α
  | .dict entries => read entries
  | _ => fail .modelType

/-- The items of a list, each with its position. -/
def checkItems (read : Value → Checked α) (n : Nat) : List Value → List (Checked α)
  | [] => []
  | v :: vs => inside (.index n) (read v) :: checkItems read (n + 1) vs

/-- A list of values of one shape. -/
def checkTuple (read : Value → Checked α) : Value → Checked (List α)
  | .list items => all (checkItems read 0 items)
  | _ => fail .tupleType

/-- A text among some words. -/
def checkWord (ofWord? : String → Option α) : Value → Checked α
  | .text s =>
      match ofWord? s with
      | some x => .ok x
      | none => fail .enum
  | _ => fail .enum

/-- A value that may be absent. -/
def checkOption (read : Value → Checked α) : Value → Checked (Option α)
  | .none => .ok none
  | v => (read v).map some

/-- The scalar type that a word stands for. -/
def ScalarType.named? (w : String) : Option ScalarType :=
  ScalarType.all.find? (·.word == w)

/-- A column from a value. -/
def Column.ofValue : Value → Checked Column :=
  checkShape fun es =>
    seq (both Column.mk (required es "name" (checkText false))
        (required es "engine_type" (checkText false)))
      (defaulted es "nullable" true (checkBool false))

/-- A table from a value. -/
def Table.ofValue : Value → Checked Table :=
  checkShape fun es =>
    fits (both Table.mk (required es "name" (checkText false))
        (required es "columns" (checkTuple Column.ofValue)))
      fun t => t.fault?.map (·.message)

/-- A parameter from a value. -/
def Parameter.ofValue : Value → Checked Parameter :=
  checkShape fun es =>
    both Parameter.mk (required es "name" (checkText false))
      (required es "scalar_type" (checkWord ScalarType.named?))

/-- A field of a row from a value. -/
def ReturnField.ofValue : Value → Checked ReturnField :=
  checkShape fun es =>
    seq (both ReturnField.mk (required es "name" (checkText false))
        (required es "scalar_type" (checkWord ScalarType.named?)))
      (defaulted es "nullable" false (checkBool false))

/-- A contract from a value. -/
def Contract.ofValue : Value → Checked Contract :=
  checkShape fun es =>
    let named := both Contract.mk (required es "name" (checkText false))
      (required es "cardinality" (checkWord Cardinality.ofWord?))
    let shaped := seq (seq named (defaulted es "parameters" [] (checkTuple Parameter.ofValue)))
      (defaulted es "returns" [] (checkTuple ReturnField.ofValue))
    let placed := seq (seq shaped (required es "sql" (checkText false)))
      (defaulted es "line" none (checkOption (checkInt false)))
    fits (seq placed (defaulted es "source_table" none (checkOption (checkText false))))
      fun c => c.fault?.map (·.message)

end SqlContract
