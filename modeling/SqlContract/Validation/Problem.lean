/-
Problems: what a validation finds wrong, and where.

Validation goes on behind a problem, so that all problems of a value are found, in the order in which
its parts are declared.

* `Problem`, `Checked` — one problem; a value or the problems that keep it from being one;
* `Checked.both`, `Checked.all` — parts checked side by side;
* `Checked.inside` — the problems of a part, as problems of the whole.
-/

import SqlContract.Value

set_option autoImplicit false
set_option relaxedAutoImplicit false

namespace SqlContract

/-- A step from a value to one of its parts. -/
inductive Step
  | name (s : String)
  | index (n : Int)
  deriving DecidableEq, Repr

namespace Problem

/-- What can be wrong with a value. -/
inductive Kind
  | missing
  | intType
  | intParsing
  | intParsingSize
  | intFromFloat
  | finiteNumber
  | floatType
  | floatParsing
  | stringType
  | stringUnicode
  | bytesType
  | boolType
  | boolParsing
  | tupleType
  | dictType
  | modelType
  | enum
  /-- The parts are fine, but they do not fit together. -/
  | rule (message : String)
  /-- What only a type of its own can find wrong, by the name that it has for it. -/
  | other (name : String)
  deriving DecidableEq, Repr

/-- The name of a kind of problem. -/
def Kind.name : Kind → String
  | .missing => "missing"
  | .intType => "int_type"
  | .intParsing => "int_parsing"
  | .intParsingSize => "int_parsing_size"
  | .intFromFloat => "int_from_float"
  | .finiteNumber => "finite_number"
  | .floatType => "float_type"
  | .floatParsing => "float_parsing"
  | .stringType => "string_type"
  | .stringUnicode => "string_unicode"
  | .bytesType => "bytes_type"
  | .boolType => "bool_type"
  | .boolParsing => "bool_parsing"
  | .tupleType => "tuple_type"
  | .dictType => "dict_type"
  | .modelType => "model_type"
  | .enum => "enum"
  | .rule _ => "value_error"
  | .other name => name

end Problem

/-- Something wrong with a value: the steps to the part, and what is wrong with it. -/
structure Problem where
  loc : List Step
  kind : Problem.Kind
  deriving DecidableEq, Repr

/-- The message of a problem that carries one. -/
def Problem.message? (p : Problem) : Option String :=
  match p.kind with
  | .rule message => some ("Value error, " ++ message)
  | _ => none

/-- A checked value, or the problems that keep it from being one. -/
abbrev Checked (α : Type) := Except (List Problem) α

namespace Checked

variable {α β γ : Type}

/-- A single problem with the value itself. -/
def fail (kind : Problem.Kind) : Checked α :=
  .error [⟨[], kind⟩]

/-- The problems of a part, as problems of the whole. -/
def inside (step : Step) (c : Checked α) : Checked α :=
  c.mapError fun ps => ps.map fun p => { p with loc := step :: p.loc }

/-- Joins two parts that are checked side by side.  The problems of both are kept, in order. -/
def both (f : α → β → γ) (a : Checked α) (b : Checked β) : Checked γ :=
  match a, b with
  | .ok x, .ok y => .ok (f x y)
  | .ok _, .error ps => .error ps
  | .error ps, .ok _ => .error ps
  | .error ps, .error qs => .error (ps ++ qs)

/-- Joins the parts of a list. -/
def all : List (Checked α) → Checked (List α)
  | [] => .ok []
  | c :: cs => both List.cons c (all cs)

/-- Applies a function that is checked beside its argument. -/
def seq (f : Checked (α → β)) (a : Checked α) : Checked β :=
  both (fun g x => g x) f a

/-- Checks how the parts of a value fit together, once each is fine. -/
def fits (c : Checked α) (fault? : α → Option String) : Checked α :=
  match c with
  | .error ps => .error ps
  | .ok x =>
      match fault? x with
      | none => .ok x
      | some message => fail (.rule message)

end Checked

end SqlContract
