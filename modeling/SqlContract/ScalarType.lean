/-
Scalar types: what a contract knows about a value.

Integers and floating-point numbers are one scalar type, so whole and fractional columns are typed
alike.

* `ScalarType` — the four types, with their words;
* `ScalarType.ofEngineType` — the type of a column, from the type its table declares;
* `ScalarType.ofWord?` — the type that a header line names;
* `ScalarType.hint` — the type as generated code writes it.
-/

import SqlContract.Naming

set_option autoImplicit false
set_option relaxedAutoImplicit false

namespace SqlContract

/-- What is known about a value. -/
inductive ScalarType
  | number
  | string
  | binary
  /-- Nothing is known. -/
  | untyped
  deriving DecidableEq, Repr

namespace ScalarType

/-- All scalar types. -/
def all : List ScalarType :=
  [.number, .string, .binary, .untyped]

/-- The word for a scalar type. -/
def word : ScalarType → String
  | .number => "number"
  | .string => "string"
  | .binary => "binary"
  | .untyped => "opaque"

/-- Whether the characters of `needle` occur in a row in a text. -/
def occursIn (needle : List Char) : List Char → Bool
  | [] => needle.isEmpty
  | c :: cs => needle.isPrefixOf (c :: cs) || occursIn needle cs

/-- The parts of a type's name that give it a scalar type.  An earlier rule wins. -/
def engineRules : List (List String × ScalarType) :=
  [(["INT", "REAL", "NUMERIC"], .number), (["TEXT", "CHAR", "CLOB"], .string),
   (["BLOB"], .binary)]

/-- The scalar type of a column, by the parts of the name of its declared type. -/
def ofEngineType (engineType : String) : ScalarType :=
  let name := Text.upper engineType.toList
  match engineRules.find? fun rule => rule.1.any fun part => occursIn part.toList name with
  | some rule => rule.2
  | none => .untyped

/-- The types that a header line may name. -/
def declarable : List ScalarType :=
  [.number, .string]

/-- The type that a header line names. -/
def ofWord? (w : String) : Option ScalarType :=
  declarable.find? (·.word == w)

/-- Adds the absent value to a written type. -/
def orNone (nullable : Bool) (written : String) : String :=
  if nullable then written ++ " | None" else written

/-- The type as generated code writes it. -/
def hint (t : ScalarType) (nullable : Bool) : String :=
  match t with
  | .number => orNone nullable "float"
  | .string => orNone nullable "str"
  | .binary => orNone nullable "bytes"
  | .untyped => "Any"

end ScalarType

end SqlContract
