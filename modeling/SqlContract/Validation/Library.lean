/-
What makes records.

Record types are made, and values are checked as records, by a library.  Which types its fields may have
is its own affair, and so is how it checks them: all that is asked of it is a record type for some
declared fields, the fields of a value or the reason why it is no record, and what is read from a record
at a name.

* `Raised`, `RecordFailure` — an error of the library; why a value is no record;
* `RecordLibrary` — what makes record types and checks records;
* `isPrivateName` — the names of fields that are none of the record.
-/

import SqlContract.Validation.Scalar

set_option autoImplicit false
set_option relaxedAutoImplicit false

namespace SqlContract

/-- An error, by the name of its kind and its message. -/
structure Raised where
  name : String
  message : String
  deriving DecidableEq, Repr

/-- Why a value is no record. -/
inductive RecordFailure
  /-- Problems with the value, and the words that tell of them. -/
  | invalid (problems : List Problem) (words : String)
  /-- An error that is no finding about the value. -/
  | raised (e : Raised)
  deriving Repr

/-- Whether a declared field of a name is private: it belongs to no mapping. -/
def isPrivateName (name : String) : Bool :=
  name.toList.head? == some '_'

/-- What makes record types and checks records. -/
class RecordLibrary where
  /-- What is declared of a field: the type of its values, and what stands for a value that is left
  out. -/
  Field : Type
  /-- A record type. -/
  Model : Type
  /-- The field of a plain type, which may be absent in value or not, and may not be left out. -/
  ofType (t : FieldType) (nullable : Bool) : Field
  /-- A value `v` is one of a field by its type, without any conversion, and is taken as `w`. -/
  Admits (f : Field) (v w : Value) : Prop
  /-- The value that a field has where it is left out; without one it may not be. -/
  default? (f : Field) : Option Value
  /-- Whether every record has something of its own at a name. -/
  isKept (name : String) : Bool
  /-- Makes a type of strict records, from its name and its fields. -/
  create (name : String) (fields : List (String × Field)) : Except Raised Model
  /-- The name of a record type. -/
  name (m : Model) : String
  /-- The names of the fields of a record type. -/
  fieldNames (m : Model) : List String
  /-- The fields of a value as a record of a type. -/
  validate (m : Model) (v : Value) : Except RecordFailure (List (String × Value))
  /-- What is read at a name from a record of a type with some fields. -/
  read (m : Model) (record : List (String × Value)) (name : String) : Except Raised Value
  /-- A value as a mapping from texts. -/
  mapping (v : Value) : Except RecordFailure Value

end SqlContract
