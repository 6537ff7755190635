/-
Statements: SQL with the contract of a call, as it is used at run time.

A statement holds no connection, so it can be prepared on any number of them.  Its records are those of
a library, which makes a type of records for the fields that a schema declares.

* `ExecutionMode` — what a call gives: nothing, one record, or all records;
* `Schema` — how the shape of records is declared;
* `Statement`, `Statement.define`, `Statement.ofContract` — statements, and how they are made;
* `Statement.checkOutput` — the result of a call from what the engine gives.
-/

import SqlContract.Contract
import SqlContract.StatementError
import SqlContract.Validation.Library

set_option autoImplicit false
set_option relaxedAutoImplicit false

namespace SqlContract

/-- What a call gives. -/
inductive ExecutionMode
  /-- Nothing. -/
  | run
  /-- One record, or nothing. -/
  | get
  /-- All records. -/
  | all
  deriving DecidableEq, Repr

namespace ExecutionMode

/-- The word for a mode. -/
def word : ExecutionMode → String
  | .run => "run"
  | .get => "get"
  | .all => "all"

/-- The mode that a word names. -/
def ofWord? (w : String) : Option ExecutionMode :=
  [ExecutionMode.run, .get, .all].find? (·.word == w)

/-- The mode that a value names. -/
def ofValue? : Value → Option ExecutionMode
  | .text w => ofWord? w
  | _ => none

/-- The mode of statements of a cardinality. -/
def ofCardinality : Cardinality → ExecutionMode
  | .exec => .run
  | .one => .get
  | .many => .all

end ExecutionMode

section

variable [RecordLibrary]

/-! ### Schemas -/

/-- How the shape of records is declared. -/
inductive Schema
  /-- By the fields alone, with their names. -/
  | fields (declared : List (String × RecordLibrary.Field))
  /-- By a record type that is there already. -/
  | type (m : RecordLibrary.Model)

namespace Schema

/-- The names of the fields that a schema declares. -/
def names : Schema → List String
  | .fields declared => declared.map (·.1)
  | .type m => RecordLibrary.fieldNames m

/-- The record type of a schema; one made from fields gets the given name and is strict. -/
def model (name : String) : Schema → Except Raised RecordLibrary.Model
  | .fields declared => RecordLibrary.create name declared
  | .type m => .ok m

end Schema

/-! ### Statements -/

/-- SQL with the contract of a call. -/
structure Statement where
  sql : String
  /-- The names of the input fields, in the order of the placeholders. -/
  inputs : List String
  inputModel : RecordLibrary.Model
  mode : ExecutionMode
  /-- The type of the records a call gives; none for mappings of which nothing is known. -/
  outputModel? : Option RecordLibrary.Model
  name : Option String

/-- Why a statement cannot be defined. -/
inductive DefinitionError
  | statement (e : StatementError)
  /-- No record type can be made of a schema. -/
  | raised (e : Raised)
  deriving Repr

namespace Statement

/-- What the names of a statement's record types start with. -/
def typeLead (name : Option String) : String :=
  match name with
  | some s => if s.isEmpty then "Statement" else pascalCase s
  | none => "Statement"

/-- The schema that declares some inputs without a type. -/
def untypedInputs (inputs : List String) : Schema :=
  .fields (inputs.map fun name => (name, RecordLibrary.ofType .any false))

/-- Defines a statement.  The schemas of a statement without them are open: its inputs may be any
values, and its records are mappings. -/
def define (sql : String) (inputs : List String) (inputSchema? outputSchema? : Option Schema)
    (mode : Value) (name : Option String) : Except DefinitionError Statement := do
  let refuse (cause : StatementError.Cause) : Except DefinitionError Unit :=
    .error (.statement ⟨cause, sql⟩)
  match ExecutionMode.ofValue? mode with
  | none => .error (.statement ⟨.unknownMode mode, sql⟩)
  | some mode =>
      if ¬ inputs.Nodup then refuse (.repeatedInputs inputs)
      let inputSchema := inputSchema?.getD (untypedInputs inputs)
      let missing := inputs.filter fun name => !inputSchema.names.contains name
      if missing ≠ [] then refuse (.undeclaredInputs missing)
      let inputModel ← (inputSchema.model (typeLead name ++ "Input")).mapError .raised
      let outputModel? ←
        match mode, outputSchema? with
        | .run, some s => if s.names.isEmpty then .ok none else do refuse .runOutput; .ok none
        | _, some s => ((s.model (typeLead name ++ "Output")).map some).mapError .raised
        | _, none => .ok none
      return ⟨sql, inputs, inputModel, mode, outputModel?, name⟩

/-- The field of a record that a parameter takes its value from. -/
def fieldOfParameter (p : Parameter) : String × RecordLibrary.Field :=
  (p.name, RecordLibrary.ofType p.scalarType.fieldType false)

/-- The field of a record that gives a field of a row.  What is not known may be absent as it is. -/
def fieldOfReturn (r : ReturnField) : String × RecordLibrary.Field :=
  (r.name, RecordLibrary.ofType r.scalarType.fieldType (r.nullable && r.scalarType != .untyped))

/-- The statement of a contract. -/
def ofContract (c : Contract) : Except DefinitionError Statement :=
  define c.sql (c.parameters.map (·.name)) (some (.fields (c.parameters.map fieldOfParameter)))
    (if c.returns.isEmpty then none else some (.fields (c.returns.map fieldOfReturn)))
    (.text (ExecutionMode.ofCardinality c.cardinality).word) (some c.name)

end Statement

end

/-! ### Results -/

/-- What is wrong with what an engine gives. -/
inductive OutputError
  /-- A record that is due is none. -/
  | record (e : RecordFailure)
  /-- Records are due, and something else is given. -/
  | notIterable
  deriving Repr

/-- The parts that a value is gone through by: the items of a list, the keys of a mapping, the
characters of a text, the bytes of a byte text, the fields of a record. -/
def Value.parts? : Value → Option (List Value)
  | .list items => some items
  | .dict entries => some (entries.map (·.1))
  | .text s => some (s.toList.map fun c => .text (String.singleton c))
  | .bytes bs => some (bs.map fun b => .int b.toNat)
  | .record _ fields => some (fields.map fun f => .list [.text f.1, f.2])
  | _ => Option.none

namespace Statement

variable [RecordLibrary]

/-- One record from what the engine gives. -/
def checkRecord (s : Statement) (raw : Value) : Except RecordFailure Value :=
  match s.outputModel? with
  | none => RecordLibrary.mapping raw
  | some m => (RecordLibrary.validate m raw).map (.record (RecordLibrary.name m))

/-- The result of a call from what the engine gives.  The first record that does not fit decides. -/
def checkOutput (s : Statement) (raw : Value) : Except OutputError Value :=
  match s.mode, raw with
  | .run, _ => .ok .none
  | .get, .none => .ok .none
  | .get, raw => (s.checkRecord raw).mapError .record
  | .all, raw =>
      match raw.parts? with
      | some rows => ((rows.mapM s.checkRecord).mapError .record).map .list
      | none => .error .notIterable

end Statement

end SqlContract
