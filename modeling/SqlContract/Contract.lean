/-
Tables and call contracts.

A contract is one SQL statement with the shape of a call to it: how many rows it gives, the
parameters in the order of its placeholders, and the fields of a row.

* `Column`, `Table` — a table and its columns; `Table.column?` looks one up whatever its case;
* `Contract` — a statement with its call contract;
* `Table.fault?`, `Contract.fault?` — what is wrong with the shape of one;
* `Dialect`, `Convention` — the engine a module is generated for, and the form of its accessors.
-/

import SqlContract.ScalarType
import SqlContract.Text.Quoted

set_option autoImplicit false
set_option relaxedAutoImplicit false

namespace SqlContract

open Text

/-- How many rows a statement gives to its caller. -/
inductive Cardinality
  | exec
  | one
  | many
  deriving DecidableEq, Repr

/-- The word for a cardinality. -/
def Cardinality.word : Cardinality → String
  | .exec => "exec"
  | .one => "one"
  | .many => "many"

/-- All cardinalities. -/
def Cardinality.all : List Cardinality :=
  [.exec, .one, .many]

/-- The cardinality that a word names. -/
def Cardinality.ofWord? (w : String) : Option Cardinality :=
  Cardinality.all.find? (·.word == w)

/-- The engine that SQL is written for, and the way generated code calls it. -/
inductive Dialect
  | localSync
  | remoteAsync
  deriving DecidableEq, Repr

/-- The word for a dialect. -/
def Dialect.word : Dialect → String
  | .localSync => "local-sync"
  | .remoteAsync => "remote-async"

/-- All dialects. -/
def Dialect.all : List Dialect :=
  [.localSync, .remoteAsync]

/-- The dialect that a word names. -/
def Dialect.ofWord? (w : String) : Option Dialect :=
  Dialect.all.find? (·.word == w)

/-- The form of a generated accessor: one that takes the connection on every call, or a factory
that takes it once. -/
inductive Convention
  | oneShot
  | prepared
  deriving DecidableEq, Repr

/-- The word for a convention. -/
def Convention.word : Convention → String
  | .oneShot => "one-shot"
  | .prepared => "prepared"

/-- All conventions. -/
def Convention.all : List Convention :=
  [.oneShot, .prepared]

/-- The convention that a word names. -/
def Convention.ofWord? (w : String) : Option Convention :=
  Convention.all.find? (·.word == w)

/-- One column of a table. -/
structure Column where
  name : String
  /-- The declared type, in the spelling of the engine; empty for a column without one. -/
  engineType : String
  nullable : Bool
  deriving DecidableEq, Repr

/-- A table, with its columns in order. -/
structure Table where
  name : String
  columns : List Column
  deriving DecidableEq, Repr

/-- A table in which two columns have names that differ at most in case. -/
structure Table.Fault where
  /-- The later of the two columns. -/
  column : String
  table : String
  deriving DecidableEq, Repr

/-- The wording of a fault. -/
def Table.Fault.message (f : Table.Fault) : String :=
  s!"duplicate column {quoted f.column} in table {quoted f.table}"

/-- The first column whose name repeats an earlier one, whatever its case; `seen` holds the names
before. -/
def repeatedColumn? (seen : List String) : List Column → Option Column
  | [] => none
  | c :: cs =>
      if seen.contains (caseKey c.name) then some c
      else repeatedColumn? (caseKey c.name :: seen) cs

/-- What is wrong with a table. -/
def Table.fault? (t : Table) : Option Table.Fault :=
  (repeatedColumn? [] t.columns).map fun c => ⟨c.name, t.name⟩

/-- The column of the given name, whatever its case. -/
def Table.column? (t : Table) (name : String) : Option Column :=
  t.columns.find? fun c => caseKey c.name == caseKey name

/-- One parameter of a statement. -/
structure Parameter where
  name : String
  scalarType : ScalarType
  deriving DecidableEq, Repr

/-- One field of the rows of a statement. -/
structure ReturnField where
  name : String
  scalarType : ScalarType
  nullable : Bool
  deriving DecidableEq, Repr

/-- A SQL statement with its call contract. -/
structure Contract where
  name : String
  cardinality : Cardinality
  /-- The parameters, in the order of their numbers. -/
  parameters : List Parameter
  /-- The fields of a row; none when nothing is known about it. -/
  returns : List ReturnField
  sql : String
  /-- The line that the statement starts on. -/
  line : Option Int
  /-- The table whose full shape the fields repeat. -/
  sourceTable : Option String
  deriving DecidableEq, Repr

/-- What can be wrong with the shape of a contract. -/
inductive Contract.Fault
  | execReturns (name : String)
  | repeatedParameter (name : String)
  | repeatedReturn (name : String)
  deriving DecidableEq, Repr

/-- The wording of a fault. -/
def Contract.Fault.message : Contract.Fault → String
  | .execReturns name => s!"exec statement {quoted name} cannot declare returns"
  | .repeatedParameter name => s!"duplicate parameter name in statement {quoted name}"
  | .repeatedReturn name => s!"duplicate return field name in statement {quoted name}"

/-- What is wrong with the shape of a contract, the first fault where there are several. -/
def Contract.fault? (c : Contract) : Option Contract.Fault :=
  if c.cardinality = .exec ∧ c.returns ≠ [] then some (.execReturns c.name)
  else if ¬ (c.parameters.map (·.name)).Nodup then some (.repeatedParameter c.name)
  else if ¬ (c.returns.map (·.name)).Nodup then some (.repeatedReturn c.name)
  else none

/-- Whether the statement gives rows of which nothing is known. -/
def Contract.isUntyped (c : Contract) : Bool :=
  c.cardinality != .exec && c.returns.isEmpty

/-- A field with the type and the nullability of a column. -/
def Column.toField (c : Column) (name : String) : ReturnField :=
  ⟨name, .ofEngineType c.engineType, c.nullable⟩

/-- The full shape of a table: a field for each column, in order. -/
def Table.fields (t : Table) : List ReturnField :=
  t.columns.map fun c => c.toField c.name

end SqlContract
