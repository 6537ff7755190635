/-
Generated modules: the record types, SQL constants and accessors of some statements.

A module is a list of parts, each of which defines names that later parts mention.

* `Part`, `Part.text` — a part of a module;
* `Contract.shapes` — the record types of a statement;
* `EmitError` — why a module cannot be written;
* `Module.ofContracts`, `Module.text` — the module of some tables and statements.
-/

import SqlContract.Emit.Accessor
import SqlContract.Report

set_option autoImplicit false
set_option relaxedAutoImplicit false

namespace SqlContract

/-- A part of a generated module. -/
inductive Part
  /-- The comment and the imports that a module opens with. -/
  | opening (header : String) (dialect : Dialect)
  | helpers (dialect : Dialect)
  /-- The SQL constants of all statements: names and SQL. -/
  | constants (definitions : List (String × String))
  /-- A record type with its fields and their types. -/
  | record (name : String) (fields : List (String × String))
  /-- A record type that is another one. -/
  | synonym (name target : String)
  | accessor (a : Accessor)
  deriving DecidableEq, Repr

/-- The definition of an SQL constant. -/
def constantDefinition (name sql : String) : String :=
  name ++ " = " ++ sqlLiteral sql

/-- The text of a part. -/
def Part.text : Part → String
  | .opening header d =>
      "\n".intercalate ([header, "from __future__ import annotations", ""] ++ d.imports)
  | .helpers d => d.helpers
  | .constants definitions =>
      "\n\n".intercalate (definitions.map fun c => constantDefinition c.1 c.2)
  | .record name fields => recordDefinition name fields
  | .synonym name target => name ++ " = " ++ target
  | .accessor a => a.text

/-- The record type of a table. -/
def Table.part (t : Table) : Part :=
  .record t.typeName
    (t.columns.map fun c => (c.name, (ScalarType.ofEngineType c.engineType).hint c.nullable))

/-- The SQL constant of a statement. -/
def Contract.constant (d : Dialect) (c : Contract) : String × String :=
  (c.names.constant, d.engineSql c.sql)

/-- The table that a statement's rows repeat, where it is one of the known tables. -/
def Contract.knownSource? (tables : Tables) (c : Contract) : Option Table :=
  c.sourceTable.bind tables.get?

/-- The record types of a statement: one for its parameters, and one for its rows.  Rows that repeat
a known table have the type of the table. -/
def Contract.shapes (tables : Tables) (c : Contract) : List Part :=
  (if c.parameters.isEmpty then []
    else [.record c.names.params (c.parameters.map fun p => (p.name, p.scalarType.hint false))]) ++
  (if c.returns.isEmpty then []
    else
      match c.knownSource? tables with
      | some t => [.synonym c.names.row t.typeName]
      | none =>
          [.record c.names.row (c.returns.map fun r => (r.name, r.scalarType.hint r.nullable))])

/-- Why a module cannot be written. -/
inductive EmitError
  | unknownDialect (word : String)
  | unknownConvention (word : String)
  /-- A placeholder binds a parameter that is not declared. -/
  | unboundPlaceholder
  /-- The number of a placeholder is too long to be read. -/
  | longNumber (n : Sql.LongNumber)
  | source (e : SourceError)
  deriving DecidableEq, Repr

/-- The wording of an error, where it has one. -/
def EmitError.message : EmitError → String
  | .unknownDialect word =>
      "Unknown dialect " ++ Text.quoted word ++ ". Available: " ++
        ", ".intercalate (Dialect.all.map Dialect.word)
  | .unknownConvention word => Text.quoted word ++ " is not a valid CallingConvention"
  | .unboundPlaceholder => "tuple index out of range"
  | .longNumber n => n.message
  | .source e => e.message

/-- The dialect that a word names. -/
def EmitError.readDialect (word : String) : Except EmitError Dialect :=
  match Dialect.ofWord? word with
  | some d => .ok d
  | none => .error (.unknownDialect word)

/-- The convention that a word names. -/
def EmitError.readConvention (word : String) : Except EmitError Convention :=
  match Convention.ofWord? word with
  | some v => .ok v
  | none => .error (.unknownConvention word)

/-- The accessor of a statement under a convention. -/
def Contract.accessor (d : Dialect) (c : Contract) (v : Convention) : Except EmitError Accessor :=
  match Accessor.ofContract? d v c with
  | some a => .ok a
  | none => .error .unboundPlaceholder

/-- A generated module, part by part. -/
structure Module where
  parts : List Part
  deriving DecidableEq, Repr

namespace Module

/-- The namespace of a module, with the names of all its tables and statements claimed in order. -/
def namespaceOf (d : Dialect) (tables : List Table) (contracts : List Contract) :
    Except SourceError Namespace := do
  let ns ← tables.foldlM Namespace.claimTable (Namespace.initial d)
  contracts.foldlM Namespace.claimContract ns

/-- The parts of one statement: its record types, and an accessor for each convention. -/
def contractParts (d : Dialect) (tables : Tables) (conventions : List (Except EmitError Convention))
    (c : Contract) : Except EmitError (List Part) := do
  let accessors ← conventions.mapM fun v => do c.accessor d (← v)
  return c.shapes tables ++ accessors.map Part.accessor

/-- The module of some tables and statements.  A convention that cannot be read is an error once an
accessor needs it. -/
def build (d : Dialect) (header : String) (tables : Tables)
    (conventions : List (Except EmitError Convention)) (contracts : List Contract) :
    Except EmitError Module := do
  let known := tables.map (·.2)
  let _ ← (namespaceOf d known contracts).mapError EmitError.source
  let parts ← contracts.mapM (contractParts d tables conventions)
  return ⟨[.opening header d] ++
    (if d.helpers.isEmpty then [] else [.helpers d]) ++
    (if contracts.isEmpty then [] else [.constants (contracts.map (·.constant d))]) ++
    known.map Table.part ++ parts.flatten⟩

/-- The module of some tables and statements. -/
def ofContracts (d : Dialect) (header : String) (tables : Tables) (conventions : List Convention)
    (contracts : List Contract) : Except EmitError Module :=
  build d header tables (conventions.map .ok) contracts

/-- The text of a module: its parts, with two blank lines between them. -/
def text (m : Module) : String :=
  "\n\n\n".intercalate (m.parts.map Part.text) ++ "\n"

end Module

end SqlContract
