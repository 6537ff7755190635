/-
Generation: from source text to the module generated for it.

Names that differ in the source can be one in the generated module.  A table or a statement whose
names are taken is left out of the module and recorded as an error, tables before statements.

* `Config` — how a module is generated;
* `Report.claimAll` — leaves out what has no names left;
* `Generated` — a module with the report of what it was generated from;
* `generateHeaded`, `generateMarked` — the modules of the two kinds of sources;
* `generateHeadedWithin`, `generateMarkedWithin` — the same, where numbers are read up to a limit of
  digits.
-/

import SqlContract.Emit.Module
import SqlContract.Source.Headed
import SqlContract.Source.Marked
import SqlContract.Validation.Shape

set_option autoImplicit false
set_option relaxedAutoImplicit false

namespace SqlContract

/-- The comment that a module opens with, unless another is asked for. -/
def defaultHeader : String := "# Generated by typedsql. Do not edit."

/-- How a module is generated. -/
structure Config where
  lead : String := Header.defaultLead
  dialect : Dialect := .localSync
  conventions : List Convention := [.prepared, .oneShot]
  strict : Bool := false
  header : String := defaultHeader
  deriving DecidableEq, Repr

open Checked in
/-- A configuration from a value. -/
def Config.ofValue : Value → Checked Config :=
  checkShape fun es =>
    let base : Config := {}
    let read := both Config.mk (defaulted es "annotation_prefix" base.lead (checkText false))
      (defaulted es "dialect" base.dialect (checkWord Dialect.ofWord?))
    let read := seq read
      (defaulted es "conventions" base.conventions (checkTuple (checkWord Convention.ofWord?)))
    seq (seq read (defaulted es "strict" base.strict (checkBool false)))
      (defaulted es "header" base.header (checkText false))

namespace Report

/-- Claims the name of one table, or leaves it out. -/
def claimTable (strict : Bool) (state : Namespace × Report) (entry : String × Table) :
    Except SourceError (Namespace × Report) :=
  match state.1.claimTable entry.2 with
  | .ok ns => .ok (ns, { state.2 with tables := state.2.tables ++ [entry] })
  | .error e => (state.2.record strict e).map fun r => (state.1, r)

/-- Claims the names of one statement, or leaves it out. -/
def claimContract (strict : Bool) (state : Namespace × Report) (c : Contract) :
    Except SourceError (Namespace × Report) :=
  match state.1.claimContract c with
  | .ok ns => .ok (ns, { state.2 with statements := state.2.statements ++ [c] })
  | .error e => (state.2.record strict e).map fun r => (state.1, r)

/-- Leaves out the tables and statements of a report whose names are taken. -/
def claimAll (d : Dialect) (strict : Bool) (r : Report) : Except SourceError Report := do
  let start := (Namespace.initial d, { r with tables := [], statements := [] })
  let state ← r.tables.foldlM (claimTable strict) start
  let state ← r.statements.foldlM (claimContract strict) state
  return state.2

end Report

/-- A generated module, with the report of what it was generated from. -/
structure Generated where
  source : String
  report : Report
  deriving DecidableEq, Repr

/-- The log line of a module without tables. -/
def headedSummary (r : Report) : LogLine :=
  .info s!"generated {r.statements.length} accessor(s), skipped {r.errors.length} statement(s)"

/-- The log line of a module with tables. -/
def markedSummary (r : Report) : LogLine :=
  .info <| s!"generated {r.tables.length} table type(s) and {r.statements.length} accessor(s), " ++
    s!"skipped {r.errors.length} statement(s)"

/-- Generates the module of what was read. -/
def generate (config : Config) (summary : Report → LogLine) (r : Report) :
    Except EmitError Generated := do
  let r ← (r.claimAll config.dialect config.strict).mapError EmitError.source
  let m ← Module.ofContracts config.dialect config.header r.tables config.conventions r.statements
  return ⟨m.text, { r with log := r.log ++ [summary r] }⟩

/-- The module of a source whose statements carry headers. -/
def generateHeaded (config : Config) (text : List Char) : Except EmitError Generated := do
  let r ← (Headed.read config.lead config.strict text).mapError EmitError.source
  generate config headedSummary r

/-- The module of a source of tables and marked queries, over tables that are known before. -/
def generateMarked [Sql.Parser] (config : Config) (known : List Table) (text : List Char) :
    Except EmitError Generated := do
  let r ← (Marked.read (.ok config.dialect) config.lead config.strict known text).mapError fun
    | .source e => .source e
    | .unknownDialect word => .unknownDialect word
  generate config markedSummary r

/-- The module of a source whose statements carry headers, where numbers are read up to a limit of
digits. -/
def generateHeadedWithin (limit : Option Nat) (config : Config) (text : List Char) :
    Except EmitError Generated := do
  let r ← (Headed.readWithin limit config.lead config.strict text).mapError fun
    | .inl n => .longNumber n
    | .inr e => .source e
  generate config headedSummary r

/-- The module of a source of tables and marked queries, where numbers are read up to a limit of
digits. -/
def generateMarkedWithin [Sql.Parser] (limit : Option Nat) (config : Config) (known : List Table)
    (text : List Char) : Except EmitError Generated := do
  let r ← (Marked.readWithin limit (.ok config.dialect) config.lead config.strict known
    text).mapError fun
    | .inl n => .longNumber n
    | .inr (.source e) => .source e
    | .inr (.unknownDialect word) => .unknownDialect word
  generate config markedSummary r

/-- The lines that report what was left out of a module, each with a line feed. -/
def Generated.skipped (g : Generated) : String :=
  String.join (g.report.errors.map fun e => "# skipped: " ++ e.text ++ "\n")

end SqlContract
