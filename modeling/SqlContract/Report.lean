/-
Reports: what was read from a source, and what was left out.

Reading goes on behind an error unless it is strict.  An error is recorded in the report and
announced in the log.

* `Report` — statements, tables, errors and log of one source;
* `Report.record` — an error is met;
* `Report.add` — a statement is read; of several of one name the first stays;
* `unlessStopped` — a step of reading that something else may keep from being made.
-/

import SqlContract.SourceError

set_option autoImplicit false
set_option relaxedAutoImplicit false

namespace SqlContract

/-- A line of the log. -/
inductive LogLine
  | warning (text : String)
  | info (text : String)
  deriving DecidableEq, Repr

/-- A log line as it is printed. -/
def LogLine.text : LogLine → String
  | .warning text => "WARNING " ++ text
  | .info text => "INFO " ++ text

/-- The log line that announces an error. -/
def LogLine.skipping (e : SourceError) : LogLine :=
  .warning s!"skipping statement: {e.text}"

/-- Tables by the key of their names, in order of first definition. -/
abbrev Tables := List (String × Table)

namespace Tables

/-- The table of the given name, whatever its case. -/
def get? (ts : Tables) (name : String) : Option Table :=
  ts.lookup (caseKey name)

/-- Sets the table at a key.  A known key keeps its place. -/
def set (key : String) (t : Table) : Tables → Tables
  | [] => [(key, t)]
  | e :: es => if e.1 = key then (key, t) :: es else e :: set key t es

/-- Adds a table under its own name. -/
def insert (ts : Tables) (t : Table) : Tables :=
  set (caseKey t.name) t ts

/-- The tables of a list, by their names.  Of several with one name the last is kept. -/
def ofList (ts : List Table) : Tables :=
  ts.foldl insert []

end Tables

/-- What was read from a source, and what was left out. -/
structure Report where
  statements : List Contract
  tables : Tables
  errors : List SourceError
  log : List LogLine
  deriving DecidableEq, Repr

namespace Report

/-- The report before anything is read. -/
def empty : Report :=
  ⟨[], [], [], []⟩

/-- Whether nothing was left out. -/
def isOk (r : Report) : Bool :=
  r.errors.isEmpty

/-- The first error of a report. -/
def firstError? (r : Report) : Option SourceError :=
  r.errors.head?

/-- Records an error, or ends strict reading with it. -/
def record (r : Report) (strict : Bool) (e : SourceError) : Except SourceError Report :=
  if strict then .error e
  else .ok { r with errors := r.errors ++ [e], log := r.log ++ [.skipping e] }

/-- The error of a statement whose name is taken. -/
def repeatedStatement (c : Contract) : SourceError :=
  ⟨.repeatedStatement c.name, some c.name, c.line⟩

/-- Adds a statement, or records that its name is taken. -/
def add (r : Report) (strict : Bool) (c : Contract) : Except SourceError Report :=
  if r.statements.any (·.name == c.name) then r.record strict (repeatedStatement c)
  else .ok { r with statements := r.statements ++ [c] }

end Report

/-- A step that is made unless something stops it, which ends the reading with an error of another
kind. -/
def unlessStopped {α ε ε' : Type} (stop? : Option ε') (step : Except ε α) : Except (ε' ⊕ ε) α :=
  match stop? with
  | some e => .error (.inl e)
  | none => step.mapError .inr

end SqlContract
