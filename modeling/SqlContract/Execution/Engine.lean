/-
Engines: what a connection does for a statement.

* `RunOptions` — how a statement is run on a cursor;
* `Operation`, `Exchange` — something that a connection is asked to do, and what it answers;
* `ResultSet` — what an engine gives for a statement; `ResultSet.fetched` — its rows as they are
  fetched;
* `Engine` — the answers of a connection, as a function on its state.
-/

import SqlContract.Statement

set_option autoImplicit false
set_option relaxedAutoImplicit false

namespace SqlContract

/-- How a statement is run on a cursor. -/
structure RunOptions where
  /-- Whether the engine is to keep the statement prepared. -/
  prepare : Bool
  /-- Whether the rows are fetched as mappings from the names of the columns. -/
  mappings : Bool
  deriving DecidableEq, Repr

/-- Something that a connection is asked to do. -/
inductive Operation
  /-- Runs a statement whose result is not needed. -/
  | execute (sql : String) (args : List Value)
  /-- Opens a cursor. -/
  | cursor
  /-- Runs a statement on the cursor. -/
  | run (sql : String) (args : List Value) (options : RunOptions)
  /-- Fetches the first record, or nothing if there is none. -/
  | fetchOne
  /-- Fetches all records. -/
  | fetchAll
  /-- Closes the cursor. -/
  | close
  | begin
  | commit
  | rollback
  deriving Repr

/-- An operation with its answer.  The answer to anything but a fetch is the absent value. -/
structure Exchange where
  operation : Operation
  answer : Except EngineError Value
  deriving Repr

/-- What an engine gives for a statement: the names of the columns where there are any, and the
rows. -/
structure ResultSet where
  columns? : Option (List String)
  rows : List (List Value)
  deriving Repr

namespace ResultSet

/-- The result of a statement that gives no rows. -/
def empty : ResultSet :=
  ⟨none, []⟩

/-- A row as a mapping from the names of the columns.  Names and values without a partner are left
out, and of columns with one name the last gives the value. -/
def record (r : ResultSet) (row : List Value) : Value :=
  .dict (Entries.ofList (((r.columns?.getD []).map Value.text).zip row))

/-- The rows of a result as they are fetched: as mappings, or as the values alone. -/
def fetched (r : ResultSet) (mappings : Bool) : List Value :=
  r.rows.map (if mappings then r.record else Value.list)

end ResultSet

/-- The answers of a connection, as a function on its state.  Any operation can fail. -/
structure Engine (σ : Type) where
  ask : σ → Operation → σ × Except EngineError Value

end SqlContract
