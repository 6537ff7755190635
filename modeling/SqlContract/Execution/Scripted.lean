/-
Scripted connections: connections that stand in for an engine.

A scripted connection hands out results that it was given before, fails as it was told to, and keeps a
log of what it was asked and what it answered.

* `Event` — what is told of an operation;
* `Moment` — the operations that run no statement;
* `Scripted` — a scripted connection; `Scripted.engine` — its answers;
* `Scripted.queue`, `Scripted.failOn`, `Scripted.refuse` — results to hand out, statements to fail
  on, and other operations to fail on.
-/

import SqlContract.Execution.Engine

set_option autoImplicit false
set_option relaxedAutoImplicit false

namespace SqlContract

/-- What is told of the operations of a connection. -/
inductive Event
  | execute (sql : String) (args : List Value)
  | cursorExecute (sql : String) (args : List Value) (options : RunOptions)
  | cursorClose
  | begin
  | commit
  | rollback
  deriving Repr

/-- What is told of an operation; nothing of the opening of a cursor and of fetches. -/
def Operation.event? : Operation → Option Event
  | .execute sql args => some (.execute sql args)
  | .run sql args options => some (.cursorExecute sql args options)
  | .close => some .cursorClose
  | .begin => some .begin
  | .commit => some .commit
  | .rollback => some .rollback
  | .cursor | .fetchOne | .fetchAll => none

/-- The operations that run no statement. -/
inductive Moment
  | cursor
  | fetch
  | close
  | begin
  | commit
  | rollback
  deriving DecidableEq, Repr

/-- A scripted connection. -/
structure Scripted where
  /-- The dialect of the engine that the connection stands in for. -/
  dialect : Dialect
  /-- The results to hand out, the next first. -/
  results : List ResultSet
  /-- Texts, and the failure of statements that hold them; an earlier text wins. -/
  failures : List (String × EngineError)
  /-- The failures of operations that run no statement. -/
  refusals : List (Moment × EngineError)
  /-- The rows of the statement on the cursor. -/
  current : List Value
  /-- What the connection was asked and what it answered, in order. -/
  log : List Exchange
  deriving Repr

namespace Scripted

/-- A connection without a script. -/
def fresh (d : Dialect) : Scripted :=
  ⟨d, [], [], [], [], []⟩

/-- Adds results to hand out. -/
def queue (c : Scripted) (results : List ResultSet) : Scripted :=
  { c with results := c.results ++ results }

/-- Replaces the failures of statements. -/
def failOn (c : Scripted) (failures : List (String × EngineError)) : Scripted :=
  { c with failures }

/-- Replaces the failures of operations that run no statement. -/
def refuse (c : Scripted) (refusals : List (Moment × EngineError)) : Scripted :=
  { c with refusals }

/-- The failure of a statement. -/
def failureOn? (c : Scripted) (sql : String) : Option EngineError :=
  (c.failures.find? fun f => ScalarType.occursIn f.1.toList sql.toList).map (·.2)

/-- The failure of an operation. -/
def failure? (c : Scripted) : Operation → Option EngineError
  | .execute sql _ | .run sql _ _ => c.failureOn? sql
  | .cursor => c.refusals.lookup .cursor
  | .fetchOne | .fetchAll => c.refusals.lookup .fetch
  | .close => c.refusals.lookup .close
  | .begin => c.refusals.lookup .begin
  | .commit => c.refusals.lookup .commit
  | .rollback => c.refusals.lookup .rollback

/-- The answer to an operation that does not fail. -/
def give (c : Scripted) : Operation → Value
  | .fetchOne => c.current.headD .none
  | .fetchAll => .list c.current
  | _ => .none

/-- Goes on behind an operation that does not fail: a statement on the cursor takes the next result. -/
def advance (c : Scripted) : Operation → Scripted
  | .run _ _ options =>
      { c with
        results := c.results.tail
        current := (c.results.headD .empty).fetched options.mappings }
  | _ => c

/-- Writes an operation and its answer into the log. -/
def record (c : Scripted) (x : Exchange) : Scripted :=
  { c with log := c.log ++ [x] }

/-- Answers an operation, and writes it into the log. -/
def ask (c : Scripted) (o : Operation) : Scripted × Except EngineError Value :=
  match c.failure? o with
  | some e => (c.record ⟨o, .error e⟩, .error e)
  | none => ((c.advance o).record ⟨o, .ok (c.give o)⟩, .ok (c.give o))

/-- The answers of scripted connections. -/
def engine : Engine Scripted :=
  ⟨ask⟩

/-- What is told of what a connection was asked. -/
def events (c : Scripted) : List Event :=
  c.log.filterMap (·.operation.event?)

end Scripted

end SqlContract
