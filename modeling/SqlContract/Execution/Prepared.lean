/-
Prepared statements: statements bound to a connection.

A statement is planned once, when it is prepared.  A call checks its input, orders the values as the
placeholders bind them, runs the statement, and checks the result.  Only failures of the engine that
a connection belongs to are errors of the statement; any other failure passes as it is.

* `Prepared` — a prepared statement; `Prepared.query`, `Prepared.bind?` — what the engine is sent;
* `CallError` — why preparing or calling a statement fails;
* `Prepared.prepare`, `Prepared.call` — the two things to do with an engine;
* `Statement.marshal` — the values of an input, in the order of the inputs.
-/

import SqlContract.Execution.Engine
import SqlContract.Sql.Placeholder
import SqlContract.Sql.Segment

set_option autoImplicit false
set_option relaxedAutoImplicit false

namespace SqlContract

/-- Why preparing or calling a statement fails. -/
inductive CallError
  | statement (e : StatementError)
  /-- A failure that is not one of the connection's engine. -/
  | passed (e : EngineError)
  /-- An error of what makes and checks records. -/
  | raised (e : Raised)
  /-- A placeholder binds a value that is not there. -/
  | unbound
  /-- Records are due, and something else is given. -/
  | notIterable
  deriving Repr

/-- What a call is given. -/
inductive Input
  /-- A value of any kind; the absent value where nothing is given. -/
  | value (v : Value)
  /-- A record of the statement's own input type. -/
  | own (fields : List (String × Value))
  deriving Repr

section

variable [RecordLibrary]

namespace Statement

/-- Whether a statement takes inputs. -/
def hasInputs (s : Statement) : Bool :=
  !s.inputs.isEmpty

/-- An error of a statement. -/
def fail {α : Type} (s : Statement) (cause : StatementError.Cause) : Except CallError α :=
  .error (.statement ⟨cause, s.sql⟩)

/-- The fields of a record of the statement's own input type, from values for them. -/
def ownInput (s : Statement) (values : List (Value × Value)) :
    Except RecordFailure (List (String × Value)) :=
  RecordLibrary.validate s.inputModel (.dict values)

/-- The values of the fields of an input record, in the order of the inputs. -/
def readInputs (s : Statement) (fields : List (String × Value)) : Except CallError (List Value) :=
  s.inputs.mapM fun name => (RecordLibrary.read s.inputModel fields name).mapError .raised

/-- The values of an input that is to be checked.  A record of another type counts as the mapping of
its fields. -/
def readValue (s : Statement) (v : Value) : Except CallError (List Value) :=
  let payload := match v with
    | .record _ _ => v.plain
    | v => v
  match RecordLibrary.validate s.inputModel payload with
  | .ok fields => s.readInputs fields
  | .error (.invalid problems words) => s.fail (.invalidInput problems words payload)
  | .error (.raised e) => .error (.raised e)

/-- The values of an input, in the order of the inputs. -/
def marshal (s : Statement) (input : Input) : Except CallError (List Value) :=
  if s.hasInputs then
    match input with
    | .own fields => s.readInputs fields
    | .value .none => s.fail (.inputsRequired s.inputs .none)
    | .value v => s.readValue v
  else
    match input with
    | .own fields => s.fail (.noInputs (.record (RecordLibrary.name s.inputModel) fields))
    | .value v => if v.isFilled then s.fail (.noInputs v) else .ok []

end Statement

/-- A statement prepared for the engine of a dialect. -/
structure Prepared where
  dialect : Dialect
  statement : Statement

end

/-- Statements that the remote engine can plan without running them. -/
def plannable : List String :=
  ["SELECT", "INSERT", "UPDATE", "DELETE", "VALUES", "WITH"]

/-- Where the failures of the engine of a dialect come from. -/
def Dialect.origin : Dialect → Origin
  | .localSync => .localEngine
  | .remoteAsync => .remoteEngine

/-- How the engine of a dialect runs statements.  Rows are mappings, and the remote engine keeps its
statements prepared. -/
def Dialect.runOptions : Dialect → RunOptions
  | .localSync => ⟨false, true⟩
  | .remoteAsync => ⟨true, true⟩

namespace Prepared

variable [RecordLibrary]

/-- The SQL as the engine is sent it. -/
def query (p : Prepared) : String :=
  match p.dialect with
  | .localSync => p.statement.sql
  | .remoteAsync => String.ofList (Sql.pyformat p.statement.sql.toList)

/-- Values as the engine binds them: in the order of the inputs, or repeated in the order of the
placeholders.  Values of the wrong number stay as they are, so that the engine finds the fault. -/
def bind? (p : Prepared) (args : List Value) : Option (List Value) :=
  match p.dialect with
  | .localSync => some args
  | .remoteAsync =>
      let sql := p.statement.sql.toList
      if args.length = Sql.placeholderCount sql then
        Sql.arrange? args (Sql.placeholderIndexes sql)
      else some args

/-- A failure of an engine, as an error of the statement where it is the engine's own. -/
def engineFailure {α : Type} (p : Prepared) (cause : EngineError → StatementError.Cause)
    (e : EngineError) : Except CallError α :=
  if e.origin = p.dialect.origin then p.statement.fail (cause e) else .error (.passed e)

/-- The absent value for each input. -/
def nulls (p : Prepared) : List Value :=
  p.statement.inputs.map fun _ => .none

/-- The statement that plans the prepared one. -/
def explanation (p : Prepared) : String :=
  "EXPLAIN " ++ p.query

/-- How a prepared statement shows itself. -/
def shown (p : Prepared) : String :=
  let kind := match p.dialect with
    | .localSync => "PreparedStatement"
    | .remoteAsync => "AsyncPreparedStatement"
  let sql := String.ofList (Text.strip p.statement.sql.toList)
  s!"{kind}(mode={Text.quoted p.statement.mode.word}, sql={Text.quoted sql})"

variable {σ : Type}

/-- Plans a statement of the remote engine inside a transaction.  A failure rolls it back, whatever
comes of that. -/
def planInside (E : Engine σ) (p : Prepared) (c : σ) : σ × Except CallError Unit :=
  match E.ask c .begin with
  | (c, .error e) => (c, p.engineFailure .compile e)
  | (c, .ok _) =>
      match p.bind? p.nulls with
      | none => ((E.ask c .rollback).1, .error .unbound)
      | some args =>
          match E.ask c (.execute p.explanation args) with
          | (c, .error e) => ((E.ask c .rollback).1, p.engineFailure .compile e)
          | (c, .ok _) =>
              match E.ask c .commit with
              | (c, .error e) => (c, p.engineFailure .compile e)
              | (c, .ok _) => (c, .ok ())

/-- Plans a statement, where its engine can. -/
def plan (E : Engine σ) (p : Prepared) (c : σ) : σ × Except CallError Unit :=
  match p.dialect with
  | .localSync =>
      match E.ask c (.execute p.explanation p.nulls) with
      | (c, .ok _) => (c, .ok ())
      | (c, .error e) => (c, p.engineFailure .compile e)
  | .remoteAsync =>
      if plannable.contains (Sql.leadingKeyword p.statement.sql.toList) then planInside E p c
      else (c, .ok ())

/-- Prepares a statement on a connection. -/
def prepare (E : Engine σ) (d : Dialect) (s : Statement) (c : σ) : σ × Except CallError Prepared :=
  let p : Prepared := ⟨d, s⟩
  let (c, outcome) := p.plan E c
  (c, outcome.map fun _ => p)

/-- The values that the engine is sent for an input. -/
def arguments (p : Prepared) (input : Input) : Except CallError (List Value) :=
  match p.statement.marshal input with
  | .error e => .error e
  | .ok args =>
      match p.bind? args with
      | some bound => .ok bound
      | none => .error .unbound

/-- Runs a statement on the open cursor, and fetches what its mode takes. -/
def runAndFetch (E : Engine σ) (p : Prepared) (args : List Value) (c : σ) :
    σ × Except EngineError Value :=
  match E.ask c (.run p.query args p.dialect.runOptions) with
  | (c, .error e) => (c, .error e)
  | (c, .ok _) =>
      match p.statement.mode with
      | .run => (c, .ok .none)
      | .get => E.ask c .fetchOne
      | .all => E.ask c .fetchAll

/-- Runs a statement on a cursor of its own.  The cursor is closed whatever happens on it, and a
failure to close it takes the place of any other. -/
def execute (E : Engine σ) (p : Prepared) (args : List Value) (c : σ) :
    σ × Except EngineError Value :=
  match E.ask c .cursor with
  | (c, .error e) => (c, .error e)
  | (c, .ok _) =>
      let (c, fetched) := p.runAndFetch E args c
      let (c, closed) := E.ask c .close
      (c, closed.bind fun _ => fetched)

/-- The result of a call from what the engine gives. -/
def result (p : Prepared) (raw : Value) : Except CallError Value :=
  match p.statement.checkOutput raw with
  | .ok v => .ok v
  | .error (.record (.invalid problems words)) =>
      p.statement.fail (.invalidOutput problems words raw)
  | .error (.record (.raised e)) => .error (.raised e)
  | .error .notIterable => .error .notIterable

/-- Calls a prepared statement. -/
def call (E : Engine σ) (p : Prepared) (input : Input) (c : σ) : σ × Except CallError Value :=
  match p.arguments input with
  | .error e => (c, .error e)
  | .ok args =>
      let (c, outcome) := p.execute E args c
      (c,
        match outcome with
        | .ok raw => p.result raw
        | .error e => p.engineFailure .execution e)

end Prepared

end SqlContract
