/-
Sessions: scripts of connections, statements and calls, by the names given to them.

* `Session` — what a session holds;
* `Session.Step` — one thing to do; `Session.Outcome` — what comes of it;
* `Session.act`, `Session.run` — does one thing, or one thing after the other;
* `Session.step` — does one thing, and tells what the connections were asked meanwhile.

Connections of both engines may stand side by side: a statement is prepared for the engine of its
connection.  A failing step leaves the session usable.  A name that is given again stands for the new
thing, and what was prepared before keeps its connection and its statement.
-/

import SqlContract.Execution.Prepared
import SqlContract.Execution.Scripted

set_option autoImplicit false
set_option relaxedAutoImplicit false

namespace SqlContract

variable [RecordLibrary]

/-- What a session holds. -/
structure Session where
  /-- The connections with their names, in order of opening. -/
  connections : List (String × Scripted)
  /-- The statements with their names, the latest first. -/
  statements : List (String × Statement)
  /-- The prepared statements with their names and the positions of their connections, the latest
  first. -/
  prepared : List (String × Nat × Prepared)

namespace Session

/-- One thing to do in a session. -/
inductive Step
  | connect (d : Dialect) (id : String)
  | queue (connection : String) (results : List ResultSet)
  | fail (connection : String) (failures : List (String × EngineError))
  | refuse (connection : String) (refusals : List (Moment × EngineError))
  | define (id : String) (made : Except DefinitionError Statement)
  | prepare (id connection statement : String)
  | call (prepared : String) (input : Value)
  /-- Calls with a record of the statement's own input type. -/
  | callOwn (prepared : String) (values : List (Value × Value))

/-- What comes of a step. -/
inductive Outcome
  | done
  | defined (s : Statement)
  /-- A statement is prepared on the connection at a position. -/
  | ready (connection : Nat) (p : Prepared)
  | result (v : Value)
  | refused (e : DefinitionError)
  | failed (e : CallError)
  /-- Values that make no record of the input type. -/
  | invalid (e : RecordFailure)
  /-- A call of something that was not prepared. -/
  | notPrepared
  /-- A name that stands for nothing. -/
  | unknown (id : String)

/-- A session without anything in it. -/
def start : Session :=
  ⟨[], [], []⟩

/-- The position of the latest connection of a name. -/
def position? (s : Session) (id : String) : Option Nat :=
  ((List.range s.connections.length).reverse).find? fun i =>
    (s.connections[i]?.map (·.1)) == some id

/-- Changes the connection at a position. -/
def setConnection (s : Session) (i : Nat) (c : Scripted) : Session :=
  { s with connections := s.connections.modify i fun e => (e.1, c) }

/-- Does something with the connection of a name. -/
def onConnection (s : Session) (id : String) (f : Nat → Scripted → Session × Outcome) :
    Session × Outcome :=
  match s.position? id with
  | none => (s, .unknown id)
  | some i =>
      match s.connections[i]? with
      | some e => f i e.2
      | none => (s, .unknown id)

/-- Prepares the statement of a name on a connection, for the engine of it. -/
def prepareOn (s : Session) (id statement : String) (i : Nat) (c : Scripted) : Session × Outcome :=
  match s.statements.lookup statement with
  | none => (s, .unknown statement)
  | some st =>
      match Prepared.prepare Scripted.engine c.dialect st c with
      | (c, .ok p) =>
          let s := s.setConnection i c
          ({ s with prepared := (id, i, p) :: s.prepared }, .ready i p)
      | (c, .error e) => (s.setConnection i c, .failed e)

/-- Calls a prepared statement on its connection. -/
def callOn (s : Session) (i : Nat) (p : Prepared) (input : Input) : Session × Outcome :=
  match s.connections[i]? with
  | none => (s, .notPrepared)
  | some e =>
      let (c, outcome) := p.call Scripted.engine input e.2
      (s.setConnection i c,
        match outcome with
        | .ok v => .result v
        | .error e => .failed e)

/-- Does one thing. -/
def act (s : Session) : Step → Session × Outcome
  | .connect d id => ({ s with connections := s.connections ++ [(id, .fresh d)] }, .done)
  | .queue id results =>
      s.onConnection id fun i c => (s.setConnection i (c.queue results), .done)
  | .fail id failures =>
      s.onConnection id fun i c => (s.setConnection i (c.failOn failures), .done)
  | .refuse id refusals =>
      s.onConnection id fun i c => (s.setConnection i (c.refuse refusals), .done)
  | .define id made =>
      match made with
      | .ok statement =>
          ({ s with statements := (id, statement) :: s.statements }, .defined statement)
      | .error e => (s, .refused e)
  | .prepare id connection statement =>
      s.onConnection connection (s.prepareOn id statement)
  | .call id input =>
      match s.prepared.lookup id with
      | none => (s, .notPrepared)
      | some (i, p) => s.callOn i p (.value input)
  | .callOwn id values =>
      match s.prepared.lookup id with
      | none => (s, .notPrepared)
      | some (i, p) =>
          match p.statement.ownInput values with
          | .ok fields => s.callOn i p (.own fields)
          | .error e => (s, .invalid e)

/-- Does one thing after the other, and tells what comes of each. -/
def run (s : Session) : List Step → Session × List Outcome
  | [] => (s, [])
  | what :: steps =>
      let (s, outcome) := s.act what
      let (s, outcomes) := s.run steps
      (s, outcome :: outcomes)

/-- The connections that their names stand for. -/
def named : List (String × Scripted) → List (String × Scripted)
  | [] => []
  | e :: es => if es.any (·.1 == e.1) then named es else e :: named es

/-- What the connections that have a name were asked so far, with their names and dialects. -/
def events (s : Session) : List (String × Dialect × Event) :=
  (named s.connections).flatMap fun e => e.2.events.map fun event => (e.1, e.2.dialect, event)

/-- A session whose connections were asked nothing. -/
def forget (s : Session) : Session :=
  { s with connections := s.connections.map fun e => (e.1, { e.2 with log := [] }) }

/-- Does one thing, and tells what comes of it and what the connections were asked. -/
def step (s : Session) (what : Step) : Session × Outcome × List (String × Dialect × Event) :=
  let (s, outcome) := s.act what
  (s.forget, outcome, s.events)

end Session

end SqlContract
