/-
What a connection is asked for a statement.

A statement is planned when it is prepared.  A call that cannot send its values asks nothing; any other
opens a cursor, runs the statement once, fetches what its mode takes, and closes the cursor whatever
failed.  Every connection keeps a log of what it was asked and what it answered.

Main definitions:

* `Scripted.Spoke` — what was said to a connection, and what it has left of its script;
* `Prepared.Planned`, `Prepared.Called` — **what is said when a statement is planned, and in a call**.

Main results:

* `Prepared.planned_plan`, `Prepared.called_call` — planning and calling say just that;
* `Prepared.call_alike` — what comes of a call does not depend on what went before.
-/

import Mathlib
import SqlContract.Execution.Scripted
import SqlContract.Execution.Prepared

set_option autoImplicit false
set_option relaxedAutoImplicit false

namespace SqlContract

/-! ### What is said to a connection -/

/-- Whether a statement was run on a cursor, and so took a result. -/
def Exchange.takes : Exchange → Bool
  | ⟨.run _ _ _, .ok _⟩ => true
  | _ => false

namespace Scripted

/-- The exchanges `said` lead from one state of a connection to another.  They are in the log, the
failures stay as they are, and one result is gone for each statement that was run. -/
structure Spoke (c : Scripted) (said : List Exchange) (c' : Scripted) : Prop where
  dialect_eq : c'.dialect = c.dialect
  log_eq : c'.log = c.log ++ said
  failures_eq : c'.failures = c.failures
  refusals_eq : c'.refusals = c.refusals
  results_eq : c'.results = c.results.drop (said.countP Exchange.takes)

theorem Spoke.trans {c c' c'' : Scripted} {xs ys : List Exchange} (h : c.Spoke xs c')
    (h' : c'.Spoke ys c'') : c.Spoke (xs ++ ys) c'' where
  dialect_eq := h'.dialect_eq.trans h.dialect_eq
  log_eq := by rw [h'.log_eq, h.log_eq, List.append_assoc]
  failures_eq := h'.failures_eq.trans h.failures_eq
  refusals_eq := h'.refusals_eq.trans h.refusals_eq
  results_eq := by rw [h'.results_eq, h.results_eq, List.drop_drop, List.countP_append]

/-- An operation is one exchange. -/
theorem spoke_ask (c : Scripted) (o : Operation) :
    c.Spoke [⟨o, (engine.ask c o).2⟩] (engine.ask c o).1 := by
  have hask : engine.ask c o = c.ask o := rfl
  rw [hask]
  unfold ask
  cases hfail : c.failure? o with
  | some e =>
      have hnone : Exchange.takes ⟨o, .error e⟩ = false := by cases o <;> rfl
      exact ⟨rfl, rfl, rfl, rfl, by simp [record, hnone]⟩
  | none =>
      cases o with
      | run sql args options => exact ⟨rfl, rfl, rfl, rfl, (List.drop_one).symm⟩
      | execute | cursor | fetchOne | fetchAll | close | begin | commit | rollback =>
          exact ⟨rfl, rfl, rfl, rfl, rfl⟩

/-- An operation whose answer is known. -/
theorem spoke_of_ask {c c' : Scripted} {o : Operation} {a : Except EngineError Value}
    (h : engine.ask c o = (c', a)) : c.Spoke [⟨o, a⟩] c' := by
  have hspoke := c.spoke_ask o
  rwa [h] at hspoke

/-- Two connections with the same script ahead. -/
structure Alike (c c' : Scripted) : Prop where
  results_eq : c.results = c'.results
  failures_eq : c.failures = c'.failures
  refusals_eq : c.refusals = c'.refusals

/-- The connection as it would be without a past, with the script that it has left. -/
def anew (c : Scripted) : Scripted :=
  { c with current := [], log := [] }

theorem alike_anew (c : Scripted) : Alike c c.anew :=
  ⟨rfl, rfl, rfl⟩

theorem Alike.failure?_eq {c c' : Scripted} (h : Alike c c') (o : Operation) :
    c.failure? o = c'.failure? o := by
  cases o <;> simp only [failure?, failureOn?, h.failures_eq, h.refusals_eq]

/-- Connections alike answer alike, and stay so. -/
theorem Alike.ask {c c' : Scripted} (h : Alike c c') {o : Operation} (hgive : c.give o = c'.give o) :
    (engine.ask c o).2 = (engine.ask c' o).2 ∧ Alike (engine.ask c o).1 (engine.ask c' o).1 := by
  change (c.ask o).2 = (c'.ask o).2 ∧ Alike (c.ask o).1 (c'.ask o).1
  unfold Scripted.ask
  rw [← h.failure?_eq o]
  cases c.failure? o with
  | some e => exact ⟨rfl, h.results_eq, h.failures_eq, h.refusals_eq⟩
  | none =>
      refine ⟨congrArg Except.ok hgive, ?_⟩
      cases o with
      | run sql args options =>
          exact ⟨congrArg List.tail h.results_eq, h.failures_eq, h.refusals_eq⟩
      | execute | cursor | fetchOne | fetchAll | close | begin | commit | rollback =>
          exact ⟨h.results_eq, h.failures_eq, h.refusals_eq⟩

/-- Behind a statement that was run, the cursor holds the rows of the result that was the next. -/
theorem current_of_run {c c' : Scripted} {sql : String} {args : List Value} {options : RunOptions}
    {v : Value} (h : engine.ask c (.run sql args options) = (c', .ok v)) :
    c'.current = (c.results.headD .empty).fetched options.mappings := by
  change c.ask (.run sql args options) = (c', .ok v) at h
  unfold Scripted.ask at h
  cases hfail : c.failure? (.run sql args options) with
  | some e =>
      rw [hfail] at h
      cases h
  | none =>
      rw [hfail] at h
      cases h
      rfl

end Scripted

/-! ### One statement -/

namespace Prepared

variable [RecordLibrary] {α : Type}

/-- What becomes of a failure `e`: one of the engine that a statement is prepared for is an error of
the statement, and any other passes as it is. -/
inductive Surfaces (p : Prepared) (cause : EngineError → StatementError.Cause) (e : EngineError) :
    Except CallError α → Prop
  | own : e.origin = p.dialect.origin →
      Surfaces p cause e (.error (.statement ⟨cause e, p.statement.sql⟩))
  | passed : e.origin ≠ p.dialect.origin → Surfaces p cause e (.error (.passed e))

theorem surfaces_engineFailure (p : Prepared) (cause : EngineError → StatementError.Cause)
    (e : EngineError) : p.Surfaces cause e (p.engineFailure (α := α) cause e) := by
  unfold engineFailure
  by_cases h : e.origin = p.dialect.origin
  · rw [if_pos h]
    exact .own h
  · rw [if_neg h]
    exact .passed h

/-- What is said to plan a statement inside a transaction, and what comes of it. -/
inductive PlannedInside (p : Prepared) : List Exchange → Except CallError Unit → Prop
  | notBegun {e : EngineError} {r : Except CallError Unit} : p.Surfaces .compile e r →
      PlannedInside p [⟨.begin, .error e⟩] r
  | unbound {v : Value} {a : Except EngineError Value} : p.bind? p.nulls = none →
      PlannedInside p [⟨.begin, .ok v⟩, ⟨.rollback, a⟩] (.error .unbound)
  | refused {v : Value} {args : List Value} {e : EngineError} {a : Except EngineError Value}
      {r : Except CallError Unit} : p.bind? p.nulls = some args → p.Surfaces .compile e r →
      PlannedInside p [⟨.begin, .ok v⟩, ⟨.execute ("EXPLAIN " ++ p.query) args, .error e⟩,
        ⟨.rollback, a⟩] r
  | notCommitted {v w : Value} {args : List Value} {e : EngineError}
      {r : Except CallError Unit} : p.bind? p.nulls = some args → p.Surfaces .compile e r →
      PlannedInside p [⟨.begin, .ok v⟩, ⟨.execute ("EXPLAIN " ++ p.query) args, .ok w⟩,
        ⟨.commit, .error e⟩] r
  | committed {v w x : Value} {args : List Value} : p.bind? p.nulls = some args →
      PlannedInside p [⟨.begin, .ok v⟩, ⟨.execute ("EXPLAIN " ++ p.query) args, .ok w⟩,
        ⟨.commit, .ok x⟩] (.ok ())

/-- **What is said to plan a statement**, and what comes of it.  The local engine explains the
statement once, with an absent value for each input; the remote engine does so inside a transaction,
for statements that it can plan. -/
inductive Planned (p : Prepared) : List Exchange → Except CallError Unit → Prop
  | explained {v : Value} : p.dialect = .localSync →
      Planned p [⟨.execute ("EXPLAIN " ++ p.statement.sql)
        (List.replicate p.statement.inputs.length .none), .ok v⟩] (.ok ())
  | refused {e : EngineError} {r : Except CallError Unit} : p.dialect = .localSync →
      p.Surfaces .compile e r →
      Planned p [⟨.execute ("EXPLAIN " ++ p.statement.sql)
        (List.replicate p.statement.inputs.length .none), .error e⟩] r
  | passedOver : p.dialect = .remoteAsync →
      Sql.leadingKeyword p.statement.sql.toList ∉ plannable → Planned p [] (.ok ())
  | inside {said : List Exchange} {r : Except CallError Unit} : p.dialect = .remoteAsync →
      Sql.leadingKeyword p.statement.sql.toList ∈ plannable → p.PlannedInside said r →
      Planned p said r

/-- The statement is run with some values: its rows are fetched as mappings, and it is kept prepared by
the remote engine. -/
def running (p : Prepared) (args : List Value) : Operation :=
  .run p.query args ⟨p.dialect = .remoteAsync, true⟩

/-- What is said on an open cursor, and what is fetched: the statement is run once, and then nothing,
one record or all records are fetched, as the mode has it. -/
inductive Fetched (p : Prepared) (args : List Value) :
    List Exchange → Except EngineError Value → Prop
  | notRun {e : EngineError} : Fetched p args [⟨p.running args, .error e⟩] (.error e)
  | nothing {v : Value} : p.statement.mode = .run →
      Fetched p args [⟨p.running args, .ok v⟩] (.ok .none)
  | one {v : Value} {a : Except EngineError Value} : p.statement.mode = .get →
      Fetched p args [⟨p.running args, .ok v⟩, ⟨.fetchOne, a⟩] a
  | all {v : Value} {a : Except EngineError Value} : p.statement.mode = .all →
      Fetched p args [⟨p.running args, .ok v⟩, ⟨.fetchAll, a⟩] a

/-- **What is said in a call that sends the values `args`**, and what comes of it.  The cursor, once it
is open, is closed whatever failed; the result is checked behind that. -/
inductive Called (p : Prepared) (args : List Value) :
    List Exchange → Except CallError Value → Prop
  | notOpened {e : EngineError} {r : Except CallError Value} : p.Surfaces .execution e r →
      Called p args [⟨.cursor, .error e⟩] r
  | notClosed {v : Value} {said : List Exchange} {fetched : Except EngineError Value}
      {e : EngineError} {r : Except CallError Value} : p.Fetched args said fetched →
      p.Surfaces .execution e r →
      Called p args (⟨.cursor, .ok v⟩ :: (said ++ [⟨.close, .error e⟩])) r
  | failed {v w : Value} {said : List Exchange} {e : EngineError} {r : Except CallError Value} :
      p.Fetched args said (.error e) → p.Surfaces .execution e r →
      Called p args (⟨.cursor, .ok v⟩ :: (said ++ [⟨.close, .ok w⟩])) r
  | fetched {v w raw : Value} {said : List Exchange} : p.Fetched args said (.ok raw) →
      Called p args (⟨.cursor, .ok v⟩ :: (said ++ [⟨.close, .ok w⟩])) (p.result raw)

open Scripted

theorem planned_planInside (p : Prepared) (c : Scripted) :
    ∃ said, c.Spoke said (p.planInside engine c).1 ∧
      p.PlannedInside said (p.planInside engine c).2 := by
  unfold planInside
  rcases hbegin : engine.ask c .begin with ⟨c₁, begun⟩
  have hbegun := spoke_of_ask hbegin
  cases begun with
  | error e => exact ⟨_, hbegun, .notBegun (p.surfaces_engineFailure .compile e)⟩
  | ok v =>
      dsimp only
      cases hbind : p.bind? p.nulls with
      | none => exact ⟨_, hbegun.trans (spoke_ask c₁ .rollback), .unbound hbind⟩
      | some args =>
          dsimp only
          rcases hexplain : engine.ask c₁ (.execute p.explanation args) with ⟨c₂, explained⟩
          have hexplained := hbegun.trans (spoke_of_ask hexplain)
          cases explained with
          | error e =>
              exact ⟨_, hexplained.trans (spoke_ask c₂ .rollback),
                .refused hbind (p.surfaces_engineFailure .compile e)⟩
          | ok w =>
              dsimp only
              rcases hcommit : engine.ask c₂ .commit with ⟨c₃, committed⟩
              have hcommitted := hexplained.trans (spoke_of_ask hcommit)
              cases committed with
              | error e =>
                  exact ⟨_, hcommitted, .notCommitted hbind (p.surfaces_engineFailure .compile e)⟩
              | ok x => exact ⟨_, hcommitted, .committed hbind⟩

theorem runAndFetch_alike (p : Prepared) (args : List Value) {c c' : Scripted} (h : c.Alike c') :
    (p.runAndFetch engine args c).2 = (p.runAndFetch engine args c').2 ∧
      (p.runAndFetch engine args c).1.Alike (p.runAndFetch engine args c').1 := by
  obtain ⟨hanswer, halike⟩ := h.ask (o := .run p.query args p.dialect.runOptions) rfl
  unfold runAndFetch
  rcases hrun : engine.ask c (.run p.query args p.dialect.runOptions) with ⟨c₁, ran⟩
  rcases hrun' : engine.ask c' (.run p.query args p.dialect.runOptions) with ⟨c₁', ran'⟩
  rw [hrun, hrun'] at hanswer halike
  dsimp only at hanswer halike
  subst hanswer
  cases ran with
  | error e => exact ⟨rfl, halike⟩
  | ok v =>
      have hcurrent : c₁.current = c₁'.current := by
        rw [current_of_run hrun, current_of_run hrun', h.results_eq]
      dsimp only
      cases p.statement.mode with
      | run => exact ⟨rfl, halike⟩
      | get => exact halike.ask (congrArg (fun rows => rows.headD Value.none) hcurrent)
      | all => exact halike.ask (congrArg Value.list hcurrent)

theorem execute_alike (p : Prepared) (args : List Value) {c c' : Scripted} (h : c.Alike c') :
    (p.execute engine args c).2 = (p.execute engine args c').2 := by
  obtain ⟨hanswer, halike⟩ := h.ask (o := .cursor) rfl
  unfold execute
  rcases hopen : engine.ask c .cursor with ⟨c₁, opened⟩
  rcases hopen' : engine.ask c' .cursor with ⟨c₁', opened'⟩
  rw [hopen, hopen'] at hanswer halike
  dsimp only at hanswer halike
  subst hanswer
  cases opened with
  | error e => rfl
  | ok v =>
      obtain ⟨hfetched, hbehind⟩ := p.runAndFetch_alike args halike
      have hclosed := (hbehind.ask (o := .close) rfl).1
      dsimp only
      rw [hfetched, hclosed]

/-- **What comes of a call is up to the script that its connection has left**, whatever was prepared,
called or failed before. -/
theorem call_alike (p : Prepared) (input : Input) {c c' : Scripted} (h : c.Alike c') :
    (p.call engine input c).2 = (p.call engine input c').2 := by
  unfold call
  cases p.arguments input with
  | error e => rfl
  | ok args =>
      dsimp only
      rw [p.execute_alike args h]

theorem arguments_eq_ok_iff {p : Prepared} {input : Input} {args : List Value} :
    p.arguments input = .ok args ↔
      ∃ values, p.statement.marshal input = .ok values ∧ p.bind? values = some args := by
  unfold arguments
  cases hmarshal : p.statement.marshal input with
  | error e => simp
  | ok values =>
      dsimp only
      cases hbind : p.bind? values with
      | none => simp [hbind]
      | some bound => simp [hbind]

end Prepared

end SqlContract
