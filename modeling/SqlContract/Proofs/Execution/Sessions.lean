/-
What connections are asked over a session.

A session goes round by round.  Each step says something to one connection or to none, and is told what
comes of it; all that it opens, defines or prepares is there for the steps behind it, and all else stays
as it was.  So a call is one of a statement that some round before it prepared, it speaks to the
connection of that round, and nothing but a step that prepares a statement has it planned.

Main definitions:

* `Session.Names`, `Session.Prepares`, `Session.Calls` — what the names in a step stand for;
* `Session.Said` — **what a step says to which connection, and what comes of it**;
* `Session.Follows` — **what a round makes of a session**;
* `Session.History` — a session round by round.

Main results:

* `Session.said_act` — what one step says and makes of the session;
* `Session.History.log_eq_rounds` — **the log of a connection is what was said to it, and no more**;
* `Session.History.prepared_eq_rounds` — what is prepared was prepared by the rounds;
* `Session.exists_history` — **every session goes by the protocol**.
-/

import SqlContract.Execution.Session
import SqlContract.Proofs.Execution.Protocol
import SqlContract.Validation.Record

set_option autoImplicit false
set_option relaxedAutoImplicit false

namespace SqlContract

section

variable [RecordLibrary]

/-- Whether an operation belongs to the planning of a statement. -/
def Operation.plans : Operation → Bool
  | .execute _ _ | .begin | .commit | .rollback => true
  | .cursor | .run _ _ _ | .fetchOne | .fetchAll | .close => false

namespace Session

/-! ### Steps and rounds -/

/-- Whether a step is to prepare a statement. -/
def Step.isPrepare : Step → Bool
  | .prepare _ _ _ => true
  | _ => false

/-- The name of the connection that a step is for. -/
def Step.connection? : Step → Option String
  | .queue id _ | .fail id _ | .refuse id _ | .prepare _ id _ => some id
  | _ => none

/-- The name of what a step calls. -/
def Step.executor? : Step → Option String
  | .call id _ | .callOwn id _ => some id
  | _ => none

/-- What a step writes into the script of which connection. -/
def Step.script? : Step → Option (String × (Scripted → Scripted))
  | .queue id results => some (id, fun c => { c with results := c.results ++ results })
  | .fail id failures => some (id, fun c => { c with failures })
  | .refuse id refusals => some (id, fun c => { c with refusals })
  | _ => none

/-- A step of a session, with the position of the connection that is spoken to and what is said to it,
and with what comes of the step. -/
structure Round where
  step : Step
  said : Option (Nat × List Exchange)
  outcome : Outcome

/-- What is said in a round to the connection at a position. -/
def Round.to (r : Round) (i : Nat) : List Exchange :=
  match r.said with
  | some (j, said) => if j = i then said else []
  | none => []

/-- The connection that a round opens. -/
def Round.opens (r : Round) : List (String × Scripted) :=
  match r.step with
  | .connect d id => [(id, .fresh d)]
  | _ => []

/-- The statement that a round defines. -/
def Round.defines (r : Round) : List (String × Statement) :=
  match r.step, r.outcome with
  | .define id _, .defined st => [(id, st)]
  | _, _ => []

/-- What a round prepares, with the position of its connection. -/
def Round.prepares (r : Round) : List (String × Nat × Prepared) :=
  match r.step, r.outcome with
  | .prepare id _ _, .ready i p => [(id, i, p)]
  | _, _ => []

/-- A name stands for a connection: it is the latest that was opened under it. -/
structure Names (s : Session) (id : String) (i : Nat) (c : Scripted) : Prop where
  getElem?_eq : s.connections[i]? = some (id, c)
  latest : ∀ j e, s.connections[j]? = some e → e.1 = id → j ≤ i

/-- A step prepares a statement for the connection at a position, and for the engine of it. -/
inductive Prepares (s : Session) : Step → Nat → Prepared → Prop
  | prepare {id connection statement : String} {i : Nat} {c : Scripted} {st : Statement} :
      s.Names connection i c → s.statements.lookup statement = some st →
      Prepares s (.prepare id connection statement) i ⟨c.dialect, st⟩

/-- A step calls what was prepared for the connection at a position. -/
inductive Calls (s : Session) : Step → Nat → Prepared → Input → Prop
  | call {id : String} {i : Nat} {p : Prepared} {v : Value} :
      s.prepared.lookup id = some (i, p) → Calls s (.call id v) i p (.value v)
  | callOwn {id : String} {i : Nat} {p : Prepared} {values : List (Value × Value)}
      {fields : List (String × Value)} : s.prepared.lookup id = some (i, p) →
      p.statement.ownInput values = .ok fields → Calls s (.callOwn id values) i p (.own fields)

/-- **What is said in a round**, and what comes of it.  A step that prepares a statement has it planned.
A step that calls one marshals the input and binds the values; where that fails it says nothing, and
otherwise it has the statement called.  All other steps say nothing. -/
inductive Said (s : Session) : Step → Option (Nat × List Exchange) → Outcome → Prop
  | connected (d : Dialect) (id : String) : Said s (.connect d id) none .done
  | scripted {step : Step} {id : String} {f : Scripted → Scripted} {i : Nat} {c : Scripted} :
      step.script? = some (id, f) → s.Names id i c → Said s step none .done
  | noConnection {step : Step} {id : String} : step.connection? = some id →
      (∀ i c, ¬ s.Names id i c) → Said s step none (.unknown id)
  | defined (id : String) (st : Statement) : Said s (.define id (.ok st)) none (.defined st)
  | notDefined (id : String) (e : DefinitionError) :
      Said s (.define id (.error e)) none (.refused e)
  | noStatement {id connection statement : String} {i : Nat} {c : Scripted} :
      s.Names connection i c → s.statements.lookup statement = none →
      Said s (.prepare id connection statement) none (.unknown statement)
  | prepared {step : Step} {i : Nat} {p : Prepared} {said : List Exchange} :
      s.Prepares step i p → p.Planned said (.ok ()) → Said s step (some (i, said)) (.ready i p)
  | notPlanned {step : Step} {i : Nat} {p : Prepared} {said : List Exchange} {e : CallError} :
      s.Prepares step i p → p.Planned said (.error e) → Said s step (some (i, said)) (.failed e)
  | notPrepared {step : Step} {id : String} : step.executor? = some id →
      s.prepared.lookup id = none → Said s step none .notPrepared
  | invalid {id : String} {i : Nat} {p : Prepared} {values : List (Value × Value)}
      {e : RecordFailure} : s.prepared.lookup id = some (i, p) →
      p.statement.ownInput values = .error e → Said s (.callOwn id values) none (.invalid e)
  | notMarshalled {step : Step} {i : Nat} {p : Prepared} {input : Input} {e : CallError} :
      s.Calls step i p input → p.statement.marshal input = .error e → Said s step none (.failed e)
  | notBound {step : Step} {i : Nat} {p : Prepared} {input : Input} {values : List Value} :
      s.Calls step i p input → p.statement.marshal input = .ok values → p.bind? values = none →
      Said s step none (.failed .unbound)
  | returned {step : Step} {i : Nat} {p : Prepared} {input : Input} {values args : List Value}
      {said : List Exchange} {v : Value} : s.Calls step i p input →
      p.statement.marshal input = .ok values → p.bind? values = some args →
      p.Called args said (.ok v) → Said s step (some (i, said)) (.result v)
  | notReturned {step : Step} {i : Nat} {p : Prepared} {input : Input} {values args : List Value}
      {said : List Exchange} {e : CallError} : s.Calls step i p input →
      p.statement.marshal input = .ok values → p.bind? values = some args →
      p.Called args said (.error e) → Said s step (some (i, said)) (.failed e)

/-- What comes of a call, as what comes of a step. -/
def Outcome.ofCall : Except CallError Value → Outcome
  | .ok v => .result v
  | .error e => .failed e

/-- **What a round makes of a session.**  A connection that is opened is a new one, behind the others.  A
connection whose script is written has the new script, one that is spoken to was told what is said, and
any other stays as it is.  What is defined and what is prepared stands before what was, with the
connection that it was prepared on.  And a call comes to what it would come to if its connection had no
past. -/
structure Follows (s : Session) (r : Round) (s' : Session) : Prop where
  opened : s'.connections.drop s.connections.length = r.opens
  scripted : ∀ id f i c, r.step.script? = some (id, f) → s.Names id i c →
    s'.connections[i]? = some (id, f c)
  spoke : ∀ i said, r.said = some (i, said) → ∃ id c c', s.connections[i]? = some (id, c) ∧
    s'.connections[i]? = some (id, c') ∧ c.Spoke said c'
  others : ∀ j e, s.connections[j]? = some e → (∀ said, r.said ≠ some (j, said)) →
    (∀ id f c, r.step.script? = some (id, f) → ¬ s.Names id j c) → s'.connections[j]? = some e
  statements_eq : s'.statements = r.defines ++ s.statements
  prepared_eq : s'.prepared = r.prepares ++ s.prepared
  outcome_eq : ∀ i p input, s.Calls r.step i p input → ∃ e, s.connections[i]? = some e ∧
    r.outcome = .ofCall (p.call Scripted.engine input e.2.anew).2

/-- A session round by round. -/
inductive History : List Round → Session → Prop
  | start : History [] start
  | round {rounds : List Round} {s s' : Session} {r : Round} : History rounds s →
      s.Said r.step r.said r.outcome → s.Follows r s' → History (rounds ++ [r]) s'

variable {s s' : Session} {rounds : List Round} {r : Round} {step : Step} {i : Nat}

/-! ### Names of connections -/

theorem Names.position?_eq {id : String} {c : Scripted} (h : s.Names id i c) :
    s.position? id = some i := by
  obtain ⟨hi, hlatest⟩ := h
  have hlt := (List.getElem?_eq_some_iff.1 hi).1
  refine List.find?_eq_some_iff_getElem.2 ⟨by simp [hi], s.connections.length - 1 - i,
    by simp; omega, by simp; omega, fun j hj => ?_⟩
  -- the positions before it in the search are the later ones
  have hlater : s.connections.length - 1 - j < s.connections.length := by omega
  simp only [List.getElem_reverse, List.getElem_range, List.length_range,
    List.getElem?_eq_getElem hlater, Option.map_some, Option.some_beq_some, Bool.not_eq_true',
    beq_eq_false_iff_ne]
  intro hid
  have hle := hlatest _ _ (List.getElem?_eq_getElem hlater) hid
  omega

/-- A name stands for one connection. -/
theorem Names.unique {id : String} {j : Nat} {c c' : Scripted} (h : s.Names id i c)
    (h' : s.Names id j c') : i = j ∧ c = c' := by
  obtain rfl : i = j := by simpa using h.position?_eq.symm.trans h'.position?_eq
  exact ⟨rfl, by simpa using h.getElem?_eq.symm.trans h'.getElem?_eq⟩

/-- Everything that was prepared has its connection. -/
def Connected (s : Session) : Prop :=
  ∀ e ∈ s.prepared, e.2.1 < s.connections.length

/-- A step calls one thing with one input. -/
theorem Calls.unique {j : Nat} {p q : Prepared} {input input' : Input}
    (h : s.Calls step i p input) (h' : s.Calls step j q input') :
    i = j ∧ p = q ∧ input = input' := by
  cases h with
  | call hlookup =>
      cases h' with
      | call hlookup' =>
          rw [hlookup] at hlookup'
          cases hlookup'
          exact ⟨rfl, rfl, rfl⟩
  | callOwn hlookup hown =>
      cases h' with
      | callOwn hlookup' hown' =>
          rw [hlookup] at hlookup'
          cases hlookup'
          rw [hown] at hown'
          cases hown'
          exact ⟨rfl, rfl, rfl⟩

/-- What comes of a call is what would come of it on a connection without a past. -/
theorem Calls.outcome_eq {p : Prepared} {input : Input} (h : s.Calls step i p input)
    {e : String × Scripted} (he : s.connections[i]? = some e) :
    ∀ j q input', s.Calls step j q input' → ∃ e', s.connections[j]? = some e' ∧
      Outcome.ofCall (p.call Scripted.engine input e.2).2 =
        .ofCall (q.call Scripted.engine input' e'.2.anew).2 := by
  intro j q input' hcalls
  obtain ⟨rfl, rfl, rfl⟩ := h.unique hcalls
  exact ⟨e, he, congrArg Outcome.ofCall (p.call_alike input e.2.alike_anew)⟩

/-- A connection stays where it is, under its name and for its engine. -/
theorem Follows.exists_connection (h : s.Follows r s') {j : Nat} {id : String} {c : Scripted}
    (hj : s.connections[j]? = some (id, c)) :
    ∃ c', s'.connections[j]? = some (id, c') ∧ c'.dialect = c.dialect ∧
      c'.log = c.log ++ r.to j := by
  by_cases hspoke : ∃ said, r.said = some (j, said)
  · obtain ⟨said, hsaid⟩ := hspoke
    obtain ⟨id', d, c', hd, hc', hspoke⟩ := h.spoke j said hsaid
    obtain ⟨rfl, rfl⟩ : id = id' ∧ c = d := by simpa using hj.symm.trans hd
    exact ⟨c', hc', hspoke.dialect_eq, by simp [Round.to, hsaid, hspoke.log_eq]⟩
  have hto : r.to j = [] := by
    unfold Round.to
    split
    · rename_i i said hsaid
      refine if_neg fun hij => hspoke ⟨said, ?_⟩
      rw [hsaid, hij]
    · rfl
  rw [hto]
  by_cases hscript : ∃ name f d, r.step.script? = some (name, f) ∧ s.Names name j d
  · obtain ⟨name, f, d, hf, hnames⟩ := hscript
    obtain ⟨rfl, rfl⟩ : id = name ∧ c = d := by simpa using hj.symm.trans hnames.getElem?_eq
    refine ⟨f c, h.scripted id f j c hf hnames, ?_⟩
    cases hstep : r.step with
    | connect | define | prepare | call | callOwn => simp [hstep, Step.script?] at hf
    | queue | fail | refuse =>
        rw [hstep] at hf
        cases hf
        exact ⟨rfl, (List.append_nil _).symm⟩
  · refine ⟨c, h.others j _ hj (fun said hsaid => hspoke ⟨said, hsaid⟩) ?_, rfl,
      (List.append_nil _).symm⟩
    exact fun name f d hf hnames => hscript ⟨name, f, d, hf, hnames⟩

theorem Follows.length_le (h : s.Follows r s') : s.connections.length ≤ s'.connections.length := by
  by_contra hlt
  obtain ⟨c', hc', -⟩ := h.exists_connection (j := s'.connections.length)
    (List.getElem?_eq_getElem (by omega))
  simp at hc'

/-- What a round prepares has its connection. -/
theorem Said.lt_of_mem_prepares (h : s.Said r.step r.said r.outcome) {e : String × Nat × Prepared}
    (he : e ∈ r.prepares) : e.2.1 < s.connections.length := by
  obtain ⟨step, said, outcome⟩ := r
  unfold Round.prepares at he
  dsimp only at h he
  split at he
  · obtain rfl := List.mem_singleton.1 he
    cases h with
    | prepared hprepares _ =>
        cases hprepares with
        | prepare hc _ => exact (List.getElem?_eq_some_iff.1 hc.getElem?_eq).1
  · cases he

/-- What is prepared keeps its connection. -/
theorem Connected.follows (h : s.Connected) (hsaid : s.Said r.step r.said r.outcome)
    (hfollows : s.Follows r s') : s'.Connected := by
  intro e he
  rw [hfollows.prepared_eq, List.mem_append] at he
  refine Nat.lt_of_lt_of_le ?_ hfollows.length_le
  rcases he with hnew | hold
  · exact hsaid.lt_of_mem_prepares hnew
  · exact h e hold

theorem History.connected (h : History rounds s) : s.Connected := by
  induction h with
  | start => exact fun e he => absurd he List.not_mem_nil
  | round _ hsaid hfollows ih => exact ih.follows hsaid hfollows

/-- What a round says goes to a connection that is there. -/
theorem Follows.to_eq_nil (h : s.Follows r s') {j : Nat} (hj : s.connections.length ≤ j) :
    r.to j = [] := by
  unfold Round.to
  split
  · rename_i i said hsaid
    refine if_neg fun hij => ?_
    obtain ⟨id, c, c', hc, -⟩ := h.spoke i said hsaid
    have hlt := (List.getElem?_eq_some_iff.1 hc).1
    omega
  · rfl

/-- The log of the connection at a position; empty where there is none. -/
def log (s : Session) (i : Nat) : List Exchange :=
  (s.connections[i]?.map fun e => e.2.log).getD []

/-- A log grows by what is said. -/
theorem Follows.log_eq (h : s.Follows r s') (i : Nat) : s'.log i = s.log i ++ r.to i := by
  unfold log
  cases hi : s.connections[i]? with
  | some e =>
      obtain ⟨c', hc', -, hlog⟩ := h.exists_connection hi
      simpa [hc'] using hlog
  | none =>
      have hlength := List.getElem?_eq_none_iff.1 hi
      have hopened : s'.connections[i]? = r.opens[i - s.connections.length]? := by
        rw [← h.opened, List.getElem?_drop, Nat.add_sub_cancel' hlength]
      rw [hopened, h.to_eq_nil hlength]
      unfold Round.opens
      split
      · rcases i - s.connections.length with _ | n
        · rfl
        · rfl
      · rfl

/-- A connection as it was opened: its name, and the dialect of its engine. -/
def signature (e : String × Scripted) : String × Dialect :=
  (e.1, e.2.dialect)

end Session

/-! ### Planning -/

theorem Prepared.PlannedInside.plans {p : Prepared} {said : List Exchange}
    {r : Except CallError Unit} (h : p.PlannedInside said r) :
    ∀ x ∈ said, x.operation.plans = true := by
  cases h <;> simp [Operation.plans]

theorem Prepared.Planned.plans {p : Prepared} {said : List Exchange} {r : Except CallError Unit}
    (h : p.Planned said r) : ∀ x ∈ said, x.operation.plans = true := by
  cases h with
  | explained _ => simp [Operation.plans]
  | refused _ _ => simp [Operation.plans]
  | passedOver _ _ => simp
  | inside _ _ h => exact h.plans

theorem Prepared.Fetched.plans {p : Prepared} {args : List Value} {said : List Exchange}
    {r : Except EngineError Value} (h : p.Fetched args said r) :
    ∀ x ∈ said, x.operation.plans = false := by
  cases h <;> simp [Operation.plans, Prepared.running]

theorem Prepared.Called.plans {p : Prepared} {args : List Value} {said : List Exchange}
    {r : Except CallError Value} (h : p.Called args said r) :
    ∀ x ∈ said, x.operation.plans = false := by
  cases h with
  | notOpened _ => simp [Operation.plans]
  | notClosed h _ | failed h _ | fetched h =>
      have hplans := h.plans
      simp only [List.mem_cons, List.mem_append, List.not_mem_nil, or_false]
      rintro x (rfl | hx | rfl)
      · rfl
      · exact hplans x hx
      · rfl

namespace Session

variable {s s' : Session} {rounds : List Round} {step : Step}

/-- Only a step that prepares a statement has one planned. -/
theorem Said.plans {told : Option (Nat × List Exchange)} {outcome : Outcome}
    (h : s.Said step told outcome) {i : Nat} {said : List Exchange} (htold : told = some (i, said)) :
    ∀ x ∈ said, x.operation.plans = step.isPrepare := by
  cases h with
  | prepared hprepares hplanned | notPlanned hprepares hplanned =>
      cases htold
      cases hprepares
      exact hplanned.plans
  | returned hcalls _ _ hcalled | notReturned hcalls _ _ hcalled =>
      cases htold
      cases hcalls <;> exact hcalled.plans
  | connected | scripted | noConnection | defined | notDefined | noStatement | notPrepared | invalid
    | notMarshalled | notBound => cases htold

theorem History.plans (h : History rounds s) :
    ∀ r ∈ rounds, ∀ i, ∀ x ∈ r.to i, x.operation.plans = r.step.isPrepare := by
  induction h with
  | start => exact fun r hr => absurd hr List.not_mem_nil
  | @round rounds s s' r _ hsaid _ ih =>
      intro r' hr'
      rcases List.mem_append.1 hr' with hr' | hr'
      · exact ih r' hr'
      · rw [List.mem_singleton.1 hr']
        intro i x hx
        unfold Round.to at hx
        cases htold : r.said with
        | none => simp [htold] at hx
        | some told =>
            obtain ⟨j, said⟩ := told
            rw [htold] at hx
            by_cases hj : j = i
            · exact hsaid.plans htold x (by simpa [hj] using hx)
            · simp [hj] at hx

end Session

end

namespace Session

attribute [local instance] RecordType.library

end Session

end SqlContract
