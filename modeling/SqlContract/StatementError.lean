/-
Errors of statements at run time.

* `EngineError` — a failure that an engine reports;
* `StatementError.Cause`, `StatementError` — what went wrong with a statement, with its SQL;
* `StatementError.text` — the text that reports an error.
-/

import SqlContract.ErrorKind
import SqlContract.Validation.Problem

set_option autoImplicit false
set_option relaxedAutoImplicit false

namespace SqlContract

/-- Where a failure comes from. -/
inductive Origin
  /-- The local engine. -/
  | localEngine
  /-- The remote engine. -/
  | remoteEngine
  /-- Anything but an engine. -/
  | elsewhere
  deriving DecidableEq, Repr

/-- A failure while a statement runs. -/
structure EngineError where
  origin : Origin
  /-- The name of the kind of failure. -/
  name : String
  message : String
  deriving DecidableEq, Repr

namespace StatementError

/-- What can go wrong with a statement. -/
inductive Cause
  /-- A statement is defined with a value that names no mode. -/
  | unknownMode (mode : Value)
  | repeatedInputs (inputs : List String)
  | undeclaredInputs (names : List String)
  /-- A statement without output declares a record of it. -/
  | runOutput
  | compile (e : EngineError)
  | execution (e : EngineError)
  /-- Values are given to a statement that takes none. -/
  | noInputs (payload : Value)
  | inputsRequired (inputs : List String) (payload : Value)
  /-- A value is no record of the input, in the words of what checked it. -/
  | invalidInput (problems : List Problem) (words : String) (payload : Value)
  | invalidOutput (problems : List Problem) (words : String) (payload : Value)
  /-- A fault that a caller reports in words of its own. -/
  | reported (kind : ErrorKind) (message : String) (payload : Value)
  deriving Repr

/-- The kind of error that a cause makes. -/
def Cause.kind : Cause → ErrorKind
  | .unknownMode _ | .repeatedInputs _ | .undeclaredInputs _ | .runOutput => .definition
  | .compile _ => .compile
  | .execution _ => .execution
  | .noInputs _ | .inputsRequired _ _ | .invalidInput _ _ _ => .callerInput
  | .invalidOutput _ _ _ => .output
  | .reported kind _ _ => kind

/-- The wording of a cause. -/
def Cause.message : Cause → String
  | .unknownMode mode => s!"unknown mode {mode.shown}, expected run, get or all"
  | .repeatedInputs inputs => s!"duplicate input keys in {Text.quotedList inputs}"
  | .undeclaredInputs names =>
      s!"input key(s) {Text.quotedList names} are not declared in the input schema"
  | .runOutput => "run statements discard their output and take no output schema"
  | .compile e => s!"failed to prepare statement: {e.message}"
  | .execution e => s!"failed to execute statement: {e.message}"
  | .noInputs _ => "statement takes no inputs"
  | .inputsRequired inputs _ => s!"statement requires inputs {Text.quotedList inputs}"
  | .invalidInput problems words _ =>
      s!"invalid input: {problems.length} validation error(s)\n{words}"
  | .invalidOutput problems words _ =>
      s!"result does not match the output schema: {problems.length} validation error(s)\n{words}"
  | .reported _ message _ => message

/-- The value that a cause is about. -/
def Cause.payload? : Cause → Option Value
  | .noInputs v | .inputsRequired _ v | .invalidInput _ _ v | .invalidOutput _ _ v => some v
  | .reported kind _ v =>
      if ErrorKind.validation ∈ kind.lineage then some v else none
  | _ => none

end StatementError

/-- Something that went wrong with a statement. -/
structure StatementError where
  cause : StatementError.Cause
  sql : String
  deriving Repr

namespace StatementError

/-- What follows the message in the text of an error: the SQL, and the value it is about. -/
def tail (e : StatementError) : String :=
  let sql := String.ofList (Text.strip e.sql.toList)
  "\nSQL: " ++ sql ++
    match e.cause.payload? with
    | some v => "\nPayload: " ++ v.shown
    | none => ""

/-- The text that reports an error. -/
def text (e : StatementError) : String :=
  e.cause.message ++ e.tail

end StatementError

end SqlContract
