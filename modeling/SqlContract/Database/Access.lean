/-
Access to a database: what callers see of the faults of a driver.

A fault to reach the database and a lack of privileges have words of their own; any other fault
passes as it is.

* `DriverFault` — a fault that a driver reports;
* `AccessError` — what callers see, with its wording;
* `guarded` — a result with its fault as callers see it.
-/

import SqlContract.ScalarType

set_option autoImplicit false
set_option relaxedAutoImplicit false

namespace SqlContract

/-- A fault that a driver reports. -/
inductive DriverFault
  /-- The database does not answer. -/
  | operational (message : String)
  /-- The database refuses a request. -/
  | programming (message : String)
  /-- A request would break a constraint. -/
  | integrity (message : String)
  /-- A fault outside the driver. -/
  | foreign (kind message : String)
  deriving DecidableEq, Repr

/-- What callers see of a fault. -/
inductive AccessError
  | unreachable
  | forbidden
  | passed (fault : DriverFault)
  deriving DecidableEq, Repr

namespace AccessError

/-- The words in a refusal that stand for a lack of privileges. -/
def privilegeMark : String := "InsufficientPrivilege"

/-- What callers see of a fault. -/
def ofFault : DriverFault → AccessError
  | .operational _ => .unreachable
  | .programming message =>
      if ScalarType.occursIn privilegeMark.toList message.toList then .forbidden
      else .passed (.programming message)
  | fault => .passed fault

/-- The wording of an error. -/
def message : AccessError → String
  | .unreachable =>
      "Could not reach the database. " ++
        "Either there is a connection issue or the credentials are bad."
  | .forbidden => "insufficient privileges"
  | .passed (.operational m) | .passed (.programming m) | .passed (.integrity m)
  | .passed (.foreign _ m) => m

end AccessError

/-- A result with its fault as callers see it. -/
def guarded {α : Type} (r : Except DriverFault α) : Except AccessError α :=
  r.mapError AccessError.ofFault

end SqlContract
