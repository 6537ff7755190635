/-
The readers that the grammar of SQL is knotted from.

Nearly every part of SQL may hold nearly every other one.  A reader of a part takes the readers of
what it may hold from a record, so the readers can be defined one after another, and the record is
tied to them at the end.

* `SelectForm`, `TableForm`, `TypeForm`, `FieldForm`, `CallForm` — where a part stands, as far as its
  reading depends on it;
* `Grammar` — the readers, for one engine;
* `Grammar.silent` — readers that read nothing.
-/

import SqlContract.Sql.Reader

set_option autoImplicit false
set_option relaxedAutoImplicit false

namespace SqlContract.Sql

/-- Where a query stands. -/
structure SelectForm where
  /-- Whether a query in brackets is due as well. -/
  nested : Bool := false
  /-- Whether it stands for a table. -/
  table : Bool := false
  /-- Whether a query in brackets may be given a name. -/
  named : Bool := true
  /-- Whether a UNION, EXCEPT or INTERSECT may follow. -/
  united : Bool := true
  deriving DecidableEq, Repr

/-- Where a table stands. -/
structure TableForm where
  /-- Whether a list of columns may follow its name, and no name given to it. -/
  schema : Bool := false
  /-- Whether joins may follow. -/
  joins : Bool := false
  /-- Where the name given to it stands. -/
  place : NamePlace := .table
  deriving DecidableEq, Repr

/-- Where a type stands. -/
structure TypeForm where
  /-- Whether brackets behind it make it a call. -/
  calls : Bool := false
  /-- Whether it is the type of a column. -/
  schema : Bool := false
  /-- Whether a name may be a type of the user's own. -/
  names : Bool := true
  deriving DecidableEq, Repr

/-- Where a field stands. -/
structure FieldForm where
  /-- Whether any token that is not reserved may be a name. -/
  anyToken : Bool := false
  place : NamePlace := .any
  /-- Whether a call is one of no known function. -/
  anonymous : Bool := false
  deriving DecidableEq, Repr

/-- Where a call stands. -/
structure CallForm where
  anonymous : Bool := false
  /-- Whether functions without brackets are due as well. -/
  bare : Bool := true
  anyToken : Bool := false
  deriving DecidableEq, Repr

/-- The readers of the parts of SQL. -/
structure Grammar where
  dialect : Dialect
  statement : Reader (Option Tree)
  select : SelectForm → Reader (Option Tree)
  setOperations : Option Tree → Reader (Option Tree)
  modifiers : Option Tree → Reader (Option Tree)
  table : TableForm → Reader (Option Tree)
  joins : Reader (List Tree)
  schema : Option Tree → Reader (Option Tree)
  expression : Reader (Option Tree)
  assignment : Reader (Option Tree)
  disjunction : Reader (Option Tree)
  equality : Reader (Option Tree)
  range : Reader (Option Tree)
  bitwise : Reader (Option Tree)
  term : Reader (Option Tree)
  factor : Reader (Option Tree)
  unary : Reader (Option Tree)
  operand : Reader (Option Tree)
  column : Reader (Option Tree)
  field : FieldForm → Reader (Option Tree)
  primary : Reader (Option Tree)
  call : CallForm → Reader (Option Tree)
  hole : Reader (Option Tree)
  typeName : TypeForm → Reader (Option Tree)
  columnDefinition : Option Tree → (computed : Bool) → Reader (Option Tree)

/-- Readers that read nothing: they fail. -/
def Grammar.silent (d : Dialect) : Grammar where
  dialect := d
  statement := failure
  select _ := failure
  setOperations _ := failure
  modifiers _ := failure
  table _ := failure
  joins := failure
  schema _ := failure
  expression := failure
  assignment := failure
  disjunction := failure
  equality := failure
  range := failure
  bitwise := failure
  term := failure
  factor := failure
  unary := failure
  operand := failure
  column := failure
  field _ := failure
  primary := failure
  call _ := failure
  hole := failure
  typeName _ := failure
  columnDefinition _ _ := failure

end SqlContract.Sql
