/-
Schemas: the columns and constraints that a table is declared with.

A column is a name, perhaps a type, and constraints.  A name alone declares a column as well.

* `columnDefinition?` — a column, from behind its name on;
* `schema?` — the columns of a table in their brackets.
-/

import SqlContract.Sql.Constraint

set_option autoImplicit false
set_option relaxedAutoImplicit false

namespace SqlContract.Sql.Grammar

open Reader

variable (g : Grammar)

/-- The rule that gives a column without a type its values, from behind its word on. -/
def computed (persisted : Bool) : Reader Unit := do
  let _ ← need g.disjunction
  if !persisted then let _ ← acceptWord "PERSISTED"
  if !(← acceptWord "AUTO") then let _ ← g.typeName {}
  let _ ← acceptPair "NOT" "NULL"

/-- Takes the rule that gives a column its values, if there is one. -/
def rule (typed : Bool) : Reader Bool := do
  if ← provided (!typed) (accept "AS") then
    g.computed false
    return true
  else if ← acceptWord "ALIAS" then
    g.computed false
    return true
  else if ← acceptWord "MATERIALIZED" then
    g.computed true
    return true
  else if ← provided typed (acceptPair "AS" "(") then
    retreat
    let _ ← need g.disjunction
    let _ ← acceptWordOf ["STORED", "VIRTUAL"]
    return true
  else return false

/-- A column, from behind its name on.  Without a type and constraints it is its name. -/
def columnDefinition? (name? : Option Tree) (computes : Bool) : Reader (Option Tree) := do
  let name? := name?.map fun t => if t.kind == .column then t.parts.headD t else t
  if !computes then let _ ← accept "AS"
  let type? ← g.typeName { schema := true }
  if ← acceptWords ["FOR", "ORDINALITY"] then
    return some (.of .columnDefinition [← given name?])
  let ruled ← g.rule type?.isSome
  let constraints ← repeated g.columnConstraint?
  if type?.isNone && constraints.isEmpty && !ruled then return name?
  else return some (.of .columnDefinition ((← given name?) :: type?.toList ++ constraints))

/-- A column by its name, which any word that is not reserved can be. -/
def declaredColumn? : Reader (Option Tree) := do
  g.columnDefinition? (← g.field { anyToken := true }) true

/-- Whether a query starts with a token. -/
def startsQuery (t : Token) : Bool :=
  t.isOneOf (["(", "WITH", "SELECT"] ++ match g.dialect with
    | .localSync => []
    | .remoteAsync => ["TABLE"])

/-- A table with its columns in their brackets.  Brackets that hold a query are none of that. -/
def schema? (table? : Option Tree) : Reader (Option Tree) := do
  if !(← seesTag "(") || (← second?).any g.startsQuery then return table?
  let columns ← inRound (commaList (firstOf [g.tableConstraint?, g.declaredColumn?]))
  return some (.of .schema (table?.toList ++ [.of .items columns]))

end SqlContract.Sql.Grammar
