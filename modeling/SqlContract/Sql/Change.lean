/-
Changes: INSERT, UPDATE and DELETE.

A change names the table whose rows it changes, and RETURNING says what it gives of them.  The table
is the first part of its node.

* `returning?` — what a change gives;
* `insertion?`, `update?`, `deletion?` — the changes, from behind their word on.
-/

import SqlContract.Sql.Schema

set_option autoImplicit false
set_option relaxedAutoImplicit false

namespace SqlContract.Sql.Grammar

open Reader

variable (g : Grammar)

/-- What a change gives of the rows that it changes. -/
def returning? : Reader (Option Tree) := do
  if ← accept "RETURNING" then
    let items ← commaList g.expression
    ensure !items.isEmpty
    if ← accept "INTO" then let _ ← g.tablePart? false
    return some (.of .returning [.of .items items])
  else return none

/-- A query that a definition or a change takes its rows from. -/
def source? : Reader (Option Tree) := do
  g.modifiers (← g.setOperations (← g.select { nested := true, named := false }))

/-- Takes IF EXISTS, or IF NOT EXISTS.  The words before one that is missing are taken as well. -/
def existence (negated : Bool) : Reader Unit := do
  if ← acceptWord "IF" then
    let goesOn ← if negated then accept "NOT" else pure true
    let _ ← provided goesOn (accept "EXISTS")

/-! ### INSERT -/

/-- The table that rows are inserted into. -/
def insertTarget : Reader Tree := do
  let table ← need (g.table { schema := true })
  if table.kind == .table && (← seesTag "AS") then
    return table.append (← g.tableAlias? .table).toList
  else return table

/-- Takes the words before the table that rows are inserted into. -/
def insertWords : Reader Unit := do
  let _ ← accept "OVERWRITE"
  let _ ← acceptWord "LOCAL"
  if ← accept "OR" then
    let _ ← acceptWordOf ["ABORT", "FAIL", "IGNORE", "REPLACE", "ROLLBACK"]
  let _ ← accept "INTO"
  let _ ← accept "TABLE"

/-- An INSERT, from behind that word on. -/
def insertion? : Reader (Option Tree) := do
  insertWords
  let table ← g.insertTarget
  let early? ← g.returning?
  let _ ← acceptWords ["BY", "NAME"]
  existence false
  if ← acceptPair "REPLACE" "WHERE" then let _ ← g.disjunction
  if ← accept "PARTITION BY" then let _ ← g.partitionKeys?
  let _ ← acceptWords ["DEFAULT", "VALUES"]
  let source? ← firstOf [g.rows?, g.source?]
  let conflict? ← g.conflict?
  let returning? ← if early?.isSome then pure early? else g.returning?
  if ← accept "TABLE" then let _ ← g.table {}
  return some <| .of .insert <|
    table :: source?.toList ++ conflict?.toList ++ returning?.toList

/-! ### UPDATE -/

/-- What an UPDATE takes values from. -/
def updateSource? : Reader (Option Tree) := do
  match ← g.from? true with
  | none => return none
  | some source =>
      let joins ← if source.has .subquery && (← seesTag "JOIN") then g.joins else pure []
      return some (source.append joins)

/-- The parts of an UPDATE behind its table, up to a number of them.  Of two RETURNING the last one
counts. -/
def updateParts : Nat → (returning? : Option Tree) → Reader (List Tree)
  | 0, returning? => return returning?.toList
  | n + 1, returning? => do
      if ← accept "SET" then
        let changes ← commaList g.equality
        return changes ++ (← updateParts n returning?)
      else if ← seesTag "RETURNING" then updateParts n (← g.returning?)
      else
        match ← firstOf [g.updateSource?, g.where?, g.order? none] with
        | some clause => return clause :: (← updateParts n returning?)
        | none =>
            if ← seesTag "LIMIT" then
              return (← g.limit? none).toList ++ (← updateParts n returning?)
            else return returning?.toList

/-- An UPDATE, from behind that word on. -/
def update? : Reader (Option Tree) := do
  let table ← need (g.table { joins := true, place := .target })
  let parts ← g.updateParts ((← get).left + 1) none
  return some (.of .update (table :: parts))

/-! ### DELETE -/

/-- A DELETE, from behind that word on.  Tables may be named before FROM; without FROM there is no
table whose rows it gives. -/
def deletion? : Reader (Option Tree) := do
  if !(← seesTag "FROM") then let _ ← commaList (g.table {})
  let early? ← g.returning?
  let target? ← if ← accept "FROM" then some <$> need (g.table { joins := true }) else pure none
  let used ← if ← accept "USING" then commaList (g.table { joins := true }) else pure []
  if ← accept "ON" then let _ ← g.endRule?
  let where? ← g.where?
  let returning? ← if early?.isSome then pure early? else g.returning?
  let order? ← g.order? none
  let limit? ← g.limit? none
  let parts := used ++ where?.toList ++ returning?.toList ++ order?.toList ++ limit?.toList
  match target? with
  | some table => return some (.of .delete (table :: parts))
  | none => return some (.of .other parts)

end SqlContract.Sql.Grammar
