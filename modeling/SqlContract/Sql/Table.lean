/-
Tables: what a query takes its rows from.

A table is called by its name, or it is what a query, a call, an array or a list of rows gives.  A
table may be given a name where it stands, and others may be joined to it.

* `tableName` — a table by its name, perhaps qualified;
* `rows?` — rows that are written out;
* `lateral?` — a table that hangs on the tables before it;
* `table?` — tables of all forms;
* `joinList` — the tables that are joined.
-/

import SqlContract.Sql.Expression

set_option autoImplicit false
set_option relaxedAutoImplicit false

namespace SqlContract.Sql.Grammar

open Reader

variable (g : Grammar)

/-! ### Tables by name -/

/-- One part of the name of a table.  Outside definitions it may be a call. -/
def tablePart? (schema : Bool) : Reader (Option Tree) :=
  firstOf
    [when? (!schema) (g.call { bare := false }), g.name? false .any, quotedText?, g.hole?]

/-- A table by its name.  The parts before the last one qualify it, and the third from the front
may be left out. -/
def tableName (schema : Bool) : Reader Tree := do
  let first? ← g.tablePart? schema
  let more ← repeated do
    if ← accept "." then some <$> g.tablePart? schema else return none
  let parts := first? :: more
  let last ← given (parts.getLast?.bind id)
  ensure (parts.length ≤ 3 || (parts.drop 2).all Option.isSome)
  noPivot
  return .node .table last.name (parts.filterMap id)

/-! ### Rows that are written out -/

/-- One row. -/
def row? (values : Bool) : Reader (Option Tree) := do
  let member? : Reader (Option Tree) := do
    if ← provided values (accept "DEFAULT") then return some (.leaf .word "DEFAULT")
    else g.expression
  if ← accept "(" then
    let members ← commaList member?
    closeRound
    return some (.of .tuple members)
  else return (← g.expression).map fun e => .of .tuple [e]

/-- Rows that are written out, with the name they are given. -/
def rows? : Reader (Option Tree) := do
  let bracketed ← acceptPair "(" "VALUES"
  let found ← if bracketed then pure true else acceptPhraseOf [["VALUES"], ["FORMAT", "VALUES"]]
  if !found then return none
  let rows ← commaList (g.row? true)
  ensure !rows.isEmpty
  let alias? ← g.tableAlias? .table
  if bracketed then closeRound
  let alias? ← if alias?.isSome then pure alias? else g.tableAlias? .table
  return some (.of .values (rows ++ alias?.toList))

/-! ### Tables that hang on others -/

/-- What a table that hangs on others is, beside a query. -/
def lateralTable? : Reader (Option Tree) := do
  let first? ← firstOf [g.unnest? true, g.call {}, g.name? false .any]
  let more ← repeated do
    if ← accept "." then return some (← need (firstOf [g.call {}, g.name? false .any]))
    else return none
  more.foldlM (fun value? field => pair value? (some field)) first?

/-- A table that hangs on the tables before it. -/
def lateral? : Reader (Option Tree) := do
  let applied ← either (acceptPair "CROSS" "APPLY") (acceptPair "OUTER" "APPLY")
  let found ← if applied then pure true else accept "LATERAL"
  if !found then return none
  let query? ← g.select { table := true }
  let viewed ← provided (!applied) (accept "VIEW")
  let _ ← provided (!applied) (accept "OUTER")
  let table ← need (firstOf [return query?, g.lateralTable?])
  if viewed then
    let name? ← g.name? false .any
    let columns ← if ← accept "AS" then commaList (g.name? true .any) else pure []
    return some (.of .other (table :: name?.toList ++ columns))
  else if table.isOneOf [.subquery, .unnest] && table.has .tableAlias then
    return some (.of .other [table])
  else
    let _ ← acceptPair "WITH" "ORDINALITY"
    let alias? ← g.tableAlias? .table
    return some (.of .other (table :: alias?.toList))

/-! ### What may follow the name of a table -/

/-- Takes the version of a table. -/
def version : Reader Unit := do
  if ← acceptOneOf ["FOR TIMESTAMP", "FOR VERSION"] then
    if ← acceptOneOf ["FROM", "BETWEEN"] then
      let _ ← need g.bitwise
      let _ ← acceptWordOf ["TO", "AND"]
      let _ ← need g.bitwise
    else if ← acceptWords ["CONTAINED", "IN"] then let _ ← inRound (commaList g.bitwise)
    else if !(← accept "ALL") then
      let _ ← acceptWords ["AS", "OF"]
      let _ ← g.operand

/-- Takes the index that a table is to be read by. -/
def index : Reader Unit := do
  if ← accept "INDEXED BY" then let _ ← g.tableName false
  else let _ ← acceptWords ["NOT", "INDEXED"]

/-- Takes the hints on how a table is to be read. -/
def hints : Reader Unit := do
  if ← acceptPair "WITH" "(" then
    let hints ← commaList (firstOf [g.call {}, word? true []])
    ensure !hints.isEmpty
    closeRound
  else
    let _ ← repeated do
      if ← accept "USE" then
        let _ ← either (accept "INDEX") (accept "KEY")
        if ← accept "FOR" then let _ ← take? (!·.isReserved)
        return some (← g.roundNames)
      else return none

/-- A table with the name that it is given and the tables that are joined to it, from behind its
own name on. -/
def dressed (f : TableForm) (table : Tree) : Reader Tree := do
  g.version
  let alias? ← g.tableAlias? f.place
  g.index
  if ← provided (table.kind == .table) (acceptWord "AT") then
    return .of .other [.leaf .other table.text, ← need (g.name? true .any)]
  g.hints
  noPivot
  let sample? ← g.sample? false
  let joins ← if f.joins then g.joins else pure []
  let behind := sample?.toList ++ joins
  if ← acceptPair "WITH" "ORDINALITY" then
    let alias? ← g.tableAlias? .table
    return table.append (alias?.toList ++ behind)
  else return table.append (alias?.toList ++ behind)

/-- A table by its name, or one that calls give. -/
def namedTable (f : TableForm) : Reader Tree := do
  let calls ←
    if ← acceptWords ["ROWS", "FROM"] then inRound (commaList (g.table {})) else pure []
  let _ ← provided (g.dialect == .remoteAsync) (accept "ONLY")
  let table ←
    if calls.isEmpty then do need (g.subscripts (some (← g.tableName f.schema)))
    else pure (.of .table calls)
  let _ ← acceptWord "*"
  if f.schema then need (g.schema (some table)) else g.dressed f table

/-- A query that stands for a table. -/
def queryTable? : Reader (Option Tree) := do
  let query? ← g.select { table := true }
  if query?.isSome then noPivot
  return query?

/-- A table. -/
def table? (f : TableForm) : Reader (Option Tree) :=
  firstOf [g.lateral?, g.unnest? true, g.rows?, g.queryTable?, some <$> g.namedTable f]

/-! ### Joins -/

/-- How a table is joined. -/
structure JoinForm where
  /-- Whether a method such as NATURAL is named. -/
  method : Bool
  /-- The kind of the join; empty where none is named. -/
  kind : String

/-- Takes the words that say how a table is joined. -/
def joinForm : Reader JoinForm := do
  let method ← acceptOneOf ["ASOF", "NATURAL"]
  let _ ← acceptOneOf ["LEFT", "RIGHT", "FULL"]
  let kind? ← take? (·.isOneOf ["ANTI", "CROSS", "INNER", "OUTER", "SEMI", "STRAIGHT_JOIN"])
  return ⟨method, (kind?.map (·.tag)).getD ""⟩

/-- The condition of a join. -/
def joinCondition? : Reader (Option Tree) := do
  if ← accept "ON" then return some (.several (← g.disjunction).toList)
  else if ← accept "USING" then
    return some (.several (← inRoundOrBare (commaList g.column)))
  else return none

/-- A joined table with its condition.  The condition may stand behind further joins, which belong
to the table then. -/
def joined (nests : Bool) (table : Tree) : Reader Tree := do
  match ← g.joinCondition? with
  | some condition => return .of .join [table, condition]
  | none =>
      let nested? ← when? (nests && table.kind != .unnest) <| orBack do
        let joins ← g.joins
        if joins.isEmpty then return none
        return (← g.joinCondition?).map fun condition => (joins, condition)
      match nested? with
      | some (joins, condition) => return .of .join [table.append joins, condition]
      | none => return .of .join [table]

/-- One join.  A comma that no table follows ends the joins, and is taken. -/
def join? : Reader (Option Tree) := do
  if ← accept "," then
    return (← attempt (g.table {})).map fun table => .of .join [table]
  let start ← get
  let form ← joinForm
  let _ ← acceptWord "DIRECTED"
  let found ← if ← accept "JOIN" then pure true else pure (form.kind == "STRAIGHT_JOIN")
  if found then
    let applied := (← seesPair "OUTER" "APPLY") || (← seesPair "CROSS" "APPLY")
    let table ← need (g.table {})
    noPivot
    return some (← g.joined (!form.method && !applied && form.kind != "CROSS") table)
  else
    set start
    if (← seesPair "OUTER" "APPLY") || (← seesPair "CROSS" "APPLY") then
      return some (← g.joined false (← need (g.table {})))
    else return none

/-- The joins that follow a table. -/
def joinList : Reader (List Tree) :=
  repeated g.join?

end SqlContract.Sql.Grammar
