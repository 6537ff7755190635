/-
Definitions: CREATE and DROP.

What stands behind the parts of a definition that are understood makes it a statement of which
nothing is known; only a bracket or a comma there is an error.

* `creation?` — a CREATE, from behind that word on;
* `removal?` — a DROP, from behind that word on.
-/

import SqlContract.Sql.Change

set_option autoImplicit false
set_option relaxedAutoImplicit false

namespace SqlContract.Sql.Grammar

open Reader

variable (g : Grammar)

/-- Takes all that is left: a statement of which nothing is known. -/
def unknown : Reader (Option Tree) := do
  takeRest
  return some (.leaf .other "")

/-- Things to create that are called like a table. -/
def tableLike : List String :=
  ["DATABASE", "NAMESPACE", "SCHEMA", "SEQUENCE", "TABLE", "VIEW"]

/-- What is to be created, behind the properties before it. -/
def created? : Reader (Option Token) := do
  let creatable (t : Token) : Bool := t.isOneOf Token.creatables
  match ← take? creatable with
  | some t => return some t
  | none => if (← g.properties).isEmpty then return none else take? creatable

/-- The index of a definition. -/
def createdIndex? : Reader (Option Tree) := do
  let named ← if ← accept "ON" then pure true else Option.isSome <$> g.name? true .any
  if named then
    let _ ← accept "ON"
    let _ ← accept "TABLE"
    let table ← g.tableName true
    let _ ← g.indexParameters?
    return some table
  else return none

/-- The indexes behind the columns of a table, up to a number of them. -/
def indexesUpTo : Nat → Reader Unit
  | 0 => return ()
  | n + 1 => do
      let _ ← accept "UNIQUE"
      let _ ← acceptWord "PRIMARY"
      let _ ← acceptWord "AMP"
      let found ← accept "INDEX"
      if found then
        let _ ← g.name? true .any
        let _ ← g.indexParameters?
      let _ ← g.properties
      if found then
        let _ ← accept ","
        indexesUpTo n

/-- What a table or something like it is filled with. -/
def filling? (kind : String) : Reader (Option Tree) := do
  let announced ← accept "AS"
  if !(← sees (·.isOneOf ["SELECT", "WITH", "("])) then let _ ← g.properties
  if kind == "SEQUENCE" then
    let _ ← g.typeName {}
    let _ ← g.properties
    return none
  else
    match ← g.source? with
    | some query => return some query
    | none => when? announced (attempt (some <$> g.tableName false))

/-- A table or something like it, from behind what it is on. -/
def createdTable (kind : String) : Reader (List Tree) := do
  let table ← g.tableName true
  let _ ← accept ","
  let _ ← repeated g.earlyProperty?
  let declared ← need (g.schema (some table))
  let _ ← g.properties
  let filling? ← g.filling? kind
  if kind == "TABLE" then
    let _ ← g.properties
    g.indexesUpTo ((← get).left + 1)
  if kind == "VIEW" then let _ ← acceptWords ["WITH", "NO", "SCHEMA", "BINDING"]
  let _ ← acceptWord "SHALLOW"
  if ← acceptWordOf ["CLONE", "COPY"] then let _ ← g.table { schema := true }
  return declared :: filling?.toList

/-- A CREATE, from behind that word on. -/
def creation? : Reader (Option Tree) := do
  if !(← acceptPair "OR" "REPLACE") then let _ ← acceptPair "OR" "ALTER"
  let _ ← accept "UNIQUE"
  if ← seesPair "TABLE" "FUNCTION" then advance
  match ← g.created? with
  | none => unknown
  | some t =>
      let _ ← acceptWord "CONCURRENTLY"
      existence true
      let parts ←
        if t.is "INDEX" then Option.toList <$> g.createdIndex?
        else if t.isOneOf tableLike then g.createdTable t.tag
        else pure []
      if (← atEnd) || (← sees (·.isOneOf [")", ","])) then
        return some (.node .definition t.tag parts)
      else unknown

/-- A DROP, from behind that word on. -/
def removal? : Reader (Option Tree) := do
  let _ ← accept "TEMPORARY"
  let _ ← acceptWord "MATERIALIZED"
  match ← take? (·.isOneOf Token.creatables) with
  | none => unknown
  | some t =>
      let _ ← acceptWord "CONCURRENTLY"
      existence false
      if t.is "COLUMN" then let _ ← g.column
      else let _ ← g.tableName true
      if ← accept "ON" then let _ ← g.endRule?
      if ← seesTag "(" then let _ ← inRound (commaList (g.typeName {}))
      for word in ["CASCADE", "CONSTRAINTS", "PURGE"] do
        let _ ← acceptWord word
      return some (.leaf .other "")

end SqlContract.Sql.Grammar
