/-
Queries: SELECT and what can stand in its place.

A query names what it gives and where that comes from, and clauses say which rows and how many.  The
clauses may come in any order, but each of them once.  Queries before it may be given names, and a
UNION, an EXCEPT or an INTERSECT ties two queries together.

* `withQueries?` — the queries that are given names before a statement;
* `modifiers?` — a query with joins and clauses behind it;
* `setOperations?` — a query with the queries that are tied to it;
* `select?` — queries of all forms.
-/

import SqlContract.Sql.Table

set_option autoImplicit false
set_option relaxedAutoImplicit false

namespace SqlContract.Sql

/-! ### Queries as trees -/

/-- The query of all columns of a table. -/
def Tree.allOf (table : Tree) : Tree :=
  .of .select [.of .items [.leaf .star "*"], .of .from [table]]

/-- Whether a query has a clause. -/
def Tree.hasClause (t : Tree) (name : String) : Bool :=
  t.parts.any fun p => p.kind == .clause && p.text == name

/-- A query with a clause behind its parts.  The limit of a SELECT comes before what it is taken
from. -/
def Tree.withClause (t : Tree) (name : String) (found : List Tree) : Tree :=
  let clauses := found.map fun p => .node .clause name p.parts
  if t.kind == .select && name == "limit" then
    let isFirst := fun p : Tree => p.isOneOf [.items, .other]
    .node t.kind t.text (t.parts.takeWhile isFirst ++ clauses ++ t.parts.dropWhile isFirst)
  else t.append clauses

namespace Grammar

open Reader

variable (g : Grammar)

/-! ### Queries that are given names -/

/-- The order in which a query that builds on itself is searched. -/
def search? : Reader (Option Tree) := do
  let _ ← acceptWord "SEARCH"
  if ← acceptWordOf ["BREADTH", "CYCLE", "DEPTH"] then
    let _ ← acceptWords ["FIRST", "BY"]
    let key ← need (g.name? true .any)
    ensure (← acceptWord "SET")
    let order ← need (g.name? true .any)
    let path? ← if ← acceptWord "USING" then g.name? true .any else pure none
    return some (.of .other (key :: order :: path?.toList))
  else return none

/-- A query that is given a name.  None where AS is missing. -/
def namedQuery? : Reader (Option Tree) :=
  orBack do
    let label ← need (g.tableAlias? .any)
    ensure (label.parts.head?.any (·.kind != .several))
    if ← acceptWords ["USING", "KEY"] then let _ ← g.roundNames
    if ← accept "AS" then
      if !(← acceptWords ["NOT", "MATERIALIZED"]) then let _ ← acceptWord "MATERIALIZED"
      let body ← inRound (need g.statement)
      let query := if body.kind == .values then Tree.allOf body else body
      return some (.of .namedQuery [query, label])
    else return none

/-- The queries that are given names before a statement. -/
def withQueries? : Reader (Option Tree) := do
  if ← accept "WITH" then
    let _ ← accept "RECURSIVE"
    let first? ← g.namedQuery?
    let more ← repeated do
      if ← acceptOneOf [",", "WITH"] then
        let _ ← accept "WITH"
        return some (← g.namedQuery?)
      else return none
    let queries := first?.toList ++ more.filterMap id
    ensure !queries.isEmpty
    return some (.of .withQueries (queries ++ (← g.search?).toList))
  else return none

/-- What brackets without further parts hold. -/
def unwrapped : Nat → Tree → Tree
  | n + 1, .node .subquery _ [t] => unwrapped n t
  | _, t => t

/-- The number of nodes on the way down the first parts of a node. -/
def firstDepth : Tree → Nat
  | .node _ _ [] => 0
  | .node _ _ (t :: _) => firstDepth t + 1

/-- The statement that follows the queries that are given names before it. -/
def afterQueries (queries : Tree) : Reader Tree := do
  let statement ← need g.statement
  let query := unwrapped (firstDepth statement) statement
  ensure (query.isOneOf
    [.select, .setOperation, .subquery, .insert, .update, .delete, .definition])
  return query.append [queries]

/-! ### Clauses -/

/-- The windows that a query names. -/
def windows : Reader (List Tree) := do
  if ← accept "WINDOW" then
    commaList do g.window? true (← g.name? true .any)
  else return []

/-- The keys that rows are sorted or spread by. -/
def sorted? (tag : String) : Reader (Option Tree) := do
  if ← accept tag then return some (.of .other (← commaList (g.ordered? g.disjunction)))
  else return none

/-- How rows follow from rows. -/
def connection? : Reader (Option Tree) := do
  let start? ← if ← accept "START WITH" then g.disjunction else pure none
  let _ ← accept "CONNECT BY"
  let _ ← acceptWord "NOCYCLE"
  let link ← need g.disjunction
  let start? ←
    if start?.isSome then pure start?
    else if ← accept "START WITH" then g.disjunction
    else pure none
  return some (.of .other (start?.toList ++ [link]))

/-- The clause that a word starts: its name, and what reads it. -/
def clause? (tag : String) : Option (String × Reader (List Tree)) :=
  let one (r : Reader (Option Tree)) : Reader (List Tree) := Option.toList <$> r
  match tag with
  | "WHERE" => some ("where", one g.where?)
  | "GROUP BY" => some ("group", one g.group?)
  | "HAVING" => some ("having", one (g.condition? tag))
  | "QUALIFY" => some ("qualify", one (g.condition? tag))
  | "WINDOW" => some ("windows", g.windows)
  | "ORDER BY" => some ("order", one (g.order? none))
  | "LIMIT" | "FETCH" => some ("limit", one (g.limit? none))
  | "OFFSET" => some ("offset", one (g.offset? none))
  | "FOR" | "LOCK" => some ("locks", g.locks)
  | "TABLESAMPLE" | "USING" => some ("sample", one (g.sample? true))
  | "CLUSTER BY" => some ("cluster", one (g.sorted? tag))
  | "DISTRIBUTE BY" => some ("distribute", one (g.sorted? tag))
  | "SORT BY" => some ("sort", one (g.sorted? tag))
  | "CONNECT BY" | "START WITH" => some ("connect", one g.connection?)
  | _ => none

/-- A query with a clause that was read.  The rows that a LIMIT skips are a clause of their own. -/
def extended (query : Tree) (name : String) (found : List Tree) : Tree :=
  match found with
  | [.node .limit "skips" (count :: skipped)] =>
      (query.withClause "limit" [.of .limit [count]]).withClause "offset" [.of .other skipped]
  | _ => query.withClause name found

/-- The clauses behind a query, up to a number of them.  A clause that says nothing ends them. -/
def clausesUpTo : Nat → Tree → Reader Tree
  | 0, query => return query
  | n + 1, query => do
      match (← next?).bind fun t => g.clause? t.tag with
      | none => return query
      | some (name, clause) =>
          match ← clause with
          | [] => return query
          | found =>
              ensure !(query.hasClause name)
              clausesUpTo n (extended query name found)

/-- A query or a table with joins, the tables that hang on it, and clauses behind it. -/
def modifiers? (query? : Option Tree) : Reader (Option Tree) := do
  match query? with
  | none => return none
  | some query =>
      if query.isOneOf [.select, .setOperation, .subquery, .table] then
        let joins ← g.joins
        let laterals ← repeated g.lateral?
        some <$> g.clausesUpTo ((← get).left + 1) (query.append (joins ++ laterals))
      else return query?

/-! ### Queries that are tied together -/

/-- A query with one that is tied to it. -/
def setOperation? (left : Tree) : Reader (Option Tree) :=
  orBack do
    let _ ← joinForm
    if ← acceptOneOf ["UNION", "EXCEPT", "INTERSECT"] then
      if !(← accept "DISTINCT") then let _ ← accept "ALL"
      let byName ← acceptPhraseOf [["BY", "NAME"], ["STRICT", "CORRESPONDING"]]
      let byName ← either (acceptWord "CORRESPONDING") (return byName)
      let columns ←
        if ← provided byName (acceptWordOf ["ON", "BY"]) then inRound (commaList g.column)
        else pure []
      let right ← need (g.select { nested := true, united := false })
      return some (.of .setOperation (left :: right :: columns))
    else return none

/-- A query with up to a number of queries that are tied to it. -/
def setOperationsUpTo : Nat → Tree → Reader Tree
  | 0, query => return query
  | n + 1, query => do
      match ← g.setOperation? query with
      | some query => setOperationsUpTo n query
      | none => return query

/-- A query with the queries that are tied to it. -/
def setOperations? (query? : Option Tree) : Reader (Option Tree) := do
  match query? with
  | some query => some <$> g.setOperationsUpTo ((← get).left + 1) query
  | none => return none

/-! ### SELECT -/

/-- What a query is taken from. -/
def from? (joins : Bool) : Reader (Option Tree) := do
  if ← accept "FROM" then return some (.of .from [← need (g.table { joins := joins })])
  else return none

/-- The table that a query writes its rows into. -/
def into? : Reader (Option Tree) := do
  if ← accept "INTO" then
    let _ ← accept "TEMPORARY"
    let _ ← acceptWord "UNLOGGED"
    let _ ← accept "TABLE"
    return some (.of .clause [← need (g.table { schema := true })])
  else return none

/-- What makes rows the same where they are given once. -/
def distinct? : Reader (Option Tree) := do
  if ← accept "DISTINCT" then
    let keys? ← if ← accept "ON" then g.row? false else pure none
    return some (.of .other keys?.toList)
  else return none

/-- A SELECT, from behind that word on. -/
def selectList (from? : Option Tree) : Reader (Option Tree) := do
  let worded := (← second?).any (!·.is ".")
  let all ← provided worded (accept "ALL")
  let distinct? ← when? worded g.distinct?
  if ← accept "AS" then let _ ← acceptWordOf ["STRUCT", "VALUE"]
  ensure !(all && distinct?.isSome)
  let limit? ← g.fetch? none
  let items ← commaList g.expression
  let into? ← g.into?
  let from? ← if from?.isSome then pure from? else g.from? false
  let query := Tree.of .select (distinct?.toList ++ [.of .items items])
  g.modifiers? (some ((query.withClause "limit" limit?.toList).append (into?.toList ++ from?.toList)))

/-- A query that starts with what it is taken from, from behind FROM on. -/
def fromFirst : Reader (Option Tree) := do
  let table ← need (g.table {})
  match ← g.select {} with
  | some query => return some (if query.has .from then query else query.append [.of .from [table]])
  | none => g.modifiers (← g.setOperations (some (Tree.allOf table)))

/-- What stands in brackets where a query or a table is due, from behind the opening one on. -/
def wrapped? (f : SelectForm) : Reader (Option Tree) := do
  if ← accept "FROM" then g.fromFirst
  else
    let inside? ← if f.table then g.table {} else g.select { nested := true, united := false }
    let inside? := inside?.map fun t =>
      if f.table && t.kind == .values && t.has .tableAlias then .of .table [t] else t
    g.modifiers (← g.setOperations inside?)

/-- A query.  One in brackets is due only in some places. -/
def select? (f : SelectForm) : Reader (Option Tree) := do
  match ← g.withQueries? with
  | some queries => some <$> g.afterQueries queries
  | none =>
      let from? ← g.from? true
      if ← provided ((f.table || f.nested) && !(← seesTag "SELECT")) (accept "(") then
        let inside? ← g.wrapped? f
        closeRound
        g.subquery? f.named inside?
      else
        let query? ←
          if ← accept "SELECT" then g.selectList from?
          else if ← seesTag "VALUES" then g.rows?
          else if let some source := from? then pure (source.parts.head?.map Tree.allOf)
          else if ← provided (g.dialect == .remoteAsync) (accept "TABLE") then
            pure (some (Tree.allOf (← g.tableName false)))
          else pure none
        if f.united then g.setOperations query? else return query?

end Grammar

end SqlContract.Sql
