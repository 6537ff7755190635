/-
The clauses that queries, calls and definitions share.

* `oneOf?` — a word of a list, with one of the words that may follow it;
* `where?`, `order?`, `group?`, `condition?` — clauses by the word that starts them;
* `locks`, `sample?` — the locks and the sample of a query.
-/

import SqlContract.Sql.Label

set_option autoImplicit false
set_option relaxedAutoImplicit false

namespace SqlContract.Sql.Grammar

open Reader

variable (g : Grammar)

/-! ### Words of a list -/

/-- Takes the first of some phrases that follows. -/
def acceptPhraseOf : List (List String) → Reader Bool
  | [] => return false
  | phrase :: phrases => do
      if ← acceptWords phrase then return true else acceptPhraseOf phrases

/-- A word of a list with the words that may follow it, one of which is due unless there are none.
It fails on any other word where one of the list is due. -/
def oneOf? (due : Bool) (options : List (String × List (List String))) : Reader (Option String) := do
  match ← next? with
  | none => return none
  | some t =>
      let start ← get
      advance
      let followed ← match options.lookup t.upper with
        | none => pure false
        | some [] => pure true
        | some tails => acceptPhraseOf tails
      if followed then return some t.upper
      else
        ensure !due
        set start
        return none

/-! ### Clauses -/

/-- A condition behind the word that starts its clause. -/
def condition? (tag : String) : Reader (Option Tree) := do
  if ← accept tag then return some (.of .other [← need g.disjunction]) else return none

/-- A WHERE. -/
def where? : Reader (Option Tree) :=
  g.condition? "WHERE"

/-- What rows are filled in between those of an ordering. -/
def fill? : Reader (Option Tree) := do
  if ← acceptWords ["WITH", "FILL"] then
    let from? ← if ← accept "FROM" then g.bitwise else pure none
    let to? ← if ← acceptWord "TO" then g.bitwise else pure none
    let step? ← if ← acceptWord "STEP" then g.bitwise else pure none
    return some (.of .other (from?.toList ++ to?.toList ++ step?.toList))
  else return none

/-- What rows are ordered by, with its direction. -/
def ordered? (key : Reader (Option Tree)) : Reader (Option Tree) := do
  match ← key with
  | none => return none
  | some e =>
      let _ ← accept "ASC"
      let _ ← accept "DESC"
      let _ ← acceptWords ["NULLS", "FIRST"]
      let _ ← acceptWords ["NULLS", "LAST"]
      return some (.of .other (e :: (← g.fill?).toList))

/-- An ORDER BY on what is ordered; what is ordered itself where there is none. -/
def order? (ordered? : Option Tree) : Reader (Option Tree) := do
  if ← accept "ORDER BY" then
    let keys ← commaList (g.ordered? g.disjunction)
    ensure !keys.isEmpty
    return some (.of .order (ordered?.toList ++ keys))
  else return ordered?

/-- What rows are parted by. -/
def partition : Reader (List Tree) := do
  if ← accept "PARTITION BY" then commaList g.disjunction else return []

/-! ### Groups -/

/-- The words that start a clause of a query. -/
def clauseTags : List String :=
  ["CLUSTER BY", "CONNECT BY", "DISTRIBUTE BY", "FETCH", "FOR", "GROUP BY", "HAVING", "LIMIT",
   "LOCK", "OFFSET", "ORDER BY", "QUALIFY", "SORT BY", "START WITH", "TABLESAMPLE", "USING",
   "WHERE", "WINDOW"]

/-- A CUBE or a ROLLUP. -/
def cube? (marked : Bool) : Reader (Option Tree) := do
  if ← acceptOneOf ["CUBE", "ROLLUP"] then
    let keys ← if marked then pure [] else inRound (commaList g.bitwise)
    return some (.of .other keys)
  else return none

/-- Grouping sets, which may hold grouping sets. -/
def groupingSets? : Nat → Reader (Option Tree)
  | 0 => return none
  | depth + 1 => do
      if ← accept "GROUPING SETS" then
        let sets ← inRound <| commaList <| firstOf [groupingSets? depth, g.cube? false, g.bitwise]
        ensure !sets.isEmpty
        return some (.of .other sets)
      else return none

/-- The rounds of a GROUP BY: expressions, and a CUBE, a ROLLUP, grouping sets or TOTALS behind them.
What stands behind the last expressions and is no more than a word does not belong to it. -/
def groupRounds : Nat → Reader (List Tree)
  | 0 => return []
  | n + 1 => do
      let start ← get
      let keys ← commaList do
        if ← sees (·.isOneOf ["CUBE", "ROLLUP"]) then return none else g.disjunction
      let behindKeys ← get
      let marked ← accept "WITH"
      let extra? ← firstOf [g.cube? marked, g.groupingSets? (behindKeys.left + 1)]
      if extra?.isNone then let _ ← acceptWord "TOTALS"
      let left := (← get).left
      let found := keys ++ extra?.toList
      if behindKeys.left ≤ left + 1 then
        set behindKeys
        return found
      else if left == start.left then return found
      else return found ++ (← groupRounds n)

/-- A GROUP BY. -/
def group? : Reader (Option Tree) := do
  if ← accept "GROUP BY" then
    if !(← accept "ALL") then let _ ← accept "DISTINCT"
    if ← sees (·.isOneOf clauseTags) then return some (.of .other [])
    return some (.of .other (← g.groupRounds ((← get).left + 1)))
  else return none

/-! ### Locks and samples -/

/-- The locks of a query. -/
def locks : Reader (List Tree) :=
  repeated do
    let locked ← acceptPhraseOf
      [["FOR", "UPDATE"], ["FOR", "SHARE"], ["LOCK", "IN", "SHARE", "MODE"],
       ["FOR", "KEY", "SHARE"], ["FOR", "NO", "KEY", "UPDATE"]]
    if !locked then return none
    let tables ←
      if ← acceptWord "OF" then commaList (g.table { schema := true }) else pure []
    if !(← acceptWord "NOWAIT") then
      if ← acceptWord "WAIT" then let _ ← g.primary
      else let _ ← acceptWords ["SKIP", "LOCKED"]
    return some (.of .other tables)

/-- The sample of a table. -/
def sample? (asClause : Bool) : Reader (Option Tree) := do
  let found ← if ← accept "TABLESAMPLE" then pure true
    else if asClause then acceptWords ["USING", "SAMPLE"] else pure false
  if !found then return none
  let _ ← word? false ["ROW"]
  let opened ← accept "("
  let size? ← if ← sees (·.kind == .number) then g.factor else firstOf [g.primary, g.hole?]
  if ← acceptWord "BUCKET" then
    let _ ← g.number?
    let _ ← acceptWords ["OUT", "OF"]
    let _ ← g.number?
    if ← accept "ON" then let _ ← g.field {}
  else let _ ← acceptOneOf ["PERCENT", "%", "ROWS"]
  if opened then closeRound
  if ← accept "(" then
    let _ ← word? false []
    if ← accept "," then let _ ← g.number?
    closeRound
  else if ← acceptWordOf ["SEED", "REPEATABLE"] then let _ ← inRound g.number?
  return some (.of .other size?.toList)

end SqlContract.Sql.Grammar
