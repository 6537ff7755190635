/-
Constraints: what a definition says of a column, or of some columns together.

The word that a constraint starts with says how it goes on.  The only constraint that matters to the
columns of a table is NOT NULL; the others are read to find their ends.

* `keyOptions` — what is done with the rows that hang on a key;
* `conflict?` — what is done where rows are in conflict;
* `constraint?` — a constraint by its word;
* `columnConstraint?`, `tableConstraint?` — the constraints of a column and of a table.
-/

import SqlContract.Sql.Property

set_option autoImplicit false
set_option relaxedAutoImplicit false

namespace SqlContract.Sql.Grammar

open Reader

variable (g : Grammar)

/-- The node of a constraint, which nothing is made of. -/
def constraint : Tree :=
  .leaf .constraint ""

/-- A constraint with a value that is due. -/
def constraintOn (r : Reader (Option Tree)) : Reader (Option Tree) := do
  let _ ← need r
  return some constraint

/-! ### Keys -/

/-- The options of a key that are words. -/
def keyWords : List (String × List (List String)) :=
  [("NOT", [["ENFORCED"]]), ("MATCH", [["FULL"], ["PARTIAL"], ["SIMPLE"]]),
   ("INITIALLY", [["DEFERRED"], ["IMMEDIATE"]]), ("USING", [["BTREE"], ["HASH"]]),
   ("DEFERRABLE", []), ("NORELY", []), ("RELY", [])]

/-- What may be done with the rows that hang on a key. -/
def keyActions : List (List String) :=
  [["NO", "ACTION"], ["CASCADE"], ["RESTRICT"], ["SET", "NULL"], ["SET", "DEFAULT"]]

/-- Takes the options of a key. -/
def keyOptions : Reader Unit := do
  let _ ← repeated do
    if ← accept "ON" then
      let _ ← take? (!·.isReserved)
      ensure (← acceptPhraseOf keyActions)
      return some ()
    else return (← oneOf? false keyWords).map fun _ => ()

/-- A column of an index, with the operator class that it is compared by. -/
def indexColumn? : Reader (Option Tree) := do
  let key? ← g.ordered? do
    let key? ← g.disjunction
    if ← sees (·.spellsOneOf ["ASC", "DESC", "NULLS", "WITH"]) then return key?
    else if ← sees (·.isOneOf [",", ")"]) then return key?
    else pair key? (some (← g.tableName false))
  if ← accept "WITH" then advance
  return key?

/-- The parameters of an index. -/
def indexParameters? : Reader (Option Tree) := do
  if ← accept "USING" then let _ ← word? true []
  if ← seesTag "(" then let _ ← inRound (commaList g.indexColumn?)
  if ← acceptWord "INCLUDE" then let _ ← g.roundNames
  let _ ← g.partition
  if ← accept "WITH" then let _ ← g.roundProperties
  if ← acceptWords ["USING", "INDEX", "TABLESPACE"] then let _ ← word? true []
  let _ ← g.where?
  if ← accept "ON" then let _ ← g.field {}
  return some constraint

/-- A primary key, from behind that word on. -/
def primaryKey? : Reader (Option Tree) := do
  let _ ← acceptOneOf ["ASC", "DESC"]
  if ← seesTag "(" then
    let fields ← inRound (commaList (g.field {}))
    ensure !fields.isEmpty
    let _ ← g.indexParameters?
  keyOptions
  return some constraint

/-- The table that a key refers to, from behind REFERENCES on. -/
def reference? : Reader (Option Tree) := do
  let table ← need (g.table { schema := true })
  keyOptions
  return some (.of .constraint [table])

/-- A foreign key, from behind that word on. -/
def foreignKey? : Reader (Option Tree) := do
  if !(← seesTag "REFERENCES") then let _ ← g.roundNames
  if ← accept "REFERENCES" then let _ ← g.reference?
  let _ ← repeated do
    if ← accept "ON" then
      ensure (← acceptOneOf ["DELETE", "UPDATE"])
      if !(← acceptWords ["NO", "ACTION"]) then
        if ← accept "SET" then let _ ← acceptOneOf ["NULL", "DEFAULT"]
        else advance
      return some ()
    else return none
  keyOptions
  return some constraint

/-! ### Conflicts -/

/-- What may be done where rows are in conflict. -/
def conflictActions : List (String × List (List String)) :=
  [("ABORT", []), ("FAIL", []), ("IGNORE", []), ("REPLACE", []), ("ROLLBACK", []), ("UPDATE", []),
   ("DO", [["NOTHING"], ["UPDATE"]])]

/-- What is done where rows are in conflict. -/
def conflict? : Reader (Option Tree) := do
  let conflict ← acceptWords ["ON", "CONFLICT"]
  let found ← if conflict then pure true else acceptWords ["ON", "DUPLICATE", "KEY"]
  if !found then return none
  let keys ←
    if !conflict then pure []
    else if ← acceptWords ["ON", "CONSTRAINT"] then Option.toList <$> g.name? true .any
    else if ← accept "(" then do
      let keys ← commaList g.indexColumn?
      closeRound
      pure keys
    else pure []
  let where? ← g.where?
  let _ ← oneOf? true conflictActions
  let changes ←
    if (← last?).any (·.is "UPDATE") then do
      let _ ← accept "SET"
      commaList g.equality
    else pure []
  let condition? ← g.where?
  return some (.of .other (changes ++ keys ++ where?.toList ++ condition?.toList))

/-- The values that a column has once, from behind UNIQUE on.  With the local engine the word may
stand alone before another constraint. -/
def unique? (starts : List String) : Reader (Option Tree) := do
  if g.dialect == .localSync && (← sees fun t => starts.contains t.upper) then
    return some constraint
  let _ ← acceptWordOf ["KEY", "INDEX"]
  let _ ← acceptWords ["NULLS", "NOT", "DISTINCT"]
  let name? ← match g.dialect with
    | .localSync => g.name? false .any
    | .remoteAsync => pure none
  let _ ← g.schema name?
  if ← accept "USING" then let _ ← take? (!·.isReserved)
  let _ ← g.conflict?
  keyOptions
  return some constraint

/-! ### Values that are made -/

/-- Values that count up, from behind their word on. -/
def counted? : Reader (Option Tree) := do
  if ← seesTag "(" then let _ ← inRound (commaList g.bitwise)
  else if ← acceptWord "START" then
    let _ ← g.bitwise
    let _ ← acceptWord "INCREMENT"
    let _ ← g.bitwise
  return some constraint

/-- The rule for values that are made, in its brackets. -/
def madeInside (identity : Bool) : Reader Unit := do
  let started ← accept "START WITH"
  let start? ← when? started g.bitwise
  if ← acceptWords ["INCREMENT", "BY"] then let _ ← g.bitwise
  if ← acceptWord "MINVALUE" then let _ ← g.bitwise
  if ← acceptWord "MAXVALUE" then let _ ← g.bitwise
  if !(← acceptWord "CYCLE") then let _ ← acceptWords ["NO", "CYCLE"]
  if !identity then let _ ← g.range
  else if start?.isNone && (← sees (·.kind == .number)) then let _ ← commaList g.bitwise
  closeRound

/-- Values that are made, from behind GENERATED on. -/
def made? : Reader (Option Tree) := do
  if ← acceptWords ["BY", "DEFAULT"] then let _ ← acceptPair "ON" "NULL"
  else let _ ← acceptWord "ALWAYS"
  let _ ← accept "AS"
  if ← acceptWord "ROW" then
    if !(← acceptWord "START") then let _ ← accept "END"
    let _ ← acceptWord "HIDDEN"
    return some constraint
  else
    let identity ← acceptWord "IDENTITY"
    let opened ← accept "("
    if opened then g.madeInside identity
    if ← provided (g.dialect == .remoteAsync) (acceptWord "STORED") then
      ensure (opened && !identity)
    return some constraint

/-- The rows of a part of a table, from behind BUCKET or TRUNCATE on.  None where the word is a
name. -/
def bucket? : Reader (Option Tree) := do
  if ← seesTag "(" then
    let parts ← inRound (commaList (firstOf [g.primary, g.column]))
    ensure (2 ≤ parts.length)
    return some constraint
  else
    retreat
    return none

/-! ### Constraints by their words -/

/-- What NOT says of a column. -/
def negation? : Reader (Option Tree) := do
  if ← acceptWord "NULL" then return some (.leaf .nullness "")
  else if ← acceptPhraseOf [["CASESPECIFIC"], ["FOR", "REPLICATION"]] then return some constraint
  else
    retreat
    return none

/-- What happens to a column when its row changes, from behind ON on. -/
def onChange? : Reader (Option Tree) := do
  if ← accept "UPDATE" then constraintOn (g.call {}) else constraintOn (g.name? true .any)

/-- The words that constraints start with. -/
def constraintWords : List String :=
  ["AUTOINCREMENT", "AUTO_INCREMENT", "BUCKET", "CASESPECIFIC", "CHARACTER SET", "CHECK",
   "CLUSTERED", "COLLATE", "COMMENT", "COMPRESS", "DEFAULT", "ENCODE", "EPHEMERAL", "EXCLUDE",
   "FOREIGN KEY", "FORMAT", "GENERATED", "IDENTITY", "INLINE", "LIKE", "NONCLUSTERED", "NOT",
   "NULL", "ON", "PATH", "PERIOD", "PRIMARY KEY", "REFERENCES", "TITLE", "TRUNCATE", "TTL",
   "UNIQUE", "UPPERCASE", "WITH"]

/-- A constraint, from behind its word on.  None where the word turns out to be something else; it
is given back then. -/
def constraint? (word : String) : Reader (Option Tree) :=
  match word with
  | "AUTOINCREMENT" | "AUTO_INCREMENT" | "IDENTITY" => g.counted?
  | "BUCKET" | "TRUNCATE" => g.bucket?
  | "CHARACTER SET" | "FORMAT" | "TITLE" => constraintOn g.wordOrString?
  | "CHECK" => do
      let _ ← inRound (need g.assignment)
      let _ ← acceptWord "ENFORCED"
      return some constraint
  | "CLUSTERED" | "NONCLUSTERED" => do
      let keys ← inRound (commaList (g.ordered? g.disjunction))
      ensure !keys.isEmpty
      return some constraint
  | "COLLATE" => constraintOn (firstOf [g.identifier?, g.column])
  | "COMMENT" | "PATH" => constraintOn g.string?
  | "COMPRESS" => do
      if ← seesTag "(" then let _ ← inRound (commaList g.bitwise)
      else let _ ← g.bitwise
      return some constraint
  | "DEFAULT" | "TTL" => constraintOn g.bitwise
  | "ENCODE" => constraintOn (word? false [])
  | "EPHEMERAL" => do
      let _ ← g.bitwise
      return some constraint
  | "EXCLUDE" => g.indexParameters?
  | "FOREIGN KEY" => g.foreignKey?
  | "GENERATED" => g.made?
  | "INLINE" => constraintOn (g.field {})
  | "LIKE" => g.likeTable?
  | "NOT" => negation?
  | "NULL" => return some (.leaf .nullness "NULL")
  | "ON" => g.onChange?
  | "PERIOD" => do
      retreat
      return none
  | "PRIMARY KEY" => g.primaryKey?
  | "REFERENCES" => g.reference?
  | "UNIQUE" => g.unique? constraintWords
  | "WITH" => do
      let _ ← g.roundProperties
      return some constraint
  | _ => return some constraint

/-- A constraint of a column.  A name that is given to none stands for itself. -/
def columnConstraint? : Reader (Option Tree) := do
  let name? ← if ← accept "CONSTRAINT" then g.name? true .any else pure none
  let procedure := (← seesTag "WITH") &&
    (← second?).any fun t => ["ENCRYPTION", "EXECUTE", "RECOMPILE", "SCHEMABINDING"].contains t.upper
  if procedure then return name?
  match ← take? (·.spellsOneOf constraintWords) with
  | some t => return some (← need (g.constraint? t.upper))
  | none => return name?

/-- The words that constraints of a table start with where they have no name. -/
def tableConstraintWords : List String :=
  ["BUCKET", "CHECK", "EXCLUDE", "FOREIGN KEY", "LIKE", "PERIOD", "PRIMARY KEY", "TRUNCATE",
   "UNIQUE"]

/-- A constraint without a name, by one of some words. -/
def unnamedConstraint? (words : List String) : Reader (Option Tree) := do
  match ← take? fun t => t.kind != .name && t.spellsOneOf words with
  | some t => g.constraint? t.upper
  | none => return none

/-- A constraint of a table. -/
def tableConstraint? : Reader (Option Tree) := do
  if ← accept "CONSTRAINT" then
    let _ ← need (g.name? true .any)
    let constraints ← repeated (firstOf [g.unnamedConstraint? constraintWords, g.call {}])
    ensure !constraints.isEmpty
    return some constraint
  else g.unnamedConstraint? tableConstraintWords

end SqlContract.Sql.Grammar
