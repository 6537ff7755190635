/-
Properties: what a definition says of a table as a whole.

A property is a word with a value of its own form, an option of a sequence, or a key with a value
behind an equals sign.  What starts like a property and goes on otherwise has been taken all the
same.

* `bound?` — the part of a table that a partition holds;
* `sequenceOptions?` — the options of a sequence;
* `property?`, `properties` — properties of all forms;
* `earlyProperty?` — the properties before the columns of a table.
-/

import SqlContract.Sql.Select

set_option autoImplicit false
set_option relaxedAutoImplicit false

namespace SqlContract.Sql.Grammar

open Reader

variable (g : Grammar)

/-- The node of a property, which nothing is made of. -/
def property : Tree :=
  .leaf .other ""

/-- A table whose columns are taken over, from behind LIKE on. -/
def likeTable? : Reader (Option Tree) := do
  let table ← need (g.table { schema := true })
  let named ← repeated do
    if ← acceptWordOf ["INCLUDING", "EXCLUDING"] then
      return some (← g.name? true .any).isSome
    else return none
  return if named.all id then some (.of .other [table]) else none

/-! ### Partitions -/

/-- An end of the values that a partition holds. -/
def boundValue? : Reader (Option Tree) := do
  if ← acceptWordOf ["MINVALUE", "MAXVALUE"] then return some property else g.bitwise

/-- The values that a partition holds. -/
def bound? : Reader (Option Tree) := do
  if ← accept "IN" then
    let _ ← inRound (commaList g.bitwise)
  else if ← accept "FROM" then
    let _ ← inRound (commaList g.boundValue?)
    let _ ← acceptWord "TO"
    let _ ← inRound (commaList g.boundValue?)
  else
    ensure (← acceptWords ["WITH", "(", "MODULUS"])
    let _ ← g.number?
    let _ ← acceptWords [",", "REMAINDER"]
    let _ ← g.number?
    closeRound
  return some property

/-- The table that a partition is a part of, from behind PARTITION on. -/
def partitionOf? : Reader (Option Tree) := do
  if ← acceptWord "OF" then
    let _ ← need (g.table { schema := true })
    if ← accept "DEFAULT" then return some property
    else
      ensure (← acceptWords ["FOR", "VALUES"])
      g.bound?
  else
    retreat
    return none

/-- The keys that a table is parted by. -/
def partitionKeys? : Reader (Option Tree) := do
  let _ ← accept "="
  let keys? ← firstOf [g.schema none, do g.subscripts (← g.field {})]
  return some (.of .other [← given keys?])

/-! ### Sequences -/

/-- The options of a sequence that are words. -/
def sequenceWords : List (String × List (List String)) :=
  [("SCALE", [["EXTEND"], ["NOEXTEND"]]), ("SHARD", [["EXTEND"], ["NOEXTEND"]]),
   ("NO", [["CYCLE"], ["CACHE"], ["MAXVALUE"], ["MINVALUE"]]), ("SESSION", []), ("GLOBAL", []),
   ("KEEP", []), ("NOKEEP", []), ("ORDER", []), ("NOORDER", []), ("NOCACHE", []), ("CYCLE", []),
   ("NOCYCLE", []), ("NOMINVALUE", []), ("NOMAXVALUE", []), ("NOSCALE", []), ("NOSHARD", [])]

/-- An option of a sequence. -/
def sequenceOption : Reader Bool := do
  let _ ← accept ","
  if ← acceptWord "INCREMENT" then
    let _ ← acceptWord "BY"
    let _ ← acceptWord "="
    let _ ← g.term
    return true
  else if ← acceptWordOf ["MINVALUE", "MAXVALUE"] then
    let _ ← g.term
    return true
  else if ← either (accept "START WITH") (acceptWord "START") then
    let _ ← acceptWord "="
    let _ ← g.term
    return true
  else if ← acceptWord "CACHE" then
    let _ ← g.number?
    return true
  else if ← acceptWords ["OWNED", "BY"] then
    if !(← acceptWord "NONE") then let _ ← g.column
    return true
  else return (← oneOf? false sequenceWords).isSome

/-- The options of a sequence; a comma alone is taken for some as well. -/
def sequenceOptions? : Reader (Option Tree) := do
  let before := (← get).left
  let _ ← repeated do return if ← g.sequenceOption then some () else none
  return if (← get).left < before then some property else none

/-! ### Properties -/

/-- Properties that are a word alone. -/
def flags : List String :=
  ["DYNAMIC", "EMPTY", "EXTERNAL", "HEAP", "ICEBERG", "IMMUTABLE", "MATERIALIZED", "MULTISET",
   "SECURE", "SET", "STABLE", "STREAMING", "STRICT", "TEMP", "TEMPORARY", "TRANSIENT", "UNLOGGED",
   "VOLATILE"]

/-- Properties that are a word with a value. -/
def assignments : List String :=
  ["ALGORITHM", "AUTO_INCREMENT", "COLLATE", "COMMENT", "ENGINE", "EXECUTE", "FORMAT", "LANGUAGE",
   "LOCATION", "LOCK", "TABLESPACE", "USING"]

/-- The value of a property behind its word. -/
def assignedField? : Reader (Option Tree) := do
  let _ ← accept "="
  let _ ← accept "AS"
  return some (.of .other [← need (g.field {})])

/-- What WITH says of a table beside properties in brackets. -/
def withRule? : Reader (Option Tree) := do
  if ← acceptWordOf ["ENCRYPTION", "SCHEMABINDING", "VIEW_METADATA"] then return some property
  else if ← acceptPhraseOf [["DATA"], ["NO", "DATA"]] then
    let _ ← acceptPhraseOf [["AND", "STATISTICS"], ["AND", "NO", "STATISTICS"]]
    return some property
  else
    if (← second?).isSome then retreat
    return none

/-- What a table does at the end of a transaction, from behind ON on. -/
def endRule? : Reader (Option Tree) := do
  if ← acceptPhraseOf [["COMMIT", "PRESERVE", "ROWS"], ["COMMIT", "DELETE", "ROWS"]] then
    return some property
  else return some (.of .other [← need (g.schema (← g.name? true .any))])

/-- A key with its value behind an equals sign. -/
def keyedProperty? : Reader (Option Tree) :=
  orBack do
    let key? ← g.column
    if ← accept "=" then
      let value? ← firstOf [g.bitwise, word? true []]
      pair key? value?
    else return none

/-- The known properties by their words.  `inside` reads the properties that stand in another
one. -/
def knownProperty? (inside : Reader (Option Tree)) (word : String) :
    Option (Reader (Option Tree)) :=
  if flags.contains word then some (return some property)
  else if assignments.contains word then some g.assignedField?
  else match word with
    | "CHARACTER SET" | "CHARSET" => some do
        let _ ← accept "="
        return some (.of .other [← need g.wordOrString?])
    | "GLOBAL" => some do
        let _ ← accept "TEMPORARY"
        return some property
    | "INHERITS" => some do
        let tables ← inRound (commaList (g.table {}))
        ensure !tables.isEmpty
        return some property
    | "LIKE" => some g.likeTable?
    | "ON" => some g.endRule?
    | "PARTITION" => some g.partitionOf?
    | "PARTITION BY" | "PARTITIONED BY" | "PARTITIONED_BY" => some g.partitionKeys?
    | "WITH" => some do
        if ← seesTag "(" then
          let found ← inRound (commaList inside)
          return if found.isEmpty then none else some property
        else withRule?
    | _ => none

/-- A known property, with its word. -/
def wordedProperty? (inside : Reader (Option Tree)) : Reader (Option (Option Tree)) := do
  match ← next? with
  | none => return none
  | some t =>
      if t.kind == .text then return none
      match g.knownProperty? inside t.upper with
      | none => return none
      | some known =>
          advance
          return some (← known)

/-- A property, which may hold properties up to a depth. -/
def propertyUpTo : Nat → Reader (Option Tree)
  | 0 => return none
  | depth + 1 => do
      let inside := propertyUpTo depth
      match ← g.wordedProperty? inside with
      | some property? => return property?
      | none =>
          let worded? ← if ← accept "DEFAULT" then g.wordedProperty? inside else pure none
          match worded? with
          | some property? => return property?
          | none => firstOf [g.sequenceOptions?, g.keyedProperty?]

/-- A property. -/
def property? : Reader (Option Tree) := do
  g.propertyUpTo ((← get).left + 1)

/-- Properties in round brackets. -/
def roundProperties : Reader (List Tree) :=
  inRound (commaList g.property?)

/-- The properties that follow one another. -/
def properties : Reader (List Tree) :=
  repeated g.property?

/-- A property before the columns of a table, with the words that may stand before it. -/
def earlyProperty? : Reader (Option Tree) := do
  let _ ← accept ","
  for word in ["NO", "DUAL", "BEFORE", "DEFAULT"] do
    let _ ← acceptWord word
  let _ ← acceptPhraseOf [["LOCAL"], ["NOT", "LOCAL"]]
  let _ ← acceptWord "AFTER"
  let _ ← acceptWordOf ["MIN", "MINIMUM"]
  let _ ← acceptWordOf ["MAX", "MAXIMUM"]
  return (← g.wordedProperty? g.property?).join

end SqlContract.Sql.Grammar
