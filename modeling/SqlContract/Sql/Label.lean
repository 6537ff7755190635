/-
Names, and the names given to expressions and tables.

The word before a name may be left out, so whatever follows an expression may be its name.  LIMIT
and OFFSET can be names as well; they are taken for what they say where a bound follows them.

* `hole?`, `identifier?`, `name?`, `word?`, `string?`, `number?` — names and plain values;
* `limit?`, `offset?` — the bounds of a result;
* `alias?`, `tableAlias?` — the name given to an expression or a table.
-/

import SqlContract.Sql.Grammar

set_option autoImplicit false
set_option relaxedAutoImplicit false

namespace SqlContract.Sql.Grammar

open Reader

variable (g : Grammar)

/-! ### Names -/

/-- A quoted identifier. -/
def quotedName? : Reader (Option Tree) := do
  return (← takeKind? .name).map fun t => .leaf .quotedName t.text

/-- A word that is no name.  Keywords of some tags, and with `any` all that is not reserved, are
words as well. -/
def word? (any : Bool) (tags : List String) : Reader (Option Tree) := do
  return (← take? fun t => any && !t.isReserved || t.kind == .word || t.isOneOf tags).map fun t =>
    .leaf .word t.text

/-- A place for a parameter: a question mark, a name behind a colon, a value behind the mark of a
parameter, or with the remote engine a percent sign. -/
def hole? : Reader (Option Tree) := do
  let marks := match g.dialect with
    | .localSync => ["?", ":", "@"]
    | .remoteAsync => ["?", ":", "@", "%"]
  match ← take? (·.isOneOf marks) with
  | none => return none
  | some mark =>
      if mark.is "?" then return some (.leaf .hole "")
      else if mark.is "@" then
        let value ← need (firstOf [quotedName?, g.hole, g.primary, word? true []])
        return some (.node .hole value.name [value])
      else if mark.is ":" then
        match ← take? (·.isName) with
        | some t => return some (.leaf .hole t.text)
        | none =>
            retreat
            return none
      else
        let named? ← when? (← seesTag "(") <| inRound <| firstOf [quotedName?, g.hole, word? true []]
        let _ ← acceptWord "S"
        return some (.node .hole ((named?.map Tree.name).getD "") named?.toList)

/-- A quoted identifier, or a place for a parameter in its stead. -/
def identifier? : Reader (Option Tree) :=
  firstOf [quotedName?, g.hole?]

/-- A name.  With `any` every token that is not reserved is one. -/
def name? (any : Bool) (place : NamePlace) : Reader (Option Tree) := do
  match ← g.identifier? with
  | some name => return some name
  | none =>
      return (← take? fun t => any && !t.isReserved || place.admits t).map fun t =>
        .leaf (if t.kind == .text then .quotedName else .name) t.text

/-- A text literal taken for a name. -/
def quotedText? : Reader (Option Tree) := do
  return (← takeKind? .text).map fun t => .leaf .quotedName t.text

/-- A text literal of any form. -/
def string? : Reader (Option Tree) := do
  match ← take? fun t => [TokenKind.text, .national, .dollar].contains t.kind with
  | some t => return some (.leaf (if t.kind == .text then .text else .other) t.text)
  | none => g.hole?

/-- A number of any form. -/
def number? : Reader (Option Tree) := do
  match ← take? fun t => [TokenKind.number, .bits, .hex, .bytes].contains t.kind with
  | some t => return some (.leaf (if t.kind == .number then .number else .other) t.text)
  | none => g.hole?

/-- A null. -/
def null? : Reader (Option Tree) := do
  if ← acceptOneOf ["NULL", "UNKNOWN"] then return some (.leaf .null "NULL") else g.hole?

/-- A word or a text literal. -/
def wordOrString? : Reader (Option Tree) :=
  firstOf [g.string?, word? true []]

/-- Names in round brackets. -/
def roundNames : Reader (List Tree) :=
  inRound (commaList (g.name? true .any))

/-! ### Bounds of a result -/

/-- Takes the words that may follow the count of a bound. -/
def boundWords : Reader Unit := do
  let _ ← acceptOneOf ["PERCENT", "%"]
  let _ ← acceptOneOf ["ROW", "ROWS"]
  let _ ← acceptWord "ONLY"
  let _ ← acceptWords ["WITH", "TIES"]

/-- The groups that a bound counts in. -/
def boundGroups : Reader (List Tree) := do
  if ← acceptWord "BY" then commaList g.bitwise else return []

/-- The count of a LIMIT.  A percent sign behind it belongs to the bound. -/
def boundCount? : Reader (Option Tree) := do
  let start ← get
  match ← attempt g.term with
  | some e =>
      if e.kind == .remainder then
        set start
        g.factor
      else return some e
  | none => g.factor

/-- A FETCH. -/
def fetch? (bounded? : Option Tree) : Reader (Option Tree) := do
  if ← accept "FETCH" then
    let _ ← acceptOneOf ["FIRST", "NEXT"]
    let count? ← g.field { place := .count }
    boundWords
    return some (.of .limit count?.toList)
  else return bounded?

/-- A LIMIT on what is bounded, or a FETCH; what is bounded itself where there is neither.  The text
tells of a LIMIT that skips rows as well. -/
def limit? (bounded? : Option Tree) : Reader (Option Tree) := do
  if ← accept "LIMIT" then
    let first? ← g.boundCount?
    boundWords
    let skips ← accept ","
    let count ← need (if skips then g.term else return first?)
    let skipped := if skips then first?.toList else []
    let groups ← g.boundGroups
    return some <| .node .limit (if skipped.isEmpty then "" else "skips") <|
      bounded?.toList ++ count :: skipped ++ groups
  else g.fetch? bounded?

/-- An OFFSET on what is bounded. -/
def offset? (bounded? : Option Tree) : Reader (Option Tree) := do
  if ← accept "OFFSET" then
    let count ← need g.term
    let _ ← acceptOneOf ["ROW", "ROWS"]
    return some (.of .other (bounded?.toList ++ count :: (← g.boundGroups)))
  else return bounded?

/-- Whether a LIMIT or an OFFSET follows with a bound. -/
def seesBound : Reader Bool := do
  if ← sees (·.isOneOf ["LIMIT", "OFFSET"]) then
    return (← glimpse (g.limit? none)).isSome || (← glimpse (g.offset? none)).isSome
  else return false

/-! ### Given names -/

/-- What is named, with the name it is given.  With `explicit` the word AS is due before it. -/
def alias? (explicit : Bool) (named? : Option Tree) : Reader (Option Tree) := do
  if ← g.seesBound then return named?
  let announced ← accept "AS"
  if explicit && !announced then return named?
  if ← accept "(" then
    let names ← commaList (g.name? announced .any)
    closeRound
    ensure (!names.isEmpty)
    return some (.of .other ((← given named?) :: names))
  let texts := match g.dialect with
    | .localSync => [quotedText?]
    | .remoteAsync => []
  match ← firstOf (g.name? announced .any :: texts) with
  | some name => return some (.node .alias name.name [← given named?, name])
  | none => return named?

/-- The name given to a table, and names for its columns. -/
def tableAlias? (place : NamePlace) : Reader (Option Tree) := do
  if ← g.seesBound then return none
  let announced ← accept "AS"
  let name? ← firstOf [g.name? announced place, quotedText?]
  let start ← get
  let columns ← if ← accept "(" then
      commaList do g.columnDefinition (← g.name? true .any) false
    else pure []
  if columns.isEmpty then set start else closeRound
  if name?.isNone && columns.isEmpty then return none
  return some <| .node .tableAlias ((name?.map Tree.name).getD "") <|
    name?.toList ++ [.several columns]

end SqlContract.Sql.Grammar
