/-
Calls: functions with their arguments, and what may follow them.

* `argument?` — an argument, with the words that may stand around it;
* `window?` — a call with the rows that it looks at;
* `case?`, `conditional?`, `nextValue?` — calls that are written without brackets;
* `special?` — functions whose arguments have a form of their own;
* `call?` — a call of any function.
-/

import SqlContract.Sql.Clause
import SqlContract.Sql.Function

set_option autoImplicit false
set_option relaxedAutoImplicit false

namespace SqlContract.Sql.Grammar

open Reader

variable (g : Grammar)

/-! ### Arguments -/

/-- An expression that may be given a name behind AS. -/
def labelled? : Reader (Option Tree) := do
  g.alias? true (← g.assignment)

/-- A query, or an expression. -/
def queryOrExpression? (named : Bool) : Reader (Option Tree) := do
  match ← g.select {} with
  | some query => return some query
  | none => g.setOperations (← if named then g.labelled? else g.assignment)

/-- What is taken where nulls are left out or kept. -/
def nullRule? (e? : Option Tree) : Reader (Option Tree) := do
  if ← acceptPhraseOf [["IGNORE", "NULLS"], ["RESPECT", "NULLS"]] then single e?
  else return e?

/-- What is taken from the row where another column is greatest or least. -/
def extremeRow? (e? : Option Tree) : Reader (Option Tree) := do
  if ← accept "HAVING" then
    let _ ← acceptWordOf ["MAX", "MIN"]
    pair e? (← g.column)
  else return e?

/-- A function that is an argument, or an argument by its name. -/
def namedArgument? : Reader (Option Tree) := do
  let bracketed ← accept "("
  let names ← if bracketed then commaList (g.name? true .any)
    else Option.toList <$> g.name? true .any
  let closed ← if bracketed then accept ")" else pure true
  if ← provided closed (accept "->") then
    ensure (!bracketed || !names.isEmpty)
    return some (.of .other ((← need g.disjunction) :: names))
  else if ← provided closed (accept "=>") then
    ensure !names.isEmpty
    return some (.of .other [← need g.disjunction])
  else return none

/-- An argument of a call: a function, a value by its name, or an expression with the rule for the
rows it is taken from. -/
def argument? (named : Bool) : Reader (Option Tree) := do
  match ← orBack g.namedArgument? with
  | some argument => return some argument
  | none =>
      let e? ←
        if ← accept "DISTINCT" then (some ∘ Tree.of .other) <$> commaList g.disjunction
        else do
          let _ ← accept "ALL"
          g.queryOrExpression? named
      let e? ← nullRule? e?
      let e? ← g.extremeRow? e?
      let e? ← g.order? e?
      g.limit? e?

/-! ### Windows -/

/-- A bound of the rows that a window holds. -/
def frameBound? : Reader (Option Tree) := do
  let _ ← accept "BETWEEN"
  let bound? ←
    if ← acceptWord "UNBOUNDED" then pure none
    else if ← acceptWords ["CURRENT", "ROW"] then pure none
    else g.bitwise
  let _ ← acceptWordOf ["FOLLOWING", "PRECEDING"]
  return bound?

/-- The rows that a window holds. -/
def frame? : Reader (Option Tree) := do
  if ← either (acceptOneOf ["ROWS", "RANGE"]) (acceptWord "GROUPS") then
    let first? ← g.frameBound?
    let last? ← if ← accept "AND" then g.frameBound? else pure none
    if ← acceptWord "EXCLUDE" then
      let _ ← oneOf? true
        [("NO", [["OTHERS"]]), ("CURRENT", [["ROW"]]), ("GROUP", []), ("TIES", [])]
    return some (.of .other (first?.toList ++ last?.toList))
  else return none

/-- The words behind a call that say which rows it takes and in which order. -/
def rowRule? (call? : Option Tree) : Reader (Option Tree) := do
  let call? ←
    if ← acceptWords ["WITHIN", "GROUP"] then do
      let order? ← inRound (g.order? none)
      pure (some (.of .other ((← given call?) :: order?.toList)))
    else pure call?
  let call? ←
    if ← acceptPair "FILTER" "(" then do
      let _ ← accept "WHERE"
      let condition ← need g.disjunction
      closeRound
      pure (some (.of .other [← given call?, .of .other [condition]]))
    else pure call?
  nullRule? call?

/-- A call with the window that it looks at, or with `defines` a name with the window that it
names. -/
def window? (defines : Bool) (call? : Option Tree) : Reader (Option Tree) := do
  let call? ← g.rowRule? call?
  let announced ← accept (if defines then "AS" else "OVER")
  if !defines && !announced then return call?
  if ← accept "(" then
    let base? ← g.name? false .window
    let _ ← accept "FIRST"
    let _ ← acceptWord "LAST"
    let partition ← g.partition
    let order? ← g.order? none
    let frame? ← g.frame?
    closeRound
    return some <| .of .window <|
      (← given call?) :: partition ++ order?.toList ++ frame?.toList ++ base?.toList
  else
    let name? ← g.name? false .any
    return some (.of .window ((← given call?) :: name?.toList))

/-! ### Calls without brackets -/

/-- Whether an expression is what a missing END of a CASE was taken for. -/
def isTakenEnd (e : Tree) : Bool :=
  e.kind == .interval && e.parts.head?.any fun t => upperText t.name == "END"

/-- One arm of a CASE. -/
def arm? : Reader (Option Tree) := do
  if ← accept "WHEN" then
    let condition? ← g.disjunction
    let _ ← accept "THEN"
    pair condition? (← g.disjunction)
  else return none

/-- A CASE, from behind that word on.  None where the word is the name of a table. -/
def case? : Reader (Option Tree) := do
  if ← seesTag "." then
    retreat
    return none
  let subject? ← g.disjunction
  let arms ← repeated g.arm?
  let default? ← if ← accept "ELSE" then g.disjunction else pure none
  if !(← accept "END") then ensure (default?.any isTakenEnd)
  ensure !arms.isEmpty
  return some (.of .call (subject?.toList ++ arms ++ default?.toList))

/-- An IF, from behind that word on.  None where the word is a name. -/
def conditional? : Reader (Option Tree) := do
  if ← accept "(" then
    let args ← commaList g.labelled?
    ensure ((Arity.between 2 3).admits args.length)
    closeRound
    return some (.of .call args)
  else
    match ← g.disjunction with
    | none =>
        retreat
        return none
    | some condition =>
        let _ ← accept "THEN"
        let value ← need g.disjunction
        let default? ← if ← accept "ELSE" then g.disjunction else pure none
        let _ ← accept "END"
        return some (.of .call (condition :: value :: default?.toList))

/-- The next value of a sequence, from behind NEXT on.  None where that word is a name. -/
def nextValue? : Reader (Option Tree) := do
  if ← acceptWords ["VALUE", "FOR"] then
    let sequence ← need g.column
    let order? ← if ← accept "OVER" then inRound (g.order? none) else pure none
    return some (.of .call (sequence :: order?.toList))
  else
    retreat
    return none

/-- The calls that are written without brackets, by the word that starts them. -/
def bareCall? (word : String) : Option (Reader (Option Tree)) :=
  match word with
  | "ANY" => some do single (← g.bitwise)
  | "CASE" => some g.case?
  | "CONNECT_BY_ROOT" => some do single (← g.column)
  | "IF" => some g.conditional?
  | "NEXT" => some g.nextValue?
  | _ => none

/-! ### Arguments with a form of their own -/

/-- The inside of a CAST. -/
def castInside : Reader (Option Tree) := do
  let e? ← g.disjunction
  if ← accept "AS" then
    let type? ← g.typeName {}
    let default? ← if ← accept "DEFAULT" then g.bitwise else pure none
    if default?.isSome then let _ ← acceptWords ["ON", "CONVERSION", "ERROR"]
    let format? ←
      if ← acceptOneOf ["FORMAT", ","] then g.string?
      else do
        ensure type?.isSome
        pure none
    let _ ← oneOf? false [("RENAME", [["FIELDS"]]), ("ADD", [["FIELDS"]])]
    return some <| .of .cast <|
      (← given e?) :: type?.toList ++ format?.toList ++ default?.toList
  else
    ensure (← accept ",")
    pair e? (← g.string?)

/-- The inside of a CONVERT. -/
def convertInside : Reader (Option Tree) := do
  let e? ← g.bitwise
  let type? ←
    if ← accept "USING" then word? false ["BINARY"]
    else if ← accept "," then g.typeName {}
    else pure none
  return some (.of .cast [← given e?, ← given type?])

/-- The inside of a call that rounds. -/
def roundingInside : Reader (Option Tree) := do
  let args ← commaList (g.argument? false)
  if ← acceptWord "TO" then let _ ← word? false []
  return some (.of .call args)

/-- The inside of a CHAR. -/
def characterInside : Reader (Option Tree) := do
  let codes ← commaList g.assignment
  if ← accept "USING" then let _ ← word? true []
  ensure !codes.isEmpty
  return some (.of .call codes)

/-- The inside of a DECODE. -/
def decodeInside : Reader (Option Tree) := do
  let args ← commaList g.disjunction
  ensure (2 ≤ args.length)
  return some (.of .call args)

/-- The inside of an EXTRACT. -/
def extractInside : Reader (Option Tree) := do
  let field? ← firstOf [g.call {}, g.wordOrString?]
  ensure (← acceptOneOf ["FROM", ","])
  return some (.of .call [← given field?, ← need g.bitwise])

/-- The inside of a DATE_PART. -/
def datePartInside : Reader (Option Tree) := do
  let field? ← g.operand
  let _ ← accept ","
  return some (.of .call [← given field?, ← need g.bitwise])

/-- A key with its value. -/
def keyValue? : Reader (Option Tree) := do
  let _ ← acceptWord "KEY"
  let key? ← g.column
  let _ ← acceptOneOf [":", ",", "IS"]
  let _ ← acceptWord "VALUE"
  let value? ← g.bitwise
  if key?.isNone && value?.isNone then return none
  let pair? ← pair key? value?
  let _ ← acceptWords ["FORMAT", "JSON"]
  return pair?

/-- The inside of a JSON_OBJECT. -/
def objectInside : Reader (Option Tree) := do
  let members ← if ← accept "*" then pure [.leaf .star "*"] else commaList g.keyValue?
  let _ ← acceptPhraseOf [["NULL", "ON", "NULL"], ["ABSENT", "ON", "NULL"]]
  let _ ← acceptPhraseOf [["WITH", "UNIQUE"], ["WITHOUT", "UNIQUE"]]
  let _ ← acceptWord "KEYS"
  if ← acceptWord "RETURNING" then
    let _ ← g.operand
    let _ ← acceptWords ["FORMAT", "JSON"]
  if ← acceptWord "ENCODING" then let _ ← word? false []
  return some (.of .call members)

/-- The inside of an OVERLAY. -/
def overlayInside : Reader (Option Tree) := do
  let part? (word : String) : Reader (Option Tree) := do
    if ← either (accept ",") (acceptWord word) then g.bitwise else return none
  let text? ← g.bitwise
  let placed? ← part? "PLACING"
  let start? ← part? "FROM"
  let count? ← part? "FOR"
  return some <| .of .call <|
    (← given text?) :: (← given placed?) :: (← given start?) :: count?.toList

/-- The inside of a POSITION. -/
def positionInside : Reader (Option Tree) := do
  let args ← commaList g.bitwise
  if ← accept "IN" then
    return some (.of .call [← need g.bitwise, ← given args.head?])
  else
    ensure (2 ≤ args.length)
    return some (.of .call args)

/-- The inside of a STRING_AGG. -/
def textSumInside : Reader (Option Tree) := do
  let args ←
    if ← accept "DISTINCT" then do
      let first ← need g.disjunction
      let more ← if ← accept "," then commaList g.disjunction else pure []
      pure (.of .other [first] :: more)
    else commaList g.disjunction
  if ← acceptWords ["ON", "OVERFLOW"] then
    if !(← acceptWord "ERROR") then
      ensure (← acceptWord "TRUNCATE")
      let _ ← g.string?
      let _ ← acceptPhraseOf [["WITH", "COUNT"], ["WITHOUT", "COUNT"]]
  match args with
  | [] => failure
  | first :: more =>
      if ← seesTag ")" then
        let start ← get
        advance
        if ← acceptWords ["WITHIN", "GROUP"] then
          ensure (← accept "(")
          let ordered? ← g.order? (some first)
          return some (.of .aggregate (ordered?.toList ++ more.take 1))
        else
          set start
          ensure (more.length ≤ 2)
          return some (.of .aggregate args)
      else
        let ordered? ← g.order? (some first)
        let bounded? ← g.limit? ordered?
        return some (.of .aggregate (bounded?.toList ++ more.take 1))

/-- The inside of a SUBSTRING. -/
def substringInside : Reader (Option Tree) := do
  let args ← commaList g.bitwise
  let more ← repeated do
    if ← acceptOneOf ["FROM", "FOR"] then return some (← g.bitwise).toList else return none
  let all := args ++ more.flatten
  ensure ((Arity.between 1 4).admits all.length)
  return some (.of .call all)

/-- The inside of a TRIM. -/
def trimInside : Reader (Option Tree) := do
  let _ ← acceptWordOf ["BOTH", "LEADING", "TRAILING"]
  let first? ← g.bitwise
  let parts ←
    if ← accept "FROM" then pure ((← need g.bitwise) :: first?.toList)
    else if ← accept "," then pure ((← given first?) :: (← g.bitwise).toList)
    else pure [← given first?]
  let collation? ← if ← accept "COLLATE" then g.bitwise else pure none
  return some (.of .call (parts ++ collation?.toList))

/-- The inside of a NORMALIZE. -/
def normalizeInside : Reader (Option Tree) := do
  let text ← need g.bitwise
  if ← accept "," then let _ ← word? false []
  return some (.of .call [text])

/-- The inside of a JSON_AGG. -/
def jsonSumInside : Reader (Option Tree) := do
  let value? ← g.argument? false
  let order? ← g.order? none
  return some (.of .aggregate ((← given value?) :: order?.toList))

/-- The functions whose arguments have a form of their own, by their names in upper case. -/
def special? (name : String) : Option (Reader (Option Tree)) :=
  match name with
  | "CAST" | "SAFE_CAST" | "TRY_CAST" => some g.castInside
  | "CONVERT" | "TRY_CONVERT" => some g.convertInside
  | "CEIL" | "FLOOR" => some g.roundingInside
  | "CHAR" | "CHR" => some g.characterInside
  | "DECODE" => some g.decodeInside
  | "EXTRACT" => some g.extractInside
  | "JSON_OBJECT" | "JSON_OBJECTAGG" => some g.objectInside
  | "NORMALIZE" => some g.normalizeInside
  | "OVERLAY" => some g.overlayInside
  | "POSITION" => some g.positionInside
  | "STRING_AGG" => some g.textSumInside
  | "SUBSTRING" => some g.substringInside
  | "TRIM" => some g.trimInside
  | _ =>
      match g.dialect, name with
      | .remoteAsync, "DATE_PART" => some g.datePartInside
      | .remoteAsync, "JSON_AGG" => some g.jsonSumInside
      | _, _ => none

/-! ### Calls -/

/-- The inside of a call without a form of its own.  A known function takes no names for its
arguments, and as many of them as it does. -/
def plainInside (f : CallForm) (callee : Token) : Reader (Option Tree) := do
  let arity? := if f.anonymous then none else arity? g.dialect callee.upper
  let args ← commaList (g.argument? arity?.isNone)
  ensure (arity?.all (·.admits args.length))
  return some <| .node (if arity?.isSome && isAggregate callee.upper then .aggregate else .call)
    callee.text args

/-- The query that a word like EXISTS stands before, in brackets.  Behind LIKE the word may stand
before an expression. -/
def predicate? (before? : Option Token) (callee : Token) : Reader (Option Tree) := do
  if !callee.isOneOf ["ALL", "ANY", "EXISTS", "SOME"] then return none
  if ← sees (·.isOneOf ["SELECT", "WITH"]) then
    let query? ← g.select {}
    closeRound
    match query? with
    | some query => return some (.of .call [query])
    | none => return none
  else if before?.any (·.isOneOf ["LIKE", "ILIKE"]) then
    retreat
    return (← g.bitwise).map fun e => .of .call [e]
  else return none

/-- A call of a function by its name and its brackets. -/
def roundCall? (f : CallForm) (callee : Token) : Reader (Option Tree) := do
  if if f.anyToken then callee.isReserved else !callee.isCallee then return none
  let before? ← last?
  advance
  advance
  let finish (inside : Reader (Option Tree)) : Reader (Option Tree) := do
    let call? ← inside
    closeRound
    g.window? false call?
  match if f.anonymous then none else g.special? callee.upper with
  | some inside => finish inside
  | none =>
      match ← g.predicate? before? callee with
      | some predicate => return some predicate
      | none => finish (g.plainInside f callee)

/-- A call: with brackets, or of a function that needs none. -/
def call? (f : CallForm) : Reader (Option Tree) := do
  let braced := (← seesTag "\x7b") && (← second?).any (·.upper == "FN")
  if braced then
    advance
    advance
  let call? ← match ← next? with
    | none => return none
    | some callee =>
        let bare? :=
          if f.bare && callee.kind != .name && callee.kind != .text then g.bareCall? callee.upper
          else none
        match bare? with
        | some inside =>
            advance
            match ← inside with
            | some call => g.window? false (some call)
            | none => pure none
        | none =>
            if (← second?).any (·.is "(") then g.roundCall? f callee
            else if f.bare && callee.isOneOf (Token.bareFunctions g.dialect) then
              advance
              pure (some (.node .call callee.text []))
            else pure none
  if braced then let _ ← accept "\x7d"
  return call?

end SqlContract.Sql.Grammar
