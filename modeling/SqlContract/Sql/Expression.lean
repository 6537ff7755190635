/-
Expressions: operands and the operators that tie them together.

The ranks of operators stand one above the other, each read by the function of its name from the
parts of the rank below.  Operators of one rank are read from left to right.

* `unary?`, `factor?`, `term?`, `bitwise?` — the ranks below comparisons;
* `range?` — the tests of a value, such as IN, BETWEEN, LIKE and IS;
* `equality?`, `disjunction?`, `assignment?` — the ranks above them;
* `expression?` — an expression, with the name it may be given.
-/

import SqlContract.Sql.Operand

set_option autoImplicit false
set_option relaxedAutoImplicit false

namespace SqlContract.Sql.Grammar

open Reader

variable (g : Grammar)

/-! ### Ranks below comparisons -/

/-- The signs that stand before one part of their own rank. -/
def signs : Dialect → List String
  | .localSync => ["~", "-"]
  | .remoteAsync => ["RLIKE", "~", "-", "|/", "||/"]

/-- An operand with its signs. -/
def unary? : Reader (Option Tree) := do
  if ← accept "+" then g.unary
  else if ← accept "NOT" then single (← g.equality)
  else if ← acceptOneOf (signs g.dialect) then single (← g.unary)
  else g.operand

/-- What a value is in another time zone. -/
def zonedUpTo : Nat → Option Tree → Reader (Option Tree)
  | 0, e? => return e?
  | n + 1, e? => do
      if ← acceptWords ["AT", "TIME", "ZONE"] then zonedUpTo n (← pair e? (← g.unary)) else return e?

/-- A part of a product; with the remote engine it may be a power. -/
def power? : Reader (Option Tree) :=
  match g.dialect with
  | .localSync => g.unary
  | .remoteAsync => operations g.unary (accept "^")

/-- A product. -/
def factor? : Reader (Option Tree) := do
  let first? ← g.zonedUpTo ((← get).left + 1) (← g.power?)
  let rest ← repeated do
    if ← acceptOneOf ["/", "*", "<->"] then return some (← need g.power?)
    else
      let start ← get
      if ← accept "DIV" then
        match ← g.power? with
        | some e => return some e
        | none =>
            set start
            return none
      else return none
  rest.foldlM (fun left? right => pair left? (some right)) first?

/-- A sum.  A remainder and a collation are of the same rank. -/
def term? : Reader (Option Tree) := do
  let first? ← g.factor
  let rest ← repeated do
    match ← take? (·.isOneOf ["-", "+", "%", "COLLATE"]) with
    | some t => return some (t.tag, ← need g.factor)
    | none => return none
  rest.foldlM (fun left? (tag, right) => do
    return some (.of (if tag == "%" then .remainder else .other) [← given left?, right])) first?

/-- Takes an operator on bits, or the one that joins texts. -/
def bitOperator : Reader Bool := do
  let own := match g.dialect with
    | .localSync => "^"
    | .remoteAsync => "#"
  if ← acceptOneOf ["&", "|", own, "||"] then return true
  else if ← acceptPair "<" "<" then return true
  else acceptPair ">" ">"

/-- Operations on bits and texts, and values in the place of a null. -/
def bitwise? : Reader (Option Tree) := do
  let first? ← g.term
  let rest ← repeated do
    if ← accept "??" then return some (Tree.several (← g.term).toList)
    else if ← g.bitOperator then return some (← need g.term)
    else return none
  rest.foldlM (fun left? right => pair left? (some right)) first?

/-! ### Tests of a value -/

/-- What a pattern is escaped with. -/
def escaped? (e? : Option Tree) : Reader (Option Tree) := do
  if ← accept "ESCAPE" then pair e? (← firstOf [g.string?, g.null?]) else return e?

/-- A test against a pattern or another value. -/
def matching? (e? : Option Tree) : Reader (Option Tree) := do
  g.escaped? (← pair e? (← g.bitwise))

/-- A test for the values between two bounds. -/
def between? (e? : Option Tree) : Reader (Option Tree) := do
  if !(← acceptWord "SYMMETRIC") then let _ ← acceptWord "ASYMMETRIC"
  let low ← need g.bitwise
  let _ ← accept "AND"
  let high ← need g.bitwise
  return some (.of .other [← given e?, low, high])

/-- The rows of an array. -/
def unnest? (named : Bool) : Reader (Option Tree) := do
  if !(← seesPair "UNNEST" "(") then return none
  advance
  let arrays ← inRound (commaList g.equality)
  ensure !arrays.isEmpty
  let numbered ← acceptPair "WITH" "ORDINALITY"
  let alias? ← when? named (g.tableAlias? .table)
  if ← provided (!numbered) (acceptPair "WITH" "OFFSET") then
    let _ ← accept "AS"
    let _ ← g.name? false .any
  return some (.of .unnest (arrays ++ alias?.toList))

/-- The values that a test holds against. -/
def candidates? : Reader (Option Tree) := do
  let closing? ←
    if ← accept "(" then pure (some ")")
    else if ← accept "[" then pure (some "]")
    else pure none
  match closing? with
  | none => g.column
  | some closing =>
      let values ← commaList (g.queryOrExpression? false)
      let inside ← match values with
        | [query] =>
            if query.isOneOf [.select, .setOperation, .subquery] then do
              let query ← need (g.modifiers (some query))
              pure [Tree.of .subquery [query]]
            else pure values
        | _ => pure values
      ensure (← accept closing)
      return some (.several inside)

/-- A test for one of some values. -/
def in? (e? : Option Tree) : Reader (Option Tree) := do
  let values? ← firstOf [g.unnest? false, g.candidates?]
  return some (.of .other ((← given e?) :: values?.toList))

/-- A test for a null, a truth value or a document, from behind IS on.  None where nothing of that
kind follows; IS is given back then. -/
def is? (e? : Option Tree) : Reader (Option Tree) := do
  let start ← get
  let negated ← accept "NOT"
  if ← acceptWords ["DISTINCT", "FROM"] then pair e? (← g.bitwise)
  else
    let right? ←
      if ← accept "JSON" then do
        let _ ← acceptWordOf ["ARRAY", "OBJECT", "SCALAR", "VALUE"]
        if !(← acceptWord "WITH") then let _ ← acceptWord "WITHOUT"
        let _ ← accept "UNIQUE"
        let _ ← acceptWord "KEYS"
        pure (some (.leaf .other ""))
      else firstOf [g.null?, g.bitwise]
    match right? with
    | none =>
        set start
        retreat
        return none
    | some right =>
        let test := Tree.of .other [← given e?, right]
        if negated then return some (.of .other [test]) else return some (← g.columnOps test)

/-- The members of a list that are chosen from another, from behind FOR on.  None where no list
follows; FOR is given back then. -/
def comprehension? (e? : Option Tree) : Reader (Option Tree) := do
  let start ← get
  let member? ← g.column
  let position? ← if ← accept "," then g.column else pure none
  if ← accept "IN" then
    let list ← need g.column
    let condition? ← if ← acceptWord "IF" then g.assignment else pure none
    return some <| .of .other <|
      (← given e?) :: (← given member?) :: position?.toList ++ list :: condition?.toList
  else
    set start
    retreat
    return none

/-- Takes tokens up to a closing bracket, and the bracket. -/
def skipToClosing : Nat → Reader Unit
  | 0 => return ()
  | n + 1 => do
      if ← atEnd then return ()
      if !(← accept ")") then
        advance
        skipToClosing n

/-- Operators that are named in brackets, from behind OPERATOR on. -/
def namedOperatorsUpTo : Nat → Option Tree → Reader (Option Tree)
  | 0, e? => return e?
  | n + 1, e? => do
      if ← accept "(" then
        skipToClosing ((← get).left + 1)
        let e? ← pair e? (← g.bitwise)
        if ← accept "OPERATOR" then namedOperatorsUpTo n e? else return e?
      else return e?

/-- Operators that test a value against another one. -/
def matchers : Dialect → List String
  | .localSync => "MATCH" :: common
  | .remoteAsync => ["&&", "@@"] ++ common
where
  /-- Those of both engines. -/
  common : List String :=
    ["@>", "GLOB", "ILIKE", "IRLIKE", "LIKE", "<@", "OVERLAPS", "RLIKE", "SIMILAR TO", "?&", "?|",
     "#-", "-|-", "&<", "&>"]

/-- A test, from behind its first word on. -/
def test? (tag : String) (e? : Option Tree) : Reader (Option Tree) := do
  match tag with
  | "BETWEEN" => g.between? e?
  | "IN" => g.in? e?
  | "IS" => g.is? e?
  | "FOR" => g.comprehension? e?
  | "OPERATOR" => g.namedOperatorsUpTo ((← get).left + 1) e?
  | "@@" => pair e? (← g.bitwise)
  | _ => g.matching? e?

/-- The words and symbols that start a test. -/
def testTags (d : Dialect) : List String :=
  ["BETWEEN", "IN", "IS", "FOR", "OPERATOR"] ++ matchers d

/-- A value and the tests of it.  A test that turns out to be none leaves the value, and a NOT before
it has no part in it. -/
def range? : Reader (Option Tree) := do
  let value? ← g.bitwise
  let negated ← accept "NOT"
  let negate (e? : Option Tree) : Reader (Option Tree) :=
    match e? with
    | some e => return some (if negated then .of .other [e] else e)
    | none => return none
  let rest (e? : Option Tree) : Reader (Option Tree) := do
    let e? ← if ← accept "NOTNULL" then do pure (some (.of .other [.of .other [← given e?]]))
      else pure e?
    let e? ← negate e?
    if ← accept "IS" then g.is? e? else return e?
  match ← take? (·.isOneOf (testTags g.dialect)) with
  | some t =>
      match ← g.test? t.tag value? with
      | some test => rest (some test)
      | none => return value?
  | none =>
      if ← accept "ISNULL" then rest (← single value?)
      else if ← provided negated (accept "NULL") then rest (← single value?)
      else rest value?

/-! ### Ranks above tests -/

/-- Comparisons by order. -/
def comparison? : Reader (Option Tree) :=
  operations g.range (acceptOneOf [">", ">=", "<", "<="])

/-- Comparisons for equality. -/
def equality? : Reader (Option Tree) :=
  operations g.comparison? (acceptOneOf ["=", "<>", "<=>"])

/-- Conditions that all hold. -/
def conjunction? : Reader (Option Tree) :=
  operations g.equality (accept "AND")

/-- Conditions of which one holds. -/
def disjunction? : Reader (Option Tree) :=
  operations g.conjunction? (accept "OR")

/-- What a token that is no expression is called where a value is assigned to it. -/
def assigned? : Reader (Option Tree) := do
  if (← second?).any (·.is ":=") then
    return (← take? fun _ => true).map fun t => .column (.leaf .name t.text)
  else return none

/-- A value that may be assigned to a name. -/
def assignment? : Reader (Option Tree) := do
  let first? ← firstOf [g.disjunction, assigned?]
  let rest ← repeated do
    if ← accept ":=" then return some (← need g.assignment) else return none
  rest.foldlM (fun left? right => pair left? (some right)) first?

/-- An expression with the name it may be given. -/
def expression? : Reader (Option Tree) := do
  g.alias? false (← g.assignment)

end SqlContract.Sql.Grammar
