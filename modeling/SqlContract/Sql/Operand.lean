/-
Operands: the parts of an expression that no operator ties together.

A value is a literal, a name or something in brackets, and what stands directly behind it belongs to
it: members, subscripts, casts, and the operators that reach into a document.  A name that is also
the name of a type is a type where a literal follows it.

* `primary?` — literals, stars and what stands in round brackets;
* `field?`, `column?` — names, and the columns they stand for;
* `subscripts`, `columnOps` — what belongs to a value behind it;
* `interval?`, `operand?` — spans of time, and operands of all forms.
-/

import SqlContract.Sql.Call
import SqlContract.Sql.TypeName

set_option autoImplicit false
set_option relaxedAutoImplicit false

namespace SqlContract.Sql.Grammar

open Reader

variable (g : Grammar)

/-! ### What stands in round brackets -/

/-- Fails where a pivot follows, which is not read. -/
def noPivot : Reader Unit := do
  for tag in ["PIVOT", "UNPIVOT"] do
    ensure (!(← seesPair tag "("))

/-- A query that was read in brackets, with the name it may be given and its sample. -/
def subquery? (named : Bool) (query? : Option Tree) : Reader (Option Tree) := do
  match query? with
  | none => return none
  | some query =>
      noPivot
      let alias? ← when? named (g.tableAlias? .table)
      let sample? ← g.sample? false
      return some (.of .subquery (query :: alias?.toList ++ sample?.toList))

/-- What round brackets make of the expressions in them. -/
def bracketed (first? : Option Tree) (others : List Tree) : Reader Tree := do
  let listed := (← last?).any (·.is ",")
  match first? with
  | none =>
      ensure (listed || (← seesTag ")"))
      return .of .tuple []
  | some first =>
      if first.isOneOf [.select, .setOperation] then need (g.subquery? false first?)
      else if first.isOneOf [.subquery, .values] then
        need (g.subquery? false (← g.modifiers (← g.setOperations first?)))
      else if listed || !others.isEmpty then return .of .tuple (first :: others)
      else return .of .brackets [first]

/-- A query, an expression or a list of expressions in round brackets. -/
def brackets? : Reader (Option Tree) := do
  if !(← accept "(") then return none
  let members ← match ← g.select {} with
    | some query => pure [query]
    | none => commaList g.expression
  let inside ← g.bracketed (← g.modifiers members.head?) members.tail
  closeRound
  if inside.kind == .brackets && inside.has .aggregate then g.window? false (some inside)
  else return some inside

/-! ### Literals and stars -/

/-- What a star leaves out, replaces or renames. -/
def starRule (words : List String) : Reader (List Tree) := do
  if ← acceptWordOf words then
    if ← seesTag "(" then inRound (commaList g.expression)
    else return (← g.alias? true (← g.column)).toList
  else return []

/-- All columns, from behind the star on. -/
def star : Reader Tree := do
  let left ← g.starRule ["EXCEPT", "EXCLUDE"]
  let replaced ← g.starRule ["REPLACE"]
  let renamed ← g.starRule ["RENAME"]
  return .node .star "*" (left ++ replaced ++ renamed)

/-- A literal.  Text literals that follow one another are one text. -/
def literal? : Reader (Option Tree) := do
  match ← next? with
  | none => return none
  | some t =>
      match t.kind with
      | .keyword | .word | .name => return none
      | .text =>
          let texts ← repeated (takeKind? .text)
          return some (.leaf (if texts.length == 1 then .text else .other) t.text)
      | .number =>
          advance
          return some (.leaf .number t.text)
      | _ =>
          advance
          return some (.leaf .other t.text)

/-- A literal, a star or what stands in round brackets. -/
def primary? : Reader (Option Tree) := do
  match ← literal? with
  | some literal => return some literal
  | none =>
      if ← accept "NULL" then return some (.leaf .null "NULL")
      else if ← acceptOneOf ["TRUE", "FALSE"] then return some (.leaf .other "")
      else if ← accept "*" then return some (← g.star)
      else if (← seesTag ".") && (← second?).any (·.kind == .number) then
        advance
        advance
        return some (.leaf .number ("0." ++ (← lastText)))
      else g.brackets?

/-! ### Names -/

/-- A value, a call or a name.  Where calls of no known function are due, they come first. -/
def field? (f : FieldForm) : Reader (Option Tree) :=
  let call := g.call { anonymous := f.anonymous, anyToken := f.anyToken }
  let name := g.name? f.anyToken f.place
  if f.anonymous then firstOf [call, g.primary, name] else firstOf [g.primary, call, name]

/-- VALUES as a name: the word where no bracket follows it. -/
def valuesName? : Reader (Option Tree) := do
  if (← seesTag "VALUES") && !(← second?).any (·.is "(") then g.name? true .any else return none

/-- A value, a call or the column of a name. -/
def columnName? : Reader (Option Tree) := do
  return (← firstOf [g.field {}, g.valuesName?]).map fun e => if e.isName then .column e else e

/-! ### What belongs to a value -/

/-- A range of subscripts behind its first one. -/
def slice? (first? : Option Tree) : Reader (Option Tree) := do
  if ← accept ":" then
    let last? ←
      if ← seesPair "-" ":" then advance *> pure none
      else g.assignment
    let step? ← if ← accept ":" then g.unary else pure none
    return some (.of .other (first?.toList ++ last?.toList ++ step?.toList))
  else return first?

/-- An element of an array or a struct, or a subscript. -/
def element? : Reader (Option Tree) := do
  g.slice? (← g.alias? true (← g.disjunction))

/-- Subscripts behind a value, up to a number of them. -/
def subscriptsUpTo : Nat → Option Tree → Reader (Option Tree)
  | 0, value? => return value?
  | n + 1, value? => do
      if ← accept "[" then
        let elements ← commaList g.element?
        ensure (← accept "]")
        match value? with
        | none => subscriptsUpTo n (some (.of .call elements))
        | some value =>
            if ["ARRAY", "LIST"].contains (upperText value.name) then
              return some (.of .call elements)
            else
              ensure !elements.isEmpty
              subscriptsUpTo n (some (.of .other (value :: elements)))
      else if ← accept "\x7b" then
        let elements ← commaList g.element?
        ensure (← accept "\x7d")
        subscriptsUpTo n (some (.of .call elements))
      else return value?

/-- Subscripts behind a value.  Without a value they are the elements of an array, and behind ARRAY
as well; in curly brackets they are those of a struct. -/
def subscripts (value? : Option Tree) : Reader (Option Tree) := do
  g.subscriptsUpTo ((← get).left + 1) value?

/-- Whether a node is what a function gives. -/
def isCalled (t : Tree) : Bool :=
  t.isOneOf [.aggregate, .call, .cast, .window]

/-- A member of a value.  A name of up to four parts is a column; what qualifies a call is not. -/
def member (value field : Tree) : Tree :=
  if value.kind == .column && value.parts.length < 4 && !isCalled field then
    .of .column (field :: value.parts)
  else if field.kind == .window then
    match field.parts with
    | call :: rest => .of .window (.of .member [value, call] :: rest)
    | [] => .of .member [value, field]
  else .of .member [value, field]

/-- The operators that reach into a document. -/
def pathOperators : List String :=
  ["->", "->>", "#>", "#>>", "?"]

/-- What is due behind a value, up to a number of times.  `path?` reads the way into a document. -/
def columnOpsUpTo (path? : Reader (Option Tree)) : Nat → Tree → Reader Tree
  | 0, value => return value
  | n + 1, value => do
      let value ← need (g.subscripts (some value))
      if ← accept "." then
        let field ← need (g.field { anyToken := true, anonymous := true })
        columnOpsUpTo path? n (member value field)
      else if ← acceptOneOf ["::", ".:"] then
        let type ← need (g.typeName {})
        columnOpsUpTo path? n (.of .cast [value, type])
      else if ← acceptOneOf pathOperators then
        let path ← need path?
        columnOpsUpTo path? n (.of .call [value, path])
      else return value

/-- The members of a column that is the way into a document. -/
def pathMembers (column : Tree) : Reader Tree := do
  g.columnOpsUpTo g.bitwise ((← get).left + 1) column

/-- The way into a document: a column with its members, or a value. -/
def path? : Reader (Option Tree) := do
  match ← g.columnName? with
  | some e => if e.kind == .column && (← seesTag ".") then some <$> g.pathMembers e else return some e
  | none => g.bitwise

/-- A value with all that belongs to it. -/
def columnOps (value : Tree) : Reader Tree := do
  g.columnOpsUpTo g.path? ((← get).left + 1) value

/-- A column, or a value with what belongs to it. -/
def column? : Reader (Option Tree) := do
  match ← g.columnName? with
  | some value => some <$> g.columnOps value
  | none => g.subscripts none

/-! ### Spans of time -/

/-- The units of a span of time. -/
def timeUnits : List String :=
  ["Y", "YY", "YYY", "YYYY", "YR", "YRS", "YEAR", "YEARS", "MM", "MON", "MONS", "MONTH", "MONTHS",
   "D", "DD", "DAY", "DAYS", "DAYOFMONTH", "DAYOFWEEK", "WEEKDAY", "DOW", "DW", "WEEKDAY_ISO",
   "DOW_ISO", "DW_ISO", "DAYOFWEEK_ISO", "DAYOFWEEKISO", "DAYOFYEAR", "DOY", "DY", "W", "WK", "WEEK",
   "WEEKOFYEAR", "WOY", "WY", "WEEK_ISO", "WEEKOFYEARISO", "WEEKOFYEAR_ISO", "WEEKISO", "Q", "QTR",
   "QTRS", "QUARTER", "QUARTERS", "H", "HH", "HR", "HRS", "HOUR", "HOURS", "M", "MI", "MIN", "MINS",
   "MINUTE", "MINUTES", "S", "SEC", "SECS", "SECOND", "SECONDS", "MS", "MSEC", "MSECS", "MSECOND",
   "MSECONDS", "MILLISEC", "MILLISECS", "MILLISECON", "MILLISECOND", "MILLISECONDS", "US", "USEC",
   "USECS", "MICROSEC", "MICROSECS", "USECOND", "USECONDS", "MICROSECOND", "MICROSECONDS", "NS",
   "NSEC", "NANOSEC", "NSECOND", "NSECONDS", "NANOSECS", "NANOSECOND", "EPOCH", "EPOCH_SECOND",
   "EPOCH_SECONDS", "EPOCH_MILLISECOND", "EPOCH_MILLISECONDS", "EPOCH_MICROSECOND",
   "EPOCH_MICROSECONDS", "EPOCH_NANOSECOND", "EPOCH_NANOSECONDS", "TZH", "TZM", "TIMEZONE_HOUR",
   "TIMEZONE_MINUTE", "DEC", "DECS", "DECADE", "DECADES", "MIL", "MILS", "MILLENIA", "MILLENNIUM",
   "C", "CENT", "CENTS", "CENTURY", "CENTURIES"]

/-- The amounts with their units in a text: each a number with a word behind it. -/
def amountsIn (s : List Char) : Nat → Nat
  | 0 => 0
  | n + 1 =>
      match s with
      | [] => 0
      | c :: cs =>
          if c.isDigit then
            let whole := s.dropWhile Char.isDigit
            let behind := match whole with
              | '.' :: d :: ds => if d.isDigit then ds.dropWhile Char.isDigit else whole
              | _ => whole
            let unit := behind.dropWhile Text.isBlank
            if unit.head?.any Char.isAlpha then 1 + amountsIn (unit.dropWhile Char.isAlpha) n
            else amountsIn behind n
          else amountsIn cs n

/-- Whether a text gives days and a time of day, so that no unit is due. -/
def givesTime (s : List Char) : Bool :=
  let start := Text.stripLeft s
  let unsigned := Text.stripLeft (if start.head? == some '-' then start.tail else start)
  let days := unsigned.takeWhile fun c => c.isDigit || c == '.'
  let time := unsigned.drop days.length
  let clock := Text.stripLeft time
  let digits := (if clock.head? == some '-' then clock.tail else clock).dropWhile Char.isDigit
  days.head?.any Char.isDigit && time.head?.any Text.isBlank && digits.head? == some ':'

/-- Whether two units follow, from one to the other. -/
def seesUnitRange : Reader Bool := do
  let range? ← glimpse do
    match ← word? true [] with
    | none => return none
    | some first => if ← acceptWord "TO" then return (← word? true []).map fun _ => first else return none
  return range?.isSome

/-- The unit of a span of time.  A text that holds its units takes none behind it, and with the
remote engine one that gives a time of day as well. -/
def spanUnit? (amount : Tree) : Reader (Option Tree) := do
  let text := amount.text.toList
  let omitted := amount.kind == .text && g.dialect == .remoteAsync && givesTime text &&
    !(← seesUnitRange)
  if omitted then return none
  let unit? ← match ← g.call {} with
    | some call => pure (some call)
    | none => if ← seesTag "AS" then pure none else word? true []
  match amount.kind, amountsIn text (text.length + 1) with
  | .text, 0 => return unit?
  | .text, amounts =>
      if unit?.isSome then retreat
      return if amounts == 1 then some (.leaf .word "") else none
  | _, _ => return unit?

/-- A span of time, from behind INTERVAL on, with the spans that follow it. -/
def spanUpTo : Nat → Reader (Option Tree)
  | 0 => return none
  | n + 1 => do
      let amount? ← if ← sees (·.kind == .text) then g.primary else g.term
      match amount? with
      | none => return none
      | some amount =>
          let bareName := amount.isPlainColumn && amount.parts.head?.any (·.kind == .name)
          if bareName && (← sees fun t => !timeUnits.contains t.upper) then return none
          let unit? ← g.spanUnit? amount
          let unit? ←
            if ← acceptWord "TO" then
              let last? ← firstOf [g.call {}, word? true []]
              pure (some (.of .other ((← given unit?) :: last?.toList)))
            else pure unit?
          let span := Tree.of .interval (amount :: unit?.toList)
          let behind ← get
          let _ ← accept "+"
          if ← sees fun t => t.kind == .text || t.kind == .number then
            return some (.of .other [span, ← need (spanUpTo n)])
          else
            set behind
            return some span

/-- A span of time.  None where INTERVAL is a name. -/
def interval? : Reader (Option Tree) :=
  orBack do
    if ← accept "INTERVAL" then g.spanUpTo ((← get).left + 1) else return none

/-! ### Operands -/

/-- A literal behind its type, or a type with parameters that stands for itself. -/
def typed? : Reader (Option Tree) := do
  let start ← get
  match ← g.typeName { calls := true, names := false } with
  | none => return none
  | some type =>
      let behind ← get
      let literal? := (← g.primary).filter (·.isOneOf [.text, .number])
      match literal? with
      | some literal => return some (.of .cast [← g.columnOps literal, type])
      | none =>
          if !type.parts.isEmpty && behind.left + 1 < start.left then
            set behind
            return some (← g.columnOps type)
          else
            set start
            return none

/-- An operand. -/
def operand? : Reader (Option Tree) := do
  match ← g.interval? with
  | some span => some <$> g.columnOps span
  | none => firstOf [g.typed?, g.column]

end SqlContract.Sql.Grammar
