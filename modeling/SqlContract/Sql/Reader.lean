/-
Readers: what takes tokens off the front of a statement.

A reader stands between two tokens.  It gives a value and goes on behind the tokens that it took,
or it fails, and then nothing can be made of the statement.  A reader of something that may be
absent gives none without failing.

* `Cursor`, `Reader` — where a reader stands, and readers;
* `accept`, `acceptPair`, `acceptWord`, `acceptWords` — taking a token if it is the one due;
* `either`, `provided` — taking one of two tokens, or none without a condition;
* `attempt`, `firstOf`, `need` — readers of what may be absent;
* `repeated`, `commaList`, `inRound` — readers of lists and of what stands in brackets.
-/

import SqlContract.Sql.Token
import SqlContract.Sql.Tree

set_option autoImplicit false
set_option relaxedAutoImplicit false

namespace SqlContract.Sql

/-- A place between two tokens: those before it, the nearest first, and those behind it. -/
structure Cursor where
  taken : List Token
  rest : List Token
  /-- The number of tokens behind the place. -/
  left : Nat
  left_eq : left = rest.length

/-- The place before some tokens. -/
def Cursor.before (ts : List Token) : Cursor :=
  ⟨[], ts, ts.length, rfl⟩

/-- What takes tokens off the front of a statement, or fails. -/
abbrev Reader (α : Type) := StateT Cursor Option α

namespace Reader

/-! ### Tokens -/

/-- The next token. -/
def next? : Reader (Option Token) := do
  return (← get).rest.head?

/-- The token behind the next one. -/
def second? : Reader (Option Token) := do
  return (← get).rest.tail.head?

/-- The last token that was taken. -/
def last? : Reader (Option Token) := do
  return (← get).taken.head?

/-- The text of the last token that was taken. -/
def lastText : Reader String := do
  return ((← last?).map (·.text)).getD ""

/-- Whether all tokens are taken. -/
def atEnd : Reader Bool := do
  return (← get).rest.isEmpty

/-- Takes the next token, if there is one. -/
def advance : Reader Unit :=
  modify fun c =>
    match h : c.rest with
    | t :: ts => ⟨t :: c.taken, ts, c.left - 1, by simp [c.left_eq, h]⟩
    | [] => c

/-- Gives the last token back. -/
def retreat : Reader Unit :=
  modify fun c =>
    match c.taken with
    | t :: ts => ⟨ts, t :: c.rest, c.left + 1, by simp [c.left_eq]⟩
    | [] => c

/-- Whether the next token has a property. -/
def sees (p : Token → Bool) : Reader Bool := do
  return (← next?).any p

/-- Whether the next token is a keyword or a symbol. -/
def seesTag (tag : String) : Reader Bool :=
  sees (·.is tag)

/-- Takes the next token if it has a property, and gives it. -/
def take? (p : Token → Bool) : Reader (Option Token) := do
  match ← next? with
  | some t => if p t then advance; return some t else return none
  | none => return none

/-- Takes the next token if it has a property. -/
def acceptIf (p : Token → Bool) : Reader Bool := do
  return (← take? p).isSome

/-- Takes the next token if it is a keyword or a symbol. -/
def accept (tag : String) : Reader Bool :=
  acceptIf (·.is tag)

/-- Takes the next token if it is one of some keywords or symbols. -/
def acceptOneOf (tags : List String) : Reader Bool :=
  acceptIf (·.isOneOf tags)

/-- Takes the next token if it is of a kind, and gives it. -/
def takeKind? (kind : TokenKind) : Reader (Option Token) :=
  take? (·.kind == kind)

/-- Whether the next two tokens are two keywords or symbols. -/
def seesPair (first second : String) : Reader Bool := do
  return (← next?).any (·.is first) && (← second?).any (·.is second)

/-- Takes the next two tokens if they are two keywords or symbols. -/
def acceptPair (first second : String) : Reader Bool := do
  if ← seesPair first second then
    advance
    advance
    return true
  else return false

/-- Takes the next token if it is written as a word. -/
def acceptWord (word : String) : Reader Bool :=
  acceptIf (·.spells word)

/-- Takes the next token if it is written as one of some words. -/
def acceptWordOf (words : List String) : Reader Bool :=
  acceptIf (·.spellsOneOf words)

/-- Whether tokens start with some written words. -/
def startWithWords : List String → List Token → Bool
  | [], _ => true
  | w :: ws, t :: ts => t.spells w && startWithWords ws ts
  | _ :: _, [] => false

/-- Takes the next tokens if they are written as some words. -/
def acceptWords (words : List String) : Reader Bool := do
  let c ← get
  if startWithWords words c.rest then
    words.forM fun _ => advance
    return true
  else return false

/-- Takes what the first of two readers takes, or else what the second one does. -/
def either (first second : Reader Bool) : Reader Bool := do
  if ← first then return true else second

/-- Takes what a reader takes, but nothing without a condition. -/
def provided (b : Bool) (r : Reader Bool) : Reader Bool :=
  if b then r else return false

/-- Takes the rest of the tokens. -/
def takeRest : Reader Unit :=
  modify fun c => ⟨c.rest.reverse ++ c.taken, [], 0, rfl⟩

/-! ### What may be absent -/

/-- Fails unless a condition holds. -/
def ensure (b : Bool) : Reader Unit :=
  if b then return () else failure

/-- What a reader gives, or failure where it gives none. -/
def need {α : Type} (r : Reader (Option α)) : Reader α := do
  match ← r with
  | some a => return a
  | none => failure

/-- What is due. -/
def given {α : Type} : Option α → Reader α
  | some a => return a
  | none => failure

/-- What the first reader gives that gives anything. -/
def firstOf {α : Type} : List (Reader (Option α)) → Reader (Option α)
  | [] => return none
  | r :: rs => do
      match ← r with
      | some a => return some a
      | none => firstOf rs

/-- What a reader gives; where it fails or gives none, no token is taken. -/
def attempt {α : Type} (r : Reader (Option α)) : Reader (Option α) := fun c =>
  match r c with
  | some (some a, c') => some (some a, c')
  | _ => some (none, c)

/-- What a reader would give here, no token taken. -/
def glimpse {α : Type} (r : Reader (Option α)) : Reader (Option α) := fun c =>
  match r c with
  | some (a?, _) => some (a?, c)
  | none => some (none, c)

/-- What a reader gives; where it gives none, no token is taken. -/
def orBack {α : Type} (r : Reader (Option α)) : Reader (Option α) := do
  let c ← get
  match ← r with
  | some a => return some a
  | none =>
      set c
      return none

/-- What a reader gives behind a condition, and none without it. -/
def when? {α : Type} (b : Bool) (r : Reader (Option α)) : Reader (Option α) :=
  if b then r else return none

/-! ### Lists -/

/-- What a reader gives time after time until it gives none.  Each time but the last takes a token,
so as many times as there are tokens are enough. -/
def repeatedUpTo {α : Type} (r : Reader (Option α)) : Nat → Reader (List α)
  | 0 => return []
  | n + 1 => do
      match ← r with
      | some a => return a :: (← repeatedUpTo r n)
      | none => return []

/-- What a reader gives time after time until it gives none. -/
def repeated {α : Type} (r : Reader (Option α)) : Reader (List α) := do
  repeatedUpTo r ((← get).left + 1)

/-- What a reader gives between commas; members that give none are left out. -/
def commaList {α : Type} (r : Reader (Option α)) : Reader (List α) := do
  let first ← r
  let more ← repeated do
    if ← accept "," then return some (← r) else return none
  return first.toList ++ more.filterMap id

/-- Takes a closing bracket, which is due. -/
def closeRound : Reader Unit := do
  ensure (← accept ")")

/-- What a reader gives in round brackets, which are due. -/
def inRound {α : Type} (r : Reader α) : Reader α := do
  ensure (← accept "(")
  let a ← r
  closeRound
  return a

/-- What a reader gives, in round brackets or without. -/
def inRoundOrBare {α : Type} (r : Reader α) : Reader α := do
  if ← accept "(" then
    let a ← r
    closeRound
    return a
  else r

/-! ### Trees -/

/-- A node of two parts that are due. -/
def pair (left? right? : Option Tree) : Reader (Option Tree) := do
  return some (.of .other [← given left?, ← given right?])

/-- A node of one part that is due. -/
def single (part? : Option Tree) : Reader (Option Tree) := do
  return some (.of .other [← given part?])

/-- The operations of one rank, from left to right.  `operator` takes an operator and tells what
reads the part behind it. -/
def operations (operand : Reader (Option Tree)) (operator : Reader Bool) :
    Reader (Option Tree) := do
  let first ← operand
  let rest ← repeated do
    if ← operator then return some (← operand) else return none
  rest.foldlM pair first

end Reader

end SqlContract.Sql
