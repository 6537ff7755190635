/-
Statements, and the grammar as a whole.

The word that a statement starts with says what it is; what starts otherwise is an expression or a
query.  A text is cut at its semicolons, and each part has to be a statement that ends where the part
does.

The readers are tied into a knot here.  Each reader calls the others one level below its own, so a
grammar of some depth reads all that is nested no deeper.  On the way from one token to the next
there are fewer than sixteen levels, which bounds the depth that the tokens of a text can need.

* `statement?` — a statement;
* `Grammar.ofDepth` — the grammar that reads to some depth;
* `statements?` — the statements of a text;
* `parser` — the parser of these statements.
-/

import SqlContract.Sql.Creation
import SqlContract.Sql.Parser

set_option autoImplicit false
set_option relaxedAutoImplicit false

namespace SqlContract.Sql

open Reader

namespace Grammar

variable (g : Grammar)

/-! ### Statements -/

/-- Words that start a statement of which nothing is known. -/
def unknownWords : Dialect → List String
  | .localSync => ["ATTACH", "DETACH", "REPLACE"] ++ common
  | .remoteAsync => "END" :: common
where
  /-- Those of both engines. -/
  common : List String :=
    ["ALTER", "ANALYZE", "BEGIN", "CACHE", "COMMAND", "COMMENT", "COMMIT", "COPY", "DESC", "DESCRIBE",
     "EXECUTE", "FETCH", "GRANT", "KILL", "LOAD", "MERGE", "RENAME", "REVOKE", "ROLLBACK", "SET",
     "SHOW", "TRUNCATE", "UNCACHE", "USE"]

/-- The statements that their first word tells, from behind it on. -/
def wordedStatement? (t : Token) : Option (Reader (Option Tree)) :=
  match t.tag, g.dialect with
  | "INSERT", _ => some g.insertion?
  | "UPDATE", _ => some g.update?
  | "DELETE", _ => some g.deletion?
  | "CREATE", _ => some g.creation?
  | "DROP", _ => some g.removal?
  | "PRAGMA", _ => some do single (← g.expression)
  | "TABLE", .remoteAsync => some do
      g.modifiers (← g.setOperations (some (Tree.allOf (← g.tableName false))))
  | tag, d => if (unknownWords d).contains tag then some unknown else none

/-- An expression or a query as a statement. -/
def openStatement? : Reader (Option Tree) := do
  match ← g.expression with
  | some e => g.modifiers (← g.setOperations (some e))
  | none => g.modifiers (← g.select {})

/-- A statement. -/
def statement? : Reader (Option Tree) := do
  match ← next? with
  | none => return none
  | some t =>
      match g.wordedStatement? t with
      | some inside =>
          advance
          inside
      | none =>
          let isFirst := (← last?).isNone
          if isFirst && t.spells "IF" && !(← second?).any (·.is "(") then unknown
          else g.openStatement?

/-! ### The knot -/

/-- The readers that call those of a grammar. -/
def above (d : Dialect) (g : Thunk Grammar) : Grammar where
  dialect := d
  statement c := g.get.statement? c
  select f c := g.get.select? f c
  setOperations query? c := g.get.setOperations? query? c
  modifiers query? c := g.get.modifiers? query? c
  table f c := g.get.table? f c
  joins c := g.get.joinList c
  schema table? c := g.get.schema? table? c
  expression c := g.get.expression? c
  assignment c := g.get.assignment? c
  disjunction c := g.get.disjunction? c
  equality c := g.get.equality? c
  range c := g.get.range? c
  bitwise c := g.get.bitwise? c
  term c := g.get.term? c
  factor c := g.get.factor? c
  unary c := g.get.unary? c
  operand c := g.get.operand? c
  column c := g.get.column? c
  field f c := g.get.field? f c
  primary c := g.get.primary? c
  call f c := g.get.call? f c
  hole c := g.get.hole? c
  typeName f c := g.get.typeName? f c
  columnDefinition name? computes c := g.get.columnDefinition? name? computes c

/-- The grammar that reads to some depth. -/
def ofDepth (d : Dialect) : Nat → Grammar
  | 0 => silent d
  | n + 1 => above d (Thunk.mk fun _ => ofDepth d n)

end Grammar

/-! ### Texts -/

/-- The parts of a text between its semicolons.  One at the end starts no part, and one that a
comment belongs to is a part of its own. -/
def statementParts : List Token → List (List Token)
  | [] => [[]]
  | t :: ts =>
      let parts := statementParts ts
      if t.is ";" then
        let behind := if ts.isEmpty then [] else parts
        [] :: (if t.noted then [t] :: behind else behind)
      else
        match parts with
        | part :: more => (t :: part) :: more
        | [] => [[t]]

/-- The statement of a part of a text, none for an empty part. -/
def readPart? (d : Dialect) (part : List Token) : Option (Option Tree) :=
  match part with
  | [] => some none
  | t :: _ =>
      if t.is ";" then some (some (.leaf .other ""))
      else
        match ((Grammar.ofDepth d (16 * part.length + 64)).statement).run (.before part) with
        | some (statement?, ⟨_, [], _, _⟩) => some statement?
        | _ => none

/-- The statements of a text, none for the empty parts of it. -/
def statements? (d : Dialect) (sql : List Char) : Option (List (Option Tree)) :=
  match tokens? d sql with
  | some tokens => (statementParts tokens).mapM (readPart? d)
  | none => none

/-- The words in which a text is refused. -/
def refusal : String := "the text is no statement"

/-- The parser of these statements.  Several statements are a node of no known kind, and a text
without a statement is refused. -/
@[reducible] def parser : Parser where
  parse d sql :=
    match statements? d sql with
    | some [some t] => .ok t
    | some [none] | none => .error refusal
    | some ts => .ok (.of .other (ts.filterMap id))
  spell _ type := type.text

end SqlContract.Sql
