/-
Table definitions: the columns that a CREATE TABLE declares.

A column is nullable unless it is declared NOT NULL; the other constraints say nothing of its
values here, and those of the table as a whole say nothing of one column.

* `Definition` — what a statement defines;
* `declared?` — the column that a node declares;
* `Definition.ofTree`, `Definition.read` — the definition that a statement is.
-/

import SqlContract.Sql.Parser
import SqlContract.Text.Case

set_option autoImplicit false
set_option relaxedAutoImplicit false

namespace SqlContract.Sql

/-- What a statement defines. -/
inductive Definition
  | table (t : Table)
  | other
  deriving DecidableEq, Repr

variable [Parser]

/-- Whether a constraint says that a column is never null.  NULL is a node of the same kind. -/
def Tree.forbidsNull (t : Tree) : Bool :=
  t.kind == .nullness && t.text.isEmpty

/-- The column that a node declares; none for a constraint.  A column that is a name alone has an
empty type. -/
def declared? (d : Dialect) (t : Tree) : Option Column :=
  if t.kind == .columnDefinition then
    let more := t.parts.tail
    let type := ((more.find? (·.kind == .type)).map (Parser.spell d)).getD ""
    some ⟨(t.parts.head?.map Tree.ownName).getD "", type, !more.any Tree.forbidsNull⟩
  else if t.isName || t.kind == .column then some ⟨t.name, "", true⟩
  else none

namespace Definition

/-- The definition that a statement is. -/
def ofTree (d : Dialect) (t : Tree) : Definition :=
  match t.parts.head? with
  | some schema =>
      if t.kind == .definition && Text.upper t.text.toList == "TABLE".toList &&
          schema.kind == .schema then
        .table ⟨((schema.part? .table).map Tree.text).getD "", schema.items.filterMap (declared? d)⟩
      else .other
  | none => .other

/-- What a text defines, or the words in which it is refused. -/
def read (d : Dialect) (sql : List Char) : Except String Definition :=
  (Parser.parse d sql).map (ofTree d)

end Definition

end SqlContract.Sql
