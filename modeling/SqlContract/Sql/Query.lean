/-
Queries: what a statement gives, and of which tables.

* `TableRef` — a table that a statement names;
* `Selected` — an item of a result list;
* `Query` — a statement as far as its result is concerned;
* `Query.ofTree`, `Query.read?` — the query that a statement is.
-/

import SqlContract.Sql.Parser

set_option autoImplicit false
set_option relaxedAutoImplicit false

namespace SqlContract.Sql

/-- A table that a statement reads or changes. -/
inductive TableRef
  /-- A table by its name without a schema, and the name given to it in the statement. -/
  | named (table : String) (given? : Option String)
  /-- Rows that are no table's. -/
  | derived
  deriving DecidableEq, Repr

/-- An item of a result list. -/
inductive Selected
  /-- All columns, of one table where it is qualified. -/
  | star (qualifier? : Option String)
  /-- A column, and the name it gets in the result where it is given one. -/
  | column (qualifier? : Option String) (name : String) (given? : Option String)
  /-- Any other expression. -/
  | computed
  deriving DecidableEq, Repr

/-- A statement as far as its result is concerned. -/
inductive Query
  /-- The rows of some tables, with the result list. -/
  | rows (tables : List TableRef) (selected : List Selected)
  /-- A statement whose result is not that of tables it names. -/
  | other
  deriving DecidableEq, Repr

/-- The table that a node names. -/
def TableRef.ofTree (t : Tree) : TableRef :=
  if t.kind == .table then .named t.text ((t.part? .tableAlias).map Tree.text) else .derived

namespace Selected

/-- The name that qualifies a column, if it is not empty. -/
def qualifier? (column : Tree) : Option String :=
  (column.parts[1]?.map Tree.ownName).filter (!·.isEmpty)

/-- Whether a column stands for all columns of a table. -/
def isStarOfTable (t : Tree) : Bool :=
  t.kind == .column && t.parts.head?.any (·.kind == .star)

/-- The column that an expression is, with the name it is given. -/
def ofExpression (given? : Option String) (t : Tree) : Selected :=
  if t.kind == .column && !isStarOfTable t then .column (qualifier? t) t.name given? else .computed

/-- The item that a node is. -/
def ofTree (t : Tree) : Selected :=
  match t with
  | .node .star _ _ => .star none
  | .node .alias name (e :: _) => ofExpression (some name) e
  | t => if isStarOfTable t then .star (qualifier? t) else ofExpression none t

end Selected

namespace Query

/-- The tables of a SELECT: the nearest one that rows are taken from, in it or inside it, and those
that it joins itself. -/
def tablesOfSelect (t : Tree) : List TableRef :=
  match t.nearest? .from with
  | some (_, source) =>
      let joined := (t.members.filter (·.kind == .join)).filterMap (·.parts.head?)
      (source.parts.head?.toList ++ joined).map .ofTree
  | none => []

/-- The table that a change is made to: the nearest one in its target. -/
def tableOfChange (t : Tree) : TableRef :=
  match t.parts.head?.bind (Tree.nearest? .table) with
  | some (_, table) => .ofTree table
  | none => .derived

/-- The query of some tables with a result list; a result of nothing is not that of tables. -/
def ofItems (tables : List TableRef) (items : List Tree) : Query :=
  if tables.isEmpty || items.isEmpty then .other else .rows tables (items.map .ofTree)

/-- The query that a statement is. -/
def ofTree (t : Tree) : Query :=
  if t.kind == .select then ofItems (tablesOfSelect t) t.items
  else if t.isOneOf [.insert, .update, .delete] then
    match t.part? .returning with
    | some returning => ofItems [tableOfChange t] returning.items
    | none => .other
  else .other

/-- The query that a text is; none when the parser refuses it. -/
def read? [Parser] (d : Dialect) (sql : List Char) : Option Query :=
  (Parser.parse d sql).toOption.map ofTree

end Query

end SqlContract.Sql
