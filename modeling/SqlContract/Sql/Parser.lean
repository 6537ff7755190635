/-
What reads SQL.

The SQL of a statement is read by a parser that knows the language of both engines.  Which trees it
makes of which texts is its own affair: all that is asked of it is a tree for a text or the words in
which it refuses it, and the spelling that an engine has for a type.

* `Parser` — what reads SQL for the two engines.
-/

import SqlContract.Contract
import SqlContract.Sql.Tree

set_option autoImplicit false
set_option relaxedAutoImplicit false

namespace SqlContract.Sql

/-- What reads SQL for the two engines. -/
class Parser where
  /-- The tree of a text, or the words in which it is refused. -/
  parse (d : Dialect) (sql : List Char) : Except String Tree
  /-- How an engine writes the type that a node stands for. -/
  spell (d : Dialect) (type : Tree) : String

end SqlContract.Sql
