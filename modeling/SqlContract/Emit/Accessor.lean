/-
Accessors: the generated functions that run a statement.

* `Dialect.handle`, `Dialect.imports`, `Dialect.helpers` — the fixed parts of a module for an engine;
* `Accessor` — one accessor of a statement; `Accessor.text` writes it.
-/

import SqlContract.Emit.Form
import SqlContract.Sql.Placeholder

set_option autoImplicit false
set_option relaxedAutoImplicit false

namespace SqlContract

/-! ### Engines -/

namespace Dialect

/-- The type of a connection. -/
def handle : Dialect → String
  | .localSync => "sqlite3.Connection"
  | .remoteAsync => "AsyncConnection[Any]"

/-- Whether a call to the engine is awaited. -/
def isAsync : Dialect → Bool
  | .localSync => false
  | .remoteAsync => true

/-- The lines that import what the accessors use. -/
def imports : Dialect → List String
  | .localSync =>
      ["import sqlite3", "from collections.abc import Callable", "from contextlib import closing",
       "from typing import Any, TypedDict"]
  | .remoteAsync =>
      ["from collections.abc import Awaitable, Callable", "from typing import Any, TypedDict", "",
       "from psycopg import AsyncConnection", "from psycopg.rows import dict_row"]

/-- The functions that the accessors share. -/
def helpers : Dialect → String
  | .localSync => "\n".intercalate
      ["def _dict_row(cursor: sqlite3.Cursor, row: tuple[Any, ...]) -> dict[str, Any]:",
       "    return \x7bcolumn[0]: value for column, value in zip(cursor.description, row)\x7d",
       "",
       "",
       "def _compile(db: sqlite3.Connection, sql: str, arity: int) -> None:",
       "    db.execute(f\"EXPLAIN \x7bsql\x7d\", (None,) * arity)"]
  | .remoteAsync => ""

/-- SQL in the form that the engine takes. -/
def engineSql (d : Dialect) (sql : String) : String :=
  match d with
  | .localSync => sql
  | .remoteAsync => String.ofList (Sql.pyformat sql.toList)

end Dialect

/-! ### Accessors -/

/-- One accessor of a statement. -/
structure Accessor where
  dialect : Dialect
  convention : Convention
  contract : Contract
  /-- The parameters as the engine binds them, one for each value that it takes. -/
  arguments : List Parameter
  deriving DecidableEq, Repr

namespace Accessor

/-- The accessor of a statement.  The local engine binds the parameters in order, the remote one
takes a value for each placeholder.  A placeholder without a parameter gives none. -/
def ofContract? (d : Dialect) (v : Convention) (c : Contract) : Option Accessor :=
  match d with
  | .localSync => some ⟨d, v, c, c.parameters⟩
  | .remoteAsync => (c.pick? (Sql.placeholderIndexes c.sql.toList)).map fun args => ⟨d, v, c, args⟩

/-- The call that fetches the rows. -/
def fetch (a : Accessor) : String :=
  if a.contract.cardinality = .one then "fetchone" else "fetchall"

/-- The lines that run the statement on a connection. -/
def body (a : Accessor) : List String :=
  let constant := a.contract.names.constant
  match a.dialect with
  | .localSync =>
      let call := if a.arguments.isEmpty then constant
        else constant ++ ", " ++ argumentTuple a.arguments
      if a.contract.cardinality = .exec then ["db.execute(" ++ call ++ ")"]
      else
        ["with closing(db.cursor()) as cur:", "    cur.row_factory = _dict_row",
         "    cur.execute(" ++ call ++ ")", "    return cur." ++ a.fetch ++ "()"]
  | .remoteAsync =>
      let args := "args = " ++ argumentTuple a.arguments
      let call := constant ++ ", args" ++
        if a.convention = .prepared then ", prepare=True" else ""
      if a.contract.cardinality = .exec then [args, "await db.execute(" ++ call ++ ")"]
      else
        [args, "async with db.cursor(row_factory=dict_row) as cur:",
         "    await cur.execute(" ++ call ++ ")", "    return await cur." ++ a.fetch ++ "()"]

/-- The lines of a factory that check the statement before its first run. -/
def setup (a : Accessor) : List String :=
  match a.dialect with
  | .localSync =>
      let arity := a.contract.parameters.length
      [s!"_compile(db, {a.contract.names.constant}, {arity})"]
  | .remoteAsync => []

/-- The words that open the definition of a function that runs the statement. -/
def definition (a : Accessor) : String :=
  if a.dialect.isAsync then "async def " else "def "

/-- The parameter list of a function that runs the statement, without the connection. -/
def signature (a : Accessor) : String :=
  if a.contract.parameters.isEmpty then "" else "params: " ++ a.contract.names.params

/-- The lines of an accessor. -/
def lines (a : Accessor) : List String :=
  let names := a.contract.names
  let result := a.contract.resultType
  let handle := "db: " ++ a.dialect.handle
  match a.convention with
  | .oneShot =>
      let params := if a.signature.isEmpty then "" else ", " ++ a.signature
      (a.definition ++ names.function ++ "(" ++ handle ++ params ++ ") -> " ++ result ++ ":") ::
        indent 1 a.body
  | .prepared =>
      let taken := if a.contract.parameters.isEmpty then "" else names.params
      let given := if a.dialect.isAsync then "Awaitable[" ++ result ++ "]" else result
      ["def " ++ names.factory ++ "(" ++ handle ++ ") -> Callable[[" ++ taken ++ "], " ++ given ++
          "]:"] ++
        indent 1 a.setup ++
        indent 1 [a.definition ++ "run(" ++ a.signature ++ ") -> " ++ result ++ ":"] ++
        indent 2 a.body ++
        ["", "    return run"]

/-- The text of an accessor. -/
def text (a : Accessor) : String :=
  "\n".intercalate a.lines

end Accessor

end SqlContract
