/-
The names that a generated module binds.

* `Names` — the names generated for one statement;
* `Dialect.reserved`, `sharedNames` — the names that the fixed parts of a module bind or use;
* `Namespace` — the names bound so far, with their owners; a name is claimed once.
-/

import SqlContract.Naming
import SqlContract.SourceError
import SqlContract.Text.Identifier

set_option autoImplicit false
set_option relaxedAutoImplicit false

namespace SqlContract

open Text

/-- The names generated for one statement. -/
structure Names where
  /-- The accessor that takes the connection on every call. -/
  function : String
  /-- The factory that takes the connection once. -/
  factory : String
  /-- The constant that holds the SQL. -/
  constant : String
  /-- The record type of the parameters. -/
  params : String
  /-- The record type of a row. -/
  row : String
  deriving DecidableEq, Repr

/-- The names generated for a statement of the given name. -/
def Names.ofName (name : String) : Names :=
  let snake := snakeCase name
  let pascal := pascalCase name
  ⟨snake, "prepare_" ++ snake, upperCase snake ++ "_SQL", pascal ++ "Params", pascal ++ "Row"⟩

/-- The names in the order in which they are claimed. -/
def Names.toList (n : Names) : List String :=
  [n.function, n.factory, n.constant, n.params, n.row]

/-- The names generated for a contract. -/
def Contract.names (c : Contract) : Names :=
  .ofName c.name

/-- The name of the record type of a table. -/
def Table.typeName (t : Table) : String :=
  pascalCase t.name

/-- The names that every module uses, whatever its dialect. -/
def sharedNames : List String :=
  ["annotations", "dict", "list", "tuple", "zip", "str", "float", "bytes"]

/-- The names that the imports and helpers of a module bind. -/
def Dialect.reserved : Dialect → List String
  | .localSync => ["sqlite3", "Callable", "closing", "Any", "TypedDict", "_dict_row", "_compile"]
  | .remoteAsync => ["Awaitable", "Callable", "Any", "TypedDict", "AsyncConnection", "dict_row"]

/-- The names bound so far in a module, the latest first, each with what binds it. -/
abbrev Namespace := List (String × Owner)

namespace Namespace

/-- The names of a module that holds nothing but its fixed parts. -/
def initial (d : Dialect) : Namespace :=
  (sharedNames ++ d.reserved).map fun name => (name, .module)

/-- Why a name cannot be bound. -/
def clashOf? (ns : Namespace) (name : String) : Option Clash :=
  if isKeyword name then some (.keyword name) else (ns.lookup name).map (.bound name)

/-- Why some names cannot be bound: the clash of the first that cannot. -/
def clash? (ns : Namespace) (names : List String) : Option Clash :=
  names.findSome? ns.clashOf?

/-- Binds some names. -/
def claim (ns : Namespace) (names : List String) (owner : Owner) : Namespace :=
  names.foldl (fun ns name => (name, owner) :: ns) ns

/-- Binds the record type of a table. -/
def claimTable (ns : Namespace) (t : Table) : Except SourceError Namespace :=
  match ns.clash? [t.typeName] with
  | some clash => .error ⟨.tableClash t.name clash, none, none⟩
  | none => .ok (ns.claim [t.typeName] (.table t.name))

/-- Binds the names generated for a statement. -/
def claimContract (ns : Namespace) (c : Contract) : Except SourceError Namespace :=
  match ns.clash? c.names.toList with
  | some clash => .error ⟨.statementClash c.name clash, some c.name, c.line⟩
  | none => .ok (ns.claim c.names.toList (.statement c.name))

end Namespace

end SqlContract
