/-
Administration of databases: listing, creating and dropping them.

* `quotedName?` — the name of a database as SQL writes it;
* `AdminAction`, `AdminAction.sql?` — an action, and the SQL that does it;
* `AdminAction.run?` — an action on a driver that grants or refuses the connection.

A database cannot be created or dropped inside a transaction, so these actions ask for automatic
commits before they connect.
-/

import SqlContract.Database.Access
import SqlContract.Text.Word

set_option autoImplicit false
set_option relaxedAutoImplicit false

namespace SqlContract

/-- Words that the remote engine keeps for itself. -/
def engineWords : List String :=
  ["all", "analyse", "analyze", "and", "any", "array", "as", "asc", "asymmetric", "authorization",
   "between", "binary", "both", "case", "cast", "check", "collate", "column", "constraint",
   "create", "cross", "current_catalog", "current_date", "current_role", "current_schema",
   "current_time", "current_timestamp", "current_user", "default", "deferrable", "desc",
   "distinct", "do", "else", "end", "except", "false", "fetch", "for", "foreign", "freeze", "from",
   "full", "grant", "group", "having", "ilike", "in", "initially", "inner", "intersect", "into",
   "is", "isnull", "join", "leading", "left", "like", "limit", "localtime", "localtimestamp",
   "natural", "new", "not", "notnull", "null", "of", "off", "offset", "old", "on", "only", "or",
   "order", "outer", "over", "overlaps", "placing", "primary", "references", "returning", "right",
   "select", "session_user", "similar", "some", "symmetric", "table", "then", "to", "trailing",
   "true", "union", "unique", "user", "using", "variadic", "verbose", "when", "where", "window",
   "with"]

/-- Whether a character may stand in a name without quotes.  Of the small letters only those are
bare that are a letter of the Latin alphabet in the other case: the dotless i and the long s too. -/
def isBareChar (c : Char) : Bool :=
  c.isLower || c.isDigit || c == '_' || c == '$' || c == 'ı' || c == 'ſ'

/-- A name without the line break at its end. -/
def withoutLastBreak (name : List Char) : List Char :=
  if name.getLast? = some '\n' then name.dropLast else name

/-- Whether a name may stand without quotes.  A line break at its end does not count. -/
def isBareName (name : String) : Bool :=
  let body := withoutLastBreak name.toList
  !body.isEmpty && body.all isBareChar && !(body.head?.any fun c => c.isDigit || c == '$') &&
    !engineWords.contains name

/-- A character inside a quoted name: quotes are doubled, and so are percent signs, which the driver
reads as the start of a placeholder. -/
def quotedNameChar (c : Char) : List Char :=
  if c = '"' ∨ c = '%' then [c, c] else [c]

/-- The name of a database as SQL writes it, quoted where it must be.  The empty name cannot be
written. -/
def quotedName? (name : String) : Option String :=
  if name.isEmpty then none
  else if isBareName name then some name
  else some (String.ofList ('"' :: (name.toList.flatMap quotedNameChar ++ ['"'])))

/-- SQL without the backslashes that keep a colon from opening a parameter: each stands before a
colon and the word behind it, unless one more colon follows. -/
def withoutEscapes : List Char → List Char
  | [] => []
  | '\\' :: ':' :: cs =>
      match cs.dropWhile fun c => Text.isWord c || c == '$' with
      | ':' :: _ => '\\' :: withoutEscapes (':' :: cs)
      | _ => ':' :: withoutEscapes cs
  | c :: cs => c :: withoutEscapes cs

/-- An action on the databases of a server. -/
inductive AdminAction
  | list
  | create (name : String)
  | drop (name : String)
  deriving DecidableEq, Repr

/-- What is done to a connection. -/
inductive AdminStep
  | autocommit
  | execute (sql : String)
  deriving DecidableEq, Repr

namespace AdminAction

/-- The SQL of an action as it is put together; none for a name that cannot be written. -/
def written? : AdminAction → Option String
  | .list => some "select datname as name from pg_database;"
  | .create name => (quotedName? name).map ("CREATE DATABASE " ++ ·)
  | .drop name => (quotedName? name).map ("DROP DATABASE IF EXISTS " ++ ·)

/-- The SQL of an action as it is executed; none for a name that cannot be written. -/
def sql? (a : AdminAction) : Option String :=
  a.written?.map fun s => String.ofList (withoutEscapes s.toList)

/-- What an action does before it connects. -/
def preparation : AdminAction → List AdminStep
  | .list => []
  | .create _ | .drop _ => [.autocommit]

/-- What an action does, and its outcome, where the connection is refused with a fault or granted.
None for a name that cannot be written. -/
def run? (a : AdminAction) (refusal? : Option DriverFault) :
    Option (List AdminStep × Except AccessError Unit) :=
  a.sql?.map fun sql =>
    match refusal? with
    | some fault => (a.preparation, guarded (.error fault))
    | none => (a.preparation ++ [.execute sql], .ok ())

end AdminAction

end SqlContract
