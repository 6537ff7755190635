/-
The small forms of generated code: literals, record types, argument tuples and result types.

* `sqlLiteral` — SQL as a string literal;
* `recordDefinition` — the definition of a record type;
* `argumentTuple` — the tuple that binds parameters;
* `Contract.resultType` — the type of what an accessor returns.
-/

import SqlContract.Emit.Names
import SqlContract.Sql.Placeholder

set_option autoImplicit false
set_option relaxedAutoImplicit false

namespace SqlContract

open Text

/-- Three double quotes. -/
def tripleQuote : List Char :=
  ['"', '"', '"']

/-- Whether a text can stand as it is between triple quotes: it holds neither triple quotes nor a
backslash, and does not end in a quote. -/
def fitsTripleQuotes (s : List Char) : Bool :=
  !(ScalarType.occursIn tripleQuote s || s.contains '\\' || s.getLast? == some '"')

/-- SQL as a string literal: between triple quotes on lines of its own where that is possible, and
quoted on one line elsewhere. -/
def sqlLiteral (sql : String) : String :=
  if fitsTripleQuotes sql.toList then "\"\"\"\\\n" ++ sql ++ "\"\"\"" else quoted sql

/-- The definition of a record type with named and typed fields.  It is a class where every field
has the name of an attribute, and a call with a mapping elsewhere. -/
def recordDefinition (name : String) (fields : List (String × String)) : String :=
  if fields.all fun f => isIdentifier f.1 then
    if fields.isEmpty then "class " ++ name ++ "(TypedDict):\n    pass"
    else "class " ++ name ++ "(TypedDict):\n" ++
      "\n".intercalate (fields.map fun f => "    " ++ f.1 ++ ": " ++ f.2)
  else
    name ++ " = TypedDict(" ++ quoted name ++ ", \x7b" ++
      ", ".intercalate (fields.map fun f => quoted f.1 ++ ": " ++ quoted f.2) ++ "\x7d)"

/-- The tuple of the values of some parameters. -/
def argumentTuple (parameters : List Parameter) : String :=
  if parameters.isEmpty then "()"
  else "(" ++ ", ".intercalate (parameters.map fun p => "params[" ++ quoted p.name ++ "]") ++ ",)"

/-- The parameters at some positions.  A position out of range gives none. -/
def Contract.pick? (c : Contract) (order : List Int) : Option (List Parameter) :=
  Sql.arrange? c.parameters order

/-- The type of a row of which nothing is known. -/
def untypedRow : String :=
  "dict[str, Any]"

/-- The type of a row. -/
def Contract.rowType (c : Contract) : String :=
  if c.returns.isEmpty then untypedRow else c.names.row

/-- The type of what an accessor returns. -/
def Contract.resultType (c : Contract) : String :=
  match c.cardinality with
  | .exec => "None"
  | .one => c.rowType ++ " | None"
  | .many => "list[" ++ c.rowType ++ "]"

end SqlContract
