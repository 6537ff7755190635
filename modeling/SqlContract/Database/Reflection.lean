/-
Reflection: the tables of a live database, as source text would define them.

* `ReflectedColumn`, `ReflectedTable` — what the database says about a table;
* `reflect` — the tables, by the keys of their names.
-/

import SqlContract.Report
import SqlContract.Validation.Shape

set_option autoImplicit false
set_option relaxedAutoImplicit false

namespace SqlContract

/-- What a database says about a column. -/
structure ReflectedColumn where
  name : String
  /-- The type as a definition would write it, where it can be written. -/
  type? : Option String
  /-- Whether the column may be absent in value, by whether the value is filled. -/
  nullable : Value
  deriving Repr

/-- What a database says about a table. -/
structure ReflectedTable where
  name : String
  columns : List ReflectedColumn
  /-- Whether the table was dropped after it was listed. -/
  isGone : Bool
  deriving Repr

/-- A column of a table from what the database says about it. -/
def ReflectedColumn.column (c : ReflectedColumn) : Column :=
  ⟨c.name, c.type?.getD "", c.nullable.isFilled⟩

/-- A table from what the database says about it. -/
def ReflectedTable.table (t : ReflectedTable) : Checked Table :=
  Checked.fits (.ok ⟨t.name, t.columns.map (·.column)⟩) fun t => t.fault?.map (·.message)

/-- The tables of a database, by the keys of their names.  A table that is gone is passed over. -/
def reflect (ts : List ReflectedTable) : Checked Tables :=
  (ts.filter (!·.isGone)).foldlM (fun known t => t.table.map known.insert) []

end SqlContract
