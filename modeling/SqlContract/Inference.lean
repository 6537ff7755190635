/-
Inference: table definitions of a text, and the row fields of a statement over known tables.

* `definesTable` — whether a statement is to be read as a table definition;
* `readTable` — the table that a statement defines;
* `Shape` — the fields of a row, and the table whose full shape they are;
* `Shape.infer` — the shape of a statement's rows.

A statement whose tables cannot be told has rows of which nothing is known.  A result list that
holds anything but columns of the tables gives the full shape of the first table.
-/

import SqlContract.Report
import SqlContract.Sql.Query
import SqlContract.Sql.Segment
import SqlContract.Sql.TableDefinition

set_option autoImplicit false
set_option relaxedAutoImplicit false

namespace SqlContract

open Text

/-! ### Table definitions -/

/-- The text behind a keyword in any case. -/
def afterKeyword? (k : String) (s : List Char) : Option (List Char) :=
  if (s.take k.length).map Char.toUpper = k.toList then some (s.drop k.length) else none

/-- The text behind a keyword and the blanks that must follow it. -/
def afterWord? (k : String) (s : List Char) : Option (List Char) :=
  (afterKeyword? k s).bind fun rest =>
    if rest.head?.any isBlank then some (stripLeft rest) else none

/-- Whether a statement is to be read as a table definition: CREATE TABLE, perhaps with a word for a
temporary one. -/
def definesTable (statement : List Char) : Bool :=
  match afterWord? "CREATE" (stripLeft (Sql.withoutComments statement)) with
  | none => false
  | some rest =>
      let behind := ((afterWord? "TEMPORARY" rest).or (afterWord? "TEMP" rest)).getD rest
      match afterKeyword? "TABLE" behind with
      | some tail => !tail.head?.any isWord
      | none => false

/-- The table that a statement defines; none for another statement. -/
def readTable [Sql.Parser] (d : Dialect) (statement : List Char) :
    Except SourceError.Cause (Option Table) :=
  match Sql.Definition.read d statement with
  | .error words => .error (.unreadableTable words)
  | .ok .other => .ok none
  | .ok (.table t) =>
      match t.fault? with
      | some fault => .error (.repeatedColumn fault)
      | none => .ok (some t)

/-! ### Row shapes -/

/-- The fields of a row, and the table whose full shape they are. -/
structure Shape where
  returns : List ReturnField
  sourceTable : Option String
  deriving DecidableEq, Repr

namespace Shape

/-- The shape of rows of which nothing is known. -/
def unknown : Shape :=
  ⟨[], none⟩

/-- The full shape of a table. -/
def ofTable (t : Table) : Shape :=
  ⟨t.fields, some t.name⟩

end Shape

/-- The tables of a statement: the first one, and all by the names they have in the statement. -/
structure Scope where
  primary : Table
  byName : Tables

namespace Scope

/-- The name that a table has in a statement. -/
def localName (table : String) (given? : Option String) : String :=
  match given? with
  | some s => if s.isEmpty then table else s
  | none => table

/-- The known table that a statement names, with its name there. -/
def lookup? (known : Tables) : Sql.TableRef → Option (String × Table)
  | .named table given? => (known.get? table).map fun t => (localName table given?, t)
  | .derived => none

/-- The scope of the tables that a statement names; none unless all of them are known. -/
def ofRefs? (known : Tables) (refs : List Sql.TableRef) : Option Scope :=
  match refs.mapM (lookup? known) with
  | some (first :: rest) =>
      some ⟨first.2, (first :: rest).foldl (fun ts (name, t) => ts.set (caseKey name) t) []⟩
  | _ => none

/-- The table that a column belongs to: the one that qualifies it, or else the first that has
it. -/
def resolve? (s : Scope) (qualifier? : Option String) (name : String) : Option Table :=
  match qualifier? with
  | some q => s.byName.get? q
  | none => (s.byName.map (·.2)).find? fun t => (t.column? name).isSome

/-- The field of one item of a result list; none for anything but a column of the tables. -/
def field? (s : Scope) : Sql.Selected → Option ReturnField
  | .column qualifier? name given? =>
      (s.resolve? qualifier? name).bind fun t =>
        (t.column? name).map fun c => c.toField (given?.getD c.name)
  | _ => none

/-- The shape of a lone star: the full shape of the table it stands for, if that is one table. -/
def starShape (s : Scope) (qualifier? : Option String) : Shape :=
  match qualifier? with
  | some q => ((s.byName.get? q).map Shape.ofTable).getD .unknown
  | none => if s.byName.length = 1 then .ofTable s.primary else .unknown

/-- The shape that a result list has over a scope. -/
def shape (s : Scope) (selected : List Sql.Selected) : Shape :=
  match selected with
  | [] => .unknown
  | [.star qualifier?] => s.starShape qualifier?
  | items =>
      match items.mapM s.field? with
      | none => .ofTable s.primary
      | some fields => if (fields.map (·.name)).Nodup then ⟨fields, none⟩ else .unknown

end Scope

/-- The shape of a statement's rows, over the known tables. -/
def Shape.infer [Sql.Parser] (d : Dialect) (known : Tables) (sql : List Char) : Shape :=
  match Sql.Query.read? d sql with
  | some (.rows refs selected) =>
      match Scope.ofRefs? known refs with
      | some scope => scope.shape selected
      | none => .unknown
  | _ => .unknown

end SqlContract
