/-
Headed sources: SQL text in which each statement may carry a header.

A header names its statement, gives its cardinality, and declares parameters and row fields in any
order.  A statement without a header is plain SQL and is passed over.

* `Headed.statement?` — the contract of one statement;
* `Headed.read` — the contracts of a text;
* `Headed.readWithin` — the contracts of a text, where numbers are read up to a limit of digits.
-/

import SqlContract.Header
import SqlContract.Report
import SqlContract.Sql.Segment

set_option autoImplicit false
set_option relaxedAutoImplicit false

namespace SqlContract.Headed

open Text

/-- The contract that the rest of a header and the SQL behind it give to a named statement, before the
placeholders of the SQL are counted. -/
def draft (name : String) (line : Option Int) (rest : List (List String)) (sql : List Char) :
    Except SourceError.Cause Contract := do
  let words ←
    match rest with
    | ["count", word] :: _ => .ok word
    | _ => .error .countLine
  let cardinality ← readCardinality words
  let fields ← Fields.ofLines (rest.drop 1)
  if sql.isEmpty then .error .emptyBody
  else if cardinality = .exec ∧ fields.returns ≠ [] then .error .execReturns
  else return ⟨name, cardinality, fields.params, fields.returns, String.ofList sql, line, none⟩

/-- The contract that the rest of a header and the SQL behind it give to a named statement. -/
def body (name : String) (line : Option Int) (rest : List (List String)) (sql : List Char) :
    Except SourceError.Cause Contract := do
  let c ← draft name line rest sql
  checkPlaceholders sql c.parameters
  return c

/-- The contract of one statement without its semicolon; none for plain SQL. -/
def statement? (lead : String) (line : Option Int) (text : List Char) :
    Except SourceError (Option Contract) :=
  match Header.split lead text with
  | ([], _) => .ok none
  | (["name", name] :: rest, sql) =>
      if isIdentifier name then
        match body name line rest sql with
        | .ok c => .ok (some c)
        | .error cause => .error (.inStatement name line cause)
      else .error ⟨.statementName name, none, line⟩
  | (_ :: _, _) => .error ⟨.nameLine, none, line⟩

/-- Reads one statement of a text into a report. -/
def readSegment (lead : String) (strict : Bool) (r : Report) (s : Sql.Segment) :
    Except SourceError Report :=
  match statement? lead (some s.line) s.text with
  | .error e => r.record strict e
  | .ok none => .ok r
  | .ok (some c) => r.add strict c

/-- Reads every statement of a text that has a header. -/
def read (lead : String) (strict : Bool) (text : List Char) : Except SourceError Report :=
  (Sql.segments text).foldlM (readSegment lead strict) Report.empty

/-- The SQL of a statement whose placeholders are counted: everything in front of the count has been
found right. -/
def counted? (lead : String) (text : List Char) : Option (List Char) :=
  match Header.split lead text with
  | (["name", name] :: rest, sql) =>
      if isIdentifier name ∧ (draft name none rest sql).isOk then some sql else none
  | _ => none

/-- Reads every statement of a text that has a header.  A count meets a number that is too long, and
then reading ends, whether it is strict or not. -/
def readWithin (limit : Option Nat) (lead : String) (strict : Bool) (text : List Char) :
    Except (Sql.LongNumber ⊕ SourceError) Report :=
  (Sql.segments text).foldlM
    (fun r s => unlessStopped ((counted? lead s.text).bind (Sql.longNumber? limit))
      (readSegment lead strict r s))
    Report.empty

end SqlContract.Headed
