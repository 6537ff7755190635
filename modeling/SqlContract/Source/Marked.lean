/-
Marked sources: SQL text that mixes table definitions with queries, each under a marker line.

A marker is a line comment that names the query below it and gives its cardinality, as in
`-- name: getUsers :many`.  The query runs to the next marker.  Its parameters and row fields may
be declared in header lines; what they leave open is found from the tables.

* `Marker`, `Marker.ofText?` — a marker at the start of a line;
* `MarkedQuery`, `Marked.split` — the queries of a text;
* `Marked.query` — the contract of one query;
* `Marked.tables`, `Marked.read` — the tables of a text, and its tables and contracts;
* `Marked.readWithin` — the same, where numbers are read up to a limit of digits.
-/

import SqlContract.Header
import SqlContract.Inference

set_option autoImplicit false
set_option relaxedAutoImplicit false

namespace SqlContract

open Text

/-- Why reading a source ended. -/
inductive ReadError
  | unknownDialect (word : String)
  | source (e : SourceError)
  deriving DecidableEq, Repr

/-- The wording of an error. -/
def ReadError.message : ReadError → String
  | .unknownDialect word => quoted word ++ " is not a valid Dialect"
  | .source e => e.message

/-- The dialect that a word names. -/
def ReadError.readDialect (word : String) : Except ReadError Dialect :=
  match Dialect.ofWord? word with
  | some d => .ok d
  | none => .error (.unknownDialect word)

/-! ### Markers -/

/-- A marker at the start of a text. -/
structure Marker where
  name : List Char
  cardinality : List Char
  /-- How many characters it takes. -/
  length : Nat
  deriving DecidableEq, Repr

namespace Marker

/-- Whether a character is a space or a tab. -/
def isSpace (c : Char) : Bool :=
  c == ' ' || c == '\t'

/-- The text behind the given characters. -/
def after? (lead : String) (s : List Char) : Option (List Char) :=
  if lead.toList.isPrefixOf s then some (s.drop lead.length) else none

/-- The text behind the sign, the word and the colon that a marker opens with. -/
def opening? (s : List Char) : Option (List Char) := do
  let s ← after? "--" (s.dropWhile isSpace)
  let s ← after? "name" (stripLeft s)
  let s ← after? ":" (stripLeft s)
  return stripLeft s

/-- The first run of characters that are no blanks, and the text behind it. -/
def takeRun (s : List Char) : List Char × List Char :=
  (s.takeWhile (!isBlank ·), s.dropWhile (!isBlank ·))

/-- The text behind the spaces at the end of a line; none when anything else stands there. -/
def lineEnd? (s : List Char) : Option (List Char) :=
  match s.dropWhile isSpace with
  | [] => some []
  | c :: cs => if c = '\n' then some (c :: cs) else none

/-- Cuts a run at its last colon that has characters on both sides. -/
def cutRun? (run : List Char) : Option (List Char × List Char) :=
  let ends := (List.range run.length).reverse.filter fun k =>
    0 < k && k + 1 < run.length && run[k]? == some ':'
  ends.head?.map fun k => (run.take k, run.drop (k + 1))

/-- The name and the cardinality of a marker as two runs, and the text behind them. -/
def apart? (s : List Char) : Option (List Char × List Char × List Char) :=
  let (name, behind) := takeRun s
  let (word, behind) := takeRun (stripLeft behind)
  match word with
  | ':' :: c :: cs =>
      if name.isEmpty then none else (lineEnd? behind).map fun rest => (name, c :: cs, rest)
  | _ => none

/-- The name and the cardinality of a marker as one run, and the text behind it. -/
def together? (s : List Char) : Option (List Char × List Char × List Char) :=
  let (run, behind) := takeRun s
  match cutRun? run, lineEnd? behind with
  | some (name, word), some rest => some (name, word, rest)
  | _, _ => none

/-- The marker that a text at the start of a line opens with. -/
def ofText? (s : List Char) : Option Marker :=
  match opening? s with
  | none => none
  | some body =>
      ((apart? body).or (together? body)).map fun (name, word, rest) =>
        ⟨name, word, s.length - rest.length⟩

end Marker

/-- A query under its marker. -/
structure MarkedQuery where
  name : String
  cardinality : String
  /-- The line that the marker starts on. -/
  line : Nat
  /-- The text up to the next marker. -/
  body : List Char
  deriving DecidableEq, Repr

namespace Marked

/-- The queries of a text that begins on the given line, and the text before the first. -/
def splitFrom (line : Nat) (atStart : Bool) : List Char → List Char × List MarkedQuery
  | [] => ([], [])
  | c :: cs =>
      match if atStart then Marker.ofText? (c :: cs) else none with
      | some m =>
          let taken := lineFeeds ((c :: cs).take m.length)
          let tail := splitFrom (line + taken) false (cs.drop (m.length - 1))
          ([], ⟨String.ofList m.name, String.ofList m.cardinality, line, tail.1⟩ :: tail.2)
      | none =>
          let tail := splitFrom (if c = '\n' then line + 1 else line) (c = '\n') cs
          (c :: tail.1, tail.2)
termination_by s => s.length
decreasing_by
  · simp only [List.length_drop, List.length_cons]
    omega
  · simp

/-- The queries of a text, in order. -/
def split (s : List Char) : List MarkedQuery :=
  (splitFrom 1 true s).2

/-! ### Contracts -/

/-- The parameters of a query: those declared, or one of unknown type for each placeholder. -/
def parameters (header : List (List String)) (fields : Fields) (sql : List Char) :
    Except SourceError.Cause (List Parameter) :=
  if header.any fun words => words.head? == some FieldKind.param.word then do
    checkPlaceholders sql fields.params
    return fields.params
  else
    .ok ((List.range (Sql.placeholderCount sql)).map fun i => ⟨s!"p{i}", .untyped⟩)

/-- A query before its placeholders are counted. -/
structure Draft where
  cardinality : Cardinality
  header : List (List String)
  fields : Fields
  sql : List Char
  deriving DecidableEq, Repr

/-- What the header and the SQL below a marker say. -/
def draft (lead : String) (q : MarkedQuery) : Except SourceError.Cause Draft := do
  let cardinality ← readCardinality q.cardinality
  let (header, sql) :=
    match Sql.segments q.body with
    | s :: _ => Header.split lead s.text
    | [] => ([], [])
  if sql.isEmpty then .error .emptyQuery
  let fields ← Fields.ofLines header
  return ⟨cardinality, header, fields, sql⟩

variable [Sql.Parser]

/-- The shape of a query's rows: the declared fields, or the one found from the tables. -/
def rowShape (dialect : Except ReadError Dialect) (known : Tables) (cardinality : Cardinality)
    (header : List (List String)) (fields : Fields) (sql : List Char) :
    Except (Sum ReadError SourceError.Cause) Shape :=
  if cardinality = .exec then
    if fields.returns.isEmpty then .ok .unknown else .error (.inr .execReturns)
  else if header.any fun words => words.head? == some FieldKind.returns.word then
    .ok ⟨fields.returns, none⟩
  else
    match dialect with
    | .ok d => .ok (.infer d known sql)
    | .error e => .error (.inl e)

/-- The contract of a query whose name is an identifier. -/
def namedQuery (dialect : Except ReadError Dialect) (lead : String) (known : Tables)
    (q : MarkedQuery) : Except (Sum ReadError SourceError.Cause) Contract := do
  let ⟨cardinality, header, fields, sql⟩ ← (draft lead q).mapError .inr
  let params ← (parameters header fields sql).mapError .inr
  let shape ← rowShape dialect known cardinality header fields sql
  return ⟨q.name, cardinality, params, shape.returns, String.ofList sql, some q.line,
    shape.sourceTable⟩

/-- The contract of a query.  A dialect that cannot be read is an error once a query's rows are to
be found from the tables. -/
def query (dialect : Except ReadError Dialect) (lead : String) (known : Tables)
    (q : MarkedQuery) : Except ReadError Contract :=
  if isIdentifier q.name then
    (namedQuery dialect lead known q).mapError fun
      | .inl e => e
      | .inr cause => .source (.inStatement q.name (some q.line) cause)
  else .error (.source ⟨.statementName q.name, none, some q.line⟩)

/-! ### Sources -/

/-- The table that a statement of a source defines; none for any other statement. -/
def definition (dialect : Except ReadError Dialect) (s : Sql.Segment) :
    Except ReadError (Option Table) :=
  if definesTable s.text then do
    (readTable (← dialect) s.text).mapError fun cause => .source ⟨cause, none, some s.line⟩
  else .ok none

/-- The tables that a text defines, by the keys of their names; an error ends the reading. -/
def tables (dialect : Except ReadError Dialect) (text : List Char) : Except ReadError Tables :=
  (Sql.segments text).foldlM (fun ts s => do
    return ((← definition dialect s).map ts.insert).getD ts) []

/-- Goes on behind an error of the source, recording it; other errors end the reading. -/
def recover (strict : Bool) (r : Report) : ReadError → Except ReadError Report
  | .source e => (r.record strict e).mapError .source
  | e => .error e

/-- Reads the table that one statement defines into a report. -/
def readDefinition (dialect : Except ReadError Dialect) (strict : Bool) (r : Report)
    (s : Sql.Segment) : Except ReadError Report :=
  match definition dialect s with
  | .ok none => .ok r
  | .ok (some t) => .ok { r with tables := r.tables.insert t }
  | .error e => recover strict r e

/-- Reads one query into a report. -/
def readQuery (dialect : Except ReadError Dialect) (lead : String) (strict : Bool) (r : Report)
    (q : MarkedQuery) : Except ReadError Report :=
  match query dialect lead r.tables q with
  | .ok c => (r.add strict c).mapError .source
  | .error e => recover strict r e

/-- Reads the tables and the queries of a text, over tables that are known before. -/
def read (dialect : Except ReadError Dialect) (lead : String) (strict : Bool)
    (known : List Table) (text : List Char) : Except ReadError Report := do
  let r ← (Sql.segments text).foldlM (readDefinition dialect strict)
    { Report.empty with tables := Tables.ofList known }
  (split text).foldlM (readQuery dialect lead strict) r

omit [Sql.Parser] in
/-- The SQL of a query whose placeholders are counted: everything in front of the count has been found
right. -/
def counted? (lead : String) (q : MarkedQuery) : Option (List Char) :=
  if isIdentifier q.name then (draft lead q).toOption.map Draft.sql else none

/-- Reads the tables and the queries of a text, over tables that are known before.  A count meets a
number that is too long, and then reading ends, whether it is strict or not. -/
def readWithin (limit : Option Nat) (dialect : Except ReadError Dialect) (lead : String)
    (strict : Bool) (known : List Table) (text : List Char) :
    Except (Sql.LongNumber ⊕ ReadError) Report := do
  let r ← ((Sql.segments text).foldlM (readDefinition dialect strict)
    { Report.empty with tables := Tables.ofList known }).mapError .inr
  (split text).foldlM
    (fun r q => unlessStopped ((counted? lead q).bind (Sql.longNumber? limit))
      (readQuery dialect lead strict r q))
    r

end Marked

end SqlContract
