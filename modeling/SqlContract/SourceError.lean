/-
Errors in source text.

An error has a cause, and where it is known the statement and the line it belongs to.

* `Clash` — why a generated name cannot be bound;
* `SourceError.Cause` — what can be wrong in source text, with its wording;
* `SourceError`, `SourceError.text` — a cause in its place, and the text that reports it.
-/

import SqlContract.Contract
import SqlContract.ErrorKind

set_option autoImplicit false
set_option relaxedAutoImplicit false

namespace SqlContract

open Text

/-- What binds a name of a generated module. -/
inductive Owner
  /-- The fixed parts of the module. -/
  | module
  | table (name : String)
  | statement (name : String)
  | other (description : String)
  deriving DecidableEq, Repr

/-- An owner in words. -/
def Owner.words : Owner → String
  | .module => "generated code"
  | .table name => s!"table {quoted name}"
  | .statement name => s!"statement {quoted name}"
  | .other description => description

/-- Why a name cannot be bound. -/
inductive Clash
  | keyword (name : String)
  | bound (name : String) (owner : Owner)
  deriving DecidableEq, Repr

/-- A clash in words. -/
def Clash.words : Clash → String
  | .keyword name => s!"{quoted name} is a Python keyword"
  | .bound name owner => s!"{quoted name} is already used by {owner.words}"

/-- The two kinds of header lines that declare a field. -/
inductive FieldKind
  | param
  | returns
  deriving DecidableEq, Repr

/-- The word that opens a line of the kind. -/
def FieldKind.word : FieldKind → String
  | .param => "param"
  | .returns => "returns"

namespace SourceError

/-- What can be wrong in source text. -/
inductive Cause
  /-- A header does not open with the name of its statement. -/
  | nameLine
  /-- The name of a statement is no identifier. -/
  | statementName (name : String)
  /-- The second line of a header does not give the cardinality. -/
  | countLine
  | unknownCardinality (word : String)
  /-- A header line declares no field. -/
  | fieldWord (words : List String)
  /-- A header line has too few or too many words. -/
  | fieldForm (kind : FieldKind) (words : List String)
  /-- The name of a field is no identifier. -/
  | fieldName (kind : FieldKind) (name : String)
  | unsupportedType (word : String)
  | repeatedField (kind : FieldKind) (name : String)
  /-- A header has no SQL behind it. -/
  | emptyBody
  /-- A query marker has no SQL behind it. -/
  | emptyQuery
  /-- A statement without rows declares fields of a row. -/
  | execReturns
  | placeholderCount (declared found : Nat)
  | repeatedStatement (name : String)
  /-- A table definition that cannot be read, with the words in which it is refused. -/
  | unreadableTable (words : String)
  | repeatedColumn (fault : Table.Fault)
  /-- The name of a table's record type cannot be bound. -/
  | tableClash (table : String) (clash : Clash)
  /-- A name generated for a statement cannot be bound. -/
  | statementClash (statement : String) (clash : Clash)
  /-- A fault that a caller reports in words of its own. -/
  | reported (kind : ErrorKind) (message : String)
  deriving DecidableEq, Repr

/-- The kind of error that a cause makes. -/
def Cause.kind : Cause → ErrorKind
  | .nameLine | .statementName _ | .countLine | .fieldWord _ | .fieldForm _ _ | .fieldName _ _
  | .repeatedField _ _ | .emptyBody | .emptyQuery | .execReturns => .malformedHeader
  | .unknownCardinality _ => .unknownCardinality
  | .unsupportedType _ => .unsupportedType
  | .placeholderCount _ _ => .placeholderCount
  | .repeatedStatement _ | .statementClash _ _ => .duplicateName
  | .unreadableTable _ | .repeatedColumn _ | .tableClash _ _ => .malformedTable
  | .reported kind _ => kind

/-- The words of a line, with one space between them. -/
def joined (words : List String) : String :=
  " ".intercalate words

/-- The cardinalities that a header may name. -/
def cardinalities : String :=
  "|".intercalate (Cardinality.all.map Cardinality.word)

/-- The types that a header may name. -/
def declarableTypes : String :=
  ", ".intercalate (ScalarType.declarable.map ScalarType.word)

/-- The wording of a cause. -/
def Cause.message : Cause → String
  | .nameLine => "annotation block must start with 'name <identifier>'"
  | .statementName name => s!"invalid statement name {quoted name}"
  | .countLine => s!"second annotation line must be 'count <{cardinalities}>'"
  | .unknownCardinality word =>
      s!"unknown cardinality {quoted word}, expected {cardinalities}"
  | .fieldWord words => s!"expected 'param' or 'returns', got {quoted (joined words)}"
  | .fieldForm kind words =>
      s!"'{kind.word}' takes a name and a type, got {quoted (joined words)}"
  | .fieldName kind name => s!"invalid {kind.word} name {quoted name}"
  | .unsupportedType word =>
      s!"unsupported type {quoted word}, expected one of: {declarableTypes}"
  | .repeatedField kind name => s!"duplicate {kind.word} name {quoted name}"
  | .emptyBody => "annotation has no SQL body"
  | .emptyQuery => "query has no SQL body"
  | .execReturns => "exec statements cannot declare returns"
  | .placeholderCount declared found =>
      s!"{declared} parameter(s) declared but {found} placeholder(s) found"
  | .repeatedStatement name => s!"statement name {quoted name} is already defined"
  | .unreadableTable words => s!"cannot parse table definition: {words}"
  | .repeatedColumn fault => fault.message
  | .tableClash table clash => s!"table {quoted table} generates {clash.words}"
  | .statementClash statement clash => s!"statement {quoted statement} generates {clash.words}"
  | .reported _ message => message

end SourceError

/-- An error in source text. -/
structure SourceError where
  cause : SourceError.Cause
  /-- The statement that it belongs to. -/
  statement : Option String
  /-- The line that it belongs to. -/
  line : Option Int
  deriving DecidableEq, Repr

namespace SourceError

/-- The kind of an error. -/
def kind (e : SourceError) : ErrorKind :=
  e.cause.kind

/-- What is wrong, without the place. -/
def message (e : SourceError) : String :=
  e.cause.message

/-- The parts of the place of an error that are known. -/
def place (e : SourceError) : List String :=
  (e.statement.map fun name => s!"statement {quoted name}").toList ++
    (e.line.map fun n => s!"line {n}").toList

/-- The text that reports an error: what is wrong, and where. -/
def text (e : SourceError) : String :=
  if e.place.isEmpty then e.message
  else e.message ++ " (" ++ ", ".intercalate e.place ++ ")"

end SourceError

end SqlContract
