/-
Kinds of errors, and their order from the general to the particular.

* `ErrorKind` — the kinds; `ErrorKind.name` names one;
* `ErrorKind.parent?`, `ErrorKind.lineage` — the kind that a kind refines, and all it belongs to.
-/

set_option autoImplicit false
set_option relaxedAutoImplicit false

namespace SqlContract

/-- The kinds of errors. -/
inductive ErrorKind
  /-- Any error of this library. -/
  | root
  | connection
  /-- Errors in source text. -/
  | source
  | malformedHeader
  | unknownCardinality
  | unsupportedType
  | placeholderCount
  | duplicateName
  | malformedTable
  /-- Errors of a statement at run time. -/
  | statement
  | definition
  | compile
  | execution
  /-- Values that do not fit a statement. -/
  | validation
  | callerInput
  | output
  deriving DecidableEq, Repr

namespace ErrorKind

/-- All kinds. -/
def all : List ErrorKind :=
  [.root, .connection, .source, .malformedHeader, .unknownCardinality, .unsupportedType,
   .placeholderCount, .duplicateName, .malformedTable, .statement, .definition, .compile,
   .execution, .validation, .callerInput, .output]

/-- The name of a kind. -/
def name : ErrorKind → String
  | root => "TypedSQLException"
  | connection => "DatabaseConnectionError"
  | source => "GenerationError"
  | malformedHeader => "MalformedAnnotation"
  | unknownCardinality => "UnknownCardinality"
  | unsupportedType => "UnsupportedType"
  | placeholderCount => "PlaceholderCountMismatch"
  | duplicateName => "DuplicateStatementName"
  | malformedTable => "MalformedTableDefinition"
  | statement => "StatementError"
  | definition => "StatementDefinitionError"
  | compile => "StatementCompileError"
  | execution => "StatementExecutionError"
  | validation => "StatementValidationError"
  | callerInput => "CallerInputError"
  | output => "OutputValidationError"

/-- The kind of the given name. -/
def ofName? (s : String) : Option ErrorKind :=
  all.find? (·.name == s)

/-- The kind that a kind refines. -/
def parent? : ErrorKind → Option ErrorKind
  | root => none
  | malformedHeader | unknownCardinality | unsupportedType | placeholderCount | duplicateName
  | malformedTable => some source
  | definition | compile | execution | validation => some statement
  | callerInput | output => some validation
  | connection | source | statement => some root

/-- How many kinds a kind refines, one by one. -/
def depth : ErrorKind → Nat
  | root => 0
  | connection | source | statement => 1
  | callerInput | output => 3
  | _ => 2

theorem depth_parent {k p : ErrorKind} (h : k.parent? = some p) : p.depth < k.depth := by
  cases k <;> simp_all [parent?, depth] <;> subst h <;> decide

/-- A kind and all it refines, the particular first. -/
def lineage (k : ErrorKind) : List ErrorKind :=
  match _h : k.parent? with
  | none => [k]
  | some p => k :: lineage p
termination_by k.depth
decreasing_by exact depth_parent _h

end ErrorKind

end SqlContract
