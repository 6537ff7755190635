/-
The command line: generates the module of a file of SQL.

The arguments are the path of a source whose statements carry headers, and the word for a dialect.
The module goes to the standard output behind the lines that tell what was left out of it, and the
log goes to the standard error.
-/

import SqlContract.Generation

set_option autoImplicit false
set_option relaxedAutoImplicit false

namespace SqlContract

/-- What the command line asks for. -/
structure Request where
  path : String := "tests/data/queries.sql"
  dialect : String := Dialect.remoteAsync.word

/-- The request of some arguments. -/
def Request.ofArguments : List String → Request
  | [] => {}
  | [path] => { path }
  | path :: dialect :: _ => { path, dialect }

/-- The lines for the standard output and for the standard error, or the words of an error. -/
def Request.answer (r : Request) (text : String) : Except String (String × List String) := do
  let dialect ←
    match Dialect.ofWord? r.dialect with
    | some d => .ok d
    | none => .error (ReadError.unknownDialect r.dialect).message
  let g ← (generateHeadedWithin Sql.defaultDigitLimit { dialect } text.toList).mapError
    EmitError.message
  return (g.skipped ++ g.source, g.report.log.map LogLine.text)

end SqlContract

open SqlContract in
/-- Generates the module of a file. -/
def main (arguments : List String) : IO UInt32 := do
  let request := Request.ofArguments arguments
  let text ← IO.FS.readFile request.path
  match request.answer text with
  | .ok (source, log) =>
      log.forM IO.eprintln
      IO.println source
      return 0
  | .error message =>
      IO.eprintln message
      return 1
