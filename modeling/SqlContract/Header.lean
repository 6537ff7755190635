/-
Headers: the lines ahead of a statement that declare its contract.

A header line starts with a fixed lead, such as `-- @`, and holds words.  Blank lines and other
line comments may stand before the first header line; the first line that is none ends the header.

* `Header.words?` — the words of a header line;
* `Header.split` — the header of a text, and the SQL behind it;
* `Fields`, `Fields.ofLines` — the parameters and the row fields that header lines declare.
-/

import SqlContract.SourceError
import SqlContract.Text.Blank
import SqlContract.Text.Identifier
import SqlContract.Sql.Placeholder

set_option autoImplicit false
set_option relaxedAutoImplicit false

namespace SqlContract

open Text

namespace Header

/-- The lead of header lines, unless another is asked for. -/
def defaultLead : String := "-- @"

/-- The words behind the lead of a line, for a header line. -/
def words? (lead line : List Char) : Option (List String) :=
  let body := stripLeft line
  if lead.isPrefixOf body then some ((words (body.drop lead.length)).map String.ofList) else none

/-- Whether a line may stand before a header: a blank line, or a comment that is no header line. -/
def isFiller (lead line : List Char) : Bool :=
  let body := strip line
  body.isEmpty || (['-', '-'].isPrefixOf body && (words? lead body).isNone)

/-- The header lines that some lines start with, and the lines behind them. -/
def takeLines (lead : List Char) : List (List Char) → List (List String) × List (List Char)
  | [] => ([], [])
  | l :: ls =>
      match words? lead l with
      | some ws => (ws :: (takeLines lead ls).1, (takeLines lead ls).2)
      | none => ([], l :: ls)

/-- The words of the header lines of a text, and the SQL behind them without the blanks at its
ends.  The lines of the SQL end in line feeds. -/
def split (lead : String) (text : List Char) : List (List String) × List Char :=
  let parts := takeLines lead.toList ((lines text).dropWhile (isFiller lead.toList))
  (parts.1, strip (['\n'].intercalate parts.2))

end Header

/-- Where an error belongs while the header of a named statement is read. -/
def SourceError.inStatement (name : String) (line : Option Int) (cause : SourceError.Cause) :
    SourceError :=
  ⟨cause, some name, line⟩

/-- The parameters and the row fields that header lines declare. -/
structure Fields where
  params : List Parameter
  returns : List ReturnField
  deriving DecidableEq, Repr

namespace Fields

/-- The kind of field that a word declares. -/
def kindOf? (word : String) : Option FieldKind :=
  [FieldKind.param, FieldKind.returns].find? (·.word == word)

/-- The names declared so far in the group of a kind. -/
def names (f : Fields) : FieldKind → List String
  | .param => f.params.map (·.name)
  | .returns => f.returns.map (·.name)

/-- Adds a field at the end of its group. -/
def push (f : Fields) (kind : FieldKind) (name : String) (type : ScalarType) : Fields :=
  match kind with
  | .param => { f with params := f.params ++ [⟨name, type⟩] }
  | .returns => { f with returns := f.returns ++ [⟨name, type, false⟩] }

/-- Declares a field of a kind, behind the word that names the kind. -/
def declareAs (f : Fields) (kind : FieldKind) (words : List String) :
    Except SourceError.Cause Fields :=
  match words with
  | [_, name, word] =>
      if !isIdentifier name then .error (.fieldName kind name)
      else
        match ScalarType.ofWord? word with
        | none => .error (.unsupportedType word)
        | some type =>
            if (f.names kind).contains name then .error (.repeatedField kind name)
            else .ok (f.push kind name type)
  | _ => .error (.fieldForm kind words)

/-- Declares the field of one header line. -/
def declare (f : Fields) (words : List String) : Except SourceError.Cause Fields :=
  match kindOf? (words.headD "") with
  | none => .error (.fieldWord words)
  | some kind => f.declareAs kind words

/-- The fields that header lines declare, in order. -/
def ofLines (lines : List (List String)) : Except SourceError.Cause Fields :=
  lines.foldlM declare ⟨[], []⟩

end Fields

/-- Refuses SQL that does not bind as many parameters as are declared. -/
def checkPlaceholders (sql : List Char) (params : List Parameter) : Except SourceError.Cause Unit :=
  let found := Sql.placeholderCount sql
  if found = params.length then .ok () else .error (.placeholderCount params.length found)

/-- The cardinality that a word names, or the error that it names none. -/
def readCardinality (word : String) : Except SourceError.Cause Cardinality :=
  match Cardinality.ofWord? word with
  | some c => .ok c
  | none => .error (.unknownCardinality word)

end SqlContract
