/-
Names in generated code.

A name given in mixed case is cut into words at its changes of case; the snake form joins the words
by underscores in lower case, the Pascal form opens each word with a capital and joins them directly.

* `snakeCase`, `pascalCase` — the two forms of a name;
* `startsWord` — where a word starts inside a name;
* `indent` — lines moved to the right.
-/

import SqlContract.Text.Case

set_option autoImplicit false
set_option relaxedAutoImplicit false

namespace SqlContract

open Text

/-- Whether a word starts at `c`, between `prev` and the text `after`: at a capital behind a small
letter or a digit, and at the last of several capitals when a small letter follows.  Only ASCII
letters count. -/
def startsWord (prev c : Char) (after : List Char) : Bool :=
  c.isUpper && (prev.isLower || prev.isDigit || (prev.isUpper && after.head?.any Char.isLower))

/-- Inserts an underscore before each word of the rest of a name, behind the character `prev`. -/
def separateFrom (prev : Char) : List Char → List Char
  | [] => []
  | c :: cs =>
      if startsWord prev c cs then '_' :: c :: separateFrom c cs else c :: separateFrom c cs

/-- Inserts an underscore before each word of a name but the first. -/
def separateWords : List Char → List Char
  | [] => []
  | c :: cs => c :: separateFrom c cs

/-- The words of a name in lower case, joined by underscores. -/
def snakeChars (name : List Char) : List Char :=
  lower (separateWords name)

/-- Drops the underscores and puts what follows each of them in upper case; `atStart` tells whether
a word starts here. -/
def capitalizeWords (atStart : Bool) : List Char → List Char
  | [] => []
  | c :: cs =>
      if c = '_' then capitalizeWords true cs
      else (if atStart then upperChar c else [c]) ++ capitalizeWords false cs

/-- The snake form of a name. -/
def snakeCase (name : String) : String :=
  String.ofList (snakeChars name.toList)

/-- The Pascal form of a name. -/
def pascalCase (name : String) : String :=
  String.ofList (capitalizeWords true (snakeChars name.toList))

/-- A name in upper case. -/
def upperCase (name : String) : String :=
  String.ofList (upper name.toList)

/-- The form of a name under which two spellings that differ in case are one. -/
def caseKey (name : String) : String :=
  String.ofList (lower name.toList)

/-- Moves the lines that are not empty to the right, four columns a level. -/
def indent (level : Nat) (lines : List String) : List String :=
  lines.map fun line =>
    if line.isEmpty then line else String.ofList (List.replicate (4 * level) ' ') ++ line

end SqlContract
