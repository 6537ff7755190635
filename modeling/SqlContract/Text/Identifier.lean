/-
Identifiers of the generated code.

* `isIdentifierForm` — the lexical form of an identifier;
* `isKeyword` — the words that the form admits and the language keeps for itself;
* `isIdentifier` — names that generated code may bind.
-/

import SqlContract.Text.Word
import SqlContract.Text.Table.Identifier

set_option autoImplicit false
set_option relaxedAutoImplicit false

namespace SqlContract.Text

/-- Characters that may open an identifier. -/
def isIdentifierStart (c : Char) : Bool :=
  if c.toNat < 0x80 then c.isAlpha || c == '_' else inRanges Table.identifierStartRanges c

/-- Characters that may follow in an identifier. -/
def isIdentifierContinue (c : Char) : Bool :=
  if c.toNat < 0x80 then c.isAlphanum || c == '_' else inRanges Table.identifierContinueRanges c

/-- The lexical form of an identifier. -/
def isIdentifierForm : List Char → Bool
  | [] => false
  | c :: cs => isIdentifierStart c && cs.all isIdentifierContinue

/-- The keywords of the language that generated code is written in. -/
def keywords : List String :=
  ["False", "None", "True", "and", "as", "assert", "async", "await", "break", "class", "continue",
   "def", "del", "elif", "else", "except", "finally", "for", "from", "global", "if", "import",
   "in", "is", "lambda", "nonlocal", "not", "or", "pass", "raise", "return", "try", "while",
   "with", "yield"]

/-- Whether a name is a keyword. -/
def isKeyword (name : String) : Bool :=
  keywords.contains name

/-- Whether generated code may bind the name. -/
def isIdentifier (name : String) : Bool :=
  isIdentifierForm name.toList && !isKeyword name

end SqlContract.Text
