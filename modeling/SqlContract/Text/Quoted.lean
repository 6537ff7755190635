/-
Quoted text: a text between quotes in which every other character is printable.

Single quotes are used unless the text holds a single quote and no double quote.  The enclosing
quote and the backslash are written after a backslash, tab, line feed and carriage return by their
letters, and other characters without a glyph by the hexadecimal digits of their code point.

* `quoted` — a text in quotes;
* `quotedList` — a list of texts in brackets.
-/

import SqlContract.Text.Word

set_option autoImplicit false
set_option relaxedAutoImplicit false

namespace SqlContract.Text

/-- The last `width` hexadecimal digits of a number, in lower case. -/
def hexDigits : (width : Nat) → Nat → List Char
  | 0, _ => []
  | width + 1, n => hexDigits width (n / 16) ++ [Nat.digitChar (n % 16)]

/-- The code point of a character after a backslash: two, four or eight digits. -/
def hexEscape (c : Char) : List Char :=
  if c.toNat < 0x100 then '\\' :: 'x' :: hexDigits 2 c.toNat
  else if c.toNat < 0x10000 then '\\' :: 'u' :: hexDigits 4 c.toNat
  else '\\' :: 'U' :: hexDigits 8 c.toNat

/-- One character inside quotes. -/
def escapeChar (quote c : Char) : List Char :=
  if c = quote ∨ c = '\\' then ['\\', c]
  else if c = '\t' then ['\\', 't']
  else if c = '\n' then ['\\', 'n']
  else if c = '\r' then ['\\', 'r']
  else if isPrintable c then [c]
  else hexEscape c

/-- The quote that encloses a text. -/
def quoteFor (s : List Char) : Char :=
  if s.contains '\'' && !s.contains '"' then '"' else '\''

/-- A text in quotes. -/
def quotedChars (s : List Char) : List Char :=
  let quote := quoteFor s
  quote :: (s.flatMap (escapeChar quote) ++ [quote])

/-- A text in quotes. -/
def quoted (s : String) : String :=
  String.ofList (quotedChars s.toList)

/-- Quoted texts between brackets, separated by commas. -/
def quotedList (names : List String) : String :=
  "[" ++ ", ".intercalate (names.map quoted) ++ "]"

end SqlContract.Text
