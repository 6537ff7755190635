/-
Characters that make up words, and characters that show a glyph.

* `isWord` — letters, numerals and the underscore;
* `isPrintable` — characters that a quoted text shows as they are.
-/

import SqlContract.Text.Table.Word
import SqlContract.Text.Table.Printable

set_option autoImplicit false
set_option relaxedAutoImplicit false

namespace SqlContract.Text

/-- Whether a code point lies in one of some ranges, both ends included. -/
def inRanges (ranges : List (Nat × Nat)) (c : Char) : Bool :=
  ranges.any fun r => r.1 ≤ c.toNat && c.toNat ≤ r.2

/-- Letters, numerals and the underscore. -/
def isWord (c : Char) : Bool :=
  if c.toNat < 0x80 then c.isAlphanum || c == '_' else inRanges Table.wordRanges c

/-- Characters with a glyph of their own; the space is the only blank among them. -/
def isPrintable (c : Char) : Bool :=
  if c.toNat < 0x80 then 0x20 ≤ c.toNat && c.toNat < 0x7F else inRanges Table.printableRanges c

end SqlContract.Text
