/-
Letter case by the full mappings of Unicode: one character may become several, and a sigma at the
end of a word has a small form of its own.

* `lower`, `upper` — a text in lower and in upper case;
* `lowerChar`, `upperChar` — the mapping of one character, the final sigma apart.
-/

import SqlContract.Text.Word
import SqlContract.Text.Table.Case

set_option autoImplicit false
set_option relaxedAutoImplicit false

namespace SqlContract.Text

/-- The image of a code point under the first run that holds it. -/
def runImage? (runs : List Table.CaseRun) (n : Nat) : Option Nat :=
  (runs.find? fun r => r.first ≤ n && n ≤ r.last && (n - r.first) % r.step == 0).map
    fun r => ((n : Int) + r.distance).toNat

/-- Maps a code point beyond ASCII: by its expansion, else by its run, else to itself. -/
def mapCase (expansions : List (Nat × List Nat)) (runs : List Table.CaseRun) (c : Char) :
    List Char :=
  match expansions.lookup c.toNat with
  | some image => image.map Char.ofNat
  | none =>
      match runImage? runs c.toNat with
      | some n => [Char.ofNat n]
      | none => [c]

/-- The lower case of one character. -/
def lowerChar (c : Char) : List Char :=
  if c.toNat < 0x80 then [c.toLower] else mapCase Table.lowerExpansions Table.lowerRuns c

/-- The upper case of one character. -/
def upperChar (c : Char) : List Char :=
  if c.toNat < 0x80 then [c.toUpper] else mapCase Table.upperExpansions Table.upperRuns c

/-- Characters that have a case and are not passed over in the search for a cased neighbour. -/
def isCased (c : Char) : Bool :=
  if c.toNat < 0x80 then c.isAlpha else inRanges Table.casedRanges c

/-- Characters that are passed over in the search for a cased neighbour. -/
def isCaseIgnorable (c : Char) : Bool :=
  if c.toNat < 0x80 then ['\'', '.', ':', '^', '\x60'].contains c
  else inRanges Table.caseIgnorableRanges c

/-- Whether the first character that is not passed over is cased. -/
def startsCased (s : List Char) : Bool :=
  match s.dropWhile isCaseIgnorable with
  | [] => false
  | c :: _ => isCased c

/-- Lower case of the rest of a text, where `afterCased` tells whether the nearest character
before it that is not passed over is cased. -/
def lowerFrom (afterCased : Bool) : List Char → List Char
  | [] => []
  | c :: cs =>
      (if c = 'Σ' then [if afterCased && !startsCased cs then 'ς' else 'σ'] else lowerChar c) ++
        lowerFrom (if isCaseIgnorable c then afterCased else isCased c) cs

/-- The text in lower case. -/
def lower (s : List Char) : List Char :=
  lowerFrom false s

/-- The text in upper case. -/
def upper (s : List Char) : List Char :=
  s.flatMap upperChar

end SqlContract.Text
