/-
Blanks, line breaks, and the cuts of a text at them.

A text is a list of code points.  Blanks are the code points with the property White_Space together
with the four information separators; a line break is one of ten code points, or a carriage return
followed by a line feed.

* `isBlank`, `isLineBreak` — the two classes;
* `stripLeft`, `stripRight`, `strip` — a text without the blanks at its ends;
* `words` — the maximal runs of non-blank characters;
* `lines` — the lines of a text, without their breaks.
-/

set_option autoImplicit false
set_option relaxedAutoImplicit false

namespace SqlContract.Text

/-- White space in the sense of Unicode, and the information separators U+001C to U+001F. -/
def isBlank (c : Char) : Bool :=
  let n := c.toNat
  (0x09 ≤ n && n ≤ 0x0D) || (0x1C ≤ n && n ≤ 0x20) || n == 0x85 || n == 0xA0 || n == 0x1680 ||
    (0x2000 ≤ n && n ≤ 0x200A) || n == 0x2028 || n == 0x2029 || n == 0x202F || n == 0x205F ||
    n == 0x3000

/-- The characters that end a line. -/
def isLineBreak (c : Char) : Bool :=
  let n := c.toNat
  (0x0A ≤ n && n ≤ 0x0D) || (0x1C ≤ n && n ≤ 0x1E) || n == 0x85 || n == 0x2028 || n == 0x2029

/-- A line break is a blank. -/
theorem isBlank_of_isLineBreak {c : Char} (h : isLineBreak c = true) : isBlank c = true := by
  simp only [isLineBreak, isBlank, Bool.or_eq_true, Bool.and_eq_true, decide_eq_true_eq,
    beq_iff_eq] at *
  omega

/-- The text without its leading blanks. -/
def stripLeft (s : List Char) : List Char :=
  s.dropWhile isBlank

/-- The text without its trailing blanks. -/
def stripRight (s : List Char) : List Char :=
  (s.reverse.dropWhile isBlank).reverse

/-- The text without the blanks at either end. -/
def strip (s : List Char) : List Char :=
  stripRight (stripLeft s)

/-- Puts a character in front of the first of some pieces. -/
def consHead (c : Char) : List (List Char) → List (List Char)
  | [] => [[c]]
  | p :: ps => (c :: p) :: ps

/-- The maximal runs of non-blank characters, in order. -/
def words : List Char → List (List Char)
  | [] => []
  | c :: cs =>
      if isBlank c then words cs
      else
        match cs with
        | [] => [[c]]
        | d :: _ => if isBlank d then [c] :: words cs else consHead c (words cs)

/-- The lines of a text.  A break ends the line before it, so a text that ends in a break has no
empty line after it. -/
def lines : List Char → List (List Char)
  | [] => []
  | '\r' :: '\n' :: cs => [] :: lines cs
  | c :: cs => if isLineBreak c then [] :: lines cs else consHead c (lines cs)

/-- The number of line feeds of a text. -/
def lineFeeds (s : List Char) : Nat :=
  s.count '\n'

end SqlContract.Text
