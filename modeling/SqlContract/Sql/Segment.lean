/-
Statements of a SQL text: the parts between its semicolons.

* `cut` — the pieces of a text, cut at the semicolons;
* `Segment`, `segments` — the statements of a text with the lines they start on;
* `withoutComments` — a text without its comments;
* `leadingKeyword` — the first word of a statement.
-/

import SqlContract.Sql.Piece
import SqlContract.Text.Blank
import SqlContract.Text.Case

set_option autoImplicit false
set_option relaxedAutoImplicit false

namespace SqlContract.Sql

open SqlContract.Text

/-- The text that some pieces spell once the comments are left out. -/
def code (ps : List Piece) : List Char :=
  join (ps.filter (!·.isComment))

/-- The text without its comments.  Literals and quoted identifiers stay as they are. -/
def withoutComments (s : List Char) : List Char :=
  code (scan s)

/-- Cuts pieces at the semicolons: the pieces before the first one, and the groups after it. -/
def cut : List Piece → List Piece × List (List Piece)
  | [] => ([], [])
  | .semicolon :: ps => ([], (cut ps).1 :: (cut ps).2)
  | p :: ps => (p :: (cut ps).1, (cut ps).2)

/-- One statement of a text. -/
structure Segment where
  /-- The statement as written, without the semicolon that ends it. -/
  text : List Char
  /-- The line of the first character that is not a space, a tab or a line end. -/
  line : Nat
  /-- Whether a semicolon ends the statement. -/
  terminated : Bool
  deriving DecidableEq, Repr

/-- The characters that may stand between the end of a statement and the line of the next. -/
def isLineBlank (c : Char) : Bool :=
  c == ' ' || c == '\t' || c == '\r' || c == '\n'

/-- The line on which a statement starts whose text begins on line `line`. -/
def startLine (line : Nat) (s : List Char) : Nat :=
  line + lineFeeds (s.takeWhile isLineBlank)

/-- The segments of groups of pieces, of which the first begins on line `line`.  The last group is
not terminated, and it is dropped when it holds nothing but blanks and comments. -/
def segmentsFrom (line : Nat) : List Piece → List (List Piece) → List Segment
  | last, [] =>
      if (strip (code last)).isEmpty then []
      else [⟨join last, startLine line (join last), false⟩]
  | group, next :: rest =>
      ⟨join group, startLine line (join group), true⟩ ::
        segmentsFrom (line + lineFeeds (join group)) next rest

/-- The statements of a text, in order. -/
def segments (s : List Char) : List Segment :=
  let groups := cut (scan s)
  segmentsFrom 1 groups.1 groups.2

/-- The first word of a statement in upper case, comments and blanks before it skipped. -/
def leadingKeyword (s : List Char) : String :=
  String.ofList (upper ((stripLeft (withoutComments s)).takeWhile isWord))

end SqlContract.Sql
