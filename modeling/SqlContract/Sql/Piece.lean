/-
The lexical pieces of SQL text.

SQL is cut into pieces just fine enough to tell code from quoted text and from comments.  No piece
is dropped: the texts of the pieces of a text, put together, are that text (`join_scan`), so every
later cut and every change of spelling is a function on lists of pieces.

* `Piece`, `Piece.text` — the pieces and their spelling;
* `closeQuote`, `closeComment` — where a quoted piece or a block comment ends;
* `scan` — the pieces of a text.

A quote inside a quoted piece is doubled.  A quote or a comment that is never closed opens nothing:
it is an ordinary character.  Where only a doubled quote could close a quoted piece, its first half
does.
-/

import SqlContract.Text.Digit

set_option autoImplicit false
set_option relaxedAutoImplicit false

namespace SqlContract.Sql

open SqlContract.Text

/-- The two quotes of SQL: one for literals, one for identifiers. -/
inductive Quote
  | single
  | double
  deriving DecidableEq, Repr

/-- The character that opens and closes a quoted piece. -/
def Quote.char : Quote → Char
  | .single => '\''
  | .double => '"'

/-- A lexical piece of SQL text. -/
inductive Piece
  /-- One character that starts nothing else. -/
  | plain (c : Char)
  /-- A literal or a quoted identifier, with its inner quotes as written. -/
  | quoted (quote : Quote) (body : List Char)
  /-- A comment that runs to the end of its line. -/
  | lineComment (body : List Char)
  /-- A comment between its brackets. -/
  | blockComment (body : List Char)
  /-- The end of a statement. -/
  | semicolon
  /-- A positional parameter, with the digits of its number if it has one. -/
  | placeholder (digits : List Char)
  /-- A percent sign. -/
  | percent
  deriving DecidableEq, Repr

/-- The spelling of a piece. -/
def Piece.text : Piece → List Char
  | .plain c => [c]
  | .quoted q body => q.char :: (body ++ [q.char])
  | .lineComment body => '-' :: '-' :: body
  | .blockComment body => '/' :: '*' :: (body ++ ['*', '/'])
  | .semicolon => [';']
  | .placeholder digits => '?' :: digits
  | .percent => ['%']

/-- Whether a piece is a comment of either kind. -/
def Piece.isComment : Piece → Bool
  | .lineComment _ | .blockComment _ => true
  | _ => false

/-- The text that some pieces spell. -/
def join (ps : List Piece) : List Char :=
  ps.flatMap Piece.text

/-- The body of a quoted piece and the text after it, for a text that starts behind the opening
quote.  A doubled quote belongs to the body as long as a closing quote follows it. -/
def closeQuote (q : Char) : List Char → Option (List Char × List Char)
  | [] => none
  | c :: cs =>
      if c = q then
        match cs with
        | [] => some ([], [])
        | d :: ds =>
            if d = q then
              match closeQuote q ds with
              | some (body, rest) => some (q :: q :: body, rest)
              | none => some ([], d :: ds)
            else some ([], d :: ds)
      else (closeQuote q cs).map fun (body, rest) => (c :: body, rest)

/-- The body of a block comment and the text after it, for a text that starts behind the opening
bracket. -/
def closeComment : List Char → Option (List Char × List Char)
  | [] => none
  | '*' :: '/' :: cs => some ([], cs)
  | c :: cs => (closeComment cs).map fun (body, rest) => (c :: body, rest)

theorem closeQuote_eq {q : Char} {s body rest : List Char} (h : closeQuote q s = some (body, rest)) :
    body ++ q :: rest = s := by
  fun_induction closeQuote q s generalizing body rest with
  | case1 => simp at h
  | case2 => simp_all
  | case3 ds b r hb ih =>
      simp only [Option.some.injEq, Prod.mk.injEq] at h
      obtain ⟨rfl, rfl⟩ := h
      simp [ih hb]
  | case4 => simp_all
  | case5 => simp_all
  | case6 c cs hc ih =>
      obtain ⟨⟨b, r⟩, hb, he⟩ := Option.map_eq_some_iff.1 h
      simp only [Prod.mk.injEq] at he
      obtain ⟨rfl, rfl⟩ := he
      simp [ih hb]

theorem closeComment_eq {s body rest : List Char} (h : closeComment s = some (body, rest)) :
    body ++ '*' :: '/' :: rest = s := by
  fun_induction closeComment s generalizing body rest with
  | case1 => simp at h
  | case2 => simp_all
  | case3 c cs _ ih =>
      obtain ⟨⟨b, r⟩, hb, he⟩ := Option.map_eq_some_iff.1 h
      simp only [Prod.mk.injEq] at he
      obtain ⟨rfl, rfl⟩ := he
      simp [ih hb]

/-- The piece that a text starts with, and the text after it. -/
def next (c : Char) (cs : List Char) : Piece × List Char :=
  if c = '\'' then
    match closeQuote '\'' cs with
    | some (body, rest) => (.quoted .single body, rest)
    | none => (.plain c, cs)
  else if c = '"' then
    match closeQuote '"' cs with
    | some (body, rest) => (.quoted .double body, rest)
    | none => (.plain c, cs)
  else if c = '-' then
    match cs with
    | '-' :: ds => (.lineComment (ds.takeWhile (· ≠ '\n')), ds.dropWhile (· ≠ '\n'))
    | _ => (.plain c, cs)
  else if c = '/' then
    match cs with
    | '*' :: ds =>
        match closeComment ds with
        | some (body, rest) => (.blockComment body, rest)
        | none => (.plain c, cs)
    | _ => (.plain c, cs)
  else if c = ';' then (.semicolon, cs)
  else if c = '?' then (.placeholder (cs.takeWhile isDigit), cs.dropWhile isDigit)
  else if c = '%' then (.percent, cs)
  else (.plain c, cs)

/-- Nothing is lost by splitting off a piece. -/
theorem next_eq (c : Char) (cs : List Char) : (next c cs).1.text ++ (next c cs).2 = c :: cs := by
  unfold next
  repeat' split
  all_goals simp_all [Piece.text, Quote.char]
  all_goals first
    | (rename_i h; simpa using closeQuote_eq h)
    | (rename_i h; simpa using closeComment_eq h)

theorem Piece.text_length_pos (p : Piece) : 0 < p.text.length := by
  cases p <;> simp [Piece.text]

theorem next_length (c : Char) (cs : List Char) : (next c cs).2.length < (c :: cs).length := by
  have h := congrArg List.length (next_eq c cs)
  have := (next c cs).1.text_length_pos
  simp only [List.length_append] at h
  omega

/-- The pieces of a text, in order. -/
def scan : List Char → List Piece
  | [] => []
  | c :: cs => (next c cs).1 :: scan (next c cs).2
termination_by s => s.length
decreasing_by exact next_length c cs

@[simp] theorem scan_nil : scan [] = [] := by
  rw [scan]

theorem scan_cons (c : Char) (cs : List Char) :
    scan (c :: cs) = (next c cs).1 :: scan (next c cs).2 := by
  rw [scan]

/-- The pieces of a text spell it. -/
theorem join_scan (s : List Char) : join (scan s) = s := by
  fun_induction scan s with
  | case1 => rfl
  | case2 c cs ih => simp only [join, List.flatMap_cons] at *; rw [ih, next_eq]

end SqlContract.Sql
