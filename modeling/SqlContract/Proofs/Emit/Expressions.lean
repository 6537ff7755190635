/-
Expressions of generated code, and what they are read back as.

A literal stands between quotes of one kind, one at either end or three.  A backslash opens an
escape: a letter for a control character, the number of a character in octal or hexadecimal digits,
or the end of a line, which is passed over.  A literal between single quotes ends on the line on
which it starts.  A literal between triple quotes may run over lines, and every line end in it, as a
carriage return, a line feed or both, is read as a line feed.

`read?` reads a literal in that way at the start of a text, and gives what is left of the text.  It
knows nothing of how the literals of a module are written.  The names of characters, which an escape
may use as well, are not known here: a literal with such an escape is not read.

A tuple is read item by item.  An item looks a name up in the mapping `params`, and the name is read
as a literal.

Main definitions:

* `Literal.escape?`, `Literal.unit?` — what an escape, and what one unit of a literal, stands for;
* `Literal.readBody`, `Literal.read?` — the value of a literal, and the text behind it;
* `Takes` — the names that a tuple takes the values of.

Main results:

* `Literal.unit?_escapeChar` — **a character that is written inside quotes is read back**;
* `Literal.read?_quoted`, `Literal.read?_tripleQuoted` — the two forms of SQL constants are read
  back, whatever follows;
* `takes_argumentTuple` — **the tuple of some parameters takes their values**, in their order.
-/

import SqlContract.Emit.Form
import Mathlib

set_option autoImplicit false
set_option relaxedAutoImplicit false

namespace SqlContract

open Text Sql

namespace Literal

/-! ### Escapes -/

/-- The value of a digit in a base up to sixteen. -/
def digit? (base : Nat) (c : Char) : Option Nat :=
  let n := c.toNat
  let value :=
    if 0x30 ≤ n ∧ n ≤ 0x39 then n - 0x30
    else if 0x41 ≤ n ∧ n ≤ 0x46 then n - 0x41 + 10
    else if 0x61 ≤ n ∧ n ≤ 0x66 then n - 0x61 + 10
    else base
  if value < base then some value else none

/-- The number that some digits write. -/
def numeral? (base : Nat) (digits : List Char) : Option Nat :=
  digits.foldlM (fun n c => (digit? base c).map (n * base + ·)) 0

/-- The character with a code point; none for a number that is the code point of no character. -/
def charAt? (n : Nat) : Option Char :=
  if n.isValidChar then some (.ofNat n) else none

/-- The character whose code point is written in the given number of hexadecimal digits, and the text
behind them. -/
def hexadecimal? (width : Nat) (s : List Char) : Option (List Char × List Char) :=
  if s.length < width then none
  else ((numeral? 16 (s.take width)).bind charAt?).map fun c => ([c], s.drop width)

/-- The octal digits at the start of a text, three of them at most. -/
def octalDigits (s : List Char) : List Char :=
  (s.take 3).takeWhile fun c => (digit? 8 c).isSome

/-- The characters that stand for one character behind a backslash. -/
def letters : List (Char × Char) :=
  [('\\', '\\'), ('\'', '\''), ('"', '"'), ('a', '\x07'), ('b', '\x08'), ('f', '\x0c'), ('n', '\n'),
   ('r', '\r'), ('t', '\t'), ('v', '\x0b')]

/-- The text behind the line end that a text starts with. -/
def afterLineEnd? : List Char → Option (List Char)
  | '\r' :: '\n' :: s => some s
  | '\r' :: s => some s
  | '\n' :: s => some s
  | _ => none

/-- What the escape at the start of a text behind a backslash stands for, and the text behind it.  A
backslash that opens no escape stands for itself. -/
def escape? (s : List Char) : Option (List Char × List Char) :=
  match afterLineEnd? s with
  | some rest => some ([], rest)
  | none =>
      match s with
      | [] => none
      | c :: cs =>
          match letters.lookup c with
          | some d => some ([d], cs)
          | none =>
              if c = 'x' then hexadecimal? 2 cs
              else if c = 'u' then hexadecimal? 4 cs
              else if c = 'U' then hexadecimal? 8 cs
              else if c = 'N' ∨ c = '\x00' then none
              else
                let digits := octalDigits s
                if digits.isEmpty then some (['\\', c], cs)
                else ((numeral? 8 digits).bind charAt?).map fun d => ([d], s.drop digits.length)

theorem exists_of_afterLineEnd? {s rest : List Char} (h : afterLineEnd? s = some rest) :
    ∃ w, s = w ++ rest ∧ w ≠ [] := by
  unfold afterLineEnd? at h
  split at h
  · exact ⟨['\r', '\n'], by rw [Option.some.inj h]; rfl, by simp⟩
  · exact ⟨['\r'], by rw [Option.some.inj h]; rfl, by simp⟩
  · exact ⟨['\n'], by rw [Option.some.inj h]; rfl, by simp⟩
  · cases h

theorem length_lt_of_afterLineEnd? {s rest : List Char} (h : afterLineEnd? s = some rest) :
    rest.length < s.length := by
  obtain ⟨w, rfl, hw⟩ := exists_of_afterLineEnd? h
  have hlength := List.length_pos_of_ne_nil hw
  rw [List.length_append]
  omega

theorem suffix_of_hexadecimal? {width : Nat} {s piece rest : List Char}
    (h : hexadecimal? width s = some (piece, rest)) : rest <:+ s := by
  unfold hexadecimal? at h
  split_ifs at h
  obtain ⟨c, -, hc⟩ := Option.map_eq_some_iff.1 h
  rw [← (Prod.mk.inj hc).2]
  exact List.drop_suffix ..

theorem suffix_of_escape? {s piece rest : List Char} (h : escape? s = some (piece, rest)) :
    rest <:+ s := by
  unfold escape? at h
  split at h
  · rename_i hend
    rw [← (Prod.mk.inj (Option.some.inj h)).2]
    obtain ⟨w, rfl, -⟩ := exists_of_afterLineEnd? hend
    exact List.suffix_append ..
  · split at h
    · cases h
    · rename_i c cs _
      have hcons : cs <:+ c :: cs := List.suffix_cons ..
      split at h
      · rw [← (Prod.mk.inj (Option.some.inj h)).2]
        exact hcons
      · dsimp only at h
        split_ifs at h
        · exact (suffix_of_hexadecimal? h).trans hcons
        · exact (suffix_of_hexadecimal? h).trans hcons
        · exact (suffix_of_hexadecimal? h).trans hcons
        · rw [← (Prod.mk.inj (Option.some.inj h)).2]
          exact hcons
        · obtain ⟨d, -, hd⟩ := Option.map_eq_some_iff.1 h
          rw [← (Prod.mk.inj hd).2]
          exact List.drop_suffix ..

/-! ### Literals -/

/-- The quotes at either end of a literal. -/
structure Quotes where
  char : Char
  /-- Whether there are three of them. -/
  triple : Bool
  deriving DecidableEq, Repr

/-- The quotes as they are written. -/
def Quotes.text (q : Quotes) : List Char :=
  if q.triple then [q.char, q.char, q.char] else [q.char]

/-- What the first unit of a text inside a literal stands for, and the text behind it.  There is none
at the end of the text, where an escape is not complete, and at a line end that the literal may not
run over. -/
def unit? (triple : Bool) : List Char → Option (List Char × List Char)
  | [] => none
  | c :: cs =>
      if c = '\\' then escape? cs
      else if c = '\x00' then none
      else
        match afterLineEnd? (c :: cs) with
        | some rest => if triple then some (['\n'], rest) else none
        | none => some ([c], cs)

theorem length_lt_of_unit? {triple : Bool} {s piece rest : List Char}
    (h : unit? triple s = some (piece, rest)) : rest.length < s.length := by
  unfold unit? at h
  split at h
  · cases h
  · rename_i c cs
    by_cases hslash : c = '\\'
    · rw [if_pos hslash] at h
      exact Nat.lt_succ_of_le (suffix_of_escape? h).length_le
    · rw [if_neg hslash] at h
      split at h
      · cases h
      · split at h
        · rename_i hend
          split_ifs at h
          rw [← (Prod.mk.inj (Option.some.inj h)).2]
          exact length_lt_of_afterLineEnd? hend
        · rw [← (Prod.mk.inj (Option.some.inj h)).2]
          exact Nat.lt_succ_self _

/-- The value of a literal, for a text that starts behind its opening quotes, and the text behind its
closing quotes. -/
def readBody (q : Quotes) (s : List Char) : Option (List Char × List Char) :=
  if q.text.isPrefixOf s then some ([], s.drop q.text.length)
  else
    match _h : unit? q.triple s with
    | some (piece, rest) => (readBody q rest).map fun read => (piece ++ read.1, read.2)
    | none => none
termination_by s.length
decreasing_by exact length_lt_of_unit? _h

/-- The quotes that a literal opens with.  Two quotes in a row are a literal without characters,
unless a third stands behind them. -/
def opening? : List Char → Option Quotes
  | [] => none
  | c :: cs =>
      if c = '\'' ∨ c = '"' then some ⟨c, [c, c].isPrefixOf cs⟩ else none

/-- The value of the literal that a text starts with, and the text behind it. -/
def read? (s : List Char) : Option (List Char × List Char) :=
  (opening? s).bind fun q => readBody q (s.drop q.text.length)

/-- Octal and hexadecimal escapes, a backslash that opens none, a line end that is passed over. -/
example : read? "'\\1012\\x41\\q\\\n\\u00e9'+".toList = some ("A2A\\qé".toList, ['+']) := by
  decide +kernel

section Reading

variable {q : Quotes}

theorem readBody_text_append (q : Quotes) (rest : List Char) :
    readBody q (q.text ++ rest) = some ([], rest) := by
  rw [readBody, if_pos (List.isPrefixOf_iff_prefix.2 (List.prefix_append ..)), List.drop_left]

/-- One unit is read from a literal that does not end before it. -/
theorem readBody_of_unit? {s piece rest value behind : List Char} (hend : ¬ q.text <+: s)
    (hunit : unit? q.triple s = some (piece, rest))
    (hrest : readBody q rest = some (value, behind)) :
    readBody q s = some (piece ++ value, behind) := by
  rw [readBody, if_neg (mt List.isPrefixOf_iff_prefix.1 hend)]
  split
  · rename_i piece' rest' hunit'
    obtain ⟨rfl, rfl⟩ := Prod.mk.inj (Option.some.inj (hunit'.symm.trans hunit))
    rw [hrest]
    rfl
  · rename_i hnone
    rw [hunit] at hnone
    cases hnone

end Reading

/-! ### Quoted texts -/

theorem digit?_digitChar {n : Nat} (h : n < 16) : digit? 16 n.digitChar = some n := by
  have hall : ∀ n < 16, digit? 16 (Nat.digitChar n) = some n := by decide
  exact hall n h

@[simp] theorem length_hexDigits (width n : Nat) : (hexDigits width n).length = width := by
  induction width generalizing n with
  | zero => rfl
  | succ width ih => rw [hexDigits, List.length_append, ih, List.length_singleton]

/-- The last digits of a number write what is left of it modulo a power of sixteen. -/
theorem numeral?_hexDigits (width n : Nat) :
    numeral? 16 (hexDigits width n) = some (n % 16 ^ width) := by
  induction width generalizing n with
  | zero => rw [pow_zero, Nat.mod_one]; rfl
  | succ width ih =>
      have hdigit : digit? 16 (n % 16).digitChar = some (n % 16) :=
        digit?_digitChar (Nat.mod_lt n (by decide))
      have hsum : n / 16 % 16 ^ width * 16 + n % 16 = n % 16 ^ (width + 1) := by
        rw [Nat.pow_succ, Nat.mul_comm (16 ^ width) 16, Nat.mod_mul]
        omega
      have hinit := ih (n / 16)
      unfold numeral? at hinit ⊢
      rw [hexDigits, List.foldlM_append, hinit, ← hsum]
      simp [hdigit]

/-- A character is read back from the digits of its code point. -/
theorem hexadecimal?_hexDigits {width : Nat} {c : Char} (h : c.toNat < 16 ^ width)
    (t : List Char) : hexadecimal? width (hexDigits width c.toNat ++ t) = some ([c], t) := by
  have hvalid : charAt? c.toNat = some c := by
    have hself : c.toNat.isValidChar := c.valid
    rw [charAt?, if_pos hself, Char.ofNat_toNat]
  have hlength : ¬ (hexDigits width c.toNat ++ t).length < width := by
    simp
  rw [hexadecimal?, if_neg hlength, List.take_left' (length_hexDigits ..),
    List.drop_left' (length_hexDigits ..), numeral?_hexDigits, Nat.mod_eq_of_lt h,
    Option.bind_some, hvalid]
  rfl

theorem afterLineEnd?_cons_of_ne {c : Char} (hfeed : c ≠ '\n') (hreturn : c ≠ '\r')
    (s : List Char) : afterLineEnd? (c :: s) = none := by
  unfold afterLineEnd?
  split <;> simp_all

/-- A character behind a backslash that stands for one character. -/
theorem unit?_letter {c d : Char} (h : letters.lookup c = some d) (triple : Bool) (t : List Char) :
    unit? triple ('\\' :: c :: t) = some ([d], t) := by
  have hfeed : c ≠ '\n' := by
    rintro rfl
    cases h
  have hreturn : c ≠ '\r' := by
    rintro rfl
    cases h
  rw [unit?, if_pos rfl, escape?, afterLineEnd?_cons_of_ne hfeed hreturn]
  simp only [h]

/-- The code point of a character behind a backslash. -/
theorem unit?_hexEscape (triple : Bool) (c : Char) (t : List Char) :
    unit? triple (hexEscape c ++ t) = some ([c], t) := by
  have hvalid : c.toNat.isValidChar := c.valid
  unfold hexEscape
  split_ifs with h₂ h₄
  · have hread : hexadecimal? 2 (hexDigits 2 c.toNat ++ t) = some ([c], t) :=
      hexadecimal?_hexDigits h₂ t
    exact hread
  · have hread : hexadecimal? 4 (hexDigits 4 c.toNat ++ t) = some ([c], t) :=
      hexadecimal?_hexDigits h₄ t
    exact hread
  · have hmax : c.toNat < 16 ^ 8 := by
      unfold Nat.isValidChar at hvalid
      omega
    exact hexadecimal?_hexDigits hmax t

/-- A character that stands for itself. -/
theorem unit?_cons_of_ne {triple : Bool} {c : Char} (hslash : c ≠ '\\') (hnul : c ≠ '\x00')
    (hfeed : c ≠ '\n') (hreturn : c ≠ '\r') (t : List Char) :
    unit? triple (c :: t) = some ([c], t) := by
  rw [unit?, if_neg hslash, if_neg hnul, afterLineEnd?_cons_of_ne hfeed hreturn]

/-- **A character that is written inside quotes is read back**, whatever it is. -/
theorem unit?_escapeChar (triple : Bool) {quote : Char} (hquote : quote = '\'' ∨ quote = '"')
    (c : Char) (t : List Char) : unit? triple (escapeChar quote c ++ t) = some ([c], t) := by
  unfold escapeChar
  split_ifs with hself htab hfeed hreturn hprint
  · have hletter : letters.lookup c = some c := by
      rcases hself with rfl | rfl
      · rcases hquote with rfl | rfl <;> rfl
      · rfl
    exact unit?_letter hletter triple t
  · rw [htab]
    exact unit?_letter (c := 't') rfl triple t
  · rw [hfeed]
    exact unit?_letter (c := 'n') rfl triple t
  · rw [hreturn]
    exact unit?_letter (c := 'r') rfl triple t
  · have hnul : c ≠ '\x00' := by
      rintro rfl
      exact absurd hprint (by decide)
    exact unit?_cons_of_ne (fun he => hself (.inr he)) hnul hfeed hreturn t
  · exact unit?_hexEscape triple c t

/-- A character inside quotes does not start with the quote. -/
theorem exists_escapeChar_eq_cons {quote : Char} (hquote : quote ≠ '\\') (c : Char) :
    ∃ d ds, escapeChar quote c = d :: ds ∧ d ≠ quote := by
  unfold escapeChar hexEscape
  split_ifs with hself
  on_goal 5 => exact ⟨c, [], rfl, fun he => hself (.inl he)⟩
  all_goals exact ⟨'\\', _, rfl, hquote.symm⟩

theorem readBody_flatMap_escapeChar {quote : Char} (hquote : quote = '\'' ∨ quote = '"')
    (s rest : List Char) :
    readBody ⟨quote, false⟩ (s.flatMap (escapeChar quote) ++ quote :: rest) = some (s, rest) := by
  induction s with
  | nil => exact readBody_text_append ⟨quote, false⟩ rest
  | cons c cs ih =>
      have hslash : quote ≠ '\\' := by
        rcases hquote with rfl | rfl <;> decide
      obtain ⟨d, ds, hd, hne⟩ := exists_escapeChar_eq_cons hslash c
      rw [List.flatMap_cons, List.append_assoc]
      refine readBody_of_unit? ?_ (unit?_escapeChar false hquote c _) ih
      intro hend
      rw [hd] at hend
      exact hne (List.cons_prefix_cons.1 hend).1.symm

theorem quoteFor_eq (s : List Char) : quoteFor s = '\'' ∨ quoteFor s = '"' := by
  unfold quoteFor
  split_ifs
  · exact .inr rfl
  · exact .inl rfl

/-- **A text in quotes is read back**, unless it is empty and a quote follows it. -/
theorem read?_quoted {s : String} (hne : s.toList ≠ []) (rest : List Char) :
    read? ((quoted s).toList ++ rest) = some (s.toList, rest) := by
  obtain ⟨c, cs, hs⟩ := List.exists_cons_of_ne_nil hne
  have hquote := quoteFor_eq s.toList
  have hslash : quoteFor s.toList ≠ '\\' := by
    rcases hquote with h | h <;> rw [h] <;> decide
  have hbody := readBody_flatMap_escapeChar hquote s.toList rest
  -- the first character does not make the quote one of three
  have hopening : opening? ((quoted s).toList ++ rest) = some ⟨quoteFor s.toList, false⟩ := by
    obtain ⟨d, ds, hd, hned⟩ := exists_escapeChar_eq_cons hslash c
    rw [quoted, String.toList_ofList, quotedChars, List.cons_append, opening?, if_pos hquote]
    conv_lhs => rw [hs, List.flatMap_cons, ← hs, hd]
    simp [List.isPrefixOf, hned.symm]
  rw [read?, hopening, Option.bind_some]
  simpa [quoted, quotedChars, Quotes.text] using hbody

/-- A text in quotes is read back, also if it is empty, where no single quote follows it. -/
theorem read?_quoted_of_ne {s : String} {c : Char} (hc : c ≠ '\'')
    (rest : List Char) : read? ((quoted s).toList ++ c :: rest) = some (s.toList, c :: rest) := by
  by_cases hne : s.toList = []
  · -- two quotes, which no third one follows
    rw [String.toList_eq_nil_iff.1 hne]
    have hopening : opening? ('\'' :: '\'' :: c :: rest) = some ⟨'\'', false⟩ := by
      simp [opening?, List.isPrefixOf, hc.symm]
    have hquotes : (quoted "").toList ++ c :: rest = '\'' :: '\'' :: c :: rest := rfl
    rw [read?, hquotes, hopening]
    exact readBody_text_append ⟨'\'', false⟩ (c :: rest)
  · exact read?_quoted hne (c :: rest)

/-! ### Triple quotes -/

theorem occursIn_iff {needle s : List Char} :
    ScalarType.occursIn needle s = true ↔ needle <:+: s := by
  induction s with
  | nil => simp [ScalarType.occursIn]
  | cons c cs ih =>
      simp [ScalarType.occursIn, ih, List.infix_cons_iff]

theorem fitsTripleQuotes_iff {s : List Char} : fitsTripleQuotes s = true ↔
    ¬ tripleQuote <:+: s ∧ '\\' ∉ s ∧ s.getLast? ≠ some '"' := by
  simp [fitsTripleQuotes, ← occursIn_iff, and_assoc]

/-- The quotes behind a text are its first triple quotes. -/
theorem not_tripleQuote_prefix {c : Char} {cs : List Char} (hinside : ¬ tripleQuote <:+: c :: cs)
    (hlast : (c :: cs).getLast? ≠ some '"') (rest : List Char) :
    ¬ tripleQuote <+: (c :: cs) ++ (tripleQuote ++ rest) := by
  intro hend
  rcases List.prefix_or_prefix_of_prefix hend (List.prefix_append ..) with h | h
  · exact hinside h.isInfix
  · -- then the text consists of quotes, and its last character is one
    refine hlast ?_
    have hmem : (c :: cs).getLast (List.cons_ne_nil c cs) ∈ tripleQuote :=
      h.subset (List.getLast_mem _)
    rw [List.getLast?_eq_some_getLast (List.cons_ne_nil c cs)]
    simpa [tripleQuote] using hmem

/-- **A text between triple quotes is read back** if it holds none of them, no escape, no quote at
its end and no other line ends than line feeds. -/
theorem readBody_tripleQuote {s : List Char} (hinside : ¬ tripleQuote <:+: s) (hslash : '\\' ∉ s)
    (hlast : s.getLast? ≠ some '"') (hreturn : '\r' ∉ s) (hnul : '\x00' ∉ s) (rest : List Char) :
    readBody ⟨'"', true⟩ (s ++ (tripleQuote ++ rest)) = some (s, rest) := by
  induction s with
  | nil => exact readBody_text_append ⟨'"', true⟩ rest
  | cons c cs ih =>
      have hend : ¬ (⟨'"', true⟩ : Quotes).text <+: c :: (cs ++ (tripleQuote ++ rest)) :=
        not_tripleQuote_prefix hinside hlast rest
      have hcs : readBody ⟨'"', true⟩ (cs ++ (tripleQuote ++ rest)) = some (cs, rest) := by
        refine ih (fun h => hinside (h.trans (List.suffix_cons c cs).isInfix))
          (fun h => hslash (List.mem_cons_of_mem c h)) (fun h => hlast ?_)
          (fun h => hreturn (List.mem_cons_of_mem c h)) (fun h => hnul (List.mem_cons_of_mem c h))
        rw [List.getLast?_cons, h]
        rfl
      have hunit : unit? true (c :: (cs ++ (tripleQuote ++ rest))) =
          some ([c], cs ++ (tripleQuote ++ rest)) := by
        by_cases hfeed : c = '\n'
        · rw [hfeed]
          rfl
        · exact unit?_cons_of_ne (fun h => hslash (h ▸ List.mem_cons_self))
            (fun h => hnul (h ▸ List.mem_cons_self)) hfeed
            (fun h => hreturn (h ▸ List.mem_cons_self)) _
      exact readBody_of_unit? hend hunit hcs

theorem read?_tripleQuoted {sql : String} (hfits : fitsTripleQuotes sql.toList = true)
    (hreturn : '\r' ∉ sql.toList) (hnul : '\x00' ∉ sql.toList) (rest : List Char) :
    read? (("\"\"\"\\\n" ++ sql ++ "\"\"\"").toList ++ rest) = some (sql.toList, rest) := by
  obtain ⟨hinside, hslash, hlast⟩ := fitsTripleQuotes_iff.1 hfits
  have hbody := readBody_tripleQuote hinside hslash hlast hreturn hnul rest
  have hend : ¬ (⟨'"', true⟩ : Quotes).text <+:
      '\\' :: '\n' :: (sql.toList ++ (tripleQuote ++ rest)) := by
    simp [Quotes.text]
  -- the line end behind the opening quotes is passed over
  have hline : readBody ⟨'"', true⟩ ('\\' :: '\n' :: (sql.toList ++ (tripleQuote ++ rest))) =
      some (sql.toList, rest) :=
    readBody_of_unit? hend rfl hbody
  simpa [read?, opening?, Quotes.text, tripleQuote] using hline

/-- SQL that does not fit between triple quotes is not empty. -/
theorem ne_nil_of_not_fits {s : List Char} (h : ¬ fitsTripleQuotes s = true) : s ≠ [] := by
  rintro rfl
  exact h (by decide)

theorem read?_sqlLiteral {sql : String} (hreturn : '\r' ∉ sql.toList) (hnul : '\x00' ∉ sql.toList)
    (rest : List Char) : read? ((sqlLiteral sql).toList ++ rest) = some (sql.toList, rest) := by
  unfold sqlLiteral
  split_ifs with hfits
  · exact read?_tripleQuoted hfits hreturn hnul rest
  · exact read?_quoted (ne_nil_of_not_fits hfits) rest

end Literal

/-! ### Tuples of values -/

/-- The text of a tuple, behind its opening parenthesis, takes the values of some names from the
mapping `params`.  An item looks up a name, which is written as a literal, and a comma stands behind
every item. -/
inductive TakesItems : List Char → List (List Char) → Prop
  | nil : TakesItems [')'] []
  | last {s name} (head : Literal.read? s = some (name, "],)".toList)) :
      TakesItems ("params[".toList ++ s) [name]
  | cons {s name rest names} (head : Literal.read? s = some (name, "], ".toList ++ rest))
      (tail : TakesItems rest names) : TakesItems ("params[".toList ++ s) (name :: names)

/-- A text is a tuple that takes the values of some names. -/
def Takes (s : List Char) (names : List (List Char)) : Prop :=
  ∃ items, s = '(' :: items ∧ TakesItems items names

theorem TakesItems.unique {s : List Char} {names names' : List (List Char)}
    (h : TakesItems s names) (h' : TakesItems s names') : names = names' := by
  induction h generalizing names' with
  | nil => cases h'; rfl
  | @last s name head =>
      generalize hs : "params[".toList ++ s = t at h'
      cases h' with
      | nil => cases hs
      | last head' =>
          rw [← List.append_cancel_left hs, head] at head'
          rw [(Prod.mk.inj (Option.some.inj head')).1]
      | cons head' =>
          rw [← List.append_cancel_left hs, head] at head'
          cases head'
  | @cons s name rest names head tail ih =>
      generalize hs : "params[".toList ++ s = t at h'
      cases h' with
      | nil => cases hs
      | last head' =>
          rw [← List.append_cancel_left hs, head] at head'
          cases head'
      | cons head' tail' =>
          rw [← List.append_cancel_left hs, head] at head'
          obtain ⟨rfl, hrest⟩ := Prod.mk.inj (Option.some.inj head')
          rw [ih (List.append_cancel_left hrest ▸ tail')]

/-- A tuple takes the values of one list of names. -/
theorem Takes.unique {s : List Char} {names names' : List (List Char)} (h : Takes s names)
    (h' : Takes s names') : names = names' := by
  obtain ⟨items, rfl, hitems⟩ := h
  obtain ⟨items', hs, hitems'⟩ := h'
  obtain rfl := (List.cons.inj hs).2
  exact hitems.unique hitems'

/-- The name of a parameter is read back from the item that is written for it. -/
theorem Parameter.read?_item (p : Parameter) (rest : List Char) :
    Literal.read? ((quoted p.name).toList ++ ']' :: rest) = some (p.name.toList, ']' :: rest) :=
  Literal.read?_quoted_of_ne (by decide) rest

theorem takesItems_parameters (p : Parameter) (ps : List Parameter) :
    TakesItems ((", ".intercalate ((p :: ps).map fun p => "params[" ++ quoted p.name ++ "]")).toList ++
      [',', ')']) ((p :: ps).map fun p => p.name.toList) := by
  induction ps generalizing p with
  | nil => simpa using TakesItems.last (p.read?_item [',', ')'])
  | cons q ps ih =>
      have hitem := TakesItems.cons (p.read?_item (',' :: ' ' :: _)) (ih q)
      simpa [String.intercalate_cons_cons] using hitem

/-- **The tuple of some parameters takes their values**, in their order. -/
theorem takes_argumentTuple (ps : List Parameter) :
    Takes (argumentTuple ps).toList (ps.map fun p => p.name.toList) := by
  cases ps with
  | nil => exact ⟨[')'], rfl, .nil⟩
  | cons p ps =>
      refine ⟨_, ?_, takesItems_parameters p ps⟩
      simp [argumentTuple]

end SqlContract
