/-
From a text to its tokens.

A text is cut from left to right, each time at the longest token that it starts with.  Blanks and
comments separate tokens; a comment belongs to a token where it starts on the line that the token
ends on, or where nothing but the end of the text or of the statement follows it.

* `closeQuoted?`, `closeEscaped?`, `behindComment?` — where a quoted token or a comment ends;
* `takeNumber`, `isInBase` — numbers, and the digits of a base;
* `Lexeme`, `lexeme?`, `lexemes?` — tokens, comments and line feeds in the order of the text;
* `attachComments` — the tokens, each with the mark of a comment that belongs to it;
* `tokens?` — the tokens of a text; none when a quoted token or a comment is not closed.
-/

import SqlContract.Sql.Token
import SqlContract.Text.Blank
import SqlContract.Text.Digit

set_option autoImplicit false
set_option relaxedAutoImplicit false

namespace SqlContract.Sql

open Text

/-! ### Quoted tokens and comments -/

/-- The contents of a quoted token up to the closing quote, with doubled quotes undone, and the text
behind it. -/
def closeQuoted? (q : Char) : List Char → Option (List Char × List Char)
  | [] => none
  | c :: cs =>
      if c = q then
        match cs with
        | [] => some ([], [])
        | d :: ds =>
            if d = q then (closeQuoted? q ds).map fun (body, rest) => (q :: body, rest)
            else some ([], d :: ds)
      else (closeQuoted? q cs).map fun (body, rest) => (c :: body, rest)

/-- The contents of a text literal up to the closing quote where a backslash keeps the quote behind
it, and the text behind the literal. -/
def closeEscaped? : List Char → Option (List Char × List Char)
  | [] => none
  | '\\' :: '\'' :: cs => (closeEscaped? cs).map fun (body, rest) => ('\'' :: body, rest)
  | '\\' :: '\\' :: cs => (closeEscaped? cs).map fun (body, rest) => ('\\' :: '\\' :: body, rest)
  | '\'' :: '\'' :: cs => (closeEscaped? cs).map fun (body, rest) => ('\'' :: body, rest)
  | '\'' :: cs => some ([], cs)
  | c :: cs => (closeEscaped? cs).map fun (body, rest) => (c :: body, rest)

/-- The two characters that open a comment, and the two that close it. -/
structure CommentMarks where
  opening : Char × Char
  closing : Char × Char

/-- Whether a text starts with two characters. -/
def startsWithPair (p : Char × Char) : List Char → Bool
  | c :: d :: _ => c == p.1 && d == p.2
  | _ => false

/-- The text behind a comment that is open `depth + 1` times.  Where comments nest, one opens another
from its second character on. -/
def behindComment? (m : CommentMarks) (nested : Bool) (depth : Nat) (s : List Char) :
    Option (List Char) :=
  match s with
  | [] => none
  | c :: cs =>
      if startsWithPair m.closing (c :: cs) && depth == 0 then some cs.tail
      else
        let depth := if startsWithPair m.closing (c :: cs) then depth - 1 else depth
        if nested && startsWithPair m.opening cs then behindComment? m nested (depth + 1) (cs.drop 2)
        else behindComment? m nested depth cs
termination_by s.length
decreasing_by all_goals simp_wf; try omega

/-- The characters of a text up to a pair of dollar signs around a tag, and the text behind it. -/
def closeDollar? (tag : List Char) : List Char → Option (List Char × List Char)
  | [] => none
  | c :: cs =>
      let mark := '$' :: (tag ++ ['$'])
      if mark.isPrefixOf (c :: cs) then some ([], (c :: cs).drop mark.length)
      else (closeDollar? tag cs).map fun (body, rest) => (c :: body, rest)

/-! ### Numbers -/

/-- Characters that write a digit without being one of a decimal block: raised, lowered, circled. -/
def digitForms : List (Nat × Nat) :=
  [(0xB2, 0xB3), (0xB9, 0xB9), (0x1369, 0x1371), (0x19DA, 0x19DA), (0x2070, 0x2070),
   (0x2074, 0x2079), (0x2080, 0x2089), (0x2460, 0x2468), (0x2474, 0x247C), (0x2488, 0x2490),
   (0x24EA, 0x24EA), (0x24F5, 0x24FD), (0x24FF, 0x24FF), (0x2776, 0x277E), (0x2780, 0x2788),
   (0x278A, 0x2792), (0x10A40, 0x10A43), (0x10E60, 0x10E68), (0x11052, 0x1105A),
   (0x1F100, 0x1F10A)]

/-- Whether a character starts or continues a number. -/
def isFigure (c : Char) : Bool :=
  isDigit c || digitForms.any fun r => r.1 ≤ c.toNat && c.toNat ≤ r.2

/-- The part of a number behind its first figure, and the text behind it: figures, one point, one
exponent and its sign.  A point is not taken behind a parameter mark. -/
def takeNumber (pointless : Bool) :
    (point exponent sign : Bool) → List Char → List Char × List Char
  | _, _, _, [] => ([], [])
  | point, exponent, sign, c :: cs =>
      let taken : List Char × List Char → List Char × List Char := fun (body, rest) =>
        (c :: body, rest)
      if isFigure c then taken (takeNumber pointless point exponent sign cs)
      else if c = '.' && !point && !pointless then taken (takeNumber pointless true exponent sign cs)
      else if (c = '+' ∨ c = '-') && exponent && !sign && cs.head?.any isFigure then
        taken (takeNumber pointless point exponent true cs)
      else if (c = 'e' ∨ c = 'E') && !exponent then taken (takeNumber pointless point true sign cs)
      else ([], c :: cs)

/-- The value of a digit of a base up to sixteen. -/
def baseDigit? (base : Nat) (c : Char) : Option Nat :=
  let value? :=
    if isDigit c then some (digitValue c)
    else if 'a' ≤ c ∧ c ≤ 'f' then some (c.toNat - 'a'.toNat + 10)
    else if 'A' ≤ c ∧ c ≤ 'F' then some (c.toNat - 'A'.toNat + 10)
    else none
  value?.filter (· < base)

/-- Whether characters are digits of a base, with at most one underscore between two of them. -/
def areDigits (base : Nat) : List Char → Bool
  | [] => false
  | [c] => (baseDigit? base c).isSome
  | c :: '_' :: cs => (baseDigit? base c).isSome && areDigits base cs
  | c :: cs => (baseDigit? base c).isSome && areDigits base cs

/-- Whether a text writes a whole number in a base, perhaps with blanks around it, a sign, and the
mark of the base. -/
def isInBase (base : Nat) (mark : Char) (s : List Char) : Bool :=
  let unsigned := match strip s with
    | '+' :: cs => cs
    | '-' :: cs => cs
    | cs => cs
  match unsigned with
  | '0' :: m :: '_' :: cs =>
      if m.toLower = mark then areDigits base cs else areDigits base ('0' :: m :: '_' :: cs)
  | '0' :: m :: cs => if m.toLower = mark then areDigits base cs else areDigits base ('0' :: m :: cs)
  | cs => areDigits base cs

/-! ### Lexemes -/

/-- What a text is cut into, other blanks apart. -/
inductive Lexeme
  | token (t : Token)
  | comment
  | lineFeed
  deriving DecidableEq, Repr

/-- A lexeme and the text behind it. -/
abbrev Cut := Option Lexeme × List Char

/-- A token that is cut off a text. -/
def cutToken (kind : TokenKind) (text rest : List Char) : Cut :=
  (some (.token (.ofText kind (String.ofList text))), rest)

/-- Characters of bare words. -/
def isWordPart (d : Dialect) (c : Char) : Bool :=
  !isBlank c && (c == '$' && d == .remoteAsync || !(Symbol.singles d).contains c)

/-- Characters of a number that is written in another base. -/
def isNumberPart (d : Dialect) (c : Char) : Bool :=
  !isBlank c && !(Symbol.singles d).contains c

/-- A number in another base from its mark on.  What is no such number is a quoted identifier. -/
def cutInBase (d : Dialect) (kind : TokenKind) (base : Nat) (mark : Char) (s : List Char) : Cut :=
  let body := s.takeWhile (isNumberPart d)
  let rest := s.dropWhile (isNumberPart d)
  if isInBase base mark body then cutToken kind (body.drop 2) rest else cutToken .name body rest

/-- A number that starts with a figure. -/
def cutNumber (d : Dialect) (pointless : Bool) (c : Char) (cs : List Char) : Cut :=
  let plain := takeNumber pointless false false false cs
  match c, cs with
  | '0', m :: rest =>
      if m = 'x' ∨ m = 'X' then cutInBase d .hex 16 'x' (c :: m :: rest)
      else if m = 'b' ∨ m = 'B' then
        match d with
        | .remoteAsync => cutInBase d .bits 2 'b' (c :: m :: rest)
        | .localSync => cutToken .number [c] (m :: rest)
      else cutToken .number (c :: plain.1) plain.2
  | _, _ => cutToken .number (c :: plain.1) plain.2

/-- The quote that closes a quoted identifier which the character opens. -/
def nameQuote? (d : Dialect) (c : Char) : Option Char :=
  if c = '"' then some '"'
  else if d = .localSync ∧ c = '[' then some ']'
  else if d = .localSync ∧ c = '\x60' then some '\x60'
  else none

/-- A text literal that a letter introduces, from behind its quote on. -/
def cutIntroduced? (d : Dialect) (letter : Char) (cs : List Char) : Option (Option Cut) :=
  let plain := closeQuoted? '\'' cs
  let inBase (kind : TokenKind) (base : Nat) (mark : Char) : Option (Option Cut) :=
    plain.bind fun (body, rest) =>
      if body.isEmpty || isInBase base mark body then some (some (cutToken kind body rest)) else none
  match letter.toLower, d with
  | 'n', _ => plain.map fun (body, rest) => some (cutToken .national body rest)
  | 'x', _ => inBase .hex 16 'x'
  | 'b', .remoteAsync => inBase .bits 2 'b'
  | 'e', .remoteAsync =>
      (closeEscaped? cs).map fun (body, rest) => some (cutToken .bytes body rest)
  | _, _ => some none

/-- A token that a dollar sign starts where the sign can open a literal: a literal between two equal
tags, or the mark of a parameter. -/
def cutDollar? (cs : List Char) : Option Cut :=
  let tag := cs.takeWhile (· ≠ '$')
  match cs.drop tag.length with
  | [] =>
      if tag.isEmpty then none else some (some (.token (.ofTag "@" "$")), cs)
  | _ :: rest =>
      if !tag.isEmpty && rest.isEmpty then
        some (some (.token (.ofTag "@" (String.ofList ('$' :: cs.take 1)))), cs.drop 1)
      else if !tag.isEmpty && (tag.all isFigure || tag.any isBlank) then
        some (some (.token (.ofTag "@" "$")), cs)
      else (closeDollar? tag rest).map fun (body, rest) => cutToken .dollar body rest

/-- The text behind a phrase that it starts with, in any case and with any blanks for a space. -/
def behindPhrase? : (phrase : List Char) → List Char → Option (List Char)
  | [], s => some s
  | _ :: _, [] => none
  | p :: ps, c :: cs =>
      if p = ' ' then if isBlank c then behindPhrase? ps (cs.dropWhile isBlank) else none
      else
        let image := upperChar c
        if image.isPrefixOf (p :: ps) && !image.isEmpty then
          behindPhrase? (ps.drop (image.length - 1)) cs
        else none
termination_by _ s => s.length
decreasing_by
  · exact Nat.lt_succ_of_le (List.dropWhile_sublist _).length_le
  · exact Nat.lt_succ_self _

/-- The keyword of several words that a text starts with. -/
def cutPhrase? (d : Dialect) (s : List Char) : Option Cut :=
  (Keyword.phrases d).findSome? fun (phrase, tag) =>
    (behindPhrase? phrase.toList s).bind fun rest =>
      if rest.head?.all (fun c => isBlank c || (Symbol.singles d).contains c) ||
          phrase.toList.any (Symbol.singles d).contains then
        some (some (.token (.ofTag tag phrase)), rest)
      else none

/-- The longest spelled-out symbol that a text starts with, with its tag. -/
def longestSymbol? (d : Dialect) (s : List Char) : Option (String × String) :=
  ((Symbol.spellings d).filter fun (symbol, _) => symbol.toList.isPrefixOf s).foldl
    (fun best? next =>
      match best? with
      | some best => if best.1.length < next.1.length then some next else some best
      | none => some next) none

/-- The symbol that a text starts with. -/
def cutSymbol (d : Dialect) (c : Char) (cs : List Char) : Cut :=
  match longestSymbol? d (c :: cs) with
  | some (symbol, tag) =>
      (some (.token (.ofTag tag symbol)), (c :: cs).drop symbol.length)
  | none => (some (.token (.ofTag (Symbol.singleTag c) (String.ofList [c]))), cs)

/-- The word that a text starts with.  Behind the mark of a parameter no word is a keyword. -/
def cutWord (d : Dialect) (behindMark : Bool) (c : Char) (cs : List Char) : Cut :=
  let text := String.ofList (c :: cs.takeWhile (isWordPart d))
  let token := match Keyword.tag? d (upperText text) with
    | some tag => if behindMark then Token.ofText .word text else .ofTag tag text
    | none => .ofText .word text
  (some (.token token), cs.dropWhile (isWordPart d))

/-- The lexeme that a text starts with, and the text behind it.  None when a quoted token or a
comment is not closed. -/
def lexeme? (d : Dialect) (behindMark : Bool) (c : Char) (cs : List Char) : Option Cut :=
  let commented (rest? : Option (List Char)) : Option Cut := rest?.map fun rest =>
    (some .comment, rest)
  if isBlank c then some (if c = '\n' then some .lineFeed else none, cs)
  else if isFigure c then some (cutNumber d behindMark c cs)
  else
    match nameQuote? d c with
    | some q => (closeQuoted? q cs).map fun (body, rest) => cutToken .name body rest
    | none =>
        if c = '\'' then (closeQuoted? '\'' cs).map fun (body, rest) => cutToken .text body rest
        else if c = '$' ∧ d = .remoteAsync then cutDollar? cs
        else if c = '-' ∧ cs.head? = some '-' then
          some (some .comment, cs.dropWhile (· ≠ '\n'))
        else if c = '/' ∧ cs.head? = some '*' then
          commented (behindComment? ⟨('/', '*'), ('*', '/')⟩ (d == .remoteAsync) 0 cs.tail)
        else if c = '\x7b' ∧ cs.head? = some '#' then
          commented (behindComment? ⟨('\x7b', '#'), ('#', '\x7d')⟩ (d == .remoteAsync) 0 cs.tail)
        else if (Symbol.singles d).contains c then some (cutSymbol d c cs)
        else
          match if cs.head? = some '\'' then cutIntroduced? d c cs.tail else some none with
          | none => none
          | some (some cut) => some cut
          | some none => some ((cutPhrase? d (c :: cs)).getD (cutWord d behindMark c cs))

/-- The lexemes of a text, from left to right. -/
def lexemes? (d : Dialect) (behindMark : Bool) (s : List Char) : Option (List Lexeme) :=
  match s with
  | [] => some []
  | c :: cs =>
      match lexeme? d behindMark c cs with
      | none => none
      | some (lexeme?, rest) =>
          if rest.length < (c :: cs).length then
            let behindMark := match lexeme? with
              | some (.token t) => t.is "@"
              | _ => behindMark
            (lexemes? d behindMark rest).map (lexeme?.toList ++ ·)
          else none
termination_by s.length
decreasing_by assumption

/-! ### Comments and their tokens -/

/-- The tokens read so far, the last first; whether a comment waits for the token it belongs to; and
whether the text still is on the line that the last token ended on. -/
structure Attachment where
  tokens : List Token
  waiting : Bool
  sameLine : Bool

/-- Marks the last token as one that a comment belongs to. -/
def Attachment.mark (a : Attachment) : Attachment :=
  match a.tokens with
  | [] => a
  | t :: ts => { a with tokens := { t with noted := true } :: ts, waiting := false }

/-- Takes one more lexeme.  A comment that waits before a semicolon belongs to the token before
it. -/
def Attachment.push (a : Attachment) : Lexeme → Attachment
  | .lineFeed => { a with sameLine := false }
  | .comment => if a.sameLine && !a.tokens.isEmpty then a.mark else { a with waiting := true }
  | .token t =>
      let a := if a.waiting && t.is ";" then a.mark else a
      ⟨{ t with noted := a.waiting } :: a.tokens, false, true⟩

/-- The tokens among some lexemes, each with the mark of a comment that belongs to it. -/
def attachComments (ls : List Lexeme) : List Token :=
  let a := ls.foldl Attachment.push ⟨[], false, false⟩
  (if a.waiting then a.mark else a).tokens.reverse

/-- The tokens of a text; none when a quoted token or a comment is not closed. -/
def tokens? (d : Dialect) (s : List Char) : Option (List Token) :=
  (lexemes? d false s).map attachComments

end SqlContract.Sql
