/-
Tokens: the words, names, literals and symbols that SQL is read from, and the parts they can play.

Keywords and symbols are called by their tag.  Most keywords can also be names, and many can start
a call, so the part a token plays depends on where it stands; what it may play depends on the token
alone.

* `Token`, `TokenKind` — the tokens;
* `Token.is`, `Token.spells` — whether a token has a tag, and whether it is written as a word;
* `Token.isType`, `Token.isName`, `Token.isCallee`, `Token.isReserved` — what a token may be;
* `NamePlace.admits` — which tokens may be the name in a place.
-/

import SqlContract.Sql.Keyword
import SqlContract.Text.Case

set_option autoImplicit false
set_option relaxedAutoImplicit false

namespace SqlContract.Sql

open Text

/-- The kinds of tokens. -/
inductive TokenKind
  /-- A keyword or a symbol, called by its tag. -/
  | keyword
  /-- A bare word that is no keyword. -/
  | word
  /-- A quoted identifier. -/
  | name
  /-- A text literal, and the forms of it that a letter introduces. -/
  | text
  | national
  | bytes
  | bits
  | hex
  /-- A text literal between dollar signs. -/
  | dollar
  | number
  deriving DecidableEq, Repr

/-- A token of SQL. -/
structure Token where
  kind : TokenKind
  /-- What a keyword or a symbol is called; empty for other kinds. -/
  tag : String
  /-- The token as written, without the quotes of a quoted one. -/
  text : String
  /-- The text in upper case. -/
  upper : String
  /-- Whether a comment belongs to the token. -/
  noted : Bool
  deriving DecidableEq, Repr

/-- A text in upper case. -/
def upperText (s : String) : String :=
  String.ofList (upper s.toList)

namespace Token

/-- A token of a kind that has no tag. -/
def ofText (kind : TokenKind) (text : String) : Token :=
  ⟨kind, "", text, upperText text, false⟩

/-- A keyword or a symbol. -/
def ofTag (tag text : String) : Token :=
  ⟨.keyword, tag, text, upperText text, false⟩

/-- Whether a token is the keyword or the symbol of a tag. -/
def is (t : Token) (tag : String) : Bool :=
  t.tag == tag

/-- Whether a token is one of some keywords or symbols. -/
def isOneOf (t : Token) (tags : List String) : Bool :=
  t.kind == .keyword && tags.contains t.tag

/-- Whether a token is written as a word, in any case; a text literal never is. -/
def spells (t : Token) (word : String) : Bool :=
  t.kind != .text && t.upper == word

/-- Whether a token is written as one of some words. -/
def spellsOneOf (t : Token) (words : List String) : Bool :=
  t.kind != .text && words.contains t.upper

/-! ### What a token may be -/

/-- Types beside those whose tag is their spelling in both engines. -/
def otherTypes : List String :=
  ["BIGSERIAL", "FILE", "HSTORE", "MONEY", "NAME", "OBJECT IDENTIFIER", "POINT", "PSEUDO TYPE",
   "RANGE", "SERIAL", "SMALLSERIAL", "UNION", "USER-DEFINED", "XML"]

/-- Whether a token names a type that engines know. -/
def isType (t : Token) : Bool :=
  t.isOneOf Keyword.types || t.isOneOf otherTypes

/-- Functions that can be called without brackets. -/
def bareFunctions : Dialect → List String
  | .localSync => common
  | .remoteAsync => remote ++ common
where
  /-- Those of both engines. -/
  common : List String :=
    ["CURRENT_DATE", "CURRENT_TIME", "CURRENT_TIMESTAMP", "CURRENT_USER", "LOCALTIME",
     "LOCALTIMESTAMP"]
  /-- Those of the remote engine, which are functions with brackets to the other. -/
  remote : List String :=
    ["CURRENT_CATALOG", "CURRENT_SCHEMA", "SESSION_USER"]

/-- Things that can be created. -/
def creatables : List String :=
  ["COLUMN", "CONSTRAINT", "DATABASE", "FOREIGN KEY", "FUNCTION", "INDEX", "NAMESPACE",
   "PROCEDURE", "SCHEMA", "SEQUENCE", "TABLE", "VIEW"]

/-- Keywords that can be names, beside types, things to create and functions. -/
def nameWords : List String :=
  ["ALL", "ANTI", "ANY", "APPLY", "ASC", "ASOF", "ATTACH", "AUTO_INCREMENT", "BEGIN", "CACHE",
   "CASE", "COLLATE", "COMMAND", "COMMENT", "COMMIT", "COPY", "CUBE", "DEFAULT", "DELETE", "DESC",
   "DESCRIBE", "DETACH", "DIV", "END", "ESCAPE", "EXECUTE", "EXISTS", "FALSE", "FILTER", "FIRST",
   "FORMAT", "FULL", "INOUT", "IS", "ISNULL", "KEEP", "KILL", "LEFT", "LIMIT", "LOAD", "LOCK",
   "MATCH", "MERGE", "NATURAL", "NEXT", "OFFSET", "OPERATOR", "ORDINALITY", "OVER", "OVERLAPS",
   "OVERWRITE", "PARTITION", "PERCENT", "PIVOT", "PRAGMA", "RECURSIVE", "REFERENCES", "RENAME",
   "REPLACE", "RIGHT", "ROLLUP", "ROW", "ROWS", "SEMI", "SESSION", "SET", "SETTINGS", "SHOW",
   "SOME", "TEMPORARY", "TRUE", "TRUNCATE", "UNIQUE", "UNNEST", "UNPIVOT", "UPDATE", "USE",
   "VOLATILE", "WINDOW"]

/-- Whether a token can be a name. -/
def isName (t : Token) : Bool :=
  t.kind == .word || t.kind == .name ||
    (t.isOneOf nameWords || t.isOneOf creatables || t.isOneOf (bareFunctions .remoteAsync) ||
      (t.isType && !t.is "UNION"))

/-- Keywords that can be called, beside types and functions without brackets. -/
def calleeWords : List String :=
  ["ALL", "ANY", "COLLATE", "COMMAND", "EXISTS", "FILTER", "FIRST", "FORMAT", "GLOB", "ILIKE",
   "INDEX", "INSERT", "ISNULL", "LEFT", "LIKE", "MERGE", "NEXT", "OFFSET", "PRIMARY KEY",
   "REPLACE", "RIGHT", "RLIKE", "ROW", "SEQUENCE", "SOME", "TABLE", "TRUNCATE", "UNNEST",
   "WINDOW", "XOR"]

/-- Whether a token can be the name of a function that is called. -/
def isCallee (t : Token) : Bool :=
  t.kind == .word || t.kind == .name || t.isOneOf calleeWords || t.isOneOf (bareFunctions .remoteAsync) ||
    t.isType

/-- Whether a token can stand for nothing but itself: SELECT, and symbols of one character. -/
def isReserved (t : Token) : Bool :=
  t.kind == .keyword &&
    (["SELECT", "NOT", "UNKNOWN"].contains t.tag ||
      (Symbol.singles.common.any fun c => String.ofList [c] == t.tag))

end Token

/-! ### Places of names -/

/-- The places where a name may stand. -/
inductive NamePlace
  /-- Most places: the tokens that can be names. -/
  | any
  /-- A name given to a table. -/
  | table
  /-- A name given to the table of an UPDATE. -/
  | target
  /-- The name of a window. -/
  | window
  /-- A count of rows to fetch. -/
  | count
  /-- A name that is no keyword. -/
  | plain
  deriving DecidableEq, Repr

/-- Names that would be taken for a part of a join. -/
def joinWords : List String :=
  ["ANTI", "ASOF", "FULL", "LEFT", "LOCK", "NATURAL", "RIGHT", "SEMI", "WINDOW"]

/-- Whether a token may be the name in a place. -/
def NamePlace.admits : NamePlace → Token → Bool
  | .any, t => t.isName
  | .table, t => t.isName && !t.isOneOf joinWords
  | .target, t => t.isName && !t.isOneOf ("SET" :: joinWords)
  | .window, t => t.isName && !t.isOneOf ["RANGE", "ROWS"]
  | .count, t => t.isName && !t.isOneOf ["PERCENT", "ROW", "ROWS"]
  | .plain, t => t.kind == .word

end SqlContract.Sql
