/-
Keywords: the words and symbols that have a meaning of their own, and what each is called.

A keyword may be spelled in several ways; its tag is the one name under which the grammar knows
it.  Most tags are the spelling itself.  A keyword of several words is spelled with one space
between them, whatever blanks stand in the text.

* `Keyword.tag?` — the tag of a word in upper case;
* `Keyword.phrases` — the keywords of several words;
* `Symbol.spellings` — the symbols of more than one character;
* `Symbol.singles`, `Symbol.singleTag` — the characters that are symbols by themselves, and their tags.
-/

import SqlContract.Contract

set_option autoImplicit false
set_option relaxedAutoImplicit false

namespace SqlContract.Sql

namespace Keyword

/-! ### Words -/

/-- Keywords of clauses, statements and operators whose tag is their spelling. -/
def plain : List String :=
  ["ALL", "ALTER", "ANALYZE", "AND", "ANTI", "ANY", "APPLY", "AS", "ASC", "ASOF", "AUTO_INCREMENT",
   "BEGIN", "BETWEEN", "CACHE", "CASE", "COLLATE", "COLUMN", "COMMENT", "COMMIT", "CONSTRAINT",
   "COPY", "CREATE", "CROSS", "CUBE", "CURRENT_CATALOG", "CURRENT_DATE", "CURRENT_SCHEMA",
   "CURRENT_TIME", "CURRENT_TIMESTAMP", "CURRENT_USER", "DATABASE", "DEFAULT", "DELETE", "DESC",
   "DESCRIBE", "DISTINCT", "DROP", "ELSE", "END", "ESCAPE", "EXCEPT", "EXECUTE", "EXISTS", "FALSE",
   "FETCH", "FILE", "FILTER", "FIRST", "FOR", "FORMAT", "FROM", "FULL", "FUNCTION", "GLOB", "GRANT",
   "HAVING", "ILIKE", "IN", "INDEX", "INNER", "INSERT", "INTERSECT", "INTO", "IS", "ISNULL",
   "JOIN", "KEEP", "KILL", "LATERAL", "LEFT", "LIKE", "LIMIT", "LOAD", "LOCALTIME",
   "LOCALTIMESTAMP", "LOCK", "MERGE", "NAMESPACE", "NATURAL", "NEXT", "NOT", "NOTNULL", "OFFSET",
   "ON", "OPERATOR", "OR", "ORDINALITY", "OUTER", "OVER", "OVERLAPS", "OVERWRITE", "PARTITION",
   "PERCENT", "PIVOT", "PRAGMA", "PROCEDURE", "QUALIFY", "RANGE", "RECURSIVE", "REFERENCES",
   "RENAME", "REPLACE", "RETURNING", "REVOKE", "RIGHT", "RLIKE", "ROLLBACK", "ROLLUP", "ROW",
   "ROWS", "SCHEMA", "SELECT", "SEMI", "SEQUENCE", "SESSION", "SESSION_USER", "SET", "SETTINGS",
   "SHOW", "SOME", "STRAIGHT_JOIN", "TABLE", "TABLESAMPLE", "TEMPORARY", "THEN", "TRUE",
   "TRUNCATE", "UNCACHE", "UNION", "UNIQUE", "UNNEST", "UNPIVOT", "UPDATE", "USE", "USING",
   "VALUES", "VIEW", "VOLATILE", "WHEN", "WHERE", "WINDOW", "WITH", "XOR"]

/-- Names of types whose tag is their spelling. -/
def types : List String :=
  ["ARRAY", "BIGDECIMAL", "BIGINT", "BIGNUM", "BINARY", "BIT", "BOOLEAN", "BPCHAR", "CHAR", "DATE",
   "DATEMULTIRANGE", "DATERANGE", "DATETIME", "DECFLOAT", "DECIMAL", "DECIMAL128", "DECIMAL256",
   "DECIMAL32", "DECIMAL64", "DOUBLE", "ENUM", "FLOAT", "GEOGRAPHY", "GEOMETRY", "INET", "INT",
   "INT128", "INT256", "INT4MULTIRANGE", "INT4RANGE", "INT8MULTIRANGE", "INT8RANGE", "INTERVAL",
   "JSON", "JSONB", "LIST", "LONGBLOB", "LONGTEXT", "MAP", "MEDIUMBLOB", "MEDIUMINT", "MEDIUMTEXT",
   "NCHAR", "NULL", "NULLABLE", "NUMMULTIRANGE", "NUMRANGE", "NVARCHAR", "OBJECT", "SMALLINT",
   "STRUCT", "TEXT", "TIME", "TIMESTAMP", "TIMESTAMPLTZ", "TIMESTAMPNTZ", "TIMESTAMPTZ", "TIMETZ",
   "TIME_NS", "TINYBLOB", "TINYINT", "TINYTEXT", "TSMULTIRANGE", "TSRANGE", "TSTZMULTIRANGE",
   "TSTZRANGE", "UINT", "UINT128", "UINT256", "UNKNOWN", "UUID", "VARBINARY", "VARCHAR", "VARIANT",
   "VECTOR"]

/-- Other spellings of keywords, with their tags. -/
def synonyms : List (String × String) :=
  [("AUTOINCREMENT", "AUTO_INCREMENT"), ("BIGNUMERIC", "BIGDECIMAL"), ("BLOB", "VARBINARY"),
   ("BOOL", "BOOLEAN"), ("BYTE", "TINYINT"), ("BYTEA", "VARBINARY"), ("CALL", "COMMAND"),
   ("CHARACTER", "CHAR"), ("CLOB", "TEXT"), ("DEC", "DECIMAL"), ("EXPLAIN", "COMMAND"),
   ("FIXED", "DECIMAL"), ("FLOAT4", "FLOAT"), ("FLOAT8", "DOUBLE"), ("HUGEINT", "INT128"),
   ("INT1", "TINYINT"), ("INT16", "SMALLINT"), ("INT2", "SMALLINT"), ("INT32", "INT"),
   ("INT4", "INT"), ("INT64", "BIGINT"), ("INTEGER", "INT"), ("LONG", "BIGINT"),
   ("LONGVARCHAR", "TEXT"), ("NUMBER", "DECIMAL"), ("NUMERIC", "DECIMAL"), ("NVARCHAR2", "NVARCHAR"),
   ("OPTIMIZE", "COMMAND"), ("PARTITIONED_BY", "PARTITION BY"), ("PREPARE", "COMMAND"),
   ("REAL", "FLOAT"), ("REGEXP", "RLIKE"), ("SHORT", "SMALLINT"), ("STR", "TEXT"),
   ("STRING", "TEXT"), ("TEMP", "TEMPORARY"), ("TIMESTAMP_LTZ", "TIMESTAMPLTZ"),
   ("TIMESTAMP_NTZ", "TIMESTAMPNTZ"), ("UHUGEINT", "UINT128"), ("VACUUM", "COMMAND"),
   ("VARCHAR2", "VARCHAR")]

/-- The keywords of several words, with their tags. -/
def phrases : Dialect → List (String × String)
  | .localSync => ("INDEXED BY", "INDEXED BY") :: common
  | .remoteAsync => ("CONSTRAINT TRIGGER", "COMMAND") :: common
where
  /-- The phrases of both engines. -/
  common : List (String × String) :=
    [("CHARACTER SET", "CHARACTER SET"), ("CHARACTER VARYING", "VARCHAR"),
     ("CHAR VARYING", "VARCHAR"), ("CLUSTER BY", "CLUSTER BY"), ("CONNECT BY", "CONNECT BY"),
     ("DISTRIBUTE BY", "DISTRIBUTE BY"), ("DOUBLE PRECISION", "DOUBLE"),
     ("FOREIGN KEY", "FOREIGN KEY"), ("FOR TIMESTAMP", "FOR TIMESTAMP"),
     ("FOR VERSION", "FOR VERSION"), ("GROUP BY", "GROUP BY"), ("GROUPING SETS", "GROUPING SETS"),
     ("ORDER BY", "ORDER BY"), ("PARTITION BY", "PARTITION BY"),
     ("PARTITIONED BY", "PARTITION BY"), ("PRIMARY KEY", "PRIMARY KEY"),
     ("SIMILAR TO", "SIMILAR TO"), ("SORT BY", "SORT BY"), ("START WITH", "START WITH"),
     ("USER-DEFINED", "USER-DEFINED")]

/-- The keywords that one engine has of its own, with their tags.  They come before the shared
ones. -/
def own : Dialect → List (String × String)
  | .localSync =>
      [("ATTACH", "ATTACH"), ("DETACH", "DETACH"), ("DIV", "DIV"), ("INT8", "TINYINT"),
       ("MATCH", "MATCH")]
  | .remoteAsync =>
      [("BIGSERIAL", "BIGSERIAL"), ("CSTRING", "PSEUDO TYPE"), ("DECLARE", "COMMAND"),
       ("DO", "COMMAND"), ("EXEC", "COMMAND"), ("FLOAT", "DOUBLE"), ("HSTORE", "HSTORE"),
       ("INOUT", "INOUT"), ("INT8", "BIGINT"), ("MONEY", "MONEY"), ("NAME", "NAME"),
       ("OID", "OBJECT IDENTIFIER"), ("ONLY", "ONLY"), ("POINT", "POINT"), ("REFRESH", "COMMAND"),
       ("REGCLASS", "OBJECT IDENTIFIER"), ("REGCOLLATION", "OBJECT IDENTIFIER"),
       ("REGCONFIG", "OBJECT IDENTIFIER"), ("REGDICTIONARY", "OBJECT IDENTIFIER"),
       ("REGNAMESPACE", "OBJECT IDENTIFIER"), ("REGOPER", "OBJECT IDENTIFIER"),
       ("REGOPERATOR", "OBJECT IDENTIFIER"), ("REGPROC", "OBJECT IDENTIFIER"),
       ("REGPROCEDURE", "OBJECT IDENTIFIER"), ("REGROLE", "OBJECT IDENTIFIER"),
       ("REGTYPE", "OBJECT IDENTIFIER"), ("REINDEX", "COMMAND"), ("RESET", "COMMAND"),
       ("SERIAL", "SERIAL"), ("SMALLSERIAL", "SMALLSERIAL"), ("VARIADIC", "VARIADIC"),
       ("XML", "XML")]

/-- The tag of a word in upper case, if it is a keyword. -/
def tag? (d : Dialect) (word : String) : Option String :=
  ((own d).lookup word).or <|
    (synonyms.lookup word).or <|
      if plain.contains word || types.contains word then some word else none

end Keyword

/-! ### Symbols -/

namespace Symbol

/-- Characters that end a word, and are a symbol where nothing longer starts with them. -/
def singles : Dialect → List Char
  | .localSync => common
  | .remoteAsync => '$' :: common
where
  /-- The characters of both engines. -/
  common : List Char :=
    ['(', ')', '[', ']', '\x7b', '\x7d', '&', '^', ':', ',', '-', '.', '=', '>', '<', '%', '!', '/',
     '\\', '|', '+', ';', '*', '~', '?', '@', '#', '\'', '\x60', '"']

/-- The symbols of more than one character, and those of one that are not called by it, with their
tags. -/
def spellings : Dialect → List (String × String)
  | .localSync => common
  | .remoteAsync =>
      common ++
        [("~", "RLIKE"), ("@@", "@@"), ("@>", "@>"), ("<@", "<@"), ("?&", "?&"), ("?|", "?|"),
         ("#-", "#-"), ("|/", "|/"), ("||/", "||/")]
where
  /-- The symbols of both engines. -/
  common : List (String × String) :=
    [("==", "="), ("::", "::"), ("?::", "?::"), ("||", "||"), ("|>", "|>"), (">=", ">="),
     ("<=", "<="), ("<>", "<>"), ("!=", "<>"), (":=", ":="), ("<=>", "<=>"), ("->", "->"),
     ("->>", "->>"), ("=>", "=>"), ("#>", "#>"), ("#>>", "#>>"), ("<->", "<->"), ("&&", "&&"),
     ("??", "??"), ("~~~", "GLOB"), ("~~", "LIKE"), ("~~*", "ILIKE"), ("~*", "IRLIKE"),
     ("-|-", "-|-"), ("&<", "&<"), ("&>", "&>"), ("\x7b%", "block"), ("\x7b%+", "block"),
     ("\x7b%-", "block"), ("%\x7d", "block"), ("+%\x7d", "block"), ("-%\x7d", "block"),
     ("\x7b\x7b", "block"), ("\x7b\x7b+", "block"), ("\x7b\x7b-", "block"), ("+\x7d\x7d", "block"),
     ("-\x7d\x7d", "block")]

/-- The tag of a symbol of one character. -/
def singleTag (c : Char) : String :=
  if c = '!' then "NOT"
  else if c = '\'' ∨ c = '"' ∨ c = '\x60' then "UNKNOWN"
  else String.ofList [c]

end Symbol

end SqlContract.Sql
