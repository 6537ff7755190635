/-
The functions that engines know, and how many arguments each takes.

A call of a known function with too few or too many arguments is no SQL; any other function takes
what it is given.

* `Arity` — the least and the greatest number of arguments;
* `knownFunctions`, `arity?` — the functions and their arities;
* `isAggregate` — the functions that sum up many rows.
-/

import SqlContract.Contract

set_option autoImplicit false
set_option relaxedAutoImplicit false

namespace SqlContract.Sql

/-- How many arguments a function takes. -/
structure Arity where
  least : Nat
  /-- None where there is no bound. -/
  most? : Option Nat
  deriving DecidableEq, Repr

namespace Arity

/-- Whether a function takes some number of arguments. -/
def admits (a : Arity) (n : Nat) : Bool :=
  a.least ≤ n && a.most?.all (n ≤ ·)

/-- Exactly so many. -/
def exactly (n : Nat) : Arity :=
  ⟨n, some n⟩

/-- At least so many. -/
def atLeast (n : Nat) : Arity :=
  ⟨n, none⟩

/-- Between two numbers. -/
def between (m n : Nat) : Arity :=
  ⟨m, some n⟩

end Arity

/-- Functions of one argument. -/
def unaryFunctions : List String :=
  ["ABS", "ACOS", "ACOSH", "ANY_VALUE", "ASCII", "ASIN", "ASINH", "ATANH", "AVG", "BOOL_AND",
   "BOOL_OR", "CBRT", "COS", "COSH", "COT", "COUNTIF", "COUNT_IF", "DAY", "DAYOFMONTH", "DAYOFWEEK",
   "DAYOFYEAR", "DAY_OF_MONTH", "DAY_OF_WEEK", "DAY_OF_YEAR", "DEGREES", "EXP", "FIRST_VALUE",
   "HEX", "HOUR", "ISNAN", "IS_NAN", "LAST_VALUE", "LCASE", "LN", "LOGICAL_AND", "LOGICAL_OR",
   "LOWER", "MD5", "MINUTE", "MONTH", "QUARTER", "RADIANS", "REVERSE", "SECOND", "SIGN", "SIGNUM",
   "SIN", "SINH", "SOUNDEX", "SQRT", "STDDEV", "STDDEV_POP", "STDDEV_SAMP", "STDEV", "SUM", "TAN",
   "TANH", "TYPEOF", "UCASE", "UNICODE", "UPPER", "VARIANCE", "VARIANCE_POP", "VARIANCE_SAMP",
   "VAR_POP", "VAR_SAMP", "YEAR"]

/-- Functions of two arguments. -/
def binaryFunctions : List String :=
  ["ARRAY_APPEND", "ARRAY_PREPEND", "ARRAY_REMOVE", "ATAN2", "CONTAINS", "GLOB", "LEFT", "NULLIF",
   "POW", "POWER", "REPEAT", "RIGHT", "STARTS_WITH"]

/-- Other functions with their arities. -/
def otherFunctions : List (String × Arity) :=
  [("APPROX_COUNT_DISTINCT", .between 1 2), ("APPROX_DISTINCT", .between 1 2), ("ARRAY", .atLeast 0),
   ("ARRAY_AGG", .between 1 2), ("ARRAY_CAT", .atLeast 1), ("ARRAY_CONCAT", .atLeast 1),
   ("ARRAY_CONTAINS", .between 2 3), ("ARRAY_HAS", .between 2 3), ("ARRAY_JOIN", .between 2 3),
   ("ARRAY_LENGTH", .between 1 2), ("ARRAY_SIZE", .between 1 2), ("ARRAY_TO_STRING", .between 2 3),
   ("ATAN", .between 1 2), ("CHARACTER_LENGTH", .between 1 3), ("CHAR_LENGTH", .between 1 3),
   ("COALESCE", .atLeast 1), ("CONCAT", .atLeast 1), ("CONCAT_WS", .atLeast 1), ("COUNT", .atLeast 0),
   ("CURRENT_DATE", .between 0 1), ("CURRENT_TIME", .between 0 1),
   ("CURRENT_TIMESTAMP", .between 0 2), ("DATE", .atLeast 0), ("DATEDIFF", .between 2 5),
   ("DATE_ADD", .between 2 3), ("DATE_DIFF", .between 2 5), ("DATE_SUB", .between 2 3),
   ("DATE_TRUNC", .between 2 4), ("GENERATE_SERIES", .between 2 4), ("GREATEST", .atLeast 1),
   ("GROUP_CONCAT", .between 1 3), ("IFNULL", .atLeast 1), ("IIF", .between 2 3),
   ("INITCAP", .between 1 2), ("INSTR", .between 2 4), ("JSON_EXTRACT", .atLeast 2),
   ("JSON_TYPE", .between 1 2), ("LAG", .between 1 3), ("LEAD", .between 1 3), ("LEAST", .atLeast 1),
   ("LEN", .between 1 3), ("LENGTH", .between 1 3), ("LEVENSHTEIN", .between 2 6),
   ("LIKE", .between 2 3), ("LOG", .between 1 2), ("LPAD", .between 2 4), ("LTRIM", .atLeast 1),
   ("MAX", .atLeast 1), ("MIN", .atLeast 1), ("MOD", .atLeast 2), ("NTH_VALUE", .between 2 3),
   ("NTILE", .between 0 1), ("NVL", .atLeast 1), ("NVL2", .between 2 3),
   ("PERCENTILE_CONT", .between 1 2), ("PERCENTILE_DISC", .between 1 2), ("RAND", .between 0 3),
   ("RANDOM", .between 0 3), ("REGEXP_LIKE", .between 2 3), ("REGEXP_REPLACE", .between 2 7),
   ("REPLACE", .between 2 3), ("ROUND", .between 1 4), ("ROW_NUMBER", .between 0 1),
   ("RPAD", .between 2 4), ("RTRIM", .atLeast 1), ("SPLIT", .between 2 3), ("STRPOS", .between 2 4),
   ("SUBSTR", .between 1 4), ("TRANSLATE", .exactly 3), ("UNHEX", .between 1 2),
   ("WEEK", .between 1 2)]

/-- Functions of the remote engine with their arities.  They come before those of both engines. -/
def remoteFunctions : List (String × Arity) :=
  [("DATE_TRUNC", .between 2 3), ("NOW", .between 0 2), ("TO_CHAR", .between 2 5),
   ("TO_TIMESTAMP", .between 1 4), ("UNNEST", .atLeast 1)]

/-- The functions that an engine knows. -/
def knownFunctions (d : Dialect) : List (String × Arity) :=
  (match d with
    | .localSync => []
    | .remoteAsync => remoteFunctions) ++
  unaryFunctions.map (·, .exactly 1) ++ binaryFunctions.map (·, .exactly 2) ++ otherFunctions

/-- The arity of a function, by its name in upper case; none for an unknown one. -/
def arity? (d : Dialect) (name : String) : Option Arity :=
  (knownFunctions d).lookup name

/-- Whether a function sums up many rows. -/
def isAggregate (name : String) : Bool :=
  ["ANY_VALUE", "APPROX_COUNT_DISTINCT", "APPROX_DISTINCT", "ARRAY_AGG", "AVG", "BOOL_AND",
   "BOOL_OR", "COUNT", "COUNTIF", "COUNT_IF", "FIRST_VALUE", "GROUP_CONCAT", "LAG", "LAST_VALUE",
   "LEAD", "LOGICAL_AND", "LOGICAL_OR", "MAX", "MIN", "NTH_VALUE", "NTILE", "PERCENTILE_CONT",
   "PERCENTILE_DISC", "STDDEV", "STDDEV_POP", "STDDEV_SAMP", "STDEV", "SUM", "VARIANCE",
   "VARIANCE_POP", "VARIANCE_SAMP", "VAR_POP", "VAR_SAMP"].contains name

end SqlContract.Sql
