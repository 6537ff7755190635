/-
Stamps: a point in time as a word that can be part of a file name.

* `Stamp` — a point in time to the second;
* `Stamp.text` — its word, as in `2024_01_31T08_05_00`.
-/

set_option autoImplicit false
set_option relaxedAutoImplicit false

namespace SqlContract

/-- A point in time to the second. -/
structure Stamp where
  year : Nat
  month : Nat
  day : Nat
  hour : Nat
  minute : Nat
  second : Nat
  deriving DecidableEq, Repr

/-- A number with at least two digits. -/
def twoDigits (n : Nat) : String :=
  if n < 10 then "0" ++ toString n else toString n

/-- The word for a point in time.  The year has no leading zeros. -/
def Stamp.text (s : Stamp) : String :=
  "_".intercalate [toString s.year, twoDigits s.month, twoDigits s.day] ++ "T" ++
    "_".intercalate [twoDigits s.hour, twoDigits s.minute, twoDigits s.second]

end SqlContract
