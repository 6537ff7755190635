/-
Decimal texts of floating-point numbers.

A number is written with the fewest digits that read back as it, and of those with the digits
nearest to it; the digits stand in positional notation from `1e-4` up to `1e16`, and before an
exponent of at least two digits elsewhere.

* `Binary64.digits` — the shortest digits, as an integer and a power of ten;
* `Binary64.written` — the text of a number;
* `Binary64.read?` — the number nearest to a decimal text.
-/

import SqlContract.Number.Binary64
import SqlContract.Text.Blank
import SqlContract.Text.Digit

set_option autoImplicit false
set_option relaxedAutoImplicit false

namespace SqlContract.Binary64

/-! ### The shortest digits -/

/-- How many decimal digits an integer has. -/
def digitCount (n : Nat) : Nat :=
  (Nat.toDigits 10 n).length

/-- The power of ten that the first digit of a positive ratio counts. -/
def leadingPower (num den : Nat) : Int :=
  if den ≤ num then (digitCount (num / den) : Int) - 1
  else -(digitCount ((den - 1) / num) : Int)

/-- The point `d · 10 ^ k` on a scale of which `num / den` is the unit, as a ratio. -/
def gridPoint (d : Nat) (k : Int) (num den : Nat) : Nat × Nat :=
  if 0 ≤ k then (d * Nat.pow 10 k.toNat * den, num) else (d * den, num * Nat.pow 10 (-k).toNat)

/-- The interval of reals that round to a number, in quarters of its last bit: the two ends, and
whether they belong to it. -/
structure Interval where
  low : Nat
  high : Nat
  closed : Bool

/-- Whether a ratio lies in an interval. -/
def Interval.has (i : Interval) (p : Nat × Nat) : Bool :=
  if i.closed then i.low * p.2 ≤ p.1 && p.1 ≤ i.high * p.2
  else i.low * p.2 < p.1 && p.1 < i.high * p.2

/-- The reals that round to `m · 2 ^ e`.  The gap below a power of two is half as wide. -/
def interval (m : Nat) (e : Int) : Interval :=
  let below := if m = Nat.pow 2 (precision - 1) ∧ minExponent < e then 1 else 2
  ⟨4 * m - below, 4 * m + 2, m % 2 == 0⟩

/-- The first grid of at most `n` digits more that has a point in the interval, with the point: of
the neighbours of the value the one in the interval, and the nearer where both are. -/
def searchDigits (i : Interval) (value : Nat) (num den : Nat) (power : Int) :
    (n : Nat) → (count : Nat) → Nat × Int
  | 0, count => (value, power + 1 - count)
  | n + 1, count =>
      let k := power + 1 - (count : Int)
      let unit := gridPoint 1 k num den
      let floor := value * unit.2 / unit.1
      let lower := gridPoint floor k num den
      let upper := gridPoint (floor + 1) k num den
      let inLower := i.has lower && floor != 0
      let inUpper := i.has upper
      if inLower && inUpper then
        let down := value * lower.2 - lower.1
        let up := upper.1 - value * upper.2
        (if down < up || (down == up && floor % 2 == 0) then floor else floor + 1, k)
      else if inLower then (floor, k)
      else if inUpper then (floor + 1, k)
      else searchDigits i value num den power n (count + 1)

/-- The fewest digits that read back as `m · 2 ^ e`: an integer and the power of ten that it
counts.  A neighbour above may be the next power of ten; its zero is dropped. -/
def digits (m : Nat) (e : Int) : Nat × Int :=
  let quarter : Nat × Nat :=
    if 2 ≤ e then (Nat.pow 2 (e - 2).toNat, 1) else (1, Nat.pow 2 (2 - e).toNat)
  let power := leadingPower (4 * m * quarter.1) quarter.2
  let (d, k) := searchDigits (interval m e) (4 * m) quarter.1 quarter.2 power 17 1
  if d % 10 = 0 then (d / 10, k + 1) else (d, k)

/-! ### Writing -/

/-- The places of the point that positional notation admits: from so many zeros behind it to so
many digits before it. -/
structure PointRange where
  leastPoint : Int
  mostPoint : Int

/-- Positional notation reaches from `0.0001` to below `1e16`. -/
def positional : PointRange :=
  ⟨-3, 16⟩

/-- An exponent with its sign and at least two digits. -/
def exponentText (e : Int) : String :=
  let magnitude := toString e.natAbs
  (if e < 0 then "e-" else "e+") ++ (if magnitude.length < 2 then "0" ++ magnitude else magnitude)

/-- The text of `d · 10 ^ k`, where the digits of `d` do not end in zero. -/
def decimalText (d : Nat) (k : Int) : String :=
  let ds := Nat.toDigits 10 d
  let point := (ds.length : Int) + k
  if point < positional.leastPoint ∨ positional.mostPoint < point then
    let fraction := ds.drop 1
    String.ofList (ds.take 1 ++ if fraction.isEmpty then [] else '.' :: fraction) ++
      exponentText (point - 1)
  else if point ≤ 0 then
    "0." ++ String.ofList (List.replicate (-point).toNat '0' ++ ds)
  else if (ds.length : Int) ≤ point then
    String.ofList (ds ++ List.replicate (point.toNat - ds.length) '0') ++ ".0"
  else
    String.ofList (ds.take point.toNat ++ '.' :: ds.drop point.toNat)

/-- The text of a number. -/
def written : Binary64 → String
  | .nan => "nan"
  | .infinite negative => if negative then "-inf" else "inf"
  | .finite negative m e =>
      (if negative then "-" else "") ++
        if m = 0 then "0.0" else let (d, k) := digits m e; decimalText d k

/-! ### Reading -/

/-- The number nearest to `± d · 10 ^ k`.  Powers far beyond the range are not computed. -/
def ofDecimal (negative : Bool) (d : Nat) (k : Int) : Binary64 :=
  let power := (digitCount d : Int) + k
  if d = 0 ∨ power < -400 then .finite negative 0 minExponent
  else if 400 < power then .infinite negative
  else if 0 ≤ k then ofRatio negative (d * Nat.pow 10 k.toNat) 1
  else ofRatio negative d (Nat.pow 10 (-k).toNat)

/-- Splits off a sign; true stands for minus. -/
def splitSign : List Char → Bool × List Char
  | '-' :: cs => (true, cs)
  | '+' :: cs => (false, cs)
  | cs => (false, cs)

/-- The exponent behind the digits of a number: nothing, or a mark, a sign and digits. -/
def readExponent? : List Char → Option Int
  | [] => some 0
  | c :: cs =>
      if c = 'e' ∨ c = 'E' then
        let (negative, ds) := splitSign cs
        if ds.isEmpty ∨ ¬ ds.all Char.isDigit then none
        else some (if negative then -(Text.number ds : Int) else Text.number ds)
      else none

/-- The number that digits, a point and an exponent write, without a sign. -/
def readMagnitude? (negative : Bool) (s : List Char) : Option Binary64 :=
  let whole := s.takeWhile Char.isDigit
  let afterWhole := s.dropWhile Char.isDigit
  let (fraction, rest) :=
    match afterWhole with
    | '.' :: cs => (cs.takeWhile Char.isDigit, cs.dropWhile Char.isDigit)
    | cs => ([], cs)
  if whole.isEmpty && fraction.isEmpty then none
  else
    (readExponent? rest).map fun e =>
      ofDecimal negative (Text.number (whole ++ fraction)) (e - fraction.length)

/-- Removes the underscores of a text in which each stands between two digits. -/
def dropUnderscores? : (afterDigit : Bool) → List Char → Option (List Char)
  | _, [] => some []
  | afterDigit, c :: cs =>
      if c = '_' then
        if afterDigit && cs.head?.any Char.isDigit then dropUnderscores? false cs else none
      else (dropUnderscores? (Char.isDigit c) cs).map (c :: ·)

/-- The number that a text writes, with nothing around it or between its digits. -/
def ofChars? (s : List Char) : Option Binary64 :=
  let (negative, body) := splitSign s
  let word := String.ofList (body.map Char.toLower)
  if word = "nan" then some .nan
  else if word = "inf" ∨ word = "infinity" then some (.infinite negative)
  else readMagnitude? negative body

/-- The number that a text writes, blanks at its ends and underscores between its digits apart. -/
def read? (s : String) : Option Binary64 :=
  (dropUnderscores? false (Text.strip s.toList)).bind ofChars?

end SqlContract.Binary64
