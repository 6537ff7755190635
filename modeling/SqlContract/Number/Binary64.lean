/-
Floating-point numbers of 64 bits, as exact values.

A finite number is `± mantissa · 2 ^ exponent`.  Numbers built here are canonical: the mantissa has
at most 53 bits, and it has 53 unless the exponent is the least one.

* `Binary64` — the numbers of the format;
* `Binary64.ofRatio` — the number nearest to a ratio, a tie going to the even mantissa;
* `Binary64.ofInt`, `Binary64.toInt?` — to and from integers.
-/

set_option autoImplicit false
set_option relaxedAutoImplicit false

namespace SqlContract

/-- A number of the 64-bit binary floating-point format. -/
inductive Binary64
  | nan
  | infinite (negative : Bool)
  /-- The number `± mantissa · 2 ^ exponent`. -/
  | finite (negative : Bool) (mantissa : Nat) (exponent : Int)
  deriving DecidableEq, Repr

namespace Binary64

/-- The bits of a full mantissa. -/
def precision : Nat := 53

/-- The least exponent of a finite number. -/
def minExponent : Int := -1074

/-- The largest exponent of a finite number. -/
def maxExponent : Int := 971

/-- The ratio `num / den` divided by `2 ^ e`, again as a ratio. -/
def scale (num den : Nat) (e : Int) : Nat × Nat :=
  if 0 ≤ e then (num, den * Nat.pow 2 e.toNat) else (num * Nat.pow 2 (-e).toNat, den)

/-- The integer nearest to a ratio; a tie goes to the even one. -/
def roundRatio (num den : Nat) : Nat :=
  let q := num / den
  let r := num % den
  if 2 * r < den then q
  else if den < 2 * r then q + 1
  else q + q % 2

/-- The exponent at which a positive ratio has a mantissa of full precision, but no less than the
least exponent. -/
def exponentFor (num den : Nat) : Int :=
  let guess := max ((num.log2 : Int) - (den.log2 : Int) - precision) minExponent
  let scaled := scale num den guess
  if Nat.pow 2 precision ≤ scaled.1 / scaled.2 then guess + 1 else guess

/-- The number nearest to the ratio `± num / den`.  A tie goes to the even mantissa, and what lies
beyond the largest finite number is infinite. -/
def ofRatio (negative : Bool) (num den : Nat) : Binary64 :=
  if num = 0 then .finite negative 0 minExponent
  else
    let e := exponentFor num den
    let scaled := scale num den e
    let m := roundRatio scaled.1 scaled.2
    let (m, e) := if m = Nat.pow 2 precision then (m / 2, e + 1) else (m, e)
    if maxExponent < e then .infinite negative else .finite negative m e

/-- The number nearest to an integer. -/
def ofInt (n : Int) : Binary64 :=
  ofRatio (n < 0) n.natAbs 1

/-- The integer that a number is, if it is one. -/
def toInt? : Binary64 → Option Int
  | .finite negative m e =>
      let magnitude? : Option Nat :=
        if 0 ≤ e then some (m * Nat.pow 2 e.toNat)
        else if m % Nat.pow 2 (-e).toNat = 0 then some (m / Nat.pow 2 (-e).toNat) else none
      magnitude?.map fun n => if negative then -(n : Int) else n
  | _ => none

/-- Whether a number is a zero of either sign. -/
def isZero : Binary64 → Bool
  | .finite _ 0 _ => true
  | _ => false

end Binary64

end SqlContract
