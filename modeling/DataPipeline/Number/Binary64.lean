/-!
# Binary floating point

Finite binary floating-point numbers with 53 significant bits: a sign, a significand and an
exponent of two. A significand below `2 ^ 52`, of less than full length, occurs only with the least
exponent, so each number has one representation. Arithmetic rounds the exact result to the nearest
number, a tie to the even significand.

## Main definitions

* `Binary64`: the numbers
* `Binary64.ofRatio`: the number nearest to a quotient, if it is in range
* `Binary64.mul`, `Binary64.div`, `Binary64.ofInt`: rounded arithmetic
-/
namespace DataPipeline

/-- The number `± significand * 2 ^ exponent`. -/
structure Binary64 where
  negative : Bool
  significand : Nat
  exponent : Int
deriving DecidableEq

namespace Binary64

/-- The significands of full length start here. -/
def leastFull : Nat := 4503599627370496

/-- The first number that is too long for a significand. -/
def overlong : Nat := 9007199254740992

/-- The exponent of the numbers nearest to zero. -/
def minExponent : Int := -1074

/-- The exponent of the numbers farthest from zero. -/
def maxExponent : Int := 971

def zero (negative : Bool) : Binary64 := ⟨negative, 0, minExponent⟩

instance : Inhabited Binary64 := ⟨zero false⟩

def isZero (x : Binary64) : Bool := x.significand == 0

/-! ## Rounding -/

/-- The natural number nearest to `num / den`, a tie to the even one. -/
def roundDiv (num den : Nat) : Nat :=
  let q := num / den
  let r := num % den
  if 2 * r < den then q
  else if den < 2 * r then q + 1
  else if q % 2 = 0 then q else q + 1

/-- Numerator and denominator of `num / den * 2 ^ (-e)`. -/
def scaleRatio (num den : Nat) (e : Int) : Nat × Nat :=
  if 0 ≤ e then (num, den * Nat.pow 2 e.toNat) else (num * Nat.pow 2 (-e).toNat, den)

/-- The exponent that gives `num / den` a significand of 53 bits, or the least exponent. -/
def ratioExponent (num den : Nat) : Int :=
  let e : Int := (num.log2 : Int) - (den.log2 : Int) - 53
  let (n, d) := scaleRatio num den e
  let fitting := if n / d < overlong then e else e + 1
  if fitting < minExponent then minExponent else fitting

/-- The number nearest to `± num / den`, or `none` if that is too far from zero. -/
def ofRatio (negative : Bool) (num den : Nat) : Option Binary64 :=
  if num = 0 then some (zero negative)
  else
    let e := ratioExponent num den
    let (n, d) := scaleRatio num den e
    let m := roundDiv n d
    let (m, e) := if m = overlong then (leastFull, e + 1) else (m, e)
    if maxExponent < e then none else some ⟨negative, m, e⟩

/-! ## Arithmetic -/

/-- Numerator and denominator of the size of `x`. -/
def ratio (x : Binary64) : Nat × Nat := scaleRatio x.significand 1 (-x.exponent)

def mul (x y : Binary64) : Option Binary64 :=
  ofRatio (x.negative != y.negative) (x.ratio.1 * y.ratio.1) (x.ratio.2 * y.ratio.2)

/-- The rounded quotient; the divisor is not zero. -/
def div (x y : Binary64) : Option Binary64 :=
  ofRatio (x.negative != y.negative) (x.ratio.1 * y.ratio.2) (x.ratio.2 * y.ratio.1)

/-- The number nearest to an integer, for integers below `2 ^ 1023`. -/
def ofInt (n : Int) : Binary64 := (ofRatio (decide (n < 0)) n.natAbs 1).getD (zero false)

end Binary64

end DataPipeline
