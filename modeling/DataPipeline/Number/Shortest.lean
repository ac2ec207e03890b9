import DataPipeline.Number.Binary64

/-!
# Shortest decimals

The decimal text of a floating-point number has the fewest digits that read back to it, and of
those the digits nearest to it. With the exponent fixed, the decimals with a given last place form
a grid; the grids are tried from the coarsest to the finest, and on each only the two points around
the number can lie in the interval of reals that round to it.

## Main definitions

* `Decimal`: digits and the power of ten of the last one
* `Binary64.shortest`: the shortest decimal that reads back
* `Decimal.spell`: its spelling
-/
namespace DataPipeline

/-- The number `digits * 10 ^ exponent`. -/
structure Decimal where
  digits : Nat
  exponent : Int
deriving DecidableEq

/-! ## Digits -/

namespace Binary64

/-- The reals that round to a positive number, as quarters of its unit: a common scale `num / den`
of the quarters, the quarters of the two ends and of the number itself, and whether the ends round
to the number too. -/
structure Interval where
  num : Nat
  den : Nat
  low : Nat
  mid : Nat
  high : Nat
  closed : Bool

def interval (x : Binary64) : Interval :=
  let m := x.significand
  let unit := scaleRatio 1 1 (2 - x.exponent)
  let low := if m = leastFull ∧ minExponent < x.exponent then 4 * m - 1 else 4 * m - 2
  ⟨unit.1, unit.2, low, 4 * m, 4 * m + 2, m % 2 == 0⟩

/-- Numerator and denominator of the quotient of `num / den` by `10 ^ k`. -/
def scaleTen (num den : Nat) (k : Int) : Nat × Nat :=
  if 0 ≤ k then (num, den * Nat.pow 10 k.toNat) else (num * Nat.pow 10 (-k).toNat, den)

/-- Whether `c * 10 ^ k` lies in the interval. -/
def Interval.holds (i : Interval) (c : Nat) (k : Int) : Bool :=
  let (n, d) := scaleTen i.num i.den k
  if i.closed then decide (i.low * n ≤ c * d) && decide (c * d ≤ i.high * n)
  else decide (i.low * n < c * d) && decide (c * d < i.high * n)

/-- The point of the grid of step `10 ^ k` in the interval that is nearest to its number; of two
equally near ones the even one. -/
def Interval.gridPoint (i : Interval) (k : Int) : Option Nat :=
  let (n, d) := scaleTen i.num i.den k
  let below := i.mid * n / d
  let above := below + 1
  let gapBelow := i.mid * n - below * d
  let gapAbove := above * d - i.mid * n
  let preferBelow := gapBelow < gapAbove ∨ (gapBelow = gapAbove ∧ below % 2 = 0)
  match i.holds below k, i.holds above k with
  | true, true => some (if preferBelow then below else above)
  | true, false => some below
  | false, true => some above
  | false, false => none

/-- The power of ten of the leading digit of a positive `num / den`, for values above
`10 ^ -400`. -/
def leadingPlace (num den : Nat) : Int :=
  ((Nat.toDigits 10 (num * Nat.pow 10 400 / den)).length : Int) - 401

/-- Tries `fuel` grids, the coarsest of step `10 ^ k`. -/
def Interval.search (i : Interval) (k : Int) : Nat → Decimal
  | 0 => ⟨0, 0⟩
  | fuel + 1 =>
    match i.gridPoint k with
    | some c => if 0 < c then ⟨c, k⟩ else i.search (k - 1) fuel
    | none => i.search (k - 1) fuel

end Binary64

/-- Drops trailing zeros, at most `fuel` of them. -/
def Decimal.normalize (x : Decimal) : Nat → Decimal
  | 0 => x
  | fuel + 1 =>
    if x.digits ≠ 0 ∧ x.digits % 10 = 0 then
      Decimal.normalize ⟨x.digits / 10, x.exponent + 1⟩ fuel
    else x

/-- The shortest decimal that reads back to the size of `x`; zero has the digit zero. -/
def Binary64.shortest (x : Binary64) : Decimal :=
  if x.isZero then ⟨0, 0⟩
  else
    let i := x.interval
    let place := Binary64.leadingPlace (i.mid * i.num) i.den
    (i.search (place + 1) 20).normalize 20

/-! ## Spelling -/

/-- Where a spelling is positional, and how its exponent is written otherwise. -/
structure Decimal.Style where
  /-- The least power of ten of a leading digit that is written positionally. -/
  lowest : Int
  /-- The greatest power of ten of a leading digit that is written positionally. -/
  highest : Int

/-- Numbers from `0.00001` up to sixteen places before the point are written positionally. -/
def Decimal.Style.plain : Decimal.Style := ⟨-5, 15⟩

def zeros (n : Nat) : List Char := List.replicate n '0'

/-- A positional spelling has at least one digit after the point; an exponent has a sign. -/
def Decimal.spell (style : Style) (x : Decimal) : List Char :=
  let ds := Nat.toDigits 10 x.digits
  let lead : Int := ds.length + x.exponent - 1
  if x.digits = 0 then ['0', '.', '0']
  else if 0 ≤ x.exponent ∧ lead ≤ style.highest then
    ds ++ zeros x.exponent.toNat ++ ['.', '0']
  else if 0 ≤ lead ∧ lead ≤ style.highest then
    let whole := (lead + 1).toNat
    ds.take whole ++ '.' :: ds.drop whole
  else if lead < 0 ∧ style.lowest ≤ lead then
    ['0', '.'] ++ zeros (-lead - 1).toNat ++ ds
  else
    let mantissa := match ds with
      | d :: rest@(_ :: _) => d :: '.' :: rest
      | ds => ds
    let sign := if lead < 0 then '-' else '+'
    mantissa ++ 'e' :: sign :: Nat.toDigits 10 lead.natAbs

/-- The spelling of a floating-point number in a document or a message. -/
def Binary64.chars (x : Binary64) : List Char :=
  (if x.negative then ['-'] else []) ++ x.shortest.spell .plain

end DataPipeline
