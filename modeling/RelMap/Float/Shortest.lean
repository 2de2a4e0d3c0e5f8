import RelMap.Float.Binary

/-!
# Shortest decimal digits of a float

A finite nonzero float `v` stands for every real of its rounding interval: the reals that round
to it. `shortest` picks, among the decimals of that interval, those with the fewest significant
digits, and of these the one nearest to `v` (an exact tie goes to the larger). Reading the result
back gives `v` again, and no decimal with fewer digits does.

The search tries grids `10 ^ k` from coarse to fine. On each grid only the two neighbours of `v`
can be the nearest point of the interval, so each grid costs two exact comparisons.
-/

namespace RelMap.Float

/-- A positive decimal `0.d₁d₂…dₙ × 10 ^ point`, where `digits` holds `d₁ … dₙ`, the first and the
last of them nonzero. -/
structure Scientific where
  digits : List Nat
  point : Int
  deriving DecidableEq, Repr

namespace Scientific

/-- How many times ten divides a positive natural number (`0` for zero). -/
def trailingZeros (n : Nat) : Nat :=
  if h : n ≠ 0 ∧ n % 10 = 0 then
    have : n / 10 < n := Nat.div_lt_self (Nat.pos_of_ne_zero h.1) (by decide)
    trailingZeros (n / 10) + 1
  else 0
termination_by n

/-- The decimal `count * 10 ^ exponent`, its trailing zeros moved into the point. -/
def ofCount (count : Nat) (exponent : Int) : Scientific :=
  let zeros := trailingZeros count
  let kept := count / Nat.pow 10 zeros
  let digits := (Nat.toDigits 10 kept).map fun c => c.toNat - '0'.toNat
  { digits, point := exponent + (zeros : Int) + (digits.length : Int) }

end Scientific

/-- The rounding interval of the positive float `significand * 2 ^ exponent`: its ends, and whether
they belong to it (they do when the significand is even, since a tie rounds to even). The lower
gap is half as wide when the significand is the smallest of its binade above the subnormals. -/
structure Interval where
  low : Rat
  high : Rat
  closed : Bool

namespace Interval

/-- The rounding interval of a positive float of format `f`. -/
def ofFloat (f : Format) (significand : Nat) (exponent : Int) : Interval :=
  let value := (significand : Rat) * pow2 exponent
  let half := pow2 (exponent - 1)
  let narrowBelow := significand = f.hiddenBit ∧ f.leastExponent < exponent
  { low := if narrowBelow then value - half / 2 else value - half
    high := value + half
    closed := significand % 2 == 0 }

def contains (r : Interval) (q : Rat) : Bool :=
  if r.closed then r.low ≤ q ∧ q ≤ r.high else r.low < q ∧ q < r.high

end Interval

/-- The point of the grid `10 ^ k` in the interval that is nearest to `value`, as a multiple of
`10 ^ k`. Only the two neighbours of `value` on the grid need testing; of two, the nearer wins and
a tie goes to the larger. -/
def gridPoint (r : Interval) (value : Rat) (k : Int) : Option Nat :=
  let unit := pow10 k
  let below := (value / unit).floor.toNat
  let lower := (below : Rat) * unit
  let upper := ((below + 1 : Nat) : Rat) * unit
  match r.contains lower, r.contains upper with
  | true, true => if value - lower < upper - value then some below else some (below + 1)
  | true, false => some below
  | false, true => some (below + 1)
  | false, false => none

/-- Grids tried before giving up; seventeen digits already single out every 64-bit float. -/
def gridBudget : Nat := 40

/-- The shortest decimal of the rounding interval of the positive float
`significand * 2 ^ exponent`, nearest to it among the shortest. -/
def shortest (f : Format) (significand : Nat) (exponent : Int) : Scientific :=
  let value := (significand : Rat) * pow2 exponent
  let r := Interval.ofFloat f significand exponent
  let top := floorLog10 value
  let found := (List.range gridBudget).findSome? fun (i : Nat) =>
    (gridPoint r value (top - (i : Int))).map fun count => (count, top - (i : Int))
  match found with
  | some (count, k) => Scientific.ofCount count k
  | none =>
    let k := top - (gridBudget : Int)
    Scientific.ofCount (value / pow10 k).floor.toNat k

end RelMap.Float
