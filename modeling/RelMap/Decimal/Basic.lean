/-!
# Fixed-point decimals

A decimal is `± mantissa / 10 ^ scale` with a mantissa below `2 ^ 96` and a scale of at most 28.
The scale is part of the value's text: `1.50` and `1.5` are equal numbers written differently.
Equality compares numbers, so the two zeros and `1.0 = 1.00` hold.

Text is the mantissa's digits with a point `scale` places from the right, a leading `0` when no
digit stands before the point, and a `-` for a negative sign (a negative zero keeps it). Reading
text is in `RelMap.Decimal.Text`.
-/

namespace RelMap

/-- Largest mantissa plus one. -/
def Decimal.mantissaBound : Nat := Nat.pow 2 96

/-- Largest scale. -/
def Decimal.maxScale : Nat := 28

/-- A decimal `± mantissa / 10 ^ scale`. -/
structure Decimal where
  negative : Bool
  mantissa : Nat
  scale : Nat
  mantissa_lt : mantissa < Decimal.mantissaBound
  scale_le : scale ≤ Decimal.maxScale

namespace Decimal

/-- The decimal with these parts, if the mantissa and the scale are in range. -/
def make? (negative : Bool) (mantissa scale : Nat) : Option Decimal :=
  if h : mantissa < mantissaBound ∧ scale ≤ maxScale then
    some ⟨negative, mantissa, scale, h.1, h.2⟩
  else none

/-- Positive zero with scale `0`. -/
def zero : Decimal := ⟨false, 0, 0, by decide, by decide⟩

/-- Negative zero with scale `0`. -/
def negativeZero : Decimal := ⟨true, 0, 0, by decide, by decide⟩

instance : Inhabited Decimal := ⟨zero⟩

/-- The exact value. -/
def toRat (d : Decimal) : Rat :=
  let magnitude := (d.mantissa : Rat) / ((Nat.pow 10 d.scale : Nat) : Rat)
  if d.negative then -magnitude else magnitude

/-- Numeric equality. -/
def beq (a b : Decimal) : Bool := a.toRat == b.toRat

instance : BEq Decimal := ⟨beq⟩

/-- Whether the value is an integer. -/
def isInteger (d : Decimal) : Bool := d.mantissa % Nat.pow 10 d.scale == 0

/-- The value with its fraction dropped, rounding toward zero. -/
def truncate (d : Decimal) : Int :=
  let whole : Int := (d.mantissa / Nat.pow 10 d.scale : Nat)
  if d.negative then -whole else whole

/-- An integer below `2 ^ 96` in magnitude, with scale `0`. -/
def ofInt (n : Int) (h : n.natAbs < mantissaBound) : Decimal :=
  ⟨n < 0, n.natAbs, 0, h, by decide⟩

/-- A 64-bit integer, with scale `0`. -/
def ofInt64 (n : Int64) : Decimal :=
  ofInt n.toInt (by
    have h1 := Int64.toInt_lt n
    have h2 := Int64.le_toInt n
    rw [mantissaBound, Nat.pow_eq]
    omega)

/-- A 32-bit integer, with scale `0`. -/
def ofInt32 (n : Int32) : Decimal :=
  ofInt n.toInt (by
    have h1 := Int32.toInt_lt n
    have h2 := Int32.le_toInt n
    rw [mantissaBound, Nat.pow_eq]
    omega)

/-- The digits of a natural number, none for zero. -/
def digitsOf (n : Nat) : List Char := if n = 0 then [] else Nat.toDigits 10 n

/-- The text of a decimal: the mantissa's digits, padded with zeros to at least `scale` digits,
split `scale` places from the right by a point, `0` standing for an empty whole part. -/
def toText (d : Decimal) : String :=
  let digits := digitsOf d.mantissa
  let padded := List.replicate (d.scale - digits.length) '0' ++ digits
  let wholeCount := padded.length - d.scale
  let whole := padded.take wholeCount
  let fraction := padded.drop wholeCount
  let body := (if whole.isEmpty then "0" else String.ofList whole) ++
    (if d.scale = 0 then "" else "." ++ String.ofList fraction)
  if d.negative then "-" ++ body else body

end Decimal

end RelMap
