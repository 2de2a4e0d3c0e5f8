import RelMap.Decimal.Basic
import RelMap.Float.Binary

/-!
# Decimals and floats

From a decimal to a 64-bit float: an integer (scale `0`) is rounded once. Otherwise the whole part
and the fraction are each rounded to a float, the fraction divided by the float of `10 ^ scale`
and the two added; a nonzero fraction is then cleaned of the error of the sum by multiplying by
the float of `10 ^ scale`, rounding half away from zero to an integer and dividing back. Every
step is rounded to nearest, and the sign is applied last. A 32-bit float is the 64-bit one
rounded again.

From a 64-bit float to a decimal: the float's exact value `significand * 2 ^ exponent` is moved
into `mantissa * 10 ^ e10` inside 96 bits, dropping low bits where the mantissa would overflow;
then the scale is brought into `0 … 28`, the mantissa is cut to the 15 or 16 digits a 64-bit float
holds, each cut rounding half up, and trailing zeros go. NaN, the infinities and magnitudes past
the range of decimals have no decimal.
-/

namespace RelMap.Decimal

open RelMap.Float

/-- The decimal rounded to a 64-bit float. The float of `10 ^ scale` serves both as divisor and as
the grid of the final rounding; for scales up to 28 it is the power of ten rounded once. -/
def toBinary64 (d : Decimal) : Binary64 :=
  if d.scale = 0 then Binary.ofInt Format.double d.truncate
  else
    let precision : Nat := Nat.pow 10 d.scale
    let grid : Binary64 := Binary.ofInt Format.double precision
    let whole := Binary.ofInt Format.double (d.mantissa / precision : Nat)
    let fraction := Binary.div (Binary.ofInt Format.double (d.mantissa % precision : Nat)) grid
    let value :=
      if fraction.toRat == 0 then whole
      else Binary.div (Binary.mul (Binary.add whole fraction) grid).roundHalfAway grid
    if d.negative then value.neg else value

/-- The decimal rounded to a 64-bit float, then to a 32-bit one. -/
def toBinary32 (d : Decimal) : Binary32 := d.toBinary64.convert Format.single

/-- Moves a negative binary exponent into the mantissa, one factor of two at a time: an even
mantissa is halved and the decimal exponent raised, an odd one is multiplied by five, or halved
(losing its last bit) when that would overflow 96 bits. -/
def absorbHalves : Nat → Nat → Int → Nat × Int
  | 0, mantissa, e10 => (mantissa, e10)
  | n + 1, mantissa, e10 =>
      if mantissa % 2 = 0 then absorbHalves n (mantissa / 2) (e10 + 1)
      else if mantissa * 5 < mantissaBound then absorbHalves n (mantissa * 5) e10
      else absorbHalves n (mantissa / 2) (e10 + 1)

/-- Moves a positive binary exponent into the mantissa: doubling while the top bit is free
(lowering the decimal exponent), otherwise dividing by five, and failing when the value is out of
reach. The count `n` is the number of factors of two still to absorb. -/
def absorbDoubles : Nat → Nat → Int → Option (Nat × Int)
  | 0, mantissa, e10 => some (mantissa, e10)
  | n + 1, mantissa, e10 =>
      if mantissa < mantissaBound / 2 then absorbDoubles n (mantissa * 2) (e10 - 1)
      else if ((n + 1 : Nat) : Int) < e10 * 2 then none
      else absorbDoubles n (mantissa / 5) e10

/-- Multiplies the mantissa by ten `n` times, failing on overflow. -/
def scaleUp : Nat → Nat → Option Nat
  | 0, mantissa => some mantissa
  | n + 1, mantissa =>
      if mantissa * 10 < mantissaBound then scaleUp n (mantissa * 10) else none

/-- Divides the mantissa by ten `n` times, rounding half up at each step; a mantissa that reaches
zero ends the division with exponent `0`. -/
def scaleDown : Nat → Nat → Int → Nat × Int
  | 0, mantissa, e10 => (mantissa, e10)
  | n + 1, mantissa, e10 =>
      let quotient := mantissa / 10
      if quotient = 0 then (0, 0)
      else scaleDown n (if 5 ≤ mantissa % 10 then quotient + 1 else quotient) (e10 + 1)

/-- Digits a 64-bit float holds: the mantissa is cut below `2 ^ 52`. -/
def doubleDigitsBound : Nat := Nat.pow 2 52

/-- Drops digits past what a 64-bit float holds, rounding half up, while the exponent is
negative. -/
def trimExcess : Nat → Nat → Int → Nat × Int
  | 0, mantissa, e10 => (mantissa, e10)
  | n + 1, mantissa, e10 =>
      if mantissa < doubleDigitsBound then (mantissa, e10)
      else
        let quotient := mantissa / 10
        trimExcess n (if 5 ≤ mantissa % 10 then quotient + 1 else quotient) (e10 + 1)

/-- Drops trailing zeros while the exponent is negative. -/
def dropZeros : Nat → Nat → Int → Nat × Int
  | 0, mantissa, e10 => (mantissa, e10)
  | n + 1, mantissa, e10 =>
      if mantissa % 10 = 0 then dropZeros n (mantissa / 10) (e10 + 1) else (mantissa, e10)

/-- The decimal of the positive value `significand * 2 ^ exponent`, as a mantissa and a decimal
exponent in `-28 … 0`. -/
def ofBinaryParts (significand : Nat) (exponent : Int) : Option (Nat × Int) := do
  let (mantissa, e10) ←
    if exponent < 0 then some (absorbHalves (-exponent).toNat significand exponent)
    else absorbDoubles exponent.toNat significand exponent
  let (mantissa, e10) ←
    if 0 < e10 then (scaleUp e10.toNat mantissa).map fun m => (m, 0) else some (mantissa, e10)
  let (mantissa, e10) :=
    if e10 < -(maxScale : Int) then scaleDown (-(maxScale : Int) - e10).toNat mantissa e10
    else (mantissa, e10)
  let (mantissa, e10) := trimExcess (-e10).toNat mantissa e10
  some (dropZeros (-e10).toNat mantissa e10)

/-- The decimal of a 64-bit float, or `none` for NaN, the infinities and magnitudes out of range.
A zero keeps its sign. -/
def ofBinary64? (x : Binary64) : Option Decimal :=
  match x.read with
  | .finite negative significand exponent =>
      if significand = 0 then some (if negative then negativeZero else zero)
      else
        (ofBinaryParts significand exponent).bind fun (mantissa, e10) =>
          make? negative mantissa (-e10).toNat
  | _ => none

end RelMap.Decimal
