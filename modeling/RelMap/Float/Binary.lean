/-!
# Binary interchange formats

A float is a word of `Format.width` bits, kept as a natural number. `Format.read` says what a
word denotes: a NaN, a signed infinity, or a signed finite value `significand * 2 ^ exponent`.
`Format.round` turns an exact rational magnitude into the nearest word, a tie going to the even
significand and a magnitude past the largest finite one going to infinity.

Every operation on floats here is a reading, exact rational arithmetic and one rounding, so the
words it produces are those of correctly rounded binary arithmetic, and each of them can be
reasoned about through `Rat` alone.
-/

namespace RelMap.Float

/-- `2 ^ e` as a rational, for an exponent of either sign. -/
def pow2 (e : Int) : Rat :=
  if 0 ≤ e then ((Nat.pow 2 e.toNat : Nat) : Rat) else 1 / ((Nat.pow 2 (-e).toNat : Nat) : Rat)

/-- `10 ^ e` as a rational, for an exponent of either sign. -/
def pow10 (e : Int) : Rat :=
  if 0 ≤ e then ((Nat.pow 10 e.toNat : Nat) : Rat) else 1 / ((Nat.pow 10 (-e).toNat : Nat) : Rat)

/-- `⌊log₂ q⌋` of a positive rational: `2 ^ floorLog2 q ≤ q < 2 ^ (floorLog2 q + 1)`. -/
def floorLog2 (q : Rat) : Int :=
  let guess : Int := (q.num.natAbs.log2 : Int) - (q.den.log2 : Int)
  if pow2 guess ≤ q then guess else guess - 1

/-- Number of decimal digits of a natural number, `0` having none. -/
def decimalLength (n : Nat) : Nat :=
  if n = 0 then 0 else (Nat.toDigits 10 n).length

/-- `⌊log₁₀ q⌋` of a positive rational: `10 ^ floorLog10 q ≤ q < 10 ^ (floorLog10 q + 1)`. -/
def floorLog10 (q : Rat) : Int :=
  let guess : Int := (decimalLength q.num.natAbs : Int) - (decimalLength q.den : Int)
  if pow10 guess ≤ q then guess else guess - 1

/-- The integer nearest to a nonnegative rational, a tie going to the even one. -/
def roundHalfEven (q : Rat) : Nat :=
  let below := q.floor.toNat
  let rest := q - (below : Rat)
  if rest < 1 / 2 then below
  else if 1 / 2 < rest then below + 1
  else if below % 2 = 0 then below else below + 1

/-- A binary interchange format: the significand's precision (hidden bit included) and the width
of the exponent field. -/
structure Format where
  precision : Nat
  exponentWidth : Nat
  deriving DecidableEq, Repr

/-- What a word denotes. A finite value is `± significand * 2 ^ exponent`. -/
inductive Reading where
  | nan
  | infinite (negative : Bool)
  | finite (negative : Bool) (significand : Nat) (exponent : Int)
  deriving DecidableEq, Repr

namespace Reading

/-- The exact value of a finite reading; NaN and the infinities read as zero. -/
def toRat : Reading → Rat
  | .finite negative significand exponent =>
      let magnitude := (significand : Rat) * pow2 exponent
      if negative then -magnitude else magnitude
  | _ => 0

end Reading

namespace Format

/-- The 32-bit format: 24 bits of precision, 8 of exponent. -/
def single : Format := ⟨24, 8⟩

/-- The 64-bit format: 53 bits of precision, 11 of exponent. -/
def double : Format := ⟨53, 11⟩

/-- Bits of the stored fraction. -/
def fractionWidth (f : Format) : Nat := f.precision - 1

/-- Bits of a whole word: sign, exponent field and fraction. -/
def width (f : Format) : Nat := f.precision + f.exponentWidth

/-- Weight of the hidden bit, which is also the number of fraction values. -/
def hiddenBit (f : Format) : Nat := Nat.pow 2 f.fractionWidth

/-- Weight of the sign bit. -/
def signBit (f : Format) : Nat := Nat.pow 2 (f.width - 1)

/-- The all-ones exponent field, which marks infinities and NaNs. -/
def specialField (f : Format) : Nat := Nat.pow 2 f.exponentWidth - 1

/-- Exponent bias of the format. -/
def bias (f : Format) : Nat := Nat.pow 2 (f.exponentWidth - 1) - 1

/-- Exponent of the least subnormal: every finite value is an integer multiple of
`2 ^ leastExponent`. -/
def leastExponent (f : Format) : Int := 1 - (f.bias : Int) - (f.fractionWidth : Int)

/-- The word made of a sign, an exponent field and a fraction. -/
def assemble (f : Format) (negative : Bool) (field fraction : Nat) : Nat :=
  (if negative then f.signBit else 0) + field * f.hiddenBit + fraction

/-- Zero of the given sign. -/
def zero (f : Format) (negative : Bool) : Nat := f.assemble negative 0 0

/-- Infinity of the given sign. -/
def infinity (f : Format) (negative : Bool) : Nat := f.assemble negative f.specialField 0

/-- The quiet NaN with an empty payload. -/
def quietNaN (f : Format) : Nat := f.assemble false f.specialField (Nat.pow 2 (f.fractionWidth - 1))

/-- What the word `bits` denotes. -/
def read (f : Format) (bits : Nat) : Reading :=
  let negative := bits / f.signBit % 2 == 1
  let field := bits / f.hiddenBit % Nat.pow 2 f.exponentWidth
  let fraction := bits % f.hiddenBit
  if field = f.specialField then
    if fraction = 0 then .infinite negative else .nan
  else if field = 0 then .finite negative fraction f.leastExponent
  else .finite negative (f.hiddenBit + fraction) (f.leastExponent + (field : Int) - 1)

/-- The word nearest to the magnitude `q` with the given sign: the significand is rounded half to
even at the exponent that gives it `precision` bits (or at the least exponent, for subnormals),
and a result past the largest finite word is infinity. -/
def round (f : Format) (negative : Bool) (q : Rat) : Nat :=
  if q ≤ 0 then f.zero negative
  else
    let exponent := max (floorLog2 q - (f.fractionWidth : Int)) f.leastExponent
    let significand := roundHalfEven (q / pow2 exponent)
    let carried := significand = Nat.pow 2 f.precision
    let significand := if carried then significand / 2 else significand
    let exponent := if carried then exponent + 1 else exponent
    let field := if significand < f.hiddenBit then 0 else (exponent - f.leastExponent + 1).toNat
    if f.specialField ≤ field then f.infinity negative
    else f.assemble negative field (significand % f.hiddenBit)

end Format

/-- A float of the format `f`, as the natural number of its bits. -/
structure Binary (f : Format) where
  bits : Nat
  deriving Inhabited

/-- Words of 32 bits. -/
abbrev Binary32 := Binary Format.single

/-- Words of 64 bits. -/
abbrev Binary64 := Binary Format.double

namespace Binary

variable {f : Format}

/-- What the float denotes. -/
def read (x : Binary f) : Reading := f.read x.bits

/-- The exact value of a finite float; NaN and the infinities give zero. -/
def toRat (x : Binary f) : Rat := x.read.toRat

def isNaN (x : Binary f) : Bool := x.read == .nan

/-- Whether the sign bit is set. -/
def isNegative (x : Binary f) : Bool := x.bits / f.signBit % 2 == 1

def isFinite (x : Binary f) : Bool :=
  match x.read with
  | .finite .. => true
  | _ => false

/-- Numeric equality: a NaN equals nothing, the two zeros are equal, and otherwise equal values
are equal words. -/
def beq (x y : Binary f) : Bool :=
  match x.read, y.read with
  | .finite .., .finite .. => x.toRat == y.toRat
  | .infinite a, .infinite b => a == b
  | _, _ => false

instance : BEq (Binary f) := ⟨beq⟩

/-- The float nearest to a rational; a zero result is positive. -/
def ofRat (f : Format) (q : Rat) : Binary f :=
  if q < 0 then ⟨f.round true (-q)⟩ else ⟨f.round false q⟩

/-- The float nearest to an integer. -/
def ofInt (f : Format) (n : Int) : Binary f := ofRat f n

def nan (f : Format) : Binary f := ⟨f.quietNaN⟩

def infinity (f : Format) (negative : Bool) : Binary f := ⟨f.infinity negative⟩

def zero (f : Format) (negative : Bool) : Binary f := ⟨f.zero negative⟩

/-- The float with the sign bit flipped. -/
def neg (x : Binary f) : Binary f :=
  if x.isNegative then ⟨x.bits - f.signBit⟩ else ⟨x.bits + f.signBit⟩

/-- The same number in another format, rounded to nearest; NaN stays NaN and a zero or infinity
keeps its sign. -/
def convert (g : Format) (x : Binary f) : Binary g :=
  match x.read with
  | .nan => nan g
  | .infinite negative => infinity g negative
  | .finite negative significand exponent =>
      ⟨g.round negative ((significand : Rat) * pow2 exponent)⟩

/-- Correctly rounded sum. Infinities of opposite signs give NaN; an exact zero sum is positive
unless both operands are negative zeros. -/
def add (x y : Binary f) : Binary f :=
  match x.read, y.read with
  | .nan, _ => nan f
  | _, .nan => nan f
  | .infinite a, .infinite b => if a == b then infinity f a else nan f
  | .infinite a, _ => infinity f a
  | _, .infinite b => infinity f b
  | .finite a _ _, .finite b _ _ =>
      let sum := x.toRat + y.toRat
      if sum == 0 then zero f (a && b) else ofRat f sum

/-- Correctly rounded quotient. The sign of a zero or infinite result is the exclusive or of the
operands' signs; `0 / 0` and `∞ / ∞` give NaN. -/
def div (x y : Binary f) : Binary f :=
  let negative := x.isNegative != y.isNegative
  match x.read, y.read with
  | .nan, _ => nan f
  | _, .nan => nan f
  | .infinite _, .infinite _ => nan f
  | .infinite _, _ => infinity f negative
  | _, .infinite _ => zero f negative
  | .finite _ _ _, .finite _ _ _ =>
      if y.toRat == 0 then
        if x.toRat == 0 then nan f else infinity f negative
      else if x.toRat == 0 then zero f negative
      else
        let quotient := x.toRat / y.toRat
        if quotient < 0 then ⟨f.round true (-quotient)⟩ else ⟨f.round false quotient⟩

/-- Correctly rounded product. The sign of a zero or infinite result is the exclusive or of the
operands' signs; zero times infinity gives NaN. -/
def mul (x y : Binary f) : Binary f :=
  let negative := x.isNegative != y.isNegative
  match x.read, y.read with
  | .nan, _ => nan f
  | _, .nan => nan f
  | .infinite _, .infinite _ => infinity f negative
  | .infinite _, _ => if y.toRat == 0 then nan f else infinity f negative
  | _, .infinite _ => if x.toRat == 0 then nan f else infinity f negative
  | .finite _ _ _, .finite _ _ _ =>
      let product := x.toRat * y.toRat
      if product == 0 then zero f negative
      else if product < 0 then ⟨f.round true (-product)⟩ else ⟨f.round false product⟩

/-- The nearest integer, a half rounded away from zero. The result is exact, since an integer
no larger than a float's magnitude is a float of the same format; a zero keeps the sign, and NaN
and the infinities stay. -/
def roundHalfAway (x : Binary f) : Binary f :=
  match x.read with
  | .finite negative significand exponent =>
      let whole := ((significand : Rat) * pow2 exponent + 1 / 2).floor.toNat
      if whole = 0 then zero f negative else ⟨f.round negative whole⟩
  | _ => x

end Binary

end RelMap.Float
