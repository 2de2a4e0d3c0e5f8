import RelMap.Float.Text

/-!
# Number tokens of JSON text as doubles

A JSON reader that keeps to machine words reads a number token with a point or an exponent into
an unsigned 64-bit significand and a decimal exponent. It makes the double by rounding the
significand to a double and scaling it by one power of ten from a table of doubles
`1e0 … 1e308`, a product or a quotient that is rounded once more. The result can be a unit in the
last place away from the nearest double: `3.810346361e38` reads as `3.810346360999999e38`.

- Integer digits go into the significand while it stays a 64-bit word. The integer digits after
  that only raise the exponent.
- Fraction digits go into the significand while it stays a 64-bit word, each lowering the
  exponent. The fraction digits after that are dropped.
- An exponent past the 32-bit range reads as a zero when it is negative or the significand is
  zero, and is refused otherwise.
- A quotient by a power past the table divides by `1e308` first, as often as needed; a product
  that overflows is refused.

A token with neither point nor exponent whose digits fit a 64-bit word is an integer, rounded
once; `-0` is the negative zero.
-/

namespace RelMap.Float

set_option autoImplicit false

namespace JsonNumber

/-- The largest unsigned 64-bit word. -/
def wordMax : Nat := Nat.pow 2 64 - 1

/-- The largest signed 32-bit word. -/
def exponentMax : Nat := Nat.pow 2 31 - 1

/-- `10 ^ k` as the nearest double: the table's entries, for `k ≤ 308`. -/
def power (k : Nat) : Binary Format.double := Binary.ofInt Format.double (Nat.pow 10 k)

/-- Whether a double is a zero of either sign. -/
def isZero (x : Binary Format.double) : Bool := x.isFinite && x.toRat == 0

/-- Scales a double by `10 ^ exponent` with the table: one product for an exponent up to 308,
refused when it overflows; for an exponent down to `-308`, one quotient; below that, quotients by
`1e308` until the exponent is in the table, a zero ending the scaling early. An exponent past 308
scales only a zero. -/
def scale (x : Binary Format.double) (exponent : Int) : Option (Binary Format.double) :=
  if 0 ≤ exponent then
    if exponent ≤ 308 then
      let y := Binary.mul x (power exponent.toNat)
      if y.isFinite then some y else none
    else if isZero x then some x
    else none
  else if -308 ≤ exponent then some (Binary.div x (power (-exponent).toNat))
  else if isZero x then some x
  else scale (Binary.div x (power 308)) (exponent + 308)
termination_by (-exponent).toNat
decreasing_by omega

/-- The value of a decimal digit. -/
def digitValue (c : Char) : Nat := c.toNat - '0'.toNat

/-- Takes digits into the significand while it stays at most `wordMax`. Returns the significand,
the number of digits taken and the rest, which starts with the first digit not taken, if any. -/
def takeDigits : List Char → Nat → Nat → Nat × Nat × List Char
  | c :: rest, significand, count =>
      if c.isDigit ∧ significand * 10 + digitValue c ≤ wordMax then
        takeDigits rest (significand * 10 + digitValue c) (count + 1)
      else (significand, count, c :: rest)
  | [], significand, count => (significand, count, [])

/-- Reads exponent digits after the first: the value so far, then whether a digit would take it
past `exponentMax` (the digits from there on are passed over), then the rest. -/
def takeExponent : List Char → Nat → Nat × Bool × List Char
  | c :: rest, value =>
      if c.isDigit then
        if exponentMax < value * 10 + digitValue c then (value, true, rest.dropWhile Char.isDigit)
        else takeExponent rest (value * 10 + digitValue c)
      else (value, false, c :: rest)
  | [], value => (value, false, [])

/-- Clamps an exponent to the signed 32-bit range. -/
def saturate (e : Int) : Int := max (-(exponentMax : Int) - 1) (min e exponentMax)

/-- What a number token reads as before it becomes a double. -/
inductive Reading where
  /-- An integer without point or exponent that fits a 64-bit word. -/
  | integer (negative : Bool) (value : Nat)
  /-- A significand and a decimal exponent, to be scaled. -/
  | scaled (negative : Bool) (significand : Nat) (exponent : Int)
  /-- A zero, from an exponent past the 32-bit range. -/
  | zero (negative : Bool)

/-- Reads the exponent part after `e` or `E`: an optional sign and at least one digit, ending the
token. -/
def readExponentPart (negative : Bool) (significand : Nat) (start : Int) (cs : List Char) :
    Option Reading :=
  let (positive, digits) := match cs with
    | '+' :: rest => (true, rest)
    | '-' :: rest => (false, rest)
    | _ => (true, cs)
  match digits with
  | d :: rest =>
      if !d.isDigit then none
      else
        let (value, overflowed, after) := takeExponent rest (digitValue d)
        if !after.isEmpty then none
        else if overflowed then
          if significand ≠ 0 ∧ positive then none else some (.zero negative)
        else
          some (.scaled negative significand
            (saturate (if positive then start + value else start - value)))
  | [] => none

/-- Reads what follows the integer part: a fraction, an exponent part, or the end. `long` says
the integer digits did not all fit, `start` is the exponent they left. -/
def readAfterInteger (negative long : Bool) (significand : Nat) (start : Int) :
    List Char → Option Reading
  | '.' :: fraction =>
      let (significand, taken, rest) := takeDigits fraction significand 0
      let overflowed := rest.head?.any Char.isDigit
      if !overflowed ∧ taken = 0 then none
      else
        let exponent := start - taken
        match rest.dropWhile Char.isDigit with
        | [] => some (.scaled negative significand exponent)
        | c :: more =>
            if c = 'e' ∨ c = 'E' then readExponentPart negative significand exponent more
            else none
  | c :: more =>
      if c = 'e' ∨ c = 'E' then readExponentPart negative significand start more else none
  | [] => some (if long then .scaled negative significand start else .integer negative significand)

/-- Reads a number token: an optional `-`, then `0` or digits not starting with `0`, then an
optional fraction and an optional exponent part. -/
def read (text : String) : Option Reading :=
  let (negative, body) := match text.toList with
    | '-' :: rest => (true, rest)
    | cs => (false, cs)
  match body with
  | '0' :: rest =>
      if rest.head?.any Char.isDigit then none else readAfterInteger negative false 0 0 rest
  | d :: _ =>
      if !d.isDigit then none
      else
        let (significand, _, rest) := takeDigits body 0 0
        let extra := (rest.takeWhile Char.isDigit).length
        readAfterInteger negative (extra ≠ 0) significand extra (rest.dropWhile Char.isDigit)
  | [] => none

/-- The double a reading makes. -/
def Reading.toDouble : Reading → Option (Binary Format.double)
  | .integer negative value => some (Binary.ofDecimal Format.double negative value 0)
  | .scaled negative significand exponent =>
      (scale (Binary.ofInt Format.double significand) exponent).map fun x =>
        if negative then x.neg else x
  | .zero negative => some (Binary.zero Format.double negative)

end JsonNumber

/-- The double a JSON number token reads as, or `none` for a token that is not a number or whose
value overflows. -/
def Binary.ofJsonNumber? (text : String) : Option (Binary Format.double) :=
  (JsonNumber.read text).bind JsonNumber.Reading.toDouble

end RelMap.Float
