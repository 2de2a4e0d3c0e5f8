import RelMap.Float.Shortest

/-!
# Float text

Writing: the shortest digits of `Float.shortest`, laid out positionally (`0.001`, `1234.0`) inside
a range of magnitudes and with an exponent outside it (`1e-7`, `7.9228163e28`). The choices of
the layout are one record, `Layout.shortest`.

Reading: an optional sign, then `inf`, `infinity` or `nan` in any case, or digits with an
optional point and an optional exponent; the value is rounded once, to nearest.
-/

namespace RelMap.Float

/-- The decisions of a float layout. -/
structure Layout where
  /-- Nonzero magnitudes below the float nearest to this bound take an exponent. -/
  positionalFrom : Rat
  /-- Magnitudes from the float nearest to this bound up take an exponent. -/
  positionalBelow : Rat
  /-- Digits always written after the point in positional form. -/
  fractionDigits : Nat
  exponentMark : String
  nanText : String
  infinityText : String

/-- The round-trip layout: positional for magnitudes in `[1e-4, 1e16)` with at least one digit
after the point, otherwise `d.ddde±x` with no plus sign and no padding; `NaN`, `inf`, `-inf`. -/
def Layout.shortest : Layout :=
  { positionalFrom := 1 / 10000
    positionalBelow := 10000000000000000
    fractionDigits := 1
    exponentMark := "e"
    nanText := "NaN"
    infinityText := "inf" }

namespace Scientific

def digitText (digits : List Nat) : String :=
  String.ofList (digits.map fun d => Char.ofNat ('0'.toNat + d))

/-- Positional text of `0.d₁…dₙ × 10 ^ point` with at least `fractionDigits` digits after the
point. -/
def positional (s : Scientific) (fractionDigits : Nat) : String :=
  let n := s.digits.length
  if s.point ≤ 0 then
    let zeros := String.ofList (List.replicate (-s.point).toNat '0')
    let body := zeros ++ digitText s.digits
    let pad := String.ofList (List.replicate (fractionDigits - (n + (-s.point).toNat)) '0')
    "0." ++ body ++ pad
  else if s.point.toNat < n then
    let whole := digitText (s.digits.take s.point.toNat)
    let fraction := digitText (s.digits.drop s.point.toNat)
    let pad := String.ofList (List.replicate (fractionDigits - (n - s.point.toNat)) '0')
    whole ++ "." ++ fraction ++ pad
  else
    let zeros := String.ofList (List.replicate (s.point.toNat - n) '0')
    let pad := String.ofList (List.replicate fractionDigits '0')
    digitText s.digits ++ zeros ++ (if fractionDigits = 0 then "" else "." ++ pad)

/-- Exponent text `d₁.d₂…dₙ` followed by the mark and the exponent of `d₁`. -/
def withExponent (s : Scientific) (mark : String) : String :=
  let lead := digitText (s.digits.take 1)
  let rest := digitText (s.digits.drop 1)
  let mantissa := if rest.isEmpty then lead else lead ++ "." ++ rest
  let exponent := s.point - 1
  mantissa ++ mark ++ (if exponent < 0 then "-" ++ toString (-exponent).toNat else toString exponent.toNat)

end Scientific

namespace Binary

variable {f : Format}

/-- The text of a float in the given layout. The bounds of the positional range are compared
after rounding them to the float's own format. -/
def render (layout : Layout) (x : Binary f) : String :=
  let sign := if x.isNegative then "-" else ""
  match x.read with
  | .nan => layout.nanText
  | .infinite _ => sign ++ layout.infinityText
  | .finite _ significand exponent =>
      if significand = 0 then
        sign ++ Scientific.positional ⟨[0], 1⟩ layout.fractionDigits
      else
        let magnitude := (significand : Rat) * pow2 exponent
        let lowest := (ofRat f layout.positionalFrom).toRat
        let highest := (ofRat f layout.positionalBelow).toRat
        let digits := shortest f significand exponent
        if magnitude < lowest ∨ highest ≤ magnitude then
          sign ++ digits.withExponent layout.exponentMark
        else sign ++ digits.positional layout.fractionDigits

/-- The shortest round-trip text of a float. -/
def toText (x : Binary f) : String := x.render Layout.shortest

/-- The word nearest to `± mantissa * 10 ^ exponent`. With `m` the mantissa's digit count plus the
exponent, the value lies in `[10 ^ (m - 1), 10 ^ m)`; since ten lies between `2 ^ 3` and `2 ^ 4`,
a value with `3 * m` below the least exponent less one is under half the least subnormal and
rounds to zero, and one with `3 * (m - 1)` past the bias plus one is past the largest finite word
and rounds to infinity. Only the values between are computed, so an exponent of any size is
cheap. A zero keeps the sign. -/
def ofDecimal (f : Format) (negative : Bool) (mantissa : Nat) (exponent : Int) : Binary f :=
  let magnitude : Int := (decimalLength mantissa : Int) + exponent
  if mantissa = 0 ∨ 3 * magnitude < f.leastExponent - 1 then zero f negative
  else if (f.bias : Int) + 1 < 3 * (magnitude - 1) then infinity f negative
  else ⟨f.round negative ((mantissa : Rat) * pow10 exponent)⟩

end Binary

/-- Digits of a decimal numeral read so far: the mantissa and how many of its digits came after
the point. -/
structure Numeral where
  mantissa : Nat := 0
  digitCount : Nat := 0
  fractionCount : Nat := 0

/-- Reads `digits [. digits]` at the front of a character list, returning the numeral and the
rest. -/
def readNumeral : List Char → Bool → Numeral → Numeral × List Char
  | c :: rest, afterPoint, acc =>
      if c.isDigit then
        readNumeral rest afterPoint
          { mantissa := acc.mantissa * 10 + (c.toNat - '0'.toNat)
            digitCount := acc.digitCount + 1
            fractionCount := if afterPoint then acc.fractionCount + 1 else acc.fractionCount }
      else if c = '.' ∧ !afterPoint then readNumeral rest true acc
      else (acc, c :: rest)
  | [], _, acc => (acc, [])

/-- Reads an exponent `[+|-] digits` making up the whole of a character list. -/
def readExponent (cs : List Char) : Option Int :=
  let (negative, digits) := match cs with
    | '-' :: rest => (true, rest)
    | '+' :: rest => (false, rest)
    | _ => (false, cs)
  if digits.isEmpty ∨ !digits.all Char.isDigit then none
  else
    let n := digits.foldl (fun acc c => acc * 10 + (c.toNat - '0'.toNat)) 0
    some (if negative then -(n : Int) else n)

namespace Binary

/-- Reads a float: an optional sign, then `inf`, `infinity` or `nan` in any case, or a numeral
with at least one digit, an optional point and an optional exponent. -/
def ofText? (f : Format) (text : String) : Option (Binary f) :=
  let (negative, body) := match text.toList with
    | '-' :: rest => (true, rest)
    | '+' :: rest => (false, rest)
    | cs => (false, cs)
  let word := String.ofList (body.map Char.toLower)
  if word = "inf" ∨ word = "infinity" then some (infinity f negative)
  else if word = "nan" then some (nan f)
  else
    let (numeral, rest) := readNumeral body false {}
    if numeral.digitCount = 0 then none
    else
      let exponent? : Option Int := match rest with
        | [] => some 0
        | c :: more => if c = 'e' ∨ c = 'E' then readExponent more else none
      exponent?.map fun e => ofDecimal f negative numeral.mantissa (e - (numeral.fractionCount : Int))

end Binary

end RelMap.Float
