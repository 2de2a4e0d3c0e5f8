import RelMap.Decimal.Basic

/-!
# Reading decimal text

A decimal is read from plain text, `[+|-] digits [. digits]` with underscores allowed between
digits, or, when the text holds an `e` or an `E`, from scientific notation `base e exponent`.

Plain text is read digit by digit. Its mantissa is collected first in a narrow accumulator, and
in a text of at least `longText` bytes it moves to a wide one once it reaches `wideFrom`. Digits
past the 28th after the point are not kept: the character after the 28th rounds it, half up,
and the characters after that must still be digits or underscores. The narrow accumulator rounds
on that very character, taking an underscore as `0`; the wide one first passes over a run of
underscores. Reading gives a positive zero.

In scientific notation the base is read as plain text. A negative exponent adds to the scale,
rounding half away from zero when the scale would pass 28; a positive one takes from the scale,
and what the scale cannot give multiplies the mantissa, with the result written without a
fraction.
-/

namespace RelMap

namespace Decimal

set_option autoImplicit false

/-- Why a text does not read as a decimal. -/
inductive TextError where
  /-- The text is empty. -/
  | empty
  /-- A point after the point. -/
  | secondPoint
  /-- An underscore before any digit. -/
  | leadingSeparator
  /-- A character that has no place in a decimal. -/
  | unknownCharacter
  /-- A sign or a point but no digit. -/
  | noDigits
  /-- More digits before the point than the mantissa holds. -/
  | tooManyDigits
  /-- Rounding the last digit up overflows the mantissa at scale `0`. -/
  | roundingOverflow
  /-- Scientific notation without an exponent, or with one that is not a 32-bit number. -/
  | malformed
  /-- A scale, or an exponent, past `maxScale`. -/
  | scaleTooLarge (scale : Nat)
  /-- A value past the largest mantissa. -/
  | tooLarge
  deriving DecidableEq, Repr

/-- The text of each error. -/
def TextError.message : TextError → String
  | .empty => "Invalid decimal: empty"
  | .secondPoint => "Invalid decimal: two decimal points"
  | .leadingSeparator => "Invalid decimal: must start lead with a number"
  | .unknownCharacter => "Invalid decimal: unknown character"
  | .noDigits => "Invalid decimal: no digits found"
  | .tooManyDigits => "Invalid decimal: overflow from too many digits"
  | .roundingOverflow => "Invalid decimal: overflow from mantissa after rounding"
  | .malformed => "Failed to parse"
  | .scaleTooLarge scale =>
      "Scale exceeds the maximum precision allowed: " ++ toString scale ++ " > " ++
        toString maxScale
  | .tooLarge => "Number exceeds maximum value that can be represented."

/-- The error for a character that cannot stand where it is: a point after the point, an
underscore before any digit, or anything else. -/
def TextError.ofCharacter (c : Char) : TextError :=
  if c = '.' then .secondPoint else if c = '_' then .leadingSeparator else .unknownCharacter

/-- The decimal with these parts. The readers below only build parts in range; a mantissa out
of range would be a value too large. -/
def build (negative : Bool) (mantissa scale : Nat) : Except TextError Decimal :=
  match make? negative mantissa scale with
  | some d => pure d
  | none => throw .tooLarge

/-- The value of a decimal digit. -/
def digitValue (c : Char) : Nat := c.toNat - '0'.toNat

/-- Rounds a mantissa half up on the character after its last kept digit: a digit counts as
itself, an underscore or a point as `0`, and anything else refuses the text. The characters
after it must be digits or underscores. When rounding up reaches `mantissaBound`, one digit of
scale is given up (rounding half up once more); at scale `0` there is none to give. -/
def roundAt (c : Char) (rest : List Char) (mantissa scale : Nat) :
    Except TextError (Nat × Nat) := do
  let digit ←
    if c.isDigit then pure (digitValue c)
    else if c = '_' ∨ c = '.' then pure 0
    else throw (TextError.ofCharacter c)
  match rest.find? fun r => !(r.isDigit || r == '_') with
  | some bad => throw (TextError.ofCharacter bad)
  | none => pure ()
  if digit < 5 then pure (mantissa, scale)
  else if mantissa + 1 < mantissaBound then pure (mantissa + 1, scale)
  else if scale = 0 then throw .roundingOverflow
  else pure ((mantissa + 1 + 4) / 10, scale - 1)

/-- Texts of at least this many bytes may need the wide accumulator. -/
def longText : Nat := 18

/-- From this value on, a mantissa is carried in the wide (96-bit) accumulator rather than the
narrow (64-bit) one: the largest 64-bit word divided by ten, less 255. -/
def wideFrom : Nat := (Nat.pow 2 64 - 1) / 10 - 255

/-- Reads on in the wide accumulator from the character `c`, `point` saying whether the point
has been read. A digit that would take the mantissa to `mantissaBound` rounds it instead after
the point and is refused before it. After the 28th digit past the point, a run of underscores is
passed over and the character after it rounds the mantissa. An underscore anywhere else is a
separator. -/
def readWide : Bool → Char → List Char → Nat → Nat → Except TextError (Nat × Nat)
  | point, c, rest, mantissa, scale =>
      if c.isDigit then
        let next := mantissa * 10 + digitValue c
        if mantissaBound ≤ next then
          if point then roundAt c rest mantissa scale else throw .tooManyDigits
        else
          let scale := if point then scale + 1 else scale
          match rest with
          | [] => pure (next, scale)
          | after :: more =>
              if point ∧ maxScale ≤ scale then
                if after = '_' then
                  match more.dropWhile (· = '_') with
                  | [] => pure (next, scale)
                  | d :: tail => roundAt d tail next scale
                else roundAt after more next scale
              else readWide point after more next scale
      else if c = '.' ∧ !point then
        match rest with
        | [] => pure (mantissa, scale)
        | after :: more => readWide true after more mantissa scale
      else if c = '_' then
        match rest with
        | [] => pure (mantissa, scale)
        | after :: more => readWide point after more mantissa scale
      else throw (TextError.ofCharacter c)

/-- Reads digits, at most one point, and underscores after a first digit into a mantissa and a
scale, in the narrow accumulator. `long` says the text has at least `longText` bytes: only then
can the mantissa reach `wideFrom`, where reading goes on in `readWide`, or the scale reach 28,
where the next character rounds the mantissa. At least one digit is needed. -/
def readNarrow (long : Bool) :
    List Char → Nat → Nat → Bool → Bool → Except TextError (Nat × Nat)
  | [], mantissa, scale, _, seen => if seen then pure (mantissa, scale) else throw .noDigits
  | c :: rest, mantissa, scale, point, seen =>
      if c.isDigit then
        let next := mantissa * 10 + digitValue c
        let scale := if point then scale + 1 else scale
        match rest with
        | [] => pure (next, scale)
        | after :: more =>
            if point ∧ long ∧ maxScale ≤ scale then roundAt after more next scale
            else if long ∧ wideFrom ≤ next then readWide point after more next scale
            else readNarrow long rest next scale point true
      else if c = '.' ∧ !point then readNarrow long rest mantissa scale true seen
      else if c = '_' ∧ seen then readNarrow long rest mantissa scale point seen
      else throw (TextError.ofCharacter c)

/-- Reads plain decimal text: a sign as the first character, then what `readNarrow` reads. -/
def ofPlainText (text : String) : Except TextError Decimal :=
  let (negative, body) := match text.toList with
    | '-' :: rest => (true, rest)
    | '+' :: rest => (false, rest)
    | cs => (false, cs)
  if text.isEmpty then throw .empty
  else do
    let (mantissa, scale) ← readNarrow (longText ≤ text.utf8ByteSize) body 0 0 false false
    build (negative && mantissa != 0) mantissa scale

/-- Reads an exponent as an unsigned 32-bit number: an optional `+` and then digits. -/
def readExponent (cs : List Char) : Except TextError Nat :=
  let digits := match cs with
    | '+' :: rest => rest
    | _ => cs
  if digits.isEmpty ∨ !digits.all Char.isDigit then throw .malformed
  else
    let value := digits.foldl (fun acc c => acc * 10 + digitValue c) 0
    if value < Nat.pow 2 32 then pure value else throw .malformed

/-- The mantissa with `places` digits taken off, rounded half away from zero. -/
def dropPlaces (mantissa places : Nat) : Nat :=
  match places with
  | 0 => mantissa
  | fewer + 1 =>
      let kept := mantissa / Nat.pow 10 (fewer + 1)
      if 5 * Nat.pow 10 fewer ≤ mantissa % Nat.pow 10 (fewer + 1) then kept + 1 else kept

/-- Reads `base e exponent` (or `E`): the base as plain text and the exponent as a 32-bit number
with an optional sign. A negative exponent of at most 28 adds to the scale, and past scale 28 the
mantissa is rounded to fit; a positive one first takes from the scale, and past it (up to 28)
multiplies the mantissa, giving scale `0`. -/
def ofScientific (text : String) : Except TextError Decimal := do
  let cs := text.toList
  let isMark : Char → Bool := fun c => c == 'e' || c == 'E'
  match cs.dropWhile (fun c => !isMark c) with
  | [] => throw .malformed
  | _ :: exponent =>
      let d ← ofPlainText (String.ofList (cs.takeWhile fun c => !isMark c))
      match exponent with
      | '-' :: digits =>
          let e ← readExponent digits
          if maxScale < e then throw (.scaleTooLarge e)
          else if d.scale + e ≤ maxScale then build d.negative d.mantissa (d.scale + e)
          else build d.negative (dropPlaces d.mantissa (d.scale + e - maxScale)) maxScale
      | digits =>
          let e ← readExponent digits
          if e ≤ d.scale then build d.negative d.mantissa (d.scale - e)
          else if maxScale < e then throw (.scaleTooLarge e)
          else
            let mantissa := d.mantissa * Nat.pow 10 (e - d.scale)
            if mantissa < mantissaBound then build (d.negative && mantissa != 0) mantissa 0
            else throw .tooLarge

/-- Reads a decimal: in scientific notation when the text has an `e` or an `E`, else plainly. -/
def ofText (text : String) : Except TextError Decimal :=
  if text.toList.any (fun c => c == 'e' || c == 'E') then ofScientific text else ofPlainText text

end Decimal

end RelMap
