/-!
# Dates, times of day and instants

Proleptic Gregorian dates, times of day with nanoseconds, their combination, and instants that
carry a fixed offset from UTC. Two instants are equal when they name the same moment, whatever
their offsets.

Each type has two texts. The fixed text pads every field (`2025-03-14 01:30:00.000000000 +02:00:00`)
and is what readers accept, with the fraction optional and the offset's seconds optional; readers
take each field as an unsigned number, which may also be unpadded or carry a `+`. The
display text leaves the hour unpadded and writes the fraction with its trailing zeros removed but
at least one digit (`2025-03-14 1:30:00.0 +02:00:00`).
-/

namespace RelMap

set_option autoImplicit false

/-- A calendar date. -/
structure Date where
  year : Int
  month : Nat
  day : Nat
  deriving DecidableEq, Repr, Inhabited

/-- A time of day. -/
structure TimeOfDay where
  hour : Nat
  minute : Nat
  second : Nat
  nanosecond : Nat
  deriving DecidableEq, Repr, Inhabited

/-- A date and a time of day, without an offset. -/
structure DateTime where
  date : Date
  time : TimeOfDay
  deriving DecidableEq, Repr, Inhabited

/-- A signed offset from UTC, in seconds. -/
structure UtcOffset where
  seconds : Int
  deriving DecidableEq, Repr, Inhabited

/-- A local date and time together with its offset from UTC. -/
structure OffsetDateTime where
  dateTime : DateTime
  offset : UtcOffset
  deriving Repr, Inhabited

/-- Zero-padded decimal text of a natural number. -/
def padded (width n : Nat) : String :=
  let digits := Nat.toDigits 10 n
  String.ofList (List.replicate (width - digits.length) '0' ++ digits)

/-- Reads a run of decimal digits making up the whole list. -/
def readDigits (cs : List Char) : Option Nat :=
  if cs.isEmpty ∨ !cs.all Char.isDigit then none
  else some (cs.foldl (fun acc c => acc * 10 + (c.toNat - '0'.toNat)) 0)

/-- Reads the text of an unsigned number, which is how every field of the texts below is read:
an optional `+` and then one or more decimal digits, making up the whole list. -/
def readUnsigned : List Char → Option Nat
  | '+' :: rest => readDigits rest
  | cs => readDigits cs

namespace Date

def isLeapYear (year : Int) : Bool :=
  (year % 4 == 0 && year % 100 != 0) || year % 400 == 0

def daysInMonth (year : Int) (month : Nat) : Nat :=
  match month with
  | 2 => if isLeapYear year then 29 else 28
  | 4 | 6 | 9 | 11 => 30
  | _ => 31

def isValid (d : Date) : Bool :=
  1 ≤ d.month && d.month ≤ 12 && 1 ≤ d.day && d.day ≤ daysInMonth d.year d.month

/-- Dates keep to years of at most four digits on either side of year zero. -/
def isInRange (d : Date) : Bool := -9999 ≤ d.year && d.year ≤ 9999

/-- Days since 1970-01-01. -/
def toDays (d : Date) : Int :=
  let year := if d.month ≤ 2 then d.year - 1 else d.year
  let era := year / 400
  let yearOfEra := year - era * 400
  let shifted : Int := if d.month > 2 then (d.month : Int) - 3 else (d.month : Int) + 9
  let dayOfYear := (153 * shifted + 2) / 5 + (d.day : Int) - 1
  let dayOfEra := yearOfEra * 365 + yearOfEra / 4 - yearOfEra / 100 + dayOfYear
  era * 146097 + dayOfEra - 719468

/-- The date `days` days after 1970-01-01. -/
def ofDays (days : Int) : Date :=
  let z := days + 719468
  let era := z / 146097
  let dayOfEra := z - era * 146097
  let yearOfEra := (dayOfEra - dayOfEra / 1460 + dayOfEra / 36524 - dayOfEra / 146096) / 365
  let dayOfYear := dayOfEra - (365 * yearOfEra + yearOfEra / 4 - yearOfEra / 100)
  let shifted := (5 * dayOfYear + 2) / 153
  let day := dayOfYear - (153 * shifted + 2) / 5 + 1
  let month := if shifted < 10 then shifted + 3 else shifted - 9
  let year := yearOfEra + era * 400
  { year := if month ≤ 2 then year + 1 else year, month := month.toNat, day := day.toNat }

/-- `YYYY-MM-DD`. The year is zero-padded to four characters, and for a negative year the sign
is one of the four: year `-1` is written `-001`. -/
def toText (d : Date) : String :=
  let year := if d.year < 0 then "-" ++ padded 3 d.year.natAbs else padded 4 d.year.natAbs
  year ++ "-" ++ padded 2 d.month ++ "-" ++ padded 2 d.day

/-- Reads `YYYY-MM-DD` (a leading `-` for years before the common era). -/
def ofText? (text : String) : Option Date :=
  let (negative, body) := match text.toList with
    | '-' :: rest => (true, rest)
    | cs => (false, cs)
  match (String.ofList body).splitOn "-" with
  | [y, m, d] => do
      let year ← readUnsigned y.toList
      let month ← readUnsigned m.toList
      let day ← readUnsigned d.toList
      let date : Date := { year := if negative then -(year : Int) else year, month, day }
      if date.isValid then some date else none
  | _ => none

end Date

namespace TimeOfDay

def midnight : TimeOfDay := ⟨0, 0, 0, 0⟩

def isValid (t : TimeOfDay) : Bool :=
  t.hour < 24 && t.minute < 60 && t.second < 60 && t.nanosecond < 1000000000

/-- Nanoseconds since midnight. -/
def toNanos (t : TimeOfDay) : Nat :=
  ((t.hour * 60 + t.minute) * 60 + t.second) * 1000000000 + t.nanosecond

/-- The time `nanos` nanoseconds after midnight, for `nanos` below one day. -/
def ofNanos (nanos : Nat) : TimeOfDay :=
  let seconds := nanos / 1000000000
  { hour := seconds / 3600, minute := seconds / 60 % 60, second := seconds % 60,
    nanosecond := nanos % 1000000000 }

/-- The nanoseconds as nine digits with the trailing zeros removed, at least one digit kept. -/
def fractionText (nanosecond : Nat) : String :=
  let digits := (padded 9 nanosecond).toList
  let kept := (digits.reverse.dropWhile (· = '0')).reverse
  String.ofList (if kept.isEmpty then ['0'] else kept)

/-- `H:MM:SS.f`: the hour unpadded, the fraction without trailing zeros. -/
def display (t : TimeOfDay) : String :=
  toString t.hour ++ ":" ++ padded 2 t.minute ++ ":" ++ padded 2 t.second ++ "." ++
    fractionText t.nanosecond

/-- `HH:MM:SS.nnnnnnnnn`. -/
def toText (t : TimeOfDay) : String :=
  padded 2 t.hour ++ ":" ++ padded 2 t.minute ++ ":" ++ padded 2 t.second ++ "." ++
    padded 9 t.nanosecond

/-- Reads `HH:MM:SS` with an optional fraction after a point. The fraction counts nanoseconds once
padded with zeros on the right to nine places, so an empty fraction is zero. -/
def ofText? (text : String) : Option TimeOfDay :=
  match text.splitOn ":" with
  | [h, m, s] => do
      let hour ← readUnsigned h.toList
      let minute ← readUnsigned m.toList
      let (whole, fraction) := match s.splitOn "." with
        | [w] => (w, none)
        | [w, f] => (w, some f.toList)
        | _ => ("?", none)
      let second ← readUnsigned whole.toList
      let nanosecond ← match fraction with
        | none => some 0
        | some f => readUnsigned (f ++ List.replicate (9 - f.length) '0')
      let time : TimeOfDay := { hour, minute, second, nanosecond }
      if time.isValid then some time else none
  | _ => none

end TimeOfDay

namespace DateTime

/-- Nanoseconds since 1970-01-01 00:00. -/
def toNanos (t : DateTime) : Int :=
  t.date.toDays * 86400000000000 + (t.time.toNanos : Int)

/-- The date and time `nanos` nanoseconds after 1970-01-01 00:00. -/
def ofNanos (nanos : Int) : DateTime :=
  let day := 86400000000000
  { date := Date.ofDays (nanos / day), time := TimeOfDay.ofNanos (nanos % day).toNat }

def display (t : DateTime) : String := t.date.toText ++ " " ++ t.time.display

def toText (t : DateTime) : String := t.date.toText ++ " " ++ t.time.toText

/-- Reads a date and a time separated by one space. -/
def ofText? (text : String) : Option DateTime :=
  match text.splitOn " " with
  | [d, t] => do
      let date ← Date.ofText? d
      let time ← TimeOfDay.ofText? t
      some { date, time }
  | _ => none

end DateTime

namespace UtcOffset

def utc : UtcOffset := ⟨0⟩

/-- `±HH:MM:SS`, `+` for UTC itself. -/
def toText (o : UtcOffset) : String :=
  let total := o.seconds.natAbs
  (if o.seconds < 0 then "-" else "+") ++ padded 2 (total / 3600) ++ ":" ++
    padded 2 (total / 60 % 60) ++ ":" ++ padded 2 (total % 60)

/-- Reads `±HH:MM` or `±HH:MM:SS`. -/
def ofText? (text : String) : Option UtcOffset :=
  let (negative, body) := match text.toList with
    | '-' :: rest => (some true, rest)
    | '+' :: rest => (some false, rest)
    | cs => (none, cs)
  match negative with
  | none => none
  | some negative =>
      let fields := (String.ofList body).splitOn ":"
      let values := fields.filterMap fun field => readUnsigned field.toList
      if values.length != fields.length then none
      else
        let total? : Option Nat := match values with
          | [h, m] => if h < 26 ∧ m < 60 then some (h * 3600 + m * 60) else none
          | [h, m, s] => if h < 26 ∧ m < 60 ∧ s < 60 then some (h * 3600 + m * 60 + s) else none
          | _ => none
        total?.map fun total => ⟨if negative then -(total : Int) else total⟩

end UtcOffset

namespace OffsetDateTime

/-- Nanoseconds of the instant since 1970-01-01 00:00 UTC. -/
def toUtcNanos (t : OffsetDateTime) : Int :=
  t.dateTime.toNanos - t.offset.seconds * 1000000000

/-- The same instant seen at UTC. -/
def toUtc (t : OffsetDateTime) : DateTime := DateTime.ofNanos t.toUtcNanos

/-- The same instant seen at UTC, when its date stays in range (`Date.isInRange`). -/
def toUtc? (t : OffsetDateTime) : Option DateTime :=
  let u := t.toUtc
  if u.date.isInRange then some u else none

/-- A local date and time taken to be at UTC. -/
def assumeUtc (t : DateTime) : OffsetDateTime := ⟨t, UtcOffset.utc⟩

/-- Equal when they name the same instant. -/
def beq (a b : OffsetDateTime) : Bool := a.toUtcNanos == b.toUtcNanos

instance : BEq OffsetDateTime := ⟨beq⟩

def display (t : OffsetDateTime) : String := t.dateTime.display ++ " " ++ t.offset.toText

def toText (t : OffsetDateTime) : String := t.dateTime.toText ++ " " ++ t.offset.toText

/-- Reads a date, a time and an offset separated by single spaces. -/
def ofText? (text : String) : Option OffsetDateTime :=
  match text.splitOn " " with
  | [d, t, o] => do
      let date ← Date.ofText? d
      let time ← TimeOfDay.ofText? t
      let offset ← UtcOffset.ofText? o
      some ⟨{ date, time }, offset⟩
  | _ => none

end OffsetDateTime

end RelMap
