import RelMap.Datum.Basic
import RelMap.Decimal.Convert

/-!
# Primitive types and their native values

Each primitive type has a native column type: its typed NULL is the type's descriptor, and a
datum of the type becomes the native value with the same payload.

Reading a native value back accepts more than that:
- an integer type reads any integer value whose number is in its range, and an integral decimal
  in its range;
- `bool` reads a boolean, or any integer (true when nonzero);
- `f32` reads a 32-bit float, a 64-bit float (rounded) or a decimal; `f64` reads a 64-bit float,
  a 32-bit float, a 32-bit integer or a decimal;
- a decimal reads a decimal, a 32- or 64-bit integer, or a finite 64-bit float in range;
- a byte string reads bytes or the UTF-8 bytes of a text; a UUID reads a UUID or its text;
- a timestamp reads an instant at UTC, and an instant reads a timestamp taken to be at UTC; an
  instant whose UTC date leaves the range of dates stops the run (`Problem.abort`).
Anything else, typed NULLs included, is refused with `Cannot convert V to T`.
-/

namespace RelMap

set_option autoImplicit false

open RelMap.Float

/-- The types with a direct native column type. -/
inductive Primitive where
  | bool | i8 | i16 | i32 | i64 | u8 | u16 | u32 | u64 | f32 | f64
  | string | decimal | date | time | timestamp | timestamptz | uuid | blob
  deriving DecidableEq, Repr, Inhabited

namespace Primitive

/-- Every primitive type, in registration order. -/
def all : List Primitive :=
  [.bool, .i8, .i16, .i32, .i64, .u8, .u16, .u32, .u64, .f32, .f64, .string, .decimal, .date,
    .time, .timestamp, .timestamptz, .uuid, .blob]

/-- The datum type of a primitive. -/
def type : Primitive → DatumType
  | .bool => .bool
  | .i8 => .i8
  | .i16 => .i16
  | .i32 => .i32
  | .i64 => .i64
  | .u8 => .u8
  | .u16 => .u16
  | .u32 => .u32
  | .u64 => .u64
  | .f32 => .f32
  | .f64 => .f64
  | .string => .string
  | .decimal => .decimal
  | .date => .date
  | .time => .time
  | .timestamp => .timestamp
  | .timestamptz => .timestamptz
  | .uuid => .uuid
  | .blob => .blob

/-- The primitive of a datum type, if it is one. -/
def ofType? : DatumType → Option Primitive
  | .bool => some .bool
  | .i8 => some .i8
  | .i16 => some .i16
  | .i32 => some .i32
  | .i64 => some .i64
  | .u8 => some .u8
  | .u16 => some .u16
  | .u32 => some .u32
  | .u64 => some .u64
  | .f32 => some .f32
  | .f64 => some .f64
  | .string => some .string
  | .decimal => some .decimal
  | .date => some .date
  | .time => some .time
  | .timestamp => some .timestamp
  | .timestamptz => some .timestamptz
  | .uuid => some .uuid
  | .blob => some .blob
  | _ => none

def name (p : Primitive) : String := p.type.name

/-- The typed NULL of the primitive's column type. -/
def emptyValue : Primitive → Value
  | .bool => .boolean none
  | .i8 => .int8 none
  | .i16 => .int16 none
  | .i32 => .int32 none
  | .i64 => .int64 none
  | .u8 => .uint8 none
  | .u16 => .uint16 none
  | .u32 => .uint32 none
  | .u64 => .uint64 none
  | .f32 => .float32 none
  | .f64 => .float64 none
  | .string => .varchar none
  | .decimal => .decimal none
  | .date => .date none
  | .time => .time none
  | .timestamp => .timestamp none
  | .timestamptz => .timestampTz none
  | .uuid => .uuid none
  | .blob => .blob none

end Primitive

namespace Datum

/-- The native value of a primitive datum; other data have none. -/
def toValue? : Datum → Option Value
  | .bool b => some (.boolean (some b))
  | .i8 n => some (.int8 (some n))
  | .i16 n => some (.int16 (some n))
  | .i32 n => some (.int32 (some n))
  | .i64 n => some (.int64 (some n))
  | .u8 n => some (.uint8 (some n))
  | .u16 n => some (.uint16 (some n))
  | .u32 n => some (.uint32 (some n))
  | .u64 n => some (.uint64 (some n))
  | .f32 x => some (.float32 (some x))
  | .f64 x => some (.float64 (some x))
  | .string s => some (.varchar (some s))
  | .decimal d => some (.decimal (some d))
  | .date d => some (.date (some d))
  | .time t => some (.time (some t))
  | .timestamp t => some (.timestamp (some t))
  | .timestamptz t => some (.timestampTz (some t))
  | .uuid u => some (.uuid (some u))
  | .blob bytes => some (.blob (some bytes))
  | _ => none

end Datum

namespace Value

/-- The number of an integer value with a payload. -/
def integer? : Value → Option Int
  | .int8 (some n) => some n.toInt
  | .int16 (some n) => some n.toInt
  | .int32 (some n) => some n.toInt
  | .int64 (some n) => some n.toInt
  | .uint8 (some n) => some n.toNat
  | .uint16 (some n) => some n.toNat
  | .uint32 (some n) => some n.toNat
  | .uint64 (some n) => some n.toNat
  | _ => none

end Value

/-- Bounds of the integer primitives, and their data: `-2^(n-1)` to `2^(n-1) - 1` for the signed
types of `n` bits, `0` to `2^n - 1` for the unsigned ones. -/
def Primitive.intRange : Primitive → Option (Int × Int)
  | .i8 => some (-128, 127)
  | .i16 => some (-32768, 32767)
  | .i32 => some (-2147483648, 2147483647)
  | .i64 => some (-9223372036854775808, 9223372036854775807)
  | .u8 => some (0, 255)
  | .u16 => some (0, 65535)
  | .u32 => some (0, 4294967295)
  | .u64 => some (0, 18446744073709551615)
  | _ => none

/-- The datum of an integer primitive holding `n`, for `n` in its range. -/
def Primitive.intDatum : Primitive → Int → Datum
  | .i8, n => .i8 (Int8.ofInt n)
  | .i16, n => .i16 (Int16.ofInt n)
  | .i32, n => .i32 (Int32.ofInt n)
  | .i64, n => .i64 (Int64.ofInt n)
  | .u8, n => .u8 (UInt8.ofNat n.toNat)
  | .u16, n => .u16 (UInt16.ofNat n.toNat)
  | .u32, n => .u32 (UInt32.ofNat n.toNat)
  | _, n => .u64 (UInt64.ofNat n.toNat)

/-- Bytes of a text in UTF-8. -/
def utf8Bytes (s : String) : List UInt8 := s.toUTF8.toList

namespace Primitive

/-- The native value of a datum of the primitive's type. -/
def encode (p : Primitive) (d : Datum) : Outcome Value := do
  let d ← d.get p.type
  match d.toValue? with
  | some v => .ok v
  | none => Outcome.fail (.typeMismatch p.name d.typeName)

/-- `Cannot convert V to T`. -/
def refuse (p : Primitive) (v : Value) : Outcome Datum :=
  Outcome.fail (.cannotConvert v.render p.name)

/-- An integer primitive read from a native value: integers of any width in range, and integral
decimals in range. -/
def decodeInteger (p : Primitive) (lo hi : Int) (v : Value) : Outcome Datum :=
  let inRange (n : Int) : Outcome Datum :=
    if lo ≤ n ∧ n ≤ hi then .ok (p.intDatum n) else Outcome.fail (.outOfRange n p.name)
  match v.integer? with
  | some n => inRange n
  | none =>
      match v with
      | .decimal (some d) =>
          if d.isInteger then inRange d.truncate
          else .error ⟨[.notInteger], .decimalFit d.toText p.name⟩
      | _ => p.refuse v

/-- The datum of the primitive's type read from a native value, see the module header. -/
def decode (p : Primitive) (v : Value) : Outcome Datum :=
  match p.intRange with
  | some (lo, hi) => p.decodeInteger lo hi v
  | none =>
    match p, v with
    | .bool, .boolean (some b) => .ok (.bool b)
    | .bool, _ => match v.integer? with
      | some n => .ok (.bool (n != 0))
      | none => p.refuse v
    | .f32, .float32 (some x) => .ok (.f32 x)
    | .f32, .float64 (some x) => .ok (.f32 (x.convert Format.single))
    | .f32, .decimal (some d) => .ok (.f32 d.toBinary32)
    | .f64, .float64 (some x) => .ok (.f64 x)
    | .f64, .float32 (some x) => .ok (.f64 (x.convert Format.double))
    | .f64, .int32 (some n) => .ok (.f64 (Binary.ofInt Format.double n.toInt))
    | .f64, .decimal (some d) => .ok (.f64 d.toBinary64)
    | .decimal, .decimal (some d) => .ok (.decimal d)
    | .decimal, .int64 (some n) => .ok (.decimal (Decimal.ofInt64 n))
    | .decimal, .int32 (some n) => .ok (.decimal (Decimal.ofInt32 n))
    | .decimal, .float64 (some x) =>
        match Decimal.ofBinary64? x with
        | some d => .ok (.decimal d)
        | none => Outcome.fail .decimalConversion
    | .string, .varchar (some s) => .ok (.string s)
    | .blob, .blob (some bytes) => .ok (.blob bytes)
    | .blob, .varchar (some s) => .ok (.blob (utf8Bytes s))
    | .date, .date (some d) => .ok (.date d)
    | .time, .time (some t) => .ok (.time t)
    | .timestamp, .timestamp (some t) => .ok (.timestamp t)
    | .timestamp, .timestampTz (some t) =>
        match t.toUtc? with
        | some u => .ok (.timestamp u)
        | none => Outcome.fail (.abort "local datetime out of valid range")
    | .timestamptz, .timestampTz (some t) => .ok (.timestamptz t)
    | .timestamptz, .timestamp (some t) => .ok (.timestamptz (OffsetDateTime.assumeUtc t))
    | .uuid, .uuid (some u) => .ok (.uuid u)
    | .uuid, .varchar (some s) =>
        match Uuid.ofText s with
        | .ok u => .ok (.uuid u)
        | .error e => Outcome.fail (.uuid e)
    | _, _ => p.refuse v

end Primitive

end RelMap
