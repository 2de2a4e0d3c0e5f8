import RelMap.Value.Render
import RelMap.Fault
import RelMap.Fields

/-!
# Semantic values

A datum is a value as the program sees it, or NULL. Beside the primitive types (booleans, sized
integers, floats, text, decimals, dates and times, identifiers, byte strings) a datum may hold a
sequence of data, a native value as it is, a book number, a location, a composite of named data,
or one of four nominal wrappers around another datum, which stand for user types defined through
another type.

Each datum type has a name, which messages use. Reading a datum as a type succeeds only when the
datum holds exactly that type: `Expected a value of type T but found U`, with `NULL` for the null
datum. Equality holds between data of the same type whose values are equal by that type's own
equality (floats numerically, decimals by value, instants by moment, sequences item by item).
-/

namespace RelMap

set_option autoImplicit false

open RelMap.Float

/-- The four nominal wrapper types. -/
inductive Wrapper where
  | a | b | c | d
  deriving DecidableEq, Repr, Inhabited

def Wrapper.label : Wrapper → String
  | .a => "A"
  | .b => "B"
  | .c => "C"
  | .d => "D"

/-- The types a datum can hold. -/
inductive DatumType where
  | bool | i8 | i16 | i32 | i64 | u8 | u16 | u32 | u64 | f32 | f64
  | string | decimal | date | time | timestamp | timestamptz | uuid | blob
  /-- A sequence of data. -/
  | list
  /-- A native value held as it is. -/
  | native
  | isbn | location | composite
  | wrapper (w : Wrapper)
  deriving DecidableEq, Repr, Inhabited

namespace DatumType

/-- The name of the type in messages. -/
def name : DatumType → String
  | .bool => "bool"
  | .i8 => "i8"
  | .i16 => "i16"
  | .i32 => "i32"
  | .i64 => "i64"
  | .u8 => "u8"
  | .u16 => "u16"
  | .u32 => "u32"
  | .u64 => "u64"
  | .f32 => "f32"
  | .f64 => "f64"
  | .string => "alloc::string::String"
  | .decimal => "rust_decimal::decimal::Decimal"
  | .date => "time::date::Date"
  | .time => "time::time::Time"
  | .timestamp => "time::plain_date_time::PlainDateTime"
  | .timestamptz => "time::offset_date_time::OffsetDateTime"
  | .uuid => "uuid::Uuid"
  | .blob => "alloc::vec::Vec<u8>"
  | .list => "alloc::vec::Vec<quarry_core::datum::Datum>"
  | .native => "quarry_core::value::Value"
  | .isbn => "quarry_tests::library::Isbn"
  | .location => "quarry_tests::library::Location"
  | .composite => "quarry_oracle::Composite"
  | .wrapper w => "quarry_oracle::" ++ w.label

end DatumType

/-- A semantic value, or NULL. -/
inductive Datum where
  | null
  | bool (b : Bool)
  | i8 (n : Int8)
  | i16 (n : Int16)
  | i32 (n : Int32)
  | i64 (n : Int64)
  | u8 (n : UInt8)
  | u16 (n : UInt16)
  | u32 (n : UInt32)
  | u64 (n : UInt64)
  | f32 (x : Binary32)
  | f64 (x : Binary64)
  | string (s : String)
  | decimal (d : Decimal)
  | date (d : Date)
  | time (t : TimeOfDay)
  | timestamp (t : DateTime)
  | timestamptz (t : OffsetDateTime)
  | uuid (u : Uuid)
  | blob (bytes : List UInt8)
  | list (items : List Datum)
  | native (v : Value)
  | isbn (code : String)
  | location (city country : String)
  /-- Named data, sorted by name. -/
  | composite (entries : List (String × Datum))
  | wrapped (w : Wrapper) (inner : Datum)
  deriving Inhabited

namespace Datum

/-- The type held, none for NULL. -/
def type? : Datum → Option DatumType
  | .null => none
  | .bool _ => some .bool
  | .i8 _ => some .i8
  | .i16 _ => some .i16
  | .i32 _ => some .i32
  | .i64 _ => some .i64
  | .u8 _ => some .u8
  | .u16 _ => some .u16
  | .u32 _ => some .u32
  | .u64 _ => some .u64
  | .f32 _ => some .f32
  | .f64 _ => some .f64
  | .string _ => some .string
  | .decimal _ => some .decimal
  | .date _ => some .date
  | .time _ => some .time
  | .timestamp _ => some .timestamp
  | .timestamptz _ => some .timestamptz
  | .uuid _ => some .uuid
  | .blob _ => some .blob
  | .list _ => some .list
  | .native _ => some .native
  | .isbn _ => some .isbn
  | .location _ _ => some .location
  | .composite _ => some .composite
  | .wrapped w _ => some (.wrapper w)

def isNull (d : Datum) : Bool := d.type?.isNone

/-- The name of the type held, `NULL` for the null datum. -/
def typeName (d : Datum) : String :=
  match d.type? with
  | some t => t.name
  | none => "NULL"

mutual

/-- Equality of data: the same type, and values equal by that type's equality. -/
def beq : Datum → Datum → Bool
  | .null, .null => true
  | .bool a, .bool b => a == b
  | .i8 a, .i8 b => a == b
  | .i16 a, .i16 b => a == b
  | .i32 a, .i32 b => a == b
  | .i64 a, .i64 b => a == b
  | .u8 a, .u8 b => a == b
  | .u16 a, .u16 b => a == b
  | .u32 a, .u32 b => a == b
  | .u64 a, .u64 b => a == b
  | .f32 a, .f32 b => a.beq b
  | .f64 a, .f64 b => a.beq b
  | .string a, .string b => a == b
  | .decimal a, .decimal b => a.beq b
  | .date a, .date b => a == b
  | .time a, .time b => a == b
  | .timestamp a, .timestamp b => a == b
  | .timestamptz a, .timestamptz b => a.beq b
  | .uuid a, .uuid b => a == b
  | .blob a, .blob b => a == b
  | .list a, .list b => listEq a b
  | .native a, .native b => a.beq b
  | .isbn a, .isbn b => a == b
  | .location c1 k1, .location c2 k2 => c1 == c2 && k1 == k2
  | .composite a, .composite b => entriesEq a b
  | .wrapped w a, .wrapped v b => w == v && beq a b
  | _, _ => false

/-- Item by item equality. -/
def listEq : List Datum → List Datum → Bool
  | [], [] => true
  | a :: as, b :: bs => beq a b && listEq as bs
  | _, _ => false

/-- Entry by entry equality of sorted named data. -/
def entriesEq : List (String × Datum) → List (String × Datum) → Bool
  | [], [] => true
  | (k, a) :: as, (l, b) :: bs => k == l && beq a b && entriesEq as bs
  | _, _ => false

end

instance : BEq Datum := ⟨beq⟩

mutual

/-- The text of a datum in messages: the value's own text, sequences as `[a, b]`, `NULL` for the
null datum. -/
def render : Datum → String
  | .null => "NULL"
  | .bool b => toString b
  | .i8 n => toString n.toInt
  | .i16 n => toString n.toInt
  | .i32 n => toString n.toInt
  | .i64 n => toString n.toInt
  | .u8 n => toString n.toNat
  | .u16 n => toString n.toNat
  | .u32 n => toString n.toNat
  | .u64 n => toString n.toNat
  | .f32 x => x.toText
  | .f64 x => x.toText
  | .string s => Text.quote s
  | .decimal d => d.toText
  | .date d => d.toText
  | .time t => t.display
  | .timestamp t => t.display
  | .timestamptz t => t.display
  | .uuid u => u.toText
  | .blob bytes => Value.bracketed (bytes.map fun b => toString b.toNat)
  | .list items => "[" ++ renderList items ++ "]"
  | .native v => v.render
  | .isbn code => "Isbn(" ++ Text.quote code ++ ")"
  | .location city country =>
      "Location \x7b city: " ++ Text.quote city ++ ", country: " ++ Text.quote country ++ " \x7d"
  | .composite entries => "Composite(\x7b" ++ renderEntries entries ++ "\x7d)"
  | .wrapped w inner => w.label ++ "(" ++ render inner ++ ")"

def renderList : List Datum → String
  | [] => ""
  | [d] => render d
  | d :: rest => render d ++ ", " ++ renderList rest

def renderEntries : List (String × Datum) → String
  | [] => ""
  | [(k, d)] => Text.quote k ++ ": " ++ render d
  | (k, d) :: rest => Text.quote k ++ ": " ++ render d ++ ", " ++ renderEntries rest

end

/-- The datum itself when it holds the type `t`; any other datum, NULL included, is refused. -/
def get (t : DatumType) (d : Datum) : Outcome Datum :=
  if d.type? = some t then .ok d else Outcome.fail (.typeMismatch t.name d.typeName)

/-- Like `get`, but NULL is accepted as NULL. -/
def getOpt (t : DatumType) (d : Datum) : Outcome Datum :=
  if d.isNull then .ok .null else d.get t

/-- The items of a sequence. -/
def asList (d : Datum) : Outcome (List Datum) :=
  match d with
  | .list items => .ok items
  | _ => Outcome.fail (.typeMismatch DatumType.list.name d.typeName)

/-- The items of a sequence, each read as the type `t`. -/
def toVec (t : DatumType) (d : Datum) : Outcome (List Datum) := do
  let items ← d.asList
  items.mapM (get t)

end Datum

end RelMap
