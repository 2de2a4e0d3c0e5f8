import RelMap.Float.Binary
import RelMap.Decimal.Basic
import RelMap.Calendar
import RelMap.Uuid

/-!
# Native values

A native value is what a database column holds: one of a fixed set of column types, each with an
optional payload. A value without payload is the typed NULL of its type, and a typed NULL also
describes a column type. A list carries, beside its items, the descriptor of its element type.

Two values have the same type when their tags agree and, for lists, their element descriptors
have the same type. Equality compares payloads by meaning (floats numerically, so a NaN equals
nothing; decimals by value; instants by the moment they name); two lists are equal when their
items are and their element types agree; two payload-free `null`s are equal.
-/

namespace RelMap

set_option autoImplicit false

open RelMap.Float

/-- A value as stored in a column. -/
inductive Value where
  | null
  | boolean (v : Option Bool)
  | int8 (v : Option Int8)
  | int16 (v : Option Int16)
  | int32 (v : Option Int32)
  | int64 (v : Option Int64)
  | uint8 (v : Option UInt8)
  | uint16 (v : Option UInt16)
  | uint32 (v : Option UInt32)
  | uint64 (v : Option UInt64)
  | float32 (v : Option Binary32)
  | float64 (v : Option Binary64)
  | decimal (v : Option Decimal)
  | varchar (v : Option String)
  | blob (v : Option (List UInt8))
  | date (v : Option Date)
  | time (v : Option TimeOfDay)
  | timestamp (v : Option DateTime)
  | timestampTz (v : Option OffsetDateTime)
  | uuid (v : Option Uuid)
  /-- Items (none for NULL) and the descriptor of the element type. -/
  | list (items : Option (List Value)) (element : Value)
  deriving Inhabited

/-- The column type of a value, without its payload. -/
inductive Value.Tag where
  | null | boolean | int8 | int16 | int32 | int64 | uint8 | uint16 | uint32 | uint64
  | float32 | float64 | decimal | varchar | blob | date | time | timestamp | timestampTz
  | uuid | list
  deriving DecidableEq, Repr, Inhabited

namespace Value

def tag : Value → Tag
  | .null => .null
  | .boolean _ => .boolean
  | .int8 _ => .int8
  | .int16 _ => .int16
  | .int32 _ => .int32
  | .int64 _ => .int64
  | .uint8 _ => .uint8
  | .uint16 _ => .uint16
  | .uint32 _ => .uint32
  | .uint64 _ => .uint64
  | .float32 _ => .float32
  | .float64 _ => .float64
  | .decimal _ => .decimal
  | .varchar _ => .varchar
  | .blob _ => .blob
  | .date _ => .date
  | .time _ => .time
  | .timestamp _ => .timestamp
  | .timestampTz _ => .timestampTz
  | .uuid _ => .uuid
  | .list _ _ => .list

/-- Same tag and, for lists, element descriptors of the same type. -/
def sameType : Value → Value → Bool
  | .list _ a, .list _ b => sameType a b
  | a, b => a.tag == b.tag

/-- A value without payload: `null` or a typed NULL. -/
def isNull : Value → Bool
  | .null => true
  | .boolean v => v.isNone
  | .int8 v => v.isNone
  | .int16 v => v.isNone
  | .int32 v => v.isNone
  | .int64 v => v.isNone
  | .uint8 v => v.isNone
  | .uint16 v => v.isNone
  | .uint32 v => v.isNone
  | .uint64 v => v.isNone
  | .float32 v => v.isNone
  | .float64 v => v.isNone
  | .decimal v => v.isNone
  | .varchar v => v.isNone
  | .blob v => v.isNone
  | .date v => v.isNone
  | .time v => v.isNone
  | .timestamp v => v.isNone
  | .timestampTz v => v.isNone
  | .uuid v => v.isNone
  | .list items _ => items.isNone

/-- The typed NULL of the value's type: its descriptor. A list keeps its element descriptor. -/
def asNull : Value → Value
  | .null => .null
  | .boolean _ => .boolean none
  | .int8 _ => .int8 none
  | .int16 _ => .int16 none
  | .int32 _ => .int32 none
  | .int64 _ => .int64 none
  | .uint8 _ => .uint8 none
  | .uint16 _ => .uint16 none
  | .uint32 _ => .uint32 none
  | .uint64 _ => .uint64 none
  | .float32 _ => .float32 none
  | .float64 _ => .float64 none
  | .decimal _ => .decimal none
  | .varchar _ => .varchar none
  | .blob _ => .blob none
  | .date _ => .date none
  | .time _ => .time none
  | .timestamp _ => .timestamp none
  | .timestampTz _ => .timestampTz none
  | .uuid _ => .uuid none
  | .list _ element => .list none element

/-- The descriptor of a list of `element`. -/
def listOf (element : Value) : Value := .list none element.asNull

/-- The element descriptor of a list. -/
def elementType? : Value → Option Value
  | .list _ element => some element
  | _ => none

def isIntegerType (v : Value) : Bool :=
  match v.tag with
  | .int8 | .int16 | .int32 | .int64 | .uint8 | .uint16 | .uint32 | .uint64 => true
  | _ => false

/-- NULL or an integer zero: a value the database is to generate. -/
def isUnset (v : Value) : Bool :=
  v.isNull ||
    match v with
    | .int8 (some n) => n == 0
    | .int16 (some n) => n == 0
    | .int32 (some n) => n == 0
    | .int64 (some n) => n == 0
    | .uint8 (some n) => n == 0
    | .uint16 (some n) => n == 0
    | .uint32 (some n) => n == 0
    | .uint64 (some n) => n == 0
    | _ => false

/-- Equality of optional payloads under a payload equality. -/
def optionEq {α : Type} (eq : α → α → Bool) : Option α → Option α → Bool
  | none, none => true
  | some a, some b => eq a b
  | _, _ => false

mutual

/-- Equality by meaning, see the module header. -/
def beq : Value → Value → Bool
  | .boolean a, .boolean b => a == b
  | .int8 a, .int8 b => a == b
  | .int16 a, .int16 b => a == b
  | .int32 a, .int32 b => a == b
  | .int64 a, .int64 b => a == b
  | .uint8 a, .uint8 b => a == b
  | .uint16 a, .uint16 b => a == b
  | .uint32 a, .uint32 b => a == b
  | .uint64 a, .uint64 b => a == b
  | .float32 a, .float32 b => optionEq Binary.beq a b
  | .float64 a, .float64 b => optionEq Binary.beq a b
  | .decimal a, .decimal b => optionEq Decimal.beq a b
  | .varchar a, .varchar b => a == b
  | .blob a, .blob b => a == b
  | .date a, .date b => a == b
  | .time a, .time b => a == b
  | .timestamp a, .timestamp b => a == b
  | .timestampTz a, .timestampTz b => optionEq OffsetDateTime.beq a b
  | .uuid a, .uuid b => a == b
  | .list a ea, .list b eb => itemsEq a b && sameType ea eb
  | a, b => a.tag == b.tag

/-- Equality of optional item lists. -/
def itemsEq : Option (List Value) → Option (List Value) → Bool
  | none, none => true
  | some a, some b => listEq a b
  | _, _ => false

/-- Item by item equality of two lists of the same length. -/
def listEq : List Value → List Value → Bool
  | [], [] => true
  | a :: as, b :: bs => beq a b && listEq as bs
  | _, _ => false

end

instance : BEq Value := ⟨beq⟩

end Value

end RelMap
