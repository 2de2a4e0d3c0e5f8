import RelMap.Value.Basic
import RelMap.Float.Text
import RelMap.Text.Quoted

/-!
# Text of native values in messages

A value is written as its tag applied to its optional payload: `Null`, `Int32(None)`,
`Int32(Some(1))`, `Varchar(Some("x"))`, `Blob(Some([1, 2, 255]))`,
`List(Some([Int32(Some(1))]), Int32(None))`. Payloads use their own texts: shortest round-trip
floats, decimals with their scale, quoted strings, display forms of dates and times.
-/

namespace RelMap

set_option autoImplicit false

namespace Value

def Tag.name : Tag → String
  | .null => "Null"
  | .boolean => "Boolean"
  | .int8 => "Int8"
  | .int16 => "Int16"
  | .int32 => "Int32"
  | .int64 => "Int64"
  | .uint8 => "UInt8"
  | .uint16 => "UInt16"
  | .uint32 => "UInt32"
  | .uint64 => "UInt64"
  | .float32 => "Float32"
  | .float64 => "Float64"
  | .decimal => "Decimal"
  | .varchar => "Varchar"
  | .blob => "Blob"
  | .date => "Date"
  | .time => "Time"
  | .timestamp => "Timestamp"
  | .timestampTz => "TimestampWithTimezone"
  | .uuid => "Uuid"
  | .list => "List"

/-- `[a, b, c]`. -/
def bracketed (items : List String) : String := "[" ++ ", ".intercalate items ++ "]"

/-- `None` or `Some(text)`. -/
def optionText {α : Type} (text : α → String) : Option α → String
  | none => "None"
  | some a => "Some(" ++ text a ++ ")"

mutual

/-- The text of a value in messages. -/
def render : Value → String
  | .null => "Null"
  | .boolean v => "Boolean(" ++ optionText toString v ++ ")"
  | .int8 v => "Int8(" ++ optionText (fun n => toString n.toInt) v ++ ")"
  | .int16 v => "Int16(" ++ optionText (fun n => toString n.toInt) v ++ ")"
  | .int32 v => "Int32(" ++ optionText (fun n => toString n.toInt) v ++ ")"
  | .int64 v => "Int64(" ++ optionText (fun n => toString n.toInt) v ++ ")"
  | .uint8 v => "UInt8(" ++ optionText (fun n => toString n.toNat) v ++ ")"
  | .uint16 v => "UInt16(" ++ optionText (fun n => toString n.toNat) v ++ ")"
  | .uint32 v => "UInt32(" ++ optionText (fun n => toString n.toNat) v ++ ")"
  | .uint64 v => "UInt64(" ++ optionText (fun n => toString n.toNat) v ++ ")"
  | .float32 v => "Float32(" ++ optionText Float.Binary.toText v ++ ")"
  | .float64 v => "Float64(" ++ optionText Float.Binary.toText v ++ ")"
  | .decimal v => "Decimal(" ++ optionText Decimal.toText v ++ ")"
  | .varchar v => "Varchar(" ++ optionText Text.quote v ++ ")"
  | .blob v => "Blob(" ++ optionText (fun bytes => bracketed (bytes.map fun b => toString b.toNat)) v ++ ")"
  | .date v => "Date(" ++ optionText Date.toText v ++ ")"
  | .time v => "Time(" ++ optionText TimeOfDay.display v ++ ")"
  | .timestamp v => "Timestamp(" ++ optionText DateTime.display v ++ ")"
  | .timestampTz v => "TimestampWithTimezone(" ++ optionText OffsetDateTime.display v ++ ")"
  | .uuid v => "Uuid(" ++ optionText Uuid.toText v ++ ")"
  | .list items element => "List(" ++ renderItems items ++ ", " ++ render element ++ ")"

/-- `None` or `Some([…])` of rendered items. -/
def renderItems : Option (List Value) → String
  | none => "None"
  | some items => "Some([" ++ renderList items ++ "])"

/-- Rendered items separated by `, `. -/
def renderList : List Value → String
  | [] => ""
  | [v] => render v
  | v :: rest => render v ++ ", " ++ renderList rest

end

end Value

end RelMap
