import RelMap.Datum.Native

/-!
# Type mappers

A type mapper converts the data of one semantic type to native values and back. Its key names the
semantic type; its native value is the typed NULL describing the column type.

NULL is handled once for every mapper: a null datum becomes the native descriptor, and a native
NULL becomes the null datum. Any other conversion that fails is put inside the context
`While converting K to native` or `While converting native to K`.

The kinds of mapper:
- a primitive mapper uses the primitive's own native conversion;
- a passthrough mapper holds native values as they are, refusing one of another type;
- a list mapper converts each item with its element mapper;
- a chained mapper converts a type to the type it is stored through and then uses that type's
  mapper (and the reverse on the way back);
- two replacement mappers store 64-bit integers as text and texts as bytes.
-/

namespace RelMap

set_option autoImplicit false

/-- The identity of a semantic type: a named datum type, or the sequence of a type. -/
inductive TypeKey where
  | named (t : DatumType)
  | list (element : TypeKey)
  deriving DecidableEq, Repr, Inhabited

namespace TypeKey

/-- The name of the type in messages; a sequence is `List<element>`. -/
def name : TypeKey → String
  | .named t => t.name
  | .list element => "List<" ++ element.name ++ ">"

/-- The element type of a sequence type. -/
def element? : TypeKey → Option TypeKey
  | .list element => some element
  | .named _ => none

end TypeKey

/-- How a type converts to and from the type it is stored through: two conversions supplied by
whoever registers the type. -/
structure Step where
  /-- From the type to the type it is stored through. -/
  forward : Datum → Outcome Datum
  /-- Back from the type it is stored through. -/
  backward : Datum → Outcome Datum

instance : Inhabited Step := ⟨⟨.ok, .ok⟩⟩

namespace Step

/-- A wrapper is stored as the datum it wraps. -/
def unwrap (w : Wrapper) : Step where
  forward d := do
    match ← d.get (.wrapper w) with
    | .wrapped _ inner => .ok inner
    | other => .ok other
  backward d := .ok (.wrapped w d)

/-- A book number is stored as its text. -/
def isbnText : Step where
  forward d := do
    match ← d.get .isbn with
    | .isbn code => .ok (.string code)
    | other => .ok other
  backward d := do
    match ← d.get .string with
    | .string code => .ok (.isbn code)
    | other => .ok other

end Step

/-- Replacement mappers of primitive types. -/
inductive Custom where
  /-- 64-bit integers stored as their decimal text; a value that is not a text reads as NULL. -/
  | integerAsText
  /-- Texts stored as their UTF-8 bytes. -/
  | textAsBytes
  deriving DecidableEq, Repr, Inhabited

/-- Reads a 64-bit integer from decimal text with an optional sign, digit by digit from the left.
Whichever comes first decides the error: a character that is not a digit, or a digit that takes
the value out of range. A sign alone has no digit. -/
def readInt64 (text : String) : Except IntTextError Int64 :=
  match text.toList with
  | [] => .error .empty
  | ['-'] | ['+'] => .error .invalidDigit
  | '-' :: rest => accumulate true rest 0
  | '+' :: rest => accumulate false rest 0
  | cs => accumulate false cs 0
where
  /-- Folds the digits into the magnitude read so far, checking the range after each. -/
  accumulate (negative : Bool) : List Char → Nat → Except IntTextError Int64
    | [], n => .ok (Int64.ofInt (if negative then -(n : Int) else n))
    | c :: rest, n =>
        if !c.isDigit then .error .invalidDigit
        else
          let next := n * 10 + (c.toNat - '0'.toNat)
          if negative ∧ Nat.pow 2 63 < next then .error .tooSmall
          else if !negative ∧ Nat.pow 2 63 - 1 < next then .error .tooLarge
          else accumulate negative rest next

/-- Validates UTF-8 bytes: the text, or where the first bad sequence starts and how long it is
(none when the bytes end inside it). -/
def decodeUtf8 (bytes : List UInt8) : Except Utf8Error String :=
  match String.fromUTF8? (ByteArray.mk bytes.toArray) with
  | some s => .ok s
  | none => .error (utf8Failure bytes 0)
where
  /-- Length of the sequence a lead byte announces, none for a byte that cannot lead. -/
  sequenceLength (b : Nat) : Option Nat :=
    if b < 0x80 then some 1
    else if 0xC2 ≤ b ∧ b ≤ 0xDF then some 2
    else if 0xE0 ≤ b ∧ b ≤ 0xEF then some 3
    else if 0xF0 ≤ b ∧ b ≤ 0xF4 then some 4
    else none
  /-- Allowed range of the second byte after a lead byte. -/
  secondRange (b : Nat) : Nat × Nat :=
    if b = 0xE0 then (0xA0, 0xBF)
    else if b = 0xED then (0x80, 0x9F)
    else if b = 0xF0 then (0x90, 0xBF)
    else if b = 0xF4 then (0x80, 0x8F)
    else (0x80, 0xBF)
  /-- How many bytes of a started sequence are valid before it breaks or ends. -/
  validPrefix (lead : Nat) (rest : List UInt8) (need : Nat) : Nat × Bool :=
    let (lo, hi) := secondRange lead
    let check (i : Nat) (b : Nat) : Bool := if i = 0 then lo ≤ b ∧ b ≤ hi else 0x80 ≤ b ∧ b ≤ 0xBF
    let good := ((rest.take need).zipIdx.takeWhile fun (b, i) => check i b.toNat).length
    (good, good < need ∧ good < rest.length)
  utf8Failure : List UInt8 → Nat → Utf8Error
    | [], offset => ⟨offset, none⟩
    | b :: rest, offset =>
        match sequenceLength b.toNat with
        | none => ⟨offset, some 1⟩
        | some 1 => utf8Failure rest (offset + 1)
        | some n =>
            let (good, broken) := validPrefix b.toNat rest (n - 1)
            if good = n - 1 then utf8Failure (rest.drop (n - 1)) (offset + n)
            else if broken then ⟨offset, some (good + 1)⟩
            else ⟨offset, none⟩
  termination_by bytes _ => bytes.length
  decreasing_by
    all_goals simp only [List.length_cons, List.length_drop]
    all_goals omega

/-- A converter between the data of one type and native values. -/
inductive Mapper where
  | primitive (p : Primitive)
  /-- Native values held as they are; the descriptor gives the accepted type. -/
  | passthrough (descriptor : Value)
  | list (element : Mapper)
  /-- The type `key`, stored through the type of `via`. -/
  | chain (key : TypeKey) (via : Mapper) (step : Step)
  | custom (c : Custom)
  deriving Inhabited

namespace Mapper

/-- The semantic type converted. -/
def key : Mapper → TypeKey
  | .primitive p => .named p.type
  | .passthrough _ => .named .native
  | .list element => .list element.key
  | .chain key _ _ => key
  | .custom .integerAsText => .named .i64
  | .custom .textAsBytes => .named .string

/-- The native descriptor: the typed NULL of the column type. -/
def native : Mapper → Value
  | .primitive p => p.emptyValue
  | .passthrough descriptor => descriptor.asNull
  | .list element => Value.listOf element.native
  | .chain _ via _ => via.native
  | .custom .integerAsText => .varchar none
  | .custom .textAsBytes => .blob none

/-- Mappers are equal when their keys are and their descriptors have the same type. -/
def sameAs (m n : Mapper) : Bool := m.key == n.key && m.native.sameType n.native

/-- The conversion of a non-null datum, before any context is put on its failure. -/
def encode : Mapper → Datum → Outcome Value
  | .primitive p, d => p.encode d
  | .passthrough descriptor, d => do
      match ← d.get .native with
      | .native v =>
          if v.sameType descriptor.asNull then .ok v
          else Outcome.fail (.typeMismatch descriptor.asNull.render v.render)
      | other => Outcome.fail (.typeMismatch DatumType.native.name other.typeName)
  | .list element, d => do
      let items ← d.asList
      let values ← items.mapM fun item =>
        if item.isNull then .ok element.native
        else (element.encode item).within (.toNative element.key.name)
      .ok (.list (some values) element.native)
  | .chain _ via step, d => do
      let stored ← step.forward d
      if stored.isNull then .ok via.native
      else (via.encode stored).within (.toNative via.key.name)
  | .custom .integerAsText, d => do
      match ← d.get .i64 with
      | .i64 n => .ok (.varchar (some (toString n.toInt)))
      | other => Outcome.fail (.typeMismatch DatumType.i64.name other.typeName)
  | .custom .textAsBytes, d => do
      match ← d.get .string with
      | .string s => .ok (.blob (some (utf8Bytes s)))
      | other => Outcome.fail (.typeMismatch DatumType.string.name other.typeName)

/-- The native value of a datum: the descriptor for NULL, else the conversion under the context
`While converting K to native`. -/
def toNative (m : Mapper) (d : Datum) : Outcome Value :=
  if d.isNull then .ok m.native else (m.encode d).within (.toNative m.key.name)

/-- The conversion of a non-null native value, before any context is put on its failure. -/
def decode : Mapper → Value → Outcome Datum
  | .primitive p, v => p.decode v
  | .passthrough _, v => .ok (.native v)
  | .list element, v =>
      match v with
      | .list (some items) _ => do
          let data ← items.mapM fun item =>
            if item.isNull then .ok .null
            else (element.decode item).within (.fromNative element.key.name)
          .ok (.list data)
      | _ => Outcome.fail (.listExpected element.key.name v.render)
  | .chain _ via step, v => do
      let stored ← (via.decode v).within (.fromNative via.key.name)
      step.backward stored
  | .custom .integerAsText, v =>
      match v with
      | .varchar (some text) =>
          match readInt64 text with
          | .ok n => .ok (.i64 n)
          | .error e => Outcome.fail (.intText e)
      | _ => .ok .null
  | .custom .textAsBytes, v => do
      match ← Primitive.blob.decode v with
      | .blob bytes =>
          match decodeUtf8 bytes with
          | .ok s => .ok (.string s)
          | .error e => Outcome.fail (.utf8 e)
      | other => .ok other

/-- The datum of a native value: NULL for a native NULL, else the conversion under the context
`While converting native to K`. -/
def fromNative (m : Mapper) (v : Value) : Outcome Datum :=
  if v.isNull then .ok .null else (m.decode v).within (.fromNative m.key.name)

end Mapper

end RelMap
