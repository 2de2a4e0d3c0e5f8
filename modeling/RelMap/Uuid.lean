/-!
# Universally unique identifiers

A UUID is a 128-bit number, written as 32 lowercase hexadecimal digits in groups of 8, 4, 4, 4
and 12 joined by hyphens.

Reading accepts four shapes, told apart by their length in bytes: the 32 digits alone (32), the
hyphenated form (36), the hyphenated form in braces (38), and the hyphenated form after the prefix
`urn:uuid:` in any case (45). Digits may be in either case.

A refused text is diagnosed in a second pass. When the text had one of the wrapped shapes, only
its 36-byte body is diagnosed, so positions count from the body. Otherwise the whole text is:
past 45 bytes it is refused for its length alone; else braces or the prefix are taken off, and the
first character that is neither a hexadecimal digit nor a hyphen is reported at its byte position
past the wrapper; else the grouping by hyphens is checked. Lengths reported for the last group count
from the start of the diagnosed text, wrapper included.
-/

namespace RelMap

set_option autoImplicit false

/-- A 128-bit identifier. -/
structure Uuid where
  value : Nat
  deriving DecidableEq, Repr, Inhabited

/-- Why a text is not a UUID. -/
inductive UuidError where
  /-- A character that is neither a hexadecimal digit nor a hyphen, at a byte position. -/
  | character (c : Char) (position : Nat)
  /-- A text too long for any shape, or digits alone that are not 32 of them. -/
  | length (count : Nat)
  /-- Hyphens splitting the text into a number of groups other than five. -/
  | groupCount (count : Nat)
  /-- Five groups, the group `group` of the wrong size. -/
  | groupLength (group size : Nat)
  deriving DecidableEq, Repr

namespace Uuid

/-- The group lengths of the hyphenated form. -/
def groupLengths : List Nat := [8, 4, 4, 4, 12]

end Uuid

namespace UuidError

def message : UuidError → String
  | .character c position => "invalid character: found `" ++ c.toString ++ "` at " ++ toString position
  | .length count => "invalid length: found " ++ toString count
  | .groupCount count => "invalid group count: expected 5, found " ++ toString count
  | .groupLength group size =>
      "invalid group length in group " ++ toString group ++ ": expected " ++
        toString (Uuid.groupLengths.getD group 0) ++ ", found " ++ toString size

end UuidError

namespace Uuid

def hexDigit (n : Nat) : Char := "0123456789abcdef".toList.getD n '0'

def hexValue (c : Char) : Option Nat :=
  if c.isDigit then some (c.toNat - '0'.toNat)
  else if 'a' ≤ c ∧ c ≤ 'f' then some (c.toNat - 'a'.toNat + 10)
  else if 'A' ≤ c ∧ c ≤ 'F' then some (c.toNat - 'A'.toNat + 10)
  else none

/-- The 32 hexadecimal digits, most significant first. -/
def hexDigits (u : Uuid) : List Char :=
  (List.range 32).reverse.map fun i => hexDigit (u.value / Nat.pow 16 i % 16)

/-- Hyphenated lowercase text. -/
def toText (u : Uuid) : String :=
  let ds := u.hexDigits
  String.intercalate "-"
    [String.ofList (ds.take 8), String.ofList ((ds.drop 8).take 4),
      String.ofList ((ds.drop 12).take 4), String.ofList ((ds.drop 16).take 4),
      String.ofList (ds.drop 20)]

def ofHexDigits (ds : List Nat) : Uuid := ⟨ds.foldl (fun acc d => acc * 16 + d) 0⟩

/-- The longest text of any shape: the prefix `urn:uuid:` and the hyphenated form. -/
def longestText : Nat := 45

/-- Positions of the four hyphens in the hyphenated form. -/
def hyphenPositions : List Nat := [8, 13, 18, 23]

/-- Where each group of the hyphenated form starts. -/
def groupStarts : List Nat := [0, 9, 14, 19, 24]

/-- Bytes taken by a run of characters in UTF-8. -/
def byteLength (cs : List Char) : Nat := cs.foldr (fun c size => c.utf8Size + size) 0

/-- Whether the characters start with `urn:uuid:`, letters in either case. -/
def hasUrnPrefix (cs : List Char) : Bool :=
  (cs.take 9).map Char.toLower == "urn:uuid:".toList

/-- Whether the characters are enclosed in a pair of braces. -/
def isBraced (cs : List Char) : Bool :=
  cs.head? == some '{' && 2 ≤ cs.length && cs.getLast? == some '}'

/-- The digits of exactly 32 hexadecimal characters. -/
def simpleDigits (cs : List Char) : Option (List Nat) :=
  if cs.length = 32 then cs.mapM hexValue else none

/-- The digits of the hyphenated form: 36 characters, hyphens at `hyphenPositions` and
hexadecimal digits elsewhere. -/
def hyphenatedDigits (cs : List Char) : Option (List Nat) :=
  if cs.length = 36 ∧ hyphenPositions.all (fun i => cs.getD i ' ' == '-') then
    (cs.zipIdx.filter fun (_, i) => !hyphenPositions.contains i).mapM fun (c, _) => hexValue c
  else none

/-- Each character with the byte position where it starts, counting from `start`. -/
def withPositions : List Char → Nat → List (Char × Nat)
  | [], _ => []
  | c :: rest, start => (c, start) :: withPositions rest (start + c.utf8Size)

/-- Why a body of `size` bytes, placed `offset` bytes into the text, is refused. The first
character that is neither a hexadecimal digit nor a hyphen is reported at its byte position
plus `offset`; digits alone in a body that may be the simple form are refused for their length;
a count of hyphens other than four is a wrong group count; and of five groups the first whose
hyphen is misplaced is too short, or else the last is too long, measured up to `size`. -/
def diagnoseBody (body : List Char) (offset : Nat) (simple : Bool) (size : Nat) : UuidError :=
  let placed := withPositions body 0
  match placed.find? fun (c, _) => c != '-' && (hexValue c).isNone with
  | some (c, i) => .character c (i + offset)
  | none =>
      let hyphens := (placed.filter fun (c, _) => c == '-').map Prod.snd
      if hyphens.isEmpty && simple then .length size
      else if hyphens.length ≠ 4 then .groupCount (hyphens.length + 1)
      else
        let misplaced := (hyphens.zip hyphenPositions).zipIdx.find?
          fun ((found, expected), _) => found ≠ expected
        match misplaced with
        | some ((found, _), group) => .groupLength group (found - groupStarts.getD group 0)
        | none => .groupLength 4 (size - groupStarts.getD 4 0)

/-- Why a text of no readable shape is refused. A text past `longestText` bytes is refused for
its length. Otherwise braces or the prefix come off and the rest is diagnosed one byte or nine
bytes in; the length of a wrapped text is still that of the whole text. -/
def diagnose (cs : List Char) : UuidError :=
  let size := byteLength cs
  if longestText < size then .length size
  else if isBraced cs then diagnoseBody ((cs.drop 1).dropLast) 1 false size
  else if hasUrnPrefix cs then diagnoseBody (cs.drop 9) 9 false size
  else diagnoseBody cs 0 true size

/-- Reads a text by its byte length: 32 bytes are the simple form; 36 bytes, or 38 in braces,
or 45 after the prefix, hold a hyphenated body. A hyphenated body that does not read is
diagnosed as it stands, with positions counted in the body and nothing taken off it; any
other text goes to `diagnose`. -/
def readShape (cs : List Char) : Except UuidError (List Nat) :=
  let size := byteLength cs
  let hyphenated (body : List Char) : Except UuidError (List Nat) :=
    match hyphenatedDigits body with
    | some ds => .ok ds
    | none => .error (diagnoseBody body 0 false (byteLength body))
  if size = 32 then
    match simpleDigits cs with
    | some ds => .ok ds
    | none => .error (diagnose cs)
  else if size = 36 then hyphenated cs
  else if size = 38 ∧ isBraced cs then hyphenated ((cs.drop 1).dropLast)
  else if size = 45 ∧ hasUrnPrefix cs then hyphenated (cs.drop 9)
  else .error (diagnose cs)

/-- Reads a UUID in simple, hyphenated, braced or URN form, digits in either case. -/
def ofText (text : String) : Except UuidError Uuid :=
  (readShape text.toList).map ofHexDigits

end Uuid

end RelMap
