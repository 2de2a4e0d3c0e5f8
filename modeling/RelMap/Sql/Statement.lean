import RelMap.Value.Basic
import RelMap.Text.Utf8

/-!
# SQL statements and their text

A statement is written as a list of pieces: literal text, parameters, each standing for one
bound value, and fragments, the clauses the writer enters by switching its context. The writer's
context counts the placeholders written so far; a placeholder adds one to the count and is
written as `?` or as `$count`. A fragment is written with a copy of the context, and the copy's
count is carried back when the fragment ends, so the count runs on across clauses.

Identifiers are written between double quotes, an inner double quote doubled. Lists are written
with a separator that follows only a non-empty item.

A statement shown in a failure is cut to at most 497 bytes, on a character boundary, with
trailing white space removed, and `...` appended when it was longer.
-/

namespace RelMap

set_option autoImplicit false

namespace Sql

/-- A piece of statement text. -/
inductive Piece where
  | text (s : String)
  /-- A placeholder bound to a value. -/
  | param (v : Value)
  /-- A clause written after a switch of the writer's context. -/
  | fragment (body : List Piece)
  deriving Inhabited

/-- Statement text with its parameters. -/
abbrev Text := List Piece

/-- How placeholders are written. -/
inductive Placeholders where
  /-- Every placeholder is `?`. -/
  | anonymous
  /-- Placeholders are `$1`, `$2`, ... in textual order. -/
  | numbered
  deriving DecidableEq, Repr, Inhabited

/-- The placeholder of the `n`-th parameter. -/
def Placeholders.marker : Placeholders → Nat → String
  | .anonymous, _ => "?"
  | .numbered, n => "$" ++ toString n

/-- Literal text. -/
def lit (s : String) : Text := [.text s]

/-- Whether the pieces write nothing. -/
def isBlank : Text → Bool
  | [] => true
  | .text s :: rest => s.isEmpty && isBlank rest
  | .param _ :: _ => false
  | .fragment body :: rest => isBlank body && isBlank rest

/-- The items in order, each after the separator unless the item before it wrote nothing. -/
def separatedBy (sep : String) : List Text → Text
  | [] => []
  | first :: rest => first ++ go first rest
where
  go (previous : Text) : List Text → Text
    | [] => []
    | item :: rest => (if isBlank previous then item else lit sep ++ item) ++ go item rest

/-- One step of the escaping walk over the characters and their byte offsets: an occurrence of
`search` copies the slice from `position` up to it, then the replacement, and moves `position`
past it by its byte length; any other character is left for a later slice. -/
def escapeStep (s : String) (search : Char) (replacement : String) (acc : String × Nat)
    (entry : Nat × Char) : String × Nat :=
  if entry.2 == search then
    (acc.1 ++ Utf8.slice s acc.2 entry.1 ++ replacement, entry.1 + entry.2.utf8Size)
  else acc

/-- The text with every occurrence of `search` replaced by `replacement`, written as the writer
does it: the escaping walk over the characters, then the slice from the last position to the
end. -/
def escape (s : String) (search : Char) (replacement : String) : String :=
  let (written, position) := (Utf8.charIndices s).foldl (escapeStep s search replacement) ("", 0)
  written ++ Utf8.slice s position s.utf8ByteSize

/-- An identifier between double quotes, inner double quotes doubled. -/
def quote (name : String) : String := "\"" ++ escape name '"' "\"\"" ++ "\""

end Sql

/-- A statement as sent: its text and its bound values in placeholder order. -/
structure Query where
  sql : String
  params : List Value
  deriving Inhabited

namespace Sql

/-- Writes pieces with `counter` placeholders written before them: the text, the bound values,
and the counter when they end. -/
def writeFrom (style : Placeholders) : Nat → Text → String × List Value × Nat
  | counter, [] => ("", [], counter)
  | counter, .text s :: rest =>
      let (sql, params, last) := writeFrom style counter rest
      (s ++ sql, params, last)
  | counter, .param v :: rest =>
      let (sql, params, last) := writeFrom style (counter + 1) rest
      (style.marker (counter + 1) ++ sql, v :: params, last)
  | counter, .fragment body :: rest =>
      -- the fragment writes on a copy of the context; its counter is carried back at the end
      let (inner, innerParams, carried) := writeFrom style counter body
      let (sql, params, last) := writeFrom style carried rest
      (inner ++ sql, innerParams ++ params, last)

/-- The statement of the pieces, written from a fresh context. -/
def render (style : Placeholders) (t : Text) : Query :=
  let (sql, params, _) := writeFrom style 0 t
  ⟨sql, params⟩

end Sql

/-- Characters of Unicode white space. -/
def isUnicodeSpace (c : Char) : Bool :=
  let n := c.toNat
  (0x09 ≤ n && n ≤ 0x0D) || n == 0x20 || n == 0x85 || n == 0xA0 || n == 0x1680 ||
    (0x2000 ≤ n && n ≤ 0x200A) || n == 0x2028 || n == 0x2029 || n == 0x202F || n == 0x205F ||
    n == 0x3000

/-- The nearest character boundary at or below the offset, searched downwards one byte at a
time; offset 0 is a boundary, so the search ends there at the latest. -/
def boundaryBelow (s : String) : Nat → Nat
  | 0 => 0
  | n + 1 => if Utf8.isCharBoundary s (n + 1) then n + 1 else boundaryBelow s n

/-- The text itself when it fits in `max` bytes, else its bytes up to the nearest character
boundary at or below `max`. -/
def truncated (s : String) (max : Nat) : String :=
  if s.utf8ByteSize ≤ max then s else Utf8.slice s 0 (boundaryBelow s max)

/-- Byte budget of a statement shown in a failure. -/
def shownBytes : Nat := 497

namespace Query

/-- The statement text as shown in failures: cut to `shownBytes` bytes on a character boundary,
trailing white space removed, and `...` appended when it was cut. -/
def display (q : Query) : String :=
  let kept := (truncated q.sql shownBytes).toList.reverse.dropWhile isUnicodeSpace |>.reverse
  String.ofList kept ++ (if q.sql.utf8ByteSize > shownBytes then "..." else "")

end Query

end RelMap
