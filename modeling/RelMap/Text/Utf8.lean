/-!
# Byte offsets of UTF-8 text

A text is stored as the UTF-8 encoding of its characters, and positions in it are byte offsets.
Each character starts at the sum of the byte lengths of the characters before it. An offset is a
character boundary when a character starts there or the text ends there, and the slice between two
boundaries holds the characters that start between them.
-/

namespace RelMap.Utf8

set_option autoImplicit false

/-- The characters, each with the byte offset where it starts, counting from `start`. -/
def indexed : List Char → Nat → List (Nat × Char)
  | [], _ => []
  | c :: rest, start => (start, c) :: indexed rest (start + c.utf8Size)

/-- The characters of the text with the byte offset where each starts. -/
def charIndices (s : String) : List (Nat × Char) := indexed s.toList 0

/-- Whether a byte offset is a character boundary of the text. -/
def isCharBoundary (s : String) (offset : Nat) : Bool :=
  offset == s.utf8ByteSize || (charIndices s).any fun entry => entry.1 == offset

/-- The character of an entry whose offset is at or after `first` and before `last`. -/
def within (first last : Nat) (entry : Nat × Char) : Option Char :=
  if first ≤ entry.1 ∧ entry.1 < last then some entry.2 else none

/-- The text between the offsets `first` and `last`: the characters that start at or after
`first` and before `last`. -/
def slice (s : String) (first last : Nat) : String :=
  String.ofList ((charIndices s).filterMap (within first last))

end RelMap.Utf8
