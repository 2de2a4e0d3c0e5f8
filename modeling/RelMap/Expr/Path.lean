import RelMap.Schema.Catalog

/-!
# Property paths

A property path names a value reachable from a row of a table:
`segment ('.' segment | '->' segment | '[' digits ']')*`, where a segment is a non-empty run of
ASCII letters, digits and underscores.

- The first segment names a column of the table.
- `->name` follows a reference column into its target table, to the column `name` there.
- `.name` reads the declared child `name` of a virtual column.
- `[n]` reads the element `n` (zero based, below 2^64) of a value whose type is a sequence.

Parsing walks the path once, left to right, and turns it into nodes built with the same
constructors a program would use: `author->location.city` is the child `city` of the reference
`location` of the property `author`. The first step that does not fit gives the failure
`Invalid property path P: REASON`, with the reason of that step.
-/

namespace RelMap

set_option autoImplicit false

/-- Characters of a path segment. -/
def isSegmentChar (c : Char) : Bool := c.isAlphanum || c == '_'

/-- Where the walk of a path stands: at a column of a table, or at a value of a type. -/
inductive PathPosition where
  | column (c : Column)
  | value (m : Mapper)
  deriving Inhabited

namespace PathPosition

/-- The mapper of the value at the position; a virtual column cannot be indexed. -/
def mapper (p : PathPosition) : Except PathProblem Mapper :=
  match p with
  | .column c =>
      match c.mapper? with
      | some m => .ok m
      | none => .error (.virtualIndexed c.name)
  | .value m => .ok m

end PathPosition

/-- The number written by decimal digits. -/
def digitsValue (digits : List Char) : Nat :=
  digits.foldl (fun acc c => acc * 10 + (c.toNat - '0'.toNat)) 0

namespace PathWalk

/-- A failure of the path `path`. -/
def invalid {α : Type} (path : String) (reason : PathProblem) : Resolve α :=
  Resolve.fault (.invalidPath path reason)

/-- Follows the reference column at the position to the column `name` of its target table. -/
def follow (catalog : Catalog) (path name : String) (position : PathPosition) :
    Resolve Column :=
  match position with
  | .column c =>
      match c.kind with
      | .reference _ target =>
          match catalog.find? target.table with
          | none => invalid path (.unknownTarget c.name target.table)
          | some t =>
              match t.column? name with
              | some column => pure column
              | none => invalid path (.notAColumn name t.name)
      | _ => invalid path (.referenceExpected name)
  | .value _ => invalid path (.referenceExpected name)

/-- The child `name` of the virtual column at the position. -/
def childOf (path name : String) (position : PathPosition) : Resolve VirtualChild :=
  match position with
  | .column c =>
      match c.kind with
      | .composite v =>
          match v.child? name with
          | some child => pure child
          | none => invalid path (.undeclaredChild c.name name)
      | _ => invalid path (.virtualExpected name)
  | .value _ => invalid path (.virtualExpected name)

/-- The element mapper of the sequence at the position. -/
def elementAt (path : String) (position : PathPosition) : Resolve Mapper :=
  match position.mapper with
  | .error reason => invalid path reason
  | .ok m => tryCatch (Resolve.elementOf m) fun e => invalid path (.notIndexable e.message)

/-- Walks the rest of the path from `node`, standing at `position`. -/
def walk (catalog : Catalog) (path : String) (node : Node) (position : PathPosition) :
    List Char → Resolve Node
  | [] => pure node
  | '-' :: '>' :: rest => do
      let name := rest.takeWhile isSegmentChar
      if name.isEmpty then invalid path (.nameExpected "->")
      else
        let column ← follow catalog path (String.ofList name) position
        walk catalog path (.reference node (String.ofList name)) (.column column)
          (rest.dropWhile isSegmentChar)
  | '.' :: rest => do
      let name := rest.takeWhile isSegmentChar
      if name.isEmpty then invalid path (.nameExpected ".")
      else
        let child ← childOf path (String.ofList name) position
        walk catalog path (.child node (String.ofList name)) (.value child.mapper)
          (rest.dropWhile isSegmentChar)
  | '[' :: rest => do
      let digits := rest.takeWhile Char.isDigit
      if digits.isEmpty then invalid path .indexNotNumber
      else
        -- the equation `_tail` is what the termination proof knows of `after`
        match _tail : rest.dropWhile Char.isDigit with
        | ']' :: after =>
            let position' := digitsValue digits
            if Nat.pow 2 64 ≤ position' then invalid path (.indexTooLarge (String.ofList digits))
            else
              let element ← elementAt path position
              walk catalog path (.index node position') (.value element) after
        | _ => invalid path .indexUnterminated
  | other => invalid path (.unexpected (String.ofList other))
termination_by input => input.length
decreasing_by
  all_goals simp only [List.length_cons]
  · have := (List.dropWhile_suffix (l := rest) isSegmentChar).length_le
    omega
  · have := (List.dropWhile_suffix (l := rest) isSegmentChar).length_le
    omega
  · have := (List.dropWhile_suffix (l := rest) Char.isDigit).length_le
    rw [_tail] at this
    simp only [List.length_cons] at this
    omega

end PathWalk

/-- The node of a property path of the table; see the module header for the grammar and the
failures. The walk may record derived sequence types in the registry. -/
def parsePath (catalog : Catalog) (table : Table) (path : String) : Resolve Node :=
  let chars := path.toList
  let first := chars.takeWhile isSegmentChar
  if first.isEmpty then
    PathWalk.invalid path (if path.isEmpty then .empty else .noLeadingColumn)
  else
    match table.column? (String.ofList first) with
    | none => PathWalk.invalid path (.notAColumn (String.ofList first) table.name)
    | some column =>
        PathWalk.walk catalog path (.property (String.ofList first)) (.column column)
          (chars.dropWhile isSegmentChar)

end RelMap
