import RelMap.Schema.Composite

/-!
# Columns

A column of a table has a name, a semantic type, a part in the primary key, and one of three
kinds: a scalar column stored through its mapper, a reference column storing the key of a row of
another table, or a virtual column stored across the physical columns of its children.

A column specification is what a table definition declares before its types are resolved
against the registry. Declaring children on a column that is not virtual is a misuse, which the
table build reports for the last child declared.
-/

namespace RelMap

set_option autoImplicit false

/-- The part a column takes in the primary key. -/
inductive KeyRole where
  /-- The single column of the key. -/
  | primary
  /-- One column of a composite key. -/
  | part
  /-- Not in the key. -/
  | regular
  deriving DecidableEq, Repr, Inhabited

/-- The column of another table whose value a reference column stores. -/
structure Target where
  table : String
  column : String
  deriving DecidableEq, Repr, Inhabited

/-- How a column is stored. -/
inductive ColumnKind where
  | scalar (mapper : Mapper)
  | reference (mapper : Mapper) (target : Target)
  | composite (v : VirtualColumn)
  deriving Inhabited

/-- A column of a table, its types resolved. -/
structure Column where
  name : String
  type : TypeKey
  key : KeyRole
  autoincrement : Bool
  kind : ColumnKind
  deriving Inhabited

namespace Column

def isKey (c : Column) : Bool := c.key != .regular

/-- The mapper of the stored value; a virtual column has none. -/
def mapper? (c : Column) : Option Mapper :=
  match c.kind with
  | .scalar m | .reference m _ => some m
  | .composite _ => none

/-- The target of a reference column. -/
def target? (c : Column) : Option Target :=
  match c.kind with
  | .reference _ t => some t
  | _ => none

/-- The children of a virtual column. -/
def virtual? (c : Column) : Option VirtualColumn :=
  match c.kind with
  | .composite v => some v
  | _ => none

/-- The physical columns storing the column: its children's for a virtual column, else its
own name. -/
def physicalNames (c : Column) : List String :=
  match c.kind with
  | .composite v => v.children.map VirtualChild.physical
  | _ => [c.name]

end Column

/-- A declared child of a virtual column, before its type is resolved. -/
structure ChildSpec where
  name : String
  /-- The physical column, when not named by the table's naming rule. -/
  physical : Option String := none
  type : TypeKey
  deriving Inhabited

/-- The storage a column specification asks for. -/
inductive ColumnShape where
  | scalar
  | reference (target : Target)
  | composite (codec : Codec)
  deriving Inhabited

/-- A column as a table definition declares it. -/
structure ColumnSpec where
  name : String
  type : TypeKey
  key : KeyRole := .regular
  autoincrement : Bool := false
  shape : ColumnShape := .scalar
  children : List ChildSpec := []
  deriving Inhabited

namespace ColumnSpec

/-- The misuse of declaring children on a column that is not virtual, for the last child. -/
def misuse? (c : ColumnSpec) : Option TableProblem :=
  match c.shape with
  | .composite _ => none
  | _ =>
      match c.children.getLast? with
      | some child => some (.childOfPlainColumn c.name child.name)
      | none => none

end ColumnSpec

end RelMap
