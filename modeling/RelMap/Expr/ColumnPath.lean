import RelMap.Expr.Path

/-!
# Column paths

A column path is where a node's value is stored: a column of a table reached from the root
table through a chain of reference hops, and possibly one child of that column when it is
virtual. Properties, references and child accesses resolve to column paths; a property that is
not a column name is parsed as a property path first.

Each hop leaves a table through one of its reference columns and enters the target table, whose
key column the reference stores. The physical column of a path is the child's for a child
access, none for a whole virtual column, and the column's own name otherwise.
-/

namespace RelMap

set_option autoImplicit false

/-- A traversal of a reference column into its target table. -/
structure Hop where
  /-- The table owning the reference column. -/
  source : Table
  /-- The reference column. -/
  column : Column
  target : Table
  /-- The key column of the target table that the reference stores. -/
  key : String
  deriving Inhabited

/-- A column reached from the root table through reference hops. -/
structure ColumnPath where
  root : Table
  /-- The hops in order, the first leaving the root table. -/
  hops : List Hop
  /-- The table owning the column. -/
  table : Table
  column : Column
  child : Option VirtualChild
  deriving Inhabited

namespace ColumnPath

/-- The path of a column of the table itself. -/
def direct (t : Table) (c : Column) : ColumnPath := ⟨t, [], t, c, none⟩

/-- The physical column holding the value, none for a whole virtual column. -/
def physical? (p : ColumnPath) : Option String :=
  match p.child with
  | some child => some child.physical
  | none => if (p.column.virtual?).isSome then none else some p.column.name

/-- The mapper of the value, none for a whole virtual column. -/
def mapper? (p : ColumnPath) : Option Mapper :=
  match p.child with
  | some child => some child.mapper
  | none => p.column.mapper?

/-- A failure naming the node that does not resolve. -/
def invalid {α : Type} (node : Node) (reason : PathProblem) : Resolve α :=
  Resolve.fault (.invalidPath node.describe reason)

/-- The path followed through its reference column to the column `name` of the target table;
`node` is the reference node, for messages. -/
def follow (catalog : Catalog) (node : Node) (p : ColumnPath) (name : String) :
    Resolve ColumnPath := do
  match p.child, p.column.target? with
  | none, some target =>
      let t ← Resolve.lift (catalog.table target.table)
      match t.column? name with
      | some column =>
          pure { p with
            hops := p.hops ++ [⟨p.table, p.column, t, target.column⟩]
            table := t
            column := column }
      | none => invalid node (.notAColumn name t.name)
  | _, _ => invalid node .notFollowable

/-- The path narrowed to the child `name` of its virtual column; `node` is the child access. -/
def descend (node : Node) (p : ColumnPath) (name : String) : Resolve ColumnPath :=
  match p.child, p.column.virtual? with
  | none, some v =>
      match v.child? name with
      | some child => pure { p with child := some child }
      | none => invalid node (.undeclaredChild p.column.name name)
  | _, _ => invalid node .noChildren

/-- Resolves a node whose properties are resolved by `property`. -/
def resolveWith (catalog : Catalog) (property : String → Resolve ColumnPath) :
    Node → Resolve ColumnPath
  | .property path => property path
  | .reference base name => do
      let p ← resolveWith catalog property base
      follow catalog (.reference base name) p name
  | .child base name => do
      let p ← resolveWith catalog property base
      descend (.child base name) p name
  | other => invalid other .notColumnPath

/-- The path of a column of the table named exactly. -/
def ofColumn (table : Table) (name : String) : Resolve ColumnPath :=
  match table.column? name with
  | some c => pure (direct table c)
  | none => Resolve.fault (.invalidPath name .unknownColumn)

/-- The column path of a node of the table; a property that is not a column name is parsed as
a property path first. -/
def resolve (catalog : Catalog) (table : Table) (node : Node) : Resolve ColumnPath :=
  resolveWith catalog (fun path =>
    match table.column? path with
    | some c => pure (direct table c)
    | none => do
        match ← parsePath catalog table path with
        | .property _ => Resolve.fault (.invalidPath path .unknownColumn)
        | parsed => resolveWith catalog (ofColumn table) parsed) node

end ColumnPath

end RelMap
