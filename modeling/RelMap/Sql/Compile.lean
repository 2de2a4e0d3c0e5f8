import RelMap.Expr.ColumnPath
import RelMap.Sql.Statement

/-!
# Compiling nodes, conditions and statements

The compiler writes SQL text for the tables of a catalog. It reads the table definitions, never
the database, and the same input always gives the same text and the same parameters.

- A column of the table is its quoted name, qualified by the table (and its schema) where the
  statement joins tables. A column reached through references is a chain of correlated
  subselects, the target of the `i`-th hop aliased `ri`; a hop whose selected column is the key
  the reference stores needs no subselect.
- A literal is a parameter holding the datum's native value. A function call is checked against
  the catalog's accepted functions. An element access is one based in SQL (`[i+1]`), its base in
  parentheses unless it is a column path or another element access.
- A whole virtual column has no single value and no single type.

Statements: selects of every physical column, of one node (a whole virtual column selecting each
of its children), and of the records a reference reaches (joining each hop's target on its key);
inserts asking back the columns left for the database; updates of assignments; deletes; counts.
-/

namespace RelMap

set_option autoImplicit false

open Sql

/-- A table as named in a statement, possibly under an alias. -/
structure TableRef where
  name : String
  schemaName : String
  aliasName : String
  deriving Inhabited

/-- The reference of a table, without alias. -/
def Table.ref (t : Table) : TableRef := ⟨t.name, t.schemaName, ""⟩

namespace TableRef

def withAlias (r : TableRef) (name : String) : TableRef := { r with aliasName := name }

/-- The table in a `FROM` or `JOIN` clause, declaring its alias. -/
def text (r : TableRef) : String :=
  (if r.schemaName.isEmpty then "" else quote r.schemaName ++ ".") ++ quote r.name ++
    (if r.aliasName.isEmpty then "" else " " ++ quote r.aliasName)

/-- The name columns of the table are qualified by: the alias, else the table name. -/
def qualifier (r : TableRef) : String := if r.aliasName.isEmpty then r.name else r.aliasName

/-- The schema written before the qualifier: none under an alias. -/
def qualifierSchema (r : TableRef) : String := if r.aliasName.isEmpty then r.schemaName else ""

/-- A column of the table, qualified by the alias or else by the schema and table name when
`qualify` holds and the qualifier is not empty. -/
def column (qualify : Bool) (r : TableRef) (name : String) : String :=
  let qualified :=
    if qualify && !r.qualifier.isEmpty then
      (if r.qualifierSchema.isEmpty then "" else quote r.qualifierSchema ++ ".") ++
        quote r.qualifier ++ "."
    else ""
  qualified ++ quote name

end TableRef

/-- The alias of the target of the hop at a zero based depth. -/
def hopAlias (depth : Nat) : String := "r" ++ toString (depth + 1)

/-- The expression of a column reached through references: a qualified column, or a correlated
subselect reading `selected` from the row of `target` whose `key` equals the argument. -/
inductive PathExpr where
  | column (table : TableRef) (name : String)
  | subselect (target : TableRef) (selected key : String) (argument : PathExpr)
  deriving Inhabited

def PathExpr.text : PathExpr → String
  | .column r name => r.column true name
  | .subselect target selected key argument =>
      "(SELECT " ++ target.column true selected ++ " FROM " ++ target.text ++ " WHERE " ++
        target.column true key ++ " = " ++ argument.text ++ ")"

namespace ColumnPath

/-- The expression reading the column through the hops, starting from `expression`; `selected`
is the column each hop reads in its target, the path's physical column for the last hop. -/
def subselects (physical : String) (expression : PathExpr) : Nat → List Hop → PathExpr
  | _, [] => expression
  | depth, hop :: rest =>
      let selected := match rest with
        | next :: _ => next.column.name
        | [] => physical
      if selected == hop.key then subselects physical expression (depth + 1) rest
      else
        let target := hop.target.ref.withAlias (hopAlias depth)
        subselects physical (.subselect target selected hop.key expression) (depth + 1) rest

/-- The expression reading the physical column through the path's hops, starting from the
reference column the first hop leaves; none without hops. -/
def throughHops (p : ColumnPath) (physical : String) : Option PathExpr :=
  match p.hops with
  | [] => none
  | first :: _ => some (subselects physical (.column first.source.ref first.column.name) 0 p.hops)

/-- The SQL expression of the path's value. -/
def text (qualify : Bool) (p : ColumnPath) : Outcome String :=
  match p.physical? with
  | none => Outcome.fault (.invalidPath p.column.name .wholeVirtualValue)
  | some physical =>
      match p.throughHops physical with
      | none => .ok (p.table.ref.column qualify physical)
      | some e => .ok e.text

end ColumnPath

/-- Whether a node is written without parentheses as the base of an element access. -/
def Node.isSubscriptable : Node → Bool
  | .property _ | .reference _ _ | .child _ _ | .index _ _ => true
  | _ => false

/-- The text of a comparison operator, with its spaces. -/
def Comparison.text : Comparison → String
  | .equal => " = "
  | .notEqual => " != "
  | .less => " < "
  | .greater => " > "
  | .lessEqual => " <= "
  | .greaterEqual => " >= "
  | .like => " LIKE "
  | .notLike => " NOT LIKE "

/-- The text of a sort direction. -/
def Direction.text : Direction → String
  | .ascending => " ASC"
  | .descending => " DESC"

/-- What a select of one node yields for each row. -/
inductive Projection where
  /-- One value, decoded with the mapper. -/
  | scalar (m : Mapper)
  /-- Every child of the virtual column, in declaration order. -/
  | composite (v : VirtualColumn)
  deriving Inhabited

/-- The datum of a row selected for a projection. -/
def Projection.decode : Projection → Row → Outcome Datum
  | .scalar m, row =>
      match row.values with
      | v :: _ => m.fromNative v
      | [] => Outcome.fail .rowEmpty
  | .composite v, row =>
      v.assemble fun i child =>
        match row.values[i]? with
        | some value => .ok value
        | none => Outcome.fail (.rowMissingChild child.name)

/-- What an assignment of an update sets. -/
inductive Assigned where
  /-- An expression the database evaluates. -/
  | node (n : Node)
  /-- A datum converted by the mapper of the assigned column. -/
  | datum (d : Datum)
  deriving Inhabited

/-- `path = value` in the `SET` clause of an update. -/
structure Assignment where
  path : String
  value : Assigned
  deriving Inhabited

/-- The compiler of the statements on one table of a catalog. -/
structure Compiler where
  catalog : Catalog
  table : Table
  /-- Whether columns of the table are qualified by its name. -/
  qualify : Bool := false

namespace Compiler

/-- The text of a column path as a statement piece. -/
def pathText (c : Compiler) (p : ColumnPath) : Resolve Text := do
  pure (lit (← Resolve.lift (p.text c.qualify)))

/-- A property that names a column, written as a column path. -/
def columnProperty (c : Compiler) (path : String) : Resolve Text := do
  c.pathText (← ColumnPath.resolve c.catalog c.table (.property path))

mutual

/-- The text of a node whose properties are written by `property`. -/
def nodeWith (c : Compiler) (property : String → Resolve Text) : Node → Resolve Text
  | .property path => property path
  | .reference base name => do
      c.pathText (← ColumnPath.resolve c.catalog c.table (.reference base name))
  | .child base name => do
      c.pathText (← ColumnPath.resolve c.catalog c.table (.child base name))
  | .literal d m => do
      let v ← Resolve.lift (m.toNative d)
      pure [.param v]
  | .call name args _ => do
      if !c.catalog.allows name then Resolve.fault (.functionNotAllowed name)
      else
        let written ← argsWith c property args
        pure (lit (name ++ "(") ++ written ++ lit ")")
  | .concat l r => do
      let left ← nodeWith c property l
      let right ← nodeWith c property r
      pure (left ++ lit " || " ++ right)
  | .index base i => do
      if Nat.pow 2 64 ≤ i + 1 then
        Resolve.fault (.invalidPath (Node.index base i).describe .indexOutOfRange)
      else
        let written ← nodeWith c property base
        let written := if base.isSubscriptable then written else lit "(" ++ written ++ lit ")"
        pure (written ++ lit ("[" ++ toString (i + 1) ++ "]"))

/-- Arguments of a call, separated by commas. -/
def argsWith (c : Compiler) (property : String → Resolve Text) : List Node → Resolve Text
  | [] => pure []
  | [a] => nodeWith c property a
  | a :: rest => do
      let first ← nodeWith c property a
      let others ← argsWith c property rest
      pure (first ++ lit ", " ++ others)

end

/-- The text of a node: a property that is not a column name is parsed as a property path. -/
def node (c : Compiler) (n : Node) : Resolve Text :=
  c.nodeWith (fun path =>
    match c.table.column? path with
    | some _ => c.columnProperty path
    | none => do c.nodeWith c.columnProperty (← parsePath c.catalog c.table path)) n

/-- The text of a condition. -/
def condition (c : Compiler) : Condition → Resolve Text
  | .compare op l r => do
      let left ← c.node l
      let right ← c.node r
      pure (left ++ lit op.text ++ right)
  | .between v lo hi => do
      let value ← c.node v
      let low ← c.node lo
      let high ← c.node hi
      pure (value ++ lit " BETWEEN " ++ low ++ lit " AND " ++ high)
  | .isNull n => do
      pure ((← c.node n) ++ lit " IS NULL")
  | .and l r => do
      let left ← c.condition l
      let right ← c.condition r
      pure (lit "(" ++ left ++ lit ") AND (" ++ right ++ lit ")")
  | .or l r => do
      let left ← c.condition l
      let right ← c.condition r
      pure (lit "(" ++ left ++ lit ") OR (" ++ right ++ lit ")")
  | .not inner => do
      pure (lit "NOT (" ++ (← c.condition inner) ++ lit ")")
  | .raw n => c.node n

/-- The sort keys, separated by commas. -/
def sortKeys (c : Compiler) : List SortKey → Resolve Text
  | [] => pure []
  | [k] => do pure ((← c.node k.node) ++ lit k.direction.text)
  | k :: rest => do
      let first ← c.node k.node
      let others ← c.sortKeys rest
      pure (first ++ lit k.direction.text ++ lit ", " ++ others)

/-- The `WHERE` clause of an optional condition. -/
def whereClause (c : Compiler) : Option Condition → Resolve Text
  | some w => do pure (lit "\nWHERE " ++ [.fragment (← c.condition w)])
  | none => pure []

/-- The `ORDER BY` clause of the sort keys, none without keys. -/
def orderClause (c : Compiler) (keys : List SortKey) : Resolve Text :=
  if keys.isEmpty then pure [] else do
    pure (lit "\nORDER BY " ++ [.fragment (← c.sortKeys keys)])

/-- The `LIMIT` clause of an optional limit. -/
def limitClause : Option Nat → Text
  | some n => lit ("\nLIMIT " ++ toString n)
  | none => []

/-- The `WHERE`, `ORDER BY` and `LIMIT` clauses of a select. -/
def filter (c : Compiler) (o : SelectOptions) : Resolve Text := do
  let condition ← c.whereClause o.filter
  let order ← c.orderClause o.orderBy
  pure (condition ++ order ++ limitClause o.limit)

/-- The mapper of a column path; a whole virtual column has none. -/
def pathMapper (c : Compiler) (n : Node) : Resolve Mapper := do
  let p ← ColumnPath.resolve c.catalog c.table n
  match p.mapper? with
  | some m => pure m
  | none => Resolve.fault (.invalidPath n.describe .wholeVirtualType)

mutual

/-- The mapper of a node's values, properties resolved by `property`. -/
def decodeWith (c : Compiler) (property : String → Resolve Mapper) : Node → Resolve Mapper
  | .property path => property path
  | .reference base name => c.pathMapper (.reference base name)
  | .child base name => c.pathMapper (.child base name)
  | .literal _ m => pure m
  | .call name args decode =>
      match decode with
      | some m => pure m
      | none => firstArgWith c property name args
  | .concat _ _ => Resolve.lookup (.named .string)
  | .index base _ => do Resolve.elementOf (← decodeWith c property base)

/-- The mapper of the first argument of a call without a decode mapper. -/
def firstArgWith (c : Compiler) (property : String → Resolve Mapper) (name : String) :
    List Node → Resolve Mapper
  | [] => Resolve.fail (.noResultType name)
  | a :: _ => decodeWith c property a

end

/-- The mapper decoding a node's values. -/
def decodeMapper (c : Compiler) (n : Node) : Resolve Mapper :=
  c.decodeWith (fun path =>
    match c.table.column? path with
    | some _ => c.pathMapper (.property path)
    | none => do
        c.decodeWith (fun p => c.pathMapper (.property p)) (← parsePath c.catalog c.table path)) n

/-- The quoted names, separated by commas. -/
def names (qualify : Bool) (r : TableRef) (columns : List String) : Text :=
  separatedBy ", " (columns.map fun name => lit (r.column qualify name))

/-- `SELECT` of every physical column of the table. -/
def select (c : Compiler) (o : SelectOptions) : Resolve Text := do
  let filter ← c.filter o
  pure (lit "SELECT " ++ names false c.table.ref c.table.physicalNames ++
    lit "\nFROM " ++ [.fragment (lit c.table.ref.text)] ++ filter ++ lit ";")

/-- The virtual column a node names as a whole, with its path, if it does. -/
def wholeVirtual? (c : Compiler) (n : Node) : Resolve (Option (ColumnPath × VirtualColumn)) := do
  if !n.isColumnPath then pure none
  else
    let found ← tryCatch (some <$> ColumnPath.resolve c.catalog c.table n) fun _ => pure none
    match found with
    | some p =>
        match p.child, p.column.virtual? with
        | none, some v => pure (some (p, v))
        | _, _ => pure none
    | none => pure none

/-- What a select of one node selects, with what each row yields: every child of a whole virtual
column, else the node itself. -/
def selection (c : Compiler) (n : Node) : Resolve (Text × Projection) := do
  match ← c.wholeVirtual? n with
  | some (p, v) => do
      let children ← v.children.mapM fun child =>
        c.pathText { p with child := some child }
      pure (separatedBy ", " children, Projection.composite v)
  | none => do
      let written ← c.node n
      let m ← c.decodeMapper n
      pure (written, Projection.scalar m)

/-- `SELECT` of one node, with what each row yields. -/
def selectNode (c : Compiler) (n : Node) (o : SelectOptions) : Resolve (Text × Projection) := do
  let (selected, projection) ← c.selection n
  let filter ← c.filter o
  pure (lit "SELECT " ++ selected ++ lit "\nFROM " ++ [.fragment (lit c.table.ref.text)] ++
    filter ++ lit ";", projection)

/-- The joins of a reference select: each link's target joined on its key, `previous` being the
table the link leaves. -/
def joins (previous : TableRef) : Nat → List (Column × Table × String) → String
  | _, [] => ""
  | depth, (column, target, key) :: rest =>
      let aliased := target.ref.withAlias (hopAlias depth)
      "\nJOIN " ++ aliased.text ++ " ON " ++ aliased.column true key ++ " = " ++
        previous.column true column.name ++ joins aliased (depth + 1) rest

/-- `SELECT` of the records of the table a reference node reaches, joining each traversed table
on its key; gives the reached table too. -/
def selectReferences (c : Compiler) (n : Node) (o : SelectOptions) : Resolve (Text × Table) := do
  let p ← ColumnPath.resolve c.catalog c.table n
  match p.child, p.column.target? with
  | none, some target =>
      let reached ← Resolve.lift (c.catalog.table target.table)
      let links := p.hops.map (fun h => (h.column, h.target, h.key)) ++
        [(p.column, reached, target.column)]
      let selected := reached.ref.withAlias (hopAlias (links.length - 1))
      let filter ← { c with qualify := true }.filter o
      pure (lit "SELECT " ++ names true selected reached.physicalNames ++
        lit "\nFROM " ++ [.fragment (lit c.table.ref.text)] ++
        [.fragment (lit (joins c.table.ref 0 links))] ++ filter ++ lit ";", reached)
  | _, _ => Resolve.fault (.invalidPath n.describe .notReference)

/-- `INSERT` of an encoded row, asking back the columns left for the database. -/
def insert (t : Table) (row : EncodedRow) : Text :=
  let values :=
    if row.fields.isEmpty then lit " DEFAULT VALUES"
    else
      lit " (" ++ separatedBy ", " (row.fields.map fun f => lit (quote f.1)) ++ lit ") VALUES\n(" ++
        [.fragment (separatedBy ", " (row.fields.map fun f => [Piece.param f.2]))] ++ lit ")"
  let returning :=
    if row.omitted.isEmpty then []
    else
      lit "\nRETURNING " ++
        [.fragment (separatedBy ", " (row.omitted.map fun col => lit (quote col.name)))]
  lit ("INSERT INTO " ++ t.ref.text) ++ values ++ returning ++ lit ";"

/-- The targets and values one assignment sets. -/
def assignment (c : Compiler) (a : Assignment) : Resolve (List Text) := do
  let p ← ColumnPath.resolve c.catalog c.table (.property a.path)
  if !p.hops.isEmpty then Resolve.fault (.invalidPath a.path .assignOutsideTable)
  else
    match a.value, p.physical?, p.mapper? with
    | .node n, some physical, _ => do
        pure [lit (quote physical ++ " = ") ++ (← c.node n)]
    | .datum d, some physical, some m => do
        let v ← Resolve.lift (m.toNative d)
        pure [lit (quote physical ++ " = ") ++ [.param v]]
    | .datum d, none, _ =>
        match p.column.virtual? with
        | some v => do
            let flat ← Resolve.lift (v.flatten d)
            pure (flat.map fun (child, value) => lit (quote child.physical ++ " = ") ++ [.param value])
        | none => Resolve.fail (.noPhysicalStorage p.column.name)
    | _, _, _ => Resolve.fault (.invalidPath a.path .wholeVirtualAssigned)

/-- `UPDATE` of the assignments on the rows matching the condition. -/
def update (c : Compiler) (assignments : List Assignment) (w : Condition) : Resolve Text := do
  if assignments.isEmpty then Resolve.fail (.nothingToUpdate c.table.name)
  else
    let sets ← assignments.mapM c.assignment
    let condition ← c.condition w
    pure (lit ("UPDATE " ++ c.table.ref.text ++ "\nSET ") ++
      [.fragment (separatedBy ", " sets.flatten)] ++ lit "\nWHERE " ++ [.fragment condition] ++
      lit ";")

/-- `DELETE` of the rows matching the condition, every row without one. -/
def delete (c : Compiler) (w : Option Condition) : Resolve Text := do
  let condition ← c.whereClause w
  pure (lit ("DELETE FROM " ++ c.table.ref.text) ++ condition ++ lit ";")

/-- `SELECT COUNT(*)` of the rows matching the condition. -/
def count (c : Compiler) (w : Option Condition) : Resolve Text := do
  let condition ← c.whereClause w
  pure (lit "SELECT COUNT(*)\nFROM " ++ [.fragment (lit c.table.ref.text)] ++ condition ++ lit ";")

end Compiler

end RelMap
