import RelMap.Mapper.Basic

/-!
# Expressions and conditions

A node is a value expression over the rows of a table: a column or a property path (parsed when
it is compiled), a literal bound as a parameter through its mapper, a function call, a text
concatenation, an element of a sequence, a column reached through a reference, or a child of a
virtual column. A condition combines comparisons of nodes with `AND`, `OR` and `NOT`.

`Node.describe` renders a node the way a property path is written (`author->location.city`,
`tags[0]`), which error messages use; for a node produced by the path parser it gives back the
path.
-/

namespace RelMap

set_option autoImplicit false

/-- A value expression over the rows of a table. -/
inductive Node where
  /-- A column of the table, or a property path parsed when compiled. -/
  | property (path : String)
  /-- A datum bound as a parameter through the mapper. -/
  | literal (datum : Datum) (mapper : Mapper)
  /-- A function call written by name; `decode` gives the result's mapper when present. -/
  | call (name : String) (args : List Node) (decode : Option Mapper)
  | concat (left right : Node)
  /-- The element at a zero based position of a sequence. -/
  | index (base : Node) (position : Nat)
  /-- A column of the table that the reference `base` targets. -/
  | reference (base : Node) (column : String)
  /-- A child of the virtual column `base`. -/
  | child (base : Node) (name : String)
  deriving Inhabited

/-- The comparison operators of a condition. -/
inductive Comparison where
  | equal | notEqual | less | greater | lessEqual | greaterEqual | like | notLike
  deriving DecidableEq, Repr, Inhabited

/-- A boolean condition over nodes. -/
inductive Condition where
  | compare (op : Comparison) (left right : Node)
  /-- The value between the two bounds, both included. -/
  | between (value low high : Node)
  | isNull (node : Node)
  | and (left right : Condition)
  | or (left right : Condition)
  | not (inner : Condition)
  /-- A node used as a boolean. -/
  | raw (node : Node)
  deriving Inhabited

/-- Sort direction of an ordering key. -/
inductive Direction where
  | ascending | descending
  deriving DecidableEq, Repr, Inhabited

/-- A sort key of a select. -/
structure SortKey where
  node : Node
  direction : Direction
  deriving Inhabited

/-- Filter, ordering and row limit of a select. -/
structure SelectOptions where
  filter : Option Condition := none
  orderBy : List SortKey := []
  limit : Option Nat := none
  deriving Inhabited

namespace SelectOptions

/-- Adds a condition, joined with `AND` after the filter already present. -/
def addFilter (o : SelectOptions) (c : Condition) : SelectOptions :=
  match o.filter with
  | some previous => { o with filter := some (.and previous c) }
  | none => { o with filter := some c }

end SelectOptions

namespace Node

mutual

/-- The node written as a property path: literals as their datum, calls as `f(a, b)`,
concatenations as `a || b`. -/
def describe : Node → String
  | .property path => path
  | .literal d _ => d.render
  | .call name args _ => name ++ "(" ++ describeArgs args ++ ")"
  | .concat l r => describe l ++ " || " ++ describe r
  | .index base i => describe base ++ "[" ++ toString i ++ "]"
  | .reference base column => describe base ++ "->" ++ column
  | .child base name => describe base ++ "." ++ name

/-- Arguments described and separated by commas. -/
def describeArgs : List Node → String
  | [] => ""
  | [a] => describe a
  | a :: rest => describe a ++ ", " ++ describeArgs rest

end

/-- Whether the node names a column: a property, a reference or a child access. -/
def isColumnPath : Node → Bool
  | .property _ | .reference _ _ | .child _ _ => true
  | _ => false

end Node

end RelMap
