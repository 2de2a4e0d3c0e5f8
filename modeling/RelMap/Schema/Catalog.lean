import RelMap.Schema.Table

/-!
# The catalog of tables

The catalog holds the tables by name, in name order, and the list of function names the compiler
accepts. Adding a table replaces a table of the same name. Function names are compared ignoring
ASCII case; without a list every function is accepted.
-/

namespace RelMap

set_option autoImplicit false

/-- Tables by name and the accepted function names. -/
structure Catalog where
  /-- Tables sorted by name, each name once. -/
  tables : List Table := []
  /-- The accepted functions; none accepts every function. -/
  allowed : Option (List String) := none
  deriving Inhabited

/-- Equality of texts ignoring the case of ASCII letters. -/
def sameIgnoringAsciiCase (a b : String) : Bool :=
  a.toList.map Char.toLower == b.toList.map Char.toLower

namespace Catalog

/-- Inserts a table in name order, replacing one of the same name. -/
def insertTable (t : Table) : List Table → List Table
  | [] => [t]
  | u :: rest =>
      if t.name == u.name then t :: rest
      else if t.name < u.name then t :: u :: rest
      else u :: insertTable t rest

/-- The catalog with the table added, replacing one of the same name. -/
def add (c : Catalog) (t : Table) : Catalog := { c with tables := insertTable t c.tables }

/-- The table of a name, if present. -/
def find? (c : Catalog) (name : String) : Option Table := c.tables.find? fun t => t.name == name

/-- The table of a name; an absent one is refused with `Table T is not part of the schema`. -/
def table (c : Catalog) (name : String) : Outcome Table :=
  match c.find? name with
  | some t => .ok t
  | none => Outcome.fault (.unknownTable name)

/-- The table names, in order. -/
def names (c : Catalog) : List String := c.tables.map Table.name

/-- Whether the compiler accepts a function of this name. -/
def allows (c : Catalog) (function : String) : Bool :=
  match c.allowed with
  | none => true
  | some names => names.any (sameIgnoringAsciiCase · function)

end Catalog

end RelMap
