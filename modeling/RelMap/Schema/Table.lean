import RelMap.Schema.Column
import RelMap.Record
import RelMap.Expr.Node

/-!
# Tables

A table is a named list of uniquely named columns, with the record its rows start from and the
rule that names the physical columns of virtual children.

Building a table from its definition checks, in this order, and stops at the first failure:
the table has columns; then for each column in order, that it declares no misplaced child, that
its name is new, that its type (or each child's type, after checking the child's name is new in
the column) has a mapper, that a virtual column is neither a key nor autoincrement and has
children, that an autoincrement column is a key or has an integer native type, and that its
physical names are new in the table.

A record is encoded column by column into native values under physical names, leaving out the
autoincrement columns whose value is unset. A row is decoded back into a record starting from
the table's default record. A record's identity is the condition that every key column equals
the record's value.
-/

namespace RelMap

set_option autoImplicit false

/-- How the physical column of a virtual child is named: from the name of the column and the name
of the child, any function of the two. -/
def Naming : Type := String → String → String

/-- The default naming, `parent_child`. -/
def snakeCaseNaming : Naming := fun parent child => parent ++ "_" ++ child

instance : Inhabited Naming := ⟨snakeCaseNaming⟩

/-- A resolved table definition. -/
structure Table where
  name : String
  /-- The database schema holding the table, empty for the default one. -/
  schemaName : String
  columns : List Column
  /-- The record decoded rows start from. -/
  defaults : Record
  naming : Naming
  deriving Inhabited

/-- A table definition before its types are resolved. -/
structure TableSpec where
  name : String
  schemaName : String := ""
  columns : List ColumnSpec
  defaults : Record := Record.empty
  naming : Naming := snakeCaseNaming
  deriving Inhabited

/-- A result row: native values under their labels. -/
structure Row where
  labels : List String
  values : List Value
  deriving Inhabited

/-- The value under the first matching label, `none` when no label matches. A row holds one value
per label; a label past the last value also reads `none` here, where the library's own row access
stops the program. -/
def Row.get? (r : Row) (name : String) : Option Value :=
  match r.labels.idxOf? name with
  | some i => r.values[i]?
  | none => none

/-- A record's native values ready to be inserted. -/
structure EncodedRow where
  /-- Physical names and values, in column order, virtual children expanded. -/
  fields : List (String × Value)
  /-- Autoincrement columns left for the database to generate. -/
  omitted : List Column
  deriving Inhabited

namespace TableSpec

/-- A failure of the table definition. -/
def invalid {α : Type} (table : String) (p : TableProblem) : Resolve α :=
  Resolve.fault (.invalidTable table p)

/-- Resolves the children of a virtual column, checking their names are new in it. -/
def resolveChildren (table column : String) (naming : Naming) :
    List ChildSpec → List String → Resolve (List VirtualChild)
  | [], _ => pure []
  | c :: rest, seen => do
      if seen.contains c.name then invalid table (.duplicateChild c.name column)
      else
        let mapper ← Resolve.within (.resolvingChild column c.name) (Resolve.lookup c.type)
        let physical := c.physical.getD (naming column c.name)
        let others ← resolveChildren table column naming rest (c.name :: seen)
        pure (⟨c.name, physical, c.type, mapper⟩ :: others)

/-- The resolved kind of a column specification. -/
def resolveKind (table : String) (naming : Naming) (c : ColumnSpec) : Resolve ColumnKind :=
  match c.shape with
  | .scalar => do
      let m ← Resolve.within (.resolvingColumn c.name table) (Resolve.lookup c.type)
      pure (.scalar m)
  | .reference target => do
      let m ← Resolve.within (.resolvingColumn c.name table) (Resolve.lookup c.type)
      pure (.reference m target)
  | .composite codec => do
      if c.key != .regular || c.autoincrement then invalid table (.virtualKey c.name)
      else if c.children.isEmpty then invalid table (.childless c.name)
      else
        let children ← resolveChildren table c.name naming c.children []
        pure (.composite ⟨children, codec⟩)

/-- The first name already taken, earlier names of the list itself counting as taken. -/
def firstRepeated : List String → List String → Option String
  | [], _ => none
  | n :: rest, taken => if taken.contains n then some n else firstRepeated rest (n :: taken)

/-- Resolves the columns in order, `names` and `physical` holding the names taken so far. -/
def resolveColumns (table : String) (naming : Naming) :
    List ColumnSpec → List String → List String → Resolve (List Column)
  | [], _, _ => pure []
  | c :: rest, names, physical => do
      if let some misuse := c.misuse? then invalid table misuse
      else if names.contains c.name then invalid table (.duplicateColumn c.name)
      else
        let kind ← resolveKind table naming c
        let column : Column := ⟨c.name, c.type, c.key, c.autoincrement, kind⟩
        let integral := match column.mapper? with
          | some m => m.native.isIntegerType
          | none => false
        if column.autoincrement && !column.isKey && !integral then
          invalid table (.autoincrement c.name)
        else
          match firstRepeated column.physicalNames physical with
          | some name => invalid table (.duplicatePhysical name)
          | none => do
              let others ← resolveColumns table naming rest (c.name :: names)
                (column.physicalNames.reverse ++ physical)
              pure (column :: others)

/-- The table of a definition, its types resolved against the registry. -/
def build (spec : TableSpec) : Resolve Table := do
  if spec.columns.isEmpty then invalid spec.name .noColumns
  else
    let columns ← resolveColumns spec.name spec.naming spec.columns [] []
    pure ⟨spec.name, spec.schemaName, columns, spec.defaults, spec.naming⟩

end TableSpec

namespace Table

/-- The column of a name. -/
def column? (t : Table) (name : String) : Option Column :=
  t.columns.find? fun c => c.name == name

/-- The key columns, in order. -/
def keyColumns (t : Table) : List Column := t.columns.filter Column.isKey

/-- Every physical column name, in column order. -/
def physicalNames (t : Table) : List String := t.columns.flatMap Column.physicalNames

/-- The fields of one column, or the column itself when it is left for the database. -/
def encodeColumn (r : Record) (c : Column) : Outcome (List (String × Value) ⊕ Column) :=
  let datum := r.datum c.name
  match c.kind with
  | .composite v => do
      let flat ← (v.flatten datum).within (.encodingColumn c.name)
      .ok (.inl (flat.map fun (child, value) => (child.physical, value)))
  | .scalar m | .reference m _ => do
      let value ← (m.toNative datum).within (.encodingColumn c.name)
      if c.autoincrement && value.isUnset then .ok (.inr c)
      else .ok (.inl [(c.name, value)])

/-- The native values of a record, leaving out unset autoincrement columns. -/
def encode (t : Table) (r : Record) : Outcome EncodedRow := do
  let parts ← t.columns.mapM (encodeColumn r)
  .ok (parts.foldl (fun acc part =>
    match part with
    | .inl fields => { acc with fields := acc.fields ++ fields }
    | .inr c => { acc with omitted := acc.omitted ++ [c] }) ⟨[], []⟩)

/-- The value of a physical column of the row. -/
def rowValue (row : Row) (name : String) : Outcome Value :=
  match row.get? name with
  | some v => .ok v
  | none => Outcome.fail (.rowMissingColumn name)

/-- The datum of one column read from the row. -/
def decodeColumn (row : Row) (c : Column) : Outcome Datum :=
  match c.kind with
  | .composite v => v.assemble fun _ child => rowValue row child.physical
  | .scalar m | .reference m _ => do m.fromNative (← rowValue row c.name)

/-- The record of a row, starting from the table's default record. -/
def decode (t : Table) (row : Row) : Outcome Record :=
  t.columns.foldlM (fun r c => do
    let d ← (decodeColumn row c).within (.decodingColumn c.name)
    .ok (r.set c.name d)) t.defaults

/-- The condition matching the row of a record: each key column equal to its value. -/
def identity (t : Table) (r : Record) : Outcome Condition := do
  let conditions ← t.keyColumns.mapM fun c => do
    let datum := r.datum c.name
    if datum.isNull then Outcome.fail (.keyWithoutValue c.name t.name)
    else
      match c.mapper? with
      | some m => .ok (Condition.compare .equal (.property c.name) (.literal datum m))
      | none => Outcome.fault (.invalidTable t.name .virtualKeyColumn)
  match conditions with
  | [] => Outcome.fault (.missingKey t.name)
  | first :: rest => .ok (rest.foldl .and first)

end Table

end RelMap
