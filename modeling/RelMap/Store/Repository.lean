import RelMap.Sql.Compile
import RelMap.Store.Executor

/-!
# Record operations on a table

A repository runs the record operations of one table through an executor. Every statement is
compiled, and the record encoded, before anything is sent, so an operation that fails to compile
sends nothing.

- Inserting sends the encoded record and gives it back completed with what the database
  generated: the values of the first generated row (else of the first result row) for every
  stored column it names, or else the reported identifier for the single column left out.
- Selecting decodes each fetched row; a failing row is one failing item among the others.
- Finding selects by the record's identity, at most one row.
- Updating assigns every column outside the key, by the record's identity.
- Deleting a record expects exactly one row to go.
- Counting reads the first value of the first row as an unsigned 64-bit number.
-/

namespace RelMap

set_option autoImplicit false

/-- What record operations read and change: the registry and the executor. -/
structure StoreState where
  registry : Registry
  executor : Executor
  deriving Inhabited

/-- Record operations: they may compile statements, send them, and fail. -/
abbrev Store (α : Type) := ExceptT Failure (StateM StoreState) α

namespace Store

/-- A result computed without the store. -/
def lift {α : Type} (o : Outcome α) : Store α :=
  match o with
  | .ok a => pure a
  | .error e => throw e

def fail {α : Type} (p : Problem) : Store α := throw (Failure.of p)

/-- Runs a compilation on the store's registry. -/
def compile {α : Type} (r : Resolve α) : Store α := do
  let s ← get
  let (result, registry) := (r.run).run s.registry
  set { s with registry := registry }
  lift result

/-- The statement of a text, written for the executor's placeholders. -/
def render (t : Sql.Text) : Store Query := do
  pure (Sql.render (← get).executor.style t)

/-- Executes a statement and folds what it produced. -/
def execute (q : Query) : Store Execution := do
  let s ← get
  let (result, executor) := s.executor.execute q
  set { s with executor := executor }
  lift result

/-- Fetches the rows of a statement. -/
def fetch (q : Query) : Store (List (Outcome Row)) := do
  let s ← get
  let (rows, executor) := s.executor.fetch q
  set { s with executor := executor }
  pure rows

end Store

/-- The record operations of one table of a catalog. -/
structure Repository where
  catalog : Catalog
  table : Table

namespace Repository

def compiler (r : Repository) : Compiler := ⟨r.catalog, r.table, false⟩

/-- The record completed with the values a generated row holds for the stored columns. -/
def withGenerated (t : Table) (generated : Row) (record : Record) : Outcome Record :=
  t.columns.foldlM (fun acc c =>
    match c.mapper?, generated.get? c.name with
    | some m, some v => do
        let d ← (m.fromNative v).within (.decodingGenerated c.name)
        .ok (acc.set c.name d)
    | _, _ => .ok acc) record

/-- The record completed with what the database generated on insertion. -/
def completeInsert (t : Table) (row : EncodedRow) (result : Execution) (record : Record) :
    Outcome Record :=
  match result.keys.head? <|> result.rows.head? with
  | some generated => withGenerated t generated record
  | none =>
      match row.omitted, result.affected.lastId with
      | [c], some id =>
          match c.mapper? with
          | some m => do
              let d ← (m.fromNative (.int64 (some (Int64.ofInt id)))).within
                (.decodingGenerated c.name)
              .ok (record.set c.name d)
          | none => Outcome.fail (.notGenerated c.name)
      | _, _ => .ok record

/-- Inserts a record; gives it back with the generated values. -/
def insert (r : Repository) (record : Record) : Store Record := do
  let row ← Store.lift (r.table.encode record)
  let q ← Store.render (Compiler.insert r.table row)
  let result ← Store.execute q
  Store.lift (completeInsert r.table row result record)

/-- The records of the rows matching the options, one item for each fetched row. -/
def select (r : Repository) (o : SelectOptions) : Store (List (Outcome Record)) := do
  let q ← Store.render (← Store.compile (r.compiler.select o))
  let rows ← Store.fetch q
  pure (rows.map fun row => row >>= r.table.decode)

/-- The values of a node for the rows matching the options. -/
def selectValues (r : Repository) (n : Node) (o : SelectOptions) :
    Store (List (Outcome Datum)) := do
  let (t, projection) ← Store.compile (r.compiler.selectNode n o)
  let rows ← Store.fetch (← Store.render t)
  pure (rows.map fun row => row >>= projection.decode)

/-- The records a reference node reaches, for the rows matching the options. -/
def selectReferences (r : Repository) (n : Node) (o : SelectOptions) :
    Store (List (Outcome Record)) := do
  let (t, reached) ← Store.compile (r.compiler.selectReferences n o)
  let rows ← Store.fetch (← Store.render t)
  pure (rows.map fun row => row >>= reached.decode)

/-- The stored version of a record, looked up by its identity. -/
def find (r : Repository) (record : Record) : Store (Option Record) := do
  let w ← Store.lift (r.table.identity record)
  let items ← r.select { SelectOptions.addFilter {} w with limit := some 1 }
  match items with
  | [] => pure none
  | first :: _ => do pure (some (← Store.lift first))

/-- Sets the assignments on the rows matching the condition. -/
def updateColumns (r : Repository) (assignments : List Assignment) (w : Condition) :
    Store Affected := do
  let q ← Store.render (← Store.compile (r.compiler.update assignments w))
  pure (← Store.execute q).affected

/-- Writes every column outside the key of the record to its row. -/
def update (r : Repository) (record : Record) : Store Affected := do
  let w ← Store.lift (r.table.identity record)
  let assignments := (r.table.columns.filter fun c => !c.isKey).map fun c =>
    (⟨c.name, .datum (record.datum c.name)⟩ : Assignment)
  r.updateColumns assignments w

/-- Deletes the rows matching the condition, every row without one. -/
def delete (r : Repository) (w : Option Condition) : Store Affected := do
  let q ← Store.render (← Store.compile (r.compiler.delete w))
  pure (← Store.execute q).affected

/-- Deletes the row of a record; exactly one row must go. -/
def deleteRecord (r : Repository) (record : Record) : Store Unit := do
  let w ← Store.lift (r.table.identity record)
  let affected ← r.delete (some w)
  if affected.rows == 1 then pure () else Store.fail (.deletedRows affected.rows)

/-- The number of rows matching the condition. -/
def rowCount (r : Repository) (w : Option Condition) : Store Nat := do
  let q ← Store.render (← Store.compile (r.compiler.count w))
  let rows ← Store.fetch q
  match rows with
  | [] => Store.fail .countWithoutRow
  | first :: _ =>
      let row ← Store.lift first
      match row.values with
      | [] => Store.fail .countEmptyRow
      | v :: _ =>
          match ← Store.lift (Primitive.u64.decode v) with
          | .u64 n => pure n.toNat
          | _ => pure 0

end Repository

end RelMap
