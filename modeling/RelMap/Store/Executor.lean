import RelMap.Sql.Statement
import RelMap.Schema.Table

/-!
# Running statements

An executor receives statements and answers each with the items the database produced: result
rows, rows of generated values, counts of affected rows, or a failure. The executor here plays a
script: it keeps every statement it receives, and answers the `n`-th statement with the `n`-th
scripted answer, or with nothing once the script is used up.

Executing a statement folds its items: rows and generated rows in the order produced, affected
counts summed in a 64-bit word that wraps around, and the last reported generated identifier
kept; the first failure ends it.
Fetching a statement keeps its rows and its failures, in order. A failure of the database is put
under the context `The executor failed to run the query:` followed by the statement as shown in
failures.
-/

namespace RelMap

set_option autoImplicit false

/-- One item a statement produces. -/
inductive Produced where
  | row (r : Row)
  /-- A row of values the database generated for an inserted row. -/
  | keys (r : Row)
  /-- A count of affected rows, with the identifier of the last generated row if reported. -/
  | affected (count : Nat) (lastId : Option Int)
  | failure (message : String)
  deriving Inhabited

/-- The effect of a modifying statement. -/
structure Affected where
  rows : Nat
  lastId : Option Int
  deriving Inhabited

/-- Everything a statement produced. -/
structure Execution where
  rows : List Row
  keys : List Row
  affected : Affected
  deriving Inhabited

namespace Execution

/-- Nothing produced yet. -/
def empty : Execution := ⟨[], [], ⟨0, none⟩⟩

/-- Counts of affected rows are 64-bit words: sums wrap around past `2 ^ 64 - 1`. -/
def countModulus : Nat := Nat.pow 2 64

/-- Adds one item that is not a failure. -/
def add (e : Execution) : Produced → Execution
  | .row r => { e with rows := e.rows ++ [r] }
  | .keys r => { e with keys := e.keys ++ [r] }
  | .affected count lastId =>
      { e with
        affected := ⟨(e.affected.rows + count) % countModulus, lastId.or e.affected.lastId⟩ }
  | .failure _ => e

/-- The items folded in order; the first failure ends the fold with its message. -/
def collect : Execution → List Produced → Except String Execution
  | e, [] => .ok e
  | _, .failure message :: _ => .error message
  | e, item :: rest => collect (e.add item) rest

end Execution

/-- An executor playing a script of answers. -/
structure Executor where
  /-- How the statements it receives write their placeholders. -/
  style : Sql.Placeholders
  /-- Every statement received, in order. -/
  received : List Query := []
  /-- The answers still to give, one for each statement. -/
  script : List (List Produced) := []
  deriving Inhabited

namespace Executor

/-- Receives a statement and gives its answer. -/
def run (e : Executor) (q : Query) : List Produced × Executor :=
  match e.script with
  | answer :: rest => (answer, { e with received := e.received ++ [q], script := rest })
  | [] => ([], { e with received := e.received ++ [q] })

/-- The failure of the database while running a statement. -/
def failure (q : Query) (message : String) : Failure :=
  (Failure.of (.executorError message)).within (.fault (.executor q.display))

/-- Runs a statement and folds what it produced. -/
def execute (e : Executor) (q : Query) : Outcome Execution × Executor :=
  let (items, e) := e.run q
  match Execution.collect .empty items with
  | .ok result => (.ok result, e)
  | .error message => (.error (failure q message), e)

/-- Runs a statement and keeps its rows and failures, in order. -/
def fetch (e : Executor) (q : Query) : List (Outcome Row) × Executor :=
  let (items, e) := e.run q
  (items.filterMap fun item =>
    match item with
    | .row r => some (.ok r)
    | .failure message => some (.error (failure q message))
    | _ => none, e)

end Executor

end RelMap
