import RelMap.Proofs.SendAfterValidation
import RelMap.Proofs.RecordRows

/-!
# Inserting writes back exactly what the database generated

Inserting a record sends the statement of its encoding: the encoded fields, the physical columns
of the columns kept, and a request for the autoincrement columns whose value was left unset. The
record given back is the caller's record completed with the database's answer, and nothing else:

- with a generated row (else a first result row), every stored column whose name labels a value
  of that row holds what the column's mapper reads from the value;
- without one, when exactly one column was left out and the database reported the identifier of
  the inserted row, that column holds what its mapper reads from the identifier as a 64-bit
  integer;
- with neither, the record itself.

Every other field is the caller's. The caller's own record is a value and is never changed.

The completion by a generated row is a fold over the columns (`takeGenerated`); the columns have
distinct names, so each name is written by at most one step and the fold's effect can be read
name by name.
-/

namespace RelMap

set_option autoImplicit false

/-! ## Completing a record -/

namespace Record

/-- `inserted` holds `d` under `name` and agrees with `record` on every other field. -/
def SetOnly (record inserted : Record) (name : String) (d : Datum) : Prop :=
  inserted.get? name = some d ∧ ∀ other, other ≠ name → inserted.get? other = record.get? other

theorem setOnly_set (record : Record) (name : String) (d : Datum) :
    record.SetOnly (record.set name d) name d :=
  ⟨get?_set_self record name d, fun _ different => get?_set_of_ne record (Ne.symm different) d⟩

end Record

namespace Table

/-- `inserted` completes `record` with the generated row `g`: each stored column of `t` that `g`
labels holds what the column's mapper reads from the labelled value, and every other field is the
record's. -/
structure TakesGenerated (t : Table) (g : Row) (record inserted : Record) : Prop where
  taken : ∀ c ∈ t.columns, ∀ m v, c.mapper? = some m → g.get? c.name = some v →
    ∃ d, m.fromNative v = .ok d ∧ inserted.get? c.name = some d
  kept : ∀ name, (∀ c ∈ t.columns, c.name = name → ∀ m, c.mapper? = some m → g.get? name = none) →
    inserted.get? name = record.get? name

/-- What the database's answer `result` to the insertion of the encoded `row` makes of `record`:
the record completed with the generated row, else with the reported identifier for the single
column left out, else the record itself. -/
def WritesBack (t : Table) (row : EncodedRow) (result : Execution) (record inserted : Record) :
    Prop :=
  match result.keys.head? <|> result.rows.head? with
  | some generated => t.TakesGenerated generated record inserted
  | none =>
      (∃ c id m d, row.omitted = [c] ∧ result.affected.lastId = some id ∧ c.mapper? = some m ∧
          m.fromNative (.int64 (some (Int64.ofInt id))) = .ok d ∧ record.SetOnly inserted c.name d) ∨
        ((∀ c id, row.omitted = [c] → result.affected.lastId = some id → False) ∧
          inserted = record)

end Table

namespace Repository

/-- One column's share of completing a record with a generated row. -/
def takeGenerated (generated : Row) (acc : Record) (c : Column) : Outcome Record :=
  match c.mapper?, generated.get? c.name with
  | some m, some v => do
      let d ← (m.fromNative v).within (.decodingGenerated c.name)
      .ok (acc.set c.name d)
  | _, _ => .ok acc

theorem withGenerated_eq (t : Table) (generated : Row) (record : Record) :
    withGenerated t generated record = t.columns.foldlM (takeGenerated generated) record := rfl

/-- A step either sets the column to what its mapper reads from the labelled value, or, when the
column stores no single value or the row does not label it, keeps the record. -/
theorem takeGenerated_eq_ok {g : Row} {acc acc' : Record} {c : Column}
    (taken : takeGenerated g acc c = .ok acc') :
    (∃ m v d, c.mapper? = some m ∧ g.get? c.name = some v ∧ m.fromNative v = .ok d ∧
        acc' = acc.set c.name d) ∨
      ((∀ m, c.mapper? = some m → g.get? c.name = none) ∧ acc' = acc) := by
  unfold takeGenerated at taken
  split at taken
  · rename_i m v mapper labelled
    cases read : m.fromNative v with
    | error e =>
      rw [read] at taken
      cases taken
    | ok d =>
      rw [read] at taken
      cases taken
      exact .inl ⟨m, v, d, mapper, labelled, read, rfl⟩
  · rename_i unlabelled
    cases taken
    refine .inr ⟨fun m mapper => ?_, rfl⟩
    cases labelled : g.get? c.name with
    | none => rfl
    | some v => exact absurd labelled (unlabelled m v mapper)

/-- The fold over columns of distinct names sets each stored, labelled column once and keeps
every other field. -/
theorem foldlM_takeGenerated {g : Row} :
    ∀ {columns : List Column} {acc out : Record}, (columns.map Column.name).Nodup →
      columns.foldlM (takeGenerated g) acc = .ok out →
      (∀ c ∈ columns, ∀ m v, c.mapper? = some m → g.get? c.name = some v →
          ∃ d, m.fromNative v = .ok d ∧ out.get? c.name = some d) ∧
        ∀ name, (∀ c ∈ columns, c.name = name → ∀ m, c.mapper? = some m → g.get? name = none) →
          out.get? name = acc.get? name
  | [], acc, out, _, folded => by
    cases folded
    exact ⟨fun _ member => (nomatch member), fun _ _ => rfl⟩
  | c :: rest, acc, out, distinct, folded => by
    rw [List.foldlM_cons] at folded
    obtain ⟨fresh, distinctRest⟩ := List.nodup_cons.mp distinct
    cases step : takeGenerated g acc c with
    | error e =>
      rw [step] at folded
      cases folded
    | ok acc' =>
      rw [step] at folded
      obtain ⟨taken, kept⟩ := foldlM_takeGenerated distinctRest folded
      -- the later columns never write the name of `c`
      have keepsOwn : out.get? c.name = acc'.get? c.name := by
        refine kept c.name fun c' member same => absurd ?_ fresh
        exact List.mem_map.mpr ⟨c', member, same⟩
      refine ⟨fun c' member m v mapper labelled => ?_, fun name unlabelled => ?_⟩
      · rcases List.mem_cons.mp member with rfl | later
        · rcases takeGenerated_eq_ok step with ⟨m', v', d, mapper', labelled', read, rfl⟩ | ⟨none, _⟩
          · rw [mapper] at mapper'
            rw [labelled] at labelled'
            cases mapper'
            cases labelled'
            exact ⟨d, read, keepsOwn.trans (Record.get?_set_self acc c'.name d)⟩
          · rw [none m mapper] at labelled
            cases labelled
        · exact taken c' later m v mapper labelled
      · rw [kept name fun c' member => unlabelled c' (List.mem_cons_of_mem c member)]
        rcases takeGenerated_eq_ok step with ⟨m, v, d, mapper, labelled, _, rfl⟩ | ⟨_, rfl⟩
        · -- `c` was written, so it is not the name kept
          have different : c.name ≠ name := by
            rintro rfl
            rw [unlabelled c List.mem_cons_self rfl m mapper] at labelled
            cases labelled
          exact Record.get?_set_of_ne acc different d
        · rfl

/-- The record completed with the database's answer is what `WritesBack` says. -/
theorem completeInsert_writesBack {t : Table} (distinct : (t.columns.map Column.name).Nodup)
    {row : EncodedRow} {result : Execution} {record inserted : Record}
    (completed : completeInsert t row result record = .ok inserted) :
    t.WritesBack row result record inserted := by
  unfold completeInsert at completed
  unfold Table.WritesBack
  -- the answer's generated row, if there is one, decides both sides
  cases found : (result.keys.head? <|> result.rows.head?) with
  | some generated =>
    simp only [found] at completed
    rw [withGenerated_eq] at completed
    obtain ⟨taken, kept⟩ := foldlM_takeGenerated distinct completed
    exact ⟨taken, kept⟩
  | none =>
    simp only [found] at completed
    split at completed
    · rename_i c id omitted reported
      split at completed
      · rename_i m mapper
        cases read : m.fromNative (.int64 (some (Int64.ofInt id))) with
        | error e =>
          rw [read] at completed
          cases completed
        | ok d =>
          rw [read] at completed
          cases completed
          exact .inl ⟨c, id, m, d, omitted, reported, mapper, read, Record.setOnly_set record c.name d⟩
      · cases completed
    · rename_i notSingle
      cases completed
      exact .inr ⟨notSingle, rfl⟩

end Repository

/-- Inserting a record into a well-formed table sends, once the record is encoded, the one
statement of its encoding: the encoded fields are the physical columns of the columns kept, in
table order, and the columns asked back are exactly the autoincrement columns whose encoded value
is unset. When the insertion gives a record back, that record is the caller's completed with the
database's answer to the statement, as `WritesBack` says. -/
theorem insert_writes_back_generated (r : Repository) (wf : r.table.WellFormed)
    (record inserted : Record) (s : StoreState)
    (ran : ((r.insert record).run.run s).1 = .ok inserted) :
    ∃ row result, r.table.encode record = .ok row ∧
      row.fields.map Prod.fst =
        (r.table.columns.filter fun c => !c.leftOut record).flatMap Column.physicalNames ∧
      row.omitted = r.table.columns.filter (Column.leftOut record) ∧
      ((r.insert record).run.run s).2.executor.received =
        s.executor.received ++ [Sql.render s.executor.style (Compiler.insert r.table row)] ∧
      s.executor.executed (Sql.render s.executor.style (Compiler.insert r.table row)) =
        .ok result ∧
      r.table.WritesBack row result record inserted := by
  have run := r.insert_sends record s
  have lifted : (Resolve.lift (r.table.encode record)).run.run s.registry =
      (r.table.encode record, s.registry) := by
    cases r.table.encode record <;> rfl
  rw [lifted] at run
  cases encoded : r.table.encode record with
  | error e =>
    -- a record that does not encode fails before anything is sent
    rw [run, encoded] at ran
    cases ran
  | ok row =>
    rw [encoded] at run
    dsimp only at run
    rw [run] at ran ⊢
    cases executed : s.executor.executed (Sql.render s.executor.style (Compiler.insert r.table row))
      with
    | error e =>
      rw [executed] at ran
      cases ran
    | ok result =>
      rw [executed] at ran
      refine ⟨row, result, rfl, Table.encode_names encoded, (Table.encode_eq_ok encoded).1, ?_,
        executed, Repository.completeInsert_writesBack wf.distinctNames ran⟩
      simp [Executor.run_eq]

/-! ## A generated key -/

namespace InsertSamples

/-- Counters: an autoincrement key `id` and a text `label`. -/
def counterSpec : TableSpec :=
  { name := "counters"
    columns := [
      { name := "id", type := .named .i64, key := .primary, autoincrement := true },
      { name := "label", type := .named .string }] }

def counters : Table :=
  ⟨"counters", "", [⟨"id", .named .i64, .primary, true, .scalar (.primitive .i64)⟩,
    ⟨"label", .named .string, .regular, false, .scalar (.primitive .string)⟩], Record.empty,
    snakeCaseNaming⟩

theorem counters_built : counterSpec.build.outcome Registry.withDefaults = .ok counters := by
  cbv

def repository : Repository := ⟨{ tables := [counters] }, counters⟩

/-- A counter without its key. -/
def first : Record := Record.ofList [("label", .string "first")]

/-- A database that answers the first statement with the generated key `7`. -/
def state : StoreState :=
  ⟨Registry.empty, { style := .numbered, script := [[.keys ⟨["id"], [.int64 (some 7)]⟩]] }⟩

theorem generated_key_written_back :
    repository.table.WellFormed ∧
      ((repository.insert first).run.run state).1 = .ok (first.set "id" (.i64 7)) ∧
      ∃ row result, repository.table.encode first = .ok row ∧
        row.fields.map Prod.fst =
          (repository.table.columns.filter fun c => !c.leftOut first).flatMap
            Column.physicalNames ∧
        row.omitted = repository.table.columns.filter (Column.leftOut first) ∧
        ((repository.insert first).run.run state).2.executor.received =
          state.executor.received ++
            [Sql.render state.executor.style (Compiler.insert repository.table row)] ∧
        state.executor.executed
            (Sql.render state.executor.style (Compiler.insert repository.table row)) = .ok result ∧
        repository.table.WritesBack row result first (first.set "id" (.i64 7)) := by
  have wf : repository.table.WellFormed := TableSpec.wellFormed_of_build counters_built
  have inserted : ((repository.insert first).run.run state).1 = .ok (first.set "id" (.i64 7)) :=
    rfl
  exact ⟨wf, inserted, insert_writes_back_generated repository wf first _ state inserted⟩

end InsertSamples

end RelMap
