import Mathlib
import RelMap.Proofs.SendAfterValidation

/-!
# Executions fold their items

Executing a statement folds the items of the database's answer. Result rows and generated rows
are kept in the order they came. Affected counts are added up in a 64-bit word, which wraps
around past `2 ^ 64 - 1`. The last identifier reported is kept, a count without one keeping the
one before.

`Execution.collect_eq_ok` states the fold of an answer without failures, from any partial result
whose count is a word, and `Executor.execute_of_answer` reads it off for a whole answer. The
modifying operations of a repository report that total: updating, updating by assignments and
deleting give it, and deleting a record succeeds exactly when it is one
(`Repository.reportsTotal_of_answer`). The total is the sum of the counts modulo `2 ^ 64`;
`executions_fold_exact_totals` states the exact sum for the answers whose counts fit in a word.
Beyond, the sum wraps: counts of `2 ^ 64 - 1` and `2` add up to one, and a record is deleted on
that answer (`AffectedSamples.record_deleted_on_wrapped_total`).
-/

namespace RelMap

set_option autoImplicit false

namespace Produced

/-- The result rows among the items, in order. -/
def resultRows (items : List Produced) : List Row :=
  items.filterMap fun
    | .row r => some r
    | _ => none

/-- The generated rows among the items, in order. -/
def generatedRows (items : List Produced) : List Row :=
  items.filterMap fun
    | .keys r => some r
    | _ => none

/-- The affected counts the items report, in order. -/
def counts (items : List Produced) : List Nat :=
  items.filterMap fun
    | .affected count _ => some count
    | _ => none

/-- The identifiers the affected counts report, in order; a count may report none. -/
def reportedIds (items : List Produced) : List Int :=
  items.filterMap fun
    | .affected _ lastId => lastId
    | _ => none

/-- What the items report together: their counts added in a 64-bit word, and the last identifier
reported. -/
def totalAffected (items : List Produced) : Affected :=
  ⟨(counts items).sum % Execution.countModulus, (reportedIds items).getLast?⟩

/-- A count reporting an identifier makes it the last one reported before the later ones. -/
theorem getLast?_reportedIds_affected (count : Nat) (lastId : Option Int) (rest : List Produced) :
    (reportedIds (.affected count lastId :: rest)).getLast? = (reportedIds rest).getLast?.or lastId := by
  cases lastId with
  | none => simp [reportedIds]
  | some id => simp [reportedIds, List.getLast?_cons, Option.or_some]

end Produced

namespace Execution

/-- The count of every partial result of a fold is a 64-bit word. -/
theorem add_rows_lt {e : Execution} (bound : e.affected.rows < countModulus) (item : Produced) :
    (e.add item).affected.rows < countModulus := by
  cases item with
  | affected count lastId => exact Nat.mod_lt _ (by decide)
  | row r | keys r | failure m => exact bound

/-- The fold of an answer without failures from `e`: the rows and generated rows appended in
order, the counts added to `e`'s in a 64-bit word, and the last identifier reported, else `e`'s. -/
theorem collect_eq_ok (e : Execution) (items : List Produced) (clean : Produced.failures items = [])
    (bound : e.affected.rows < countModulus) :
    collect e items = .ok
      ⟨e.rows ++ Produced.resultRows items, e.keys ++ Produced.generatedRows items,
        ⟨(e.affected.rows + (Produced.counts items).sum) % countModulus,
          (Produced.reportedIds items).getLast?.or e.affected.lastId⟩⟩ := by
  induction items generalizing e with
  | nil =>
    rcases e with ⟨rows, keys, ⟨count, lastId⟩⟩
    simp [collect, Produced.resultRows, Produced.generatedRows, Produced.counts,
      Produced.reportedIds, Nat.mod_eq_of_lt bound]
  | cons item rest ih =>
    -- a failure would be the first failure of the answer; every other item is one step of the fold
    have restClean : Produced.failures rest = [] := by
      cases item <;> simp_all [Produced.failures]
    have step : collect e (item :: rest) = collect (e.add item) rest := by
      cases item with
      | failure m => simp [Produced.failures] at clean
      | row r | keys r | affected count lastId => rfl
    rw [step, ih (e.add item) restClean (add_rows_lt bound item)]
    cases item with
    | failure m => simp [Produced.failures] at clean
    | row r | keys r =>
      simp [add, Produced.resultRows, Produced.generatedRows, Produced.counts, Produced.reportedIds]
    | affected count lastId =>
      have total : ((e.affected.rows + count) % countModulus + (Produced.counts rest).sum) %
          countModulus = (e.affected.rows + (Produced.counts (.affected count lastId :: rest)).sum) %
            countModulus := by
        rw [Nat.mod_add_mod]
        simp [Produced.counts, Nat.add_assoc]
      simp only [add, Produced.getLast?_reportedIds_affected, Option.or_assoc, total]
      simp [Produced.resultRows, Produced.generatedRows]

/-- The result of a whole answer without failures. -/
def ofItems (items : List Produced) : Execution :=
  ⟨Produced.resultRows items, Produced.generatedRows items, Produced.totalAffected items⟩

theorem collect_empty {items : List Produced} (clean : Produced.failures items = []) :
    collect empty items = .ok (ofItems items) := by
  rw [collect_eq_ok empty items clean (by decide)]
  simp [empty, ofItems, Produced.totalAffected]

end Execution

/-- Executing a statement whose answer holds no failure gives the fold of the answer. -/
theorem Executor.execute_of_answer (e : Executor) (q : Query)
    (clean : Produced.failures (e.script.headD []) = []) :
    (e.execute q).1 = .ok (Execution.ofItems (e.script.headD [])) := by
  simp only [execute, run_eq, Execution.collect_empty clean]

namespace Store.SendsPrepared

variable {α β : Type} {prep : Resolve β} {text : β → Sql.Text}
  {finish : β → Execution → Outcome α} {m : Store α}

/-- An operation that executes its prepared statement finishes with the fold of an answer that
holds no failure. -/
theorem result_of_answer (sends : SendsPrepared prep text Executor.executed finish m)
    {s : StoreState} {b : β} {registry : Registry}
    (prepared : prep.run.run s.registry = (.ok b, registry))
    (clean : Produced.failures (s.executor.script.headD []) = []) :
    (m.run.run s).1 = finish b (Execution.ofItems (s.executor.script.headD [])) := by
  rw [sends s, prepared]
  dsimp only
  rw [Executor.executed, Executor.execute_of_answer _ _ clean]
  rfl

end Store.SendsPrepared

namespace Repository

/-- What the modifying operations of `r` give from the store `s` once their statement is prepared,
`total` being what the executor's next answer reports: updating, updating by assignments and
deleting give `total`, and deleting a record succeeds exactly when `total` counts one row, and
otherwise fails with the count. -/
structure ReportsTotal (r : Repository) (s : StoreState) (total : Affected) : Prop where
  update : ∀ record t registry,
    (Resolve.lift (r.table.identity record) >>= fun w =>
        r.compiler.update (keylessAssignments r.table record) w).run.run s.registry =
      (.ok t, registry) →
    ((r.update record).run.run s).1 = .ok total
  updateColumns : ∀ assignments w t registry,
    (r.compiler.update assignments w).run.run s.registry = (.ok t, registry) →
    ((r.updateColumns assignments w).run.run s).1 = .ok total
  delete : ∀ w t registry, (r.compiler.delete w).run.run s.registry = (.ok t, registry) →
    ((r.delete w).run.run s).1 = .ok total
  deleteRecord : ∀ record t registry,
    (Resolve.lift (r.table.identity record) >>= fun w =>
        r.compiler.delete (some w)).run.run s.registry = (.ok t, registry) →
    (((r.deleteRecord record).run.run s).1 = .ok () ↔ total.rows = 1) ∧
      (total.rows ≠ 1 →
        ((r.deleteRecord record).run.run s).1 = .error (Failure.of (.deletedRows total.rows)))

/-- Every modifying operation reports the total of an answer without failures. -/
theorem reportsTotal_of_answer (r : Repository) (s : StoreState)
    (clean : Produced.failures (s.executor.script.headD []) = []) :
    r.ReportsTotal s (Produced.totalAffected (s.executor.script.headD [])) where
  update record _ _ prepared := (r.update_sends record).result_of_answer prepared clean
  updateColumns assignments w _ _ prepared :=
    (r.updateColumns_sends assignments w).result_of_answer prepared clean
  delete w _ _ prepared := (r.delete_sends w).result_of_answer prepared clean
  deleteRecord record _ _ prepared := by
    rw [(r.deleteRecord_sends record).result_of_answer prepared clean]
    -- the check compares the folded count with one, and a failure is never a success
    simp [Execution.ofItems]

end Repository

/-- When the counts fit in a 64-bit word, the total is their exact sum. -/
theorem Produced.totalAffected_of_fits {items : List Produced}
    (fits : (Produced.counts items).sum < 2 ^ 64) :
    Produced.totalAffected items =
      ⟨(Produced.counts items).sum, (Produced.reportedIds items).getLast?⟩ := by
  have word : (Produced.counts items).sum < Execution.countModulus := fits
  rw [Produced.totalAffected, Nat.mod_eq_of_lt word]

/-- For an answer without failures whose affected counts add up to less than `2 ^ 64`, executing a
statement gives the answer's result rows and generated rows in order, the exact sum of its counts
and the last identifier it reports; updating, updating by assignments and deleting give that sum,
and deleting a record succeeds exactly when the sum is one. -/
theorem executions_fold_exact_totals (answer : List Produced)
    (clean : Produced.failures answer = []) (fits : (Produced.counts answer).sum < 2 ^ 64) :
    (∀ (e : Executor) (q : Query), e.script.headD [] = answer →
      (e.execute q).1 = .ok ⟨Produced.resultRows answer, Produced.generatedRows answer,
        ⟨(Produced.counts answer).sum, (Produced.reportedIds answer).getLast?⟩⟩) ∧
    ∀ (r : Repository) (s : StoreState), s.executor.script.headD [] = answer →
      r.ReportsTotal s ⟨(Produced.counts answer).sum, (Produced.reportedIds answer).getLast?⟩ := by
  have exact := Produced.totalAffected_of_fits fits
  refine ⟨fun e q next => ?_, fun r s next => ?_⟩
  · rw [Executor.execute_of_answer e q (next ▸ clean), next, Execution.ofItems, exact]
  · have reports := r.reportsTotal_of_answer s (next ▸ clean)
    rwa [next, exact] at reports

namespace AffectedSamples

/-- Books, by an autoincrement key `id`. -/
def books : Table :=
  ⟨"books", "", [⟨"id", .named .i64, .primary, true, .scalar (.primitive .i64)⟩], Record.empty,
    snakeCaseNaming⟩

def repository : Repository := ⟨{ tables := [books] }, books⟩

/-- The book with key `5`. -/
def fifth : Record := Record.ofList [("id", .i64 5)]

/-- A database answering the first statement with a row, a count of three with the identifier
`9`, and a count of two without one. -/
def counted : StoreState where
  registry := Registry.empty
  executor := { style := .anonymous
                script := [[.row ⟨["id"], [.int64 (some 5)]⟩, .affected 3 (some 9), .affected 2 none]] }

theorem delete_reports_total :
    Produced.failures (counted.executor.script.headD []) = [] ∧
      (Produced.counts (counted.executor.script.headD [])).sum < 2 ^ 64 ∧
      (repository.compiler.delete none).run.run counted.registry =
        (.ok (Sql.lit "DELETE FROM \"books\"" ++ [] ++ Sql.lit ";"), counted.registry) ∧
      ((repository.delete none).run.run counted).1 = .ok ⟨5, some 9⟩ := by
  have clean : Produced.failures (counted.executor.script.headD []) = [] := rfl
  have fits : (Produced.counts (counted.executor.script.headD [])).sum < 2 ^ 64 := by decide
  have prepared : (repository.compiler.delete none).run.run counted.registry =
      (.ok (Sql.lit "DELETE FROM \"books\"" ++ [] ++ Sql.lit ";"), counted.registry) := rfl
  refine ⟨clean, fits, prepared, ?_⟩
  exact ((executions_fold_exact_totals _ clean fits).2 repository counted rfl).delete none _ _
    prepared

/-- A database answering the first statement with counts of `2 ^ 64 - 1` and `2`. -/
def wrapping : StoreState where
  registry := Registry.empty
  executor := { style := .anonymous, script := [[.affected (2 ^ 64 - 1) none, .affected 2 none]] }

/-- The counts add up to `2 ^ 64 + 1` rows, whose total in a 64-bit word is one: deleting a record
succeeds on that answer. -/
theorem record_deleted_on_wrapped_total :
    (Produced.counts (wrapping.executor.script.headD [])).sum = 2 ^ 64 + 1 ∧
      ((repository.deleteRecord fifth).run.run wrapping).1 = .ok () :=
  ⟨rfl, rfl⟩

end AffectedSamples

end RelMap
