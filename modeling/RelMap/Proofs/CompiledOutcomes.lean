import Mathlib
import RelMap.Proofs.Outcomes
import RelMap.Proofs.ParameterOrder

/-!
# Compiled outcomes are fixed by the links

The compiler reads the registry only to look up element mappers: when a property path indexes a
sequence, and when the mapper of an element access is asked for. So what it gives for a node, a
condition or a decode mapper depends on the registry's successor links alone, and two
compilations from registries with the same links give the same text or the same failure.

`Resolve.Steady x r` says that `x` has such an outcome from the links of `r`. Steady computations
are closed under the steps of a `do` block, and there their outcomes compose as plain outcomes
(`outcome_bind`): a compilation can then be followed step by step as if there were no registry.
-/

namespace RelMap

set_option autoImplicit false

namespace Resolve

variable {α β : Type}

/-- From every registry with the links of `r`, `x` gives one and the same outcome. -/
def Steady (x : Resolve α) (r : Registry) : Prop := ∃ o, x.Runs r o

variable {x : Resolve α} {r : Registry}

theorem Runs.steady {o : Outcome α} (runs : x.Runs r o) : x.Steady r := ⟨o, runs⟩

theorem Steady.runs (steady : x.Steady r) : x.Runs r (x.outcome r) := by
  obtain ⟨o, runs⟩ := steady
  rw [runs.outcome_eq]
  exact runs

theorem Steady.bind {f : α → Resolve β} (first : x.Steady r) (rest : ∀ a, (f a).Steady r) :
    (x >>= f).Steady r := by
  obtain ⟨o, runs⟩ := first
  cases o with
  | error e => exact runs.bind_error.steady
  | ok a =>
    obtain ⟨o', runs'⟩ := rest a
    exact (runs.bind_ok runs').steady

/-- Steady steps compose as their outcomes do. -/
theorem outcome_bind {f : α → Resolve β} (first : x.Steady r) (rest : ∀ a, (f a).Steady r) :
    (x >>= f).outcome r = x.outcome r >>= fun a => (f a).outcome r :=
  (first.runs.bind fun a _ => (rest a).runs).outcome_eq

theorem Steady.pure (a : α) (r : Registry) : (Pure.pure a : Resolve α).Steady r :=
  (Runs.pure a r).steady

theorem Steady.throw (e : Failure) (r : Registry) : (MonadExcept.throw e : Resolve α).Steady r :=
  (Runs.throw e r).steady

theorem Steady.fail (p : Problem) (r : Registry) : (fail p : Resolve α).Steady r :=
  (Runs.fail p r).steady

theorem Steady.fault (f : Fault) (r : Registry) : (fault f : Resolve α).Steady r :=
  (Runs.fault f r).steady

theorem Steady.lift (o : Outcome α) (r : Registry) : (lift o).Steady r := (Runs.lift o r).steady

theorem Steady.ite {c : Prop} [Decidable c] {y : Resolve α} (yes : x.Steady r) (no : y.Steady r) :
    (if c then x else y).Steady r := by
  split <;> assumption

theorem Steady.map (f : α → β) (steady : x.Steady r) : (f <$> x).Steady r := by
  obtain ⟨o, runs⟩ := steady
  exact (runs.map f).steady

theorem Steady.tryCatch {h : Failure → Resolve α} (first : x.Steady r)
    (handler : ∀ e, (h e).Steady r) : (MonadExcept.tryCatch x h).Steady r := by
  obtain ⟨o, runs⟩ := first
  cases o with
  | ok a => exact runs.tryCatch_ok.steady
  | error e =>
    obtain ⟨o', handled⟩ := handler e
    exact (runs.tryCatch_error handled).steady

theorem Steady.lookup (key : TypeKey) (r : Registry) : (lookup key).Steady r :=
  (Runs.lookup key r).steady

theorem Steady.elementOf (m : Mapper) (r : Registry) : (elementOf m).Steady r :=
  (Runs.elementOf m r).steady

@[simp] theorem outcome_pure (a : α) (r : Registry) : (Pure.pure a : Resolve α).outcome r = .ok a :=
  rfl

@[simp] theorem outcome_throw (e : Failure) (r : Registry) :
    (MonadExcept.throw e : Resolve α).outcome r = .error e := rfl

@[simp] theorem outcome_fault (f : Fault) (r : Registry) :
    (fault f : Resolve α).outcome r = .error (Failure.ofFault f) := rfl

@[simp] theorem outcome_lift (o : Outcome α) (r : Registry) : (lift o).outcome r = o :=
  (Runs.lift o r).outcome_eq

theorem outcome_tryCatch {h : Failure → Resolve α} (first : x.Steady r)
    (handler : ∀ e, (h e).Steady r) :
    (MonadExcept.tryCatch x h).outcome r =
      match x.outcome r with
      | .ok a => .ok a
      | .error e => (h e).outcome r := by
  rcases first.runs.outcome_eq.symm ▸ first.runs with runs
  rcases outcome : x.outcome r with e | a
  · rw [outcome] at runs
    exact (runs.tryCatch_error (handler e).runs).outcome_eq
  · rw [outcome] at runs
    exact runs.tryCatch_ok.outcome_eq

theorem outcome_map (f : α → β) (steady : x.Steady r) : (f <$> x).outcome r = f <$> x.outcome r :=
  (steady.runs.map f).outcome_eq

end Resolve

open Resolve

namespace PathWalk

variable (catalog : Catalog) (path : String) (r : Registry)

theorem invalid_steady {α : Type} (reason : PathProblem) : (invalid path reason : Resolve α).Steady r :=
  Steady.fault _ r

theorem follow_steady (name : String) (position : PathPosition) :
    (follow catalog path name position).Steady r := by
  unfold follow
  split
  · split
    · split
      · exact invalid_steady path r _
      · split
        · exact Steady.pure _ r
        · exact invalid_steady path r _
    · exact invalid_steady path r _
  · exact invalid_steady path r _

theorem childOf_steady (name : String) (position : PathPosition) :
    (childOf path name position).Steady r := by
  unfold childOf
  split
  · split
    · split
      · exact Steady.pure _ r
      · exact invalid_steady path r _
    · exact invalid_steady path r _
  · exact invalid_steady path r _

theorem elementAt_steady (position : PathPosition) : (elementAt path position).Steady r := by
  unfold elementAt
  split
  · exact invalid_steady path r _
  · exact (Steady.elementOf _ r).tryCatch fun _ => invalid_steady path r _

theorem walk_steady (node : Node) (position : PathPosition) (chars : List Char) :
    (walk catalog path node position chars).Steady r := by
  fun_induction walk catalog path node position chars with
  | case1 => exact Steady.pure _ r
  | case2 | case4 | case6 | case7 | case9 | case10 => exact invalid_steady path r _
  | case3 node position rest _ _ next =>
    exact (follow_steady catalog path r _ position).bind next
  | case5 node position rest _ _ next =>
    exact (childOf_steady path r _ position).bind next
  | case8 node position rest _ _ after _ _ _ next =>
    exact (elementAt_steady path r position).bind next

end PathWalk

theorem parsePath_steady (catalog : Catalog) (table : Table) (path : String) (r : Registry) :
    (parsePath catalog table path).Steady r := by
  unfold parsePath
  dsimp only
  refine Steady.ite (PathWalk.invalid_steady path r _) ?_
  split
  · exact PathWalk.invalid_steady path r _
  · exact PathWalk.walk_steady catalog path r _ _ _

namespace ColumnPath

variable (catalog : Catalog) (r : Registry)

theorem follow_steady (node : Node) (p : ColumnPath) (name : String) :
    (follow catalog node p name).Steady r := by
  unfold follow
  split
  · refine (Steady.lift _ r).bind fun t => ?_
    split
    · exact Steady.pure _ r
    · exact Steady.fault _ r
  · exact Steady.fault _ r

theorem descend_steady (node : Node) (p : ColumnPath) (name : String) :
    (descend node p name).Steady r := by
  unfold descend
  split
  · split
    · exact Steady.pure _ r
    · exact Steady.fault _ r
  · exact Steady.fault _ r

theorem resolveWith_steady {property : String → Resolve ColumnPath}
    (properties : ∀ path, (property path).Steady r) (n : Node) :
    (resolveWith catalog property n).Steady r := by
  cases n with
  | property path => exact properties path
  | reference base name =>
    exact (resolveWith_steady properties base).bind fun p => follow_steady catalog r _ p name
  | child base name =>
    exact (resolveWith_steady properties base).bind fun p => descend_steady r _ p name
  | literal | call | concat | index => exact Steady.fault _ r

theorem ofColumn_steady (table : Table) (name : String) : (ofColumn table name).Steady r := by
  unfold ofColumn
  split
  · exact Steady.pure _ r
  · exact Steady.fault _ r

theorem resolve_steady (table : Table) (n : Node) : (resolve catalog table n).Steady r := by
  refine resolveWith_steady catalog r (fun path => ?_) n
  split
  · exact Steady.pure _ r
  · refine (parsePath_steady catalog table path r).bind fun parsed => ?_
    split
    · exact Steady.fault _ r
    · exact resolveWith_steady catalog r (ofColumn_steady r table) parsed

end ColumnPath

namespace Compiler

variable (c : Compiler) (r : Registry)

theorem pathText_steady (p : ColumnPath) : (c.pathText p).Steady r :=
  (Steady.lift _ r).bind fun _ => Steady.pure _ r

theorem columnProperty_steady (path : String) : (c.columnProperty path).Steady r :=
  (ColumnPath.resolve_steady c.catalog r c.table _).bind (c.pathText_steady r)

mutual

theorem nodeWith_steady {property : String → Resolve Sql.Text}
    (properties : ∀ path, (property path).Steady r) : ∀ n, (c.nodeWith property n).Steady r
  | .property path => properties path
  | .reference base name =>
    (ColumnPath.resolve_steady c.catalog r c.table _).bind (c.pathText_steady r)
  | .child base name =>
    (ColumnPath.resolve_steady c.catalog r c.table _).bind (c.pathText_steady r)
  | .literal d m => (Steady.lift _ r).bind fun _ => Steady.pure _ r
  | .call name args _ => by
    rw [nodeWith]
    exact Steady.ite (Steady.fault _ r)
      ((argsWith_steady properties args).bind fun _ => Steady.pure _ r)
  | .concat left right =>
    (nodeWith_steady properties left).bind fun _ =>
      (nodeWith_steady properties right).bind fun _ => Steady.pure _ r
  | .index base i => by
    rw [nodeWith]
    exact Steady.ite (Steady.fault _ r)
      ((nodeWith_steady properties base).bind fun _ => Steady.pure _ r)

theorem argsWith_steady {property : String → Resolve Sql.Text}
    (properties : ∀ path, (property path).Steady r) : ∀ args, (c.argsWith property args).Steady r
  | [] => Steady.pure _ r
  | [a] => nodeWith_steady properties a
  | a :: b :: rest =>
    (nodeWith_steady properties a).bind fun _ =>
      (argsWith_steady properties (b :: rest)).bind fun _ => Steady.pure _ r

end

/-- The text of every node has an outcome fixed by the links. -/
theorem node_steady (n : Node) : (c.node n).Steady r := by
  refine c.nodeWith_steady r (fun path => ?_) n
  split
  · exact c.columnProperty_steady r path
  · exact (parsePath_steady c.catalog c.table path r).bind
      (c.nodeWith_steady r (c.columnProperty_steady r))

theorem condition_steady : ∀ w, (c.condition w).Steady r
  | .compare _ left right =>
    (c.node_steady r left).bind fun _ => (c.node_steady r right).bind fun _ => Steady.pure _ r
  | .between value low high =>
    (c.node_steady r value).bind fun _ => (c.node_steady r low).bind fun _ =>
      (c.node_steady r high).bind fun _ => Steady.pure _ r
  | .isNull n => (c.node_steady r n).bind fun _ => Steady.pure _ r
  | .and left right =>
    (condition_steady left).bind fun _ => (condition_steady right).bind fun _ => Steady.pure _ r
  | .or left right =>
    (condition_steady left).bind fun _ => (condition_steady right).bind fun _ => Steady.pure _ r
  | .not inner => (condition_steady inner).bind fun _ => Steady.pure _ r
  | .raw n => c.node_steady r n

theorem sortKeys_steady : ∀ keys, (c.sortKeys keys).Steady r
  | [] => Steady.pure _ r
  | [k] => (c.node_steady r k.node).bind fun _ => Steady.pure _ r
  | k :: k' :: rest =>
    (c.node_steady r k.node).bind fun _ => (sortKeys_steady (k' :: rest)).bind fun _ =>
      Steady.pure _ r

/-- The clauses of every select have an outcome fixed by the links. -/
theorem filter_steady (o : SelectOptions) : (c.filter o).Steady r := by
  refine Steady.bind ?_ fun _ => Steady.bind ?_ fun _ => Steady.pure _ r
  · rcases o.filter with _ | w
    · exact Steady.pure _ r
    · exact (c.condition_steady r w).bind fun _ => Steady.pure _ r
  · unfold orderClause
    split
    · exact Steady.pure _ r
    · exact (c.sortKeys_steady r _).bind fun _ => Steady.pure _ r

theorem pathMapper_steady (n : Node) : (c.pathMapper n).Steady r := by
  refine (ColumnPath.resolve_steady c.catalog r c.table n).bind fun p => ?_
  split
  · exact Steady.pure _ r
  · exact Steady.fault _ r

mutual

theorem decodeWith_steady {property : String → Resolve Mapper}
    (properties : ∀ path, (property path).Steady r) : ∀ n, (c.decodeWith property n).Steady r
  | .property path => properties path
  | .reference .. | .child .. => c.pathMapper_steady r _
  | .literal _ m => Steady.pure m r
  | .call _ _ (some m) => Steady.pure m r
  | .call name args none => firstArgWith_steady properties name args
  | .concat _ _ => Steady.lookup _ r
  | .index base _ => (decodeWith_steady properties base).bind fun m => Steady.elementOf m r

theorem firstArgWith_steady {property : String → Resolve Mapper}
    (properties : ∀ path, (property path).Steady r) (name : String) :
    ∀ args, (c.firstArgWith property name args).Steady r
  | [] => Steady.fail _ r
  | a :: _ => decodeWith_steady properties a

end

/-- The decode mapper of every node has an outcome fixed by the links. -/
theorem decodeMapper_steady (n : Node) : (c.decodeMapper n).Steady r := by
  refine c.decodeWith_steady r (fun path => ?_) n
  split
  · exact c.pathMapper_steady r _
  · exact (parsePath_steady c.catalog c.table path r).bind
      (c.decodeWith_steady r fun _ => c.pathMapper_steady r _)

end Compiler

end RelMap
