import Mathlib
import RelMap.Sql.Compile
import RelMap.Proofs.Postcondition

/-!
# Reference paths read the value reached by following the references

A column reached through references is written as nested correlated subselects, the target of
the `i`-th hop aliased `ri`. This module gives such expressions the meaning standard SQL gives
them, over any database: a column reference is resolved in the innermost table in scope that its
qualifier names, and a scalar subselect with no row is NULL. The main statement,
`reference_path_reads_followed_value`, says that the expression of a resolved path reads the
value reached by following the references from the current row, hop by hop, provided no
subselect alias names the root table: a hop whose selected column is the key it matches needs no
subselect, and skipping it changes nothing. A root table named like an alias, such as `r1`, is
captured by the subselect of that depth, and `shadowed_root_reads_another_row` shows the
expression then reads another row.

The database's values are of any type with decidable equality; a cell is a value or NULL.
-/

namespace RelMap

set_option autoImplicit false

variable {V : Type} [DecidableEq V]

/-! ## Databases and name resolution -/

/-- A stored value: `none` is NULL. -/
abbrev Cell (V : Type) := Option V

/-- A row of a table: its cells by column name. -/
abbrev Tuple (V : Type) := List (String × Cell V)

/-- The rows of every table, by schema and table name. -/
structure Instance (V : Type) where
  rows : String → String → List (Tuple V)

def Instance.rowsOf (db : Instance V) (r : TableRef) : List (Tuple V) := db.rows r.schemaName r.name

/-- Whether a qualifier written under `schema` names the table: an aliased table is named by its
alias alone, any other by its name, under its schema or none. -/
def TableRef.isNamedBy (r : TableRef) (schema qualifier : String) : Bool :=
  if r.aliasName.isEmpty then qualifier == r.name && (schema.isEmpty || schema == r.schemaName)
  else schema.isEmpty && qualifier == r.aliasName

theorem TableRef.isNamedBy_own (r : TableRef) : r.isNamedBy r.qualifierSchema r.qualifier := by
  by_cases aliased : r.aliasName.isEmpty <;>
    simp [isNamedBy, qualifier, qualifierSchema, aliased]

/-- A table in scope while an expression is evaluated, with the row the evaluation stands on. -/
structure Scope (V : Type) where
  table : TableRef
  row : Tuple V

/-- The cell a column reference denotes in the scopes, innermost first: a qualified reference is
read in the innermost table its qualifier names, an unqualified one in the innermost row that has
the column. None when that table lacks the column or no scope matches: the statement fails. -/
def resolveColumn (schema qualifier name : String) : List (Scope V) → Option (Cell V)
  | [] => none
  | sc :: outer =>
      if qualifier.isEmpty then
        match sc.row.lookup name with
        | some cell => some cell
        | none => resolveColumn schema qualifier name outer
      else if sc.table.isNamedBy schema qualifier then sc.row.lookup name
      else resolveColumn schema qualifier name outer

/-- SQL's `=` on cells: true only of two equal values. -/
def sqlEqual : Cell V → Cell V → Bool
  | some a, some b => a = b
  | _, _ => false

/-- The cell of the expression in the scopes; none when the statement fails: a column that cannot
be resolved, or a scalar subselect with more than one row. A subselect tests its `WHERE` clause
on each row of its table, that row innermost in scope, and is NULL when no row passes. -/
def PathExpr.eval (db : Instance V) : List (Scope V) → PathExpr → Option (Cell V)
  | scopes, .column r name => resolveColumn r.qualifierSchema r.qualifier name scopes
  | scopes, .subselect target selected key argument => do
      let tested ← (db.rowsOf target).mapM fun row => do
        let inner := ⟨target, row⟩ :: scopes
        let k ← resolveColumn target.qualifierSchema target.qualifier key inner
        let a ← argument.eval db inner
        pure (row, sqlEqual k a)
      match (tested.filter (·.2)).map (·.1) with
      | [] => pure none
      | [row] =>
          resolveColumn target.qualifierSchema target.qualifier selected (⟨target, row⟩ :: scopes)
      | _ :: _ :: _ => none

/-- Whether a subselect of the expression ranges over a table that the qualifier of `r` names. -/
def PathExpr.hides (r : TableRef) : PathExpr → Bool
  | .column _ _ => false
  | .subselect target _ _ argument =>
      target.isNamedBy r.qualifierSchema r.qualifier || argument.hides r

/-- The cell reached from `row` by following the hops: each hop goes to the row of its target
whose key is the reference stored in the current row, NULL once a reference is NULL or no row
has it; `column` is read in the row reached last. None when a row lacks a column read. -/
def Instance.follow (db : Instance V) (column : String) : Tuple V → List Hop → Option (Cell V)
  | row, [] => row.lookup column
  | row, hop :: rest => do
      match ← row.lookup hop.column.name with
      | none => pure none
      | some v =>
          match (db.rowsOf hop.target.ref).find? (fun t => t.lookup hop.key == some (some v)) with
          | some target => db.follow column target rest
          | none => pure none

/-- What is assumed of the database along the hops: the rows of each hop's table store its
reference, the rows of its target have the key, at most one row per key value and one for every
stored reference; the rows of the table reached last have the column read. -/
structure Instance.Serves (db : Instance V) (hops : List Hop) (last : Table) (column : String) :
    Prop where
  stores : ∀ hop ∈ hops, ∀ row ∈ db.rowsOf hop.source.ref, (row.lookup hop.column.name).isSome
  keyed : ∀ hop ∈ hops, ∀ row ∈ db.rowsOf hop.target.ref, (row.lookup hop.key).isSome
  unique : ∀ hop ∈ hops, ∀ v : V,
    ((db.rowsOf hop.target.ref).filter fun row => row.lookup hop.key == some (some v)).length ≤ 1
  matched : ∀ hop ∈ hops, ∀ row ∈ db.rowsOf hop.source.ref, ∀ v : V,
    row.lookup hop.column.name = some (some v) →
      ∃ target ∈ db.rowsOf hop.target.ref, target.lookup hop.key = some (some v)
  reads : ∀ row ∈ db.rowsOf last.ref, (row.lookup column).isSome

/-! ## Resolved paths chain their hops -/

/-- Hops leaving `first` in turn, each from the table the previous one enters; `last` is the
table entered last, `first` itself without hops. -/
inductive HopChain : Table → List Hop → Table → Prop
  | stay (t : Table) : HopChain t [] t
  | step {t : Table} {hop : Hop} {rest : List Hop} {last : Table} :
      hop.source = t → HopChain hop.target rest last → HopChain t (hop :: rest) last

theorem HopChain.snoc {first last : Table} {hops : List Hop} (chain : HopChain first hops last)
    (hop : Hop) (leaves : hop.source = last) : HopChain first (hops ++ [hop]) hop.target := by
  induction chain with
  | stay t => exact .step leaves (.stay _)
  | step source _ ih => exact .step source (ih leaves)

section Chain

open Resolve

variable (catalog : Catalog) (root : Table)

/-- The path's hops lead from `root` to the table of its column. -/
def ColumnPath.ChainedFrom (p : ColumnPath) : Prop := HopChain root p.hops p.table

theorem follow_chained (node : Node) (p : ColumnPath) (name : String)
    (chained : p.ChainedFrom root) :
    (ColumnPath.follow catalog node p name).Ensures (ColumnPath.ChainedFrom root) := by
  rw [ColumnPath.follow]
  split
  · refine (Ensures.true _).bind fun t _ => ?_
    split
    · exact Ensures.pure (chained.snoc _ rfl)
    · exact Ensures.fault _ _
  · exact Ensures.fault _ _

theorem descend_chained (node : Node) (p : ColumnPath) (name : String)
    (chained : p.ChainedFrom root) :
    (ColumnPath.descend node p name).Ensures (ColumnPath.ChainedFrom root) := by
  rw [ColumnPath.descend]
  split
  · split
    · exact Ensures.pure chained
    · exact Ensures.fault _ _
  · exact Ensures.fault _ _

theorem resolveWith_chained (property : String → Resolve ColumnPath)
    (properties : ∀ path, (property path).Ensures (ColumnPath.ChainedFrom root)) :
    ∀ node,
      (ColumnPath.resolveWith catalog property node).Ensures (ColumnPath.ChainedFrom root) := by
  intro node
  cases node with
  | property path =>
    rw [ColumnPath.resolveWith]
    exact properties path
  | reference base name =>
    rw [ColumnPath.resolveWith]
    exact (resolveWith_chained property properties base).bind fun p chained =>
      follow_chained catalog root _ p name chained
  | child base name =>
    rw [ColumnPath.resolveWith]
    exact (resolveWith_chained property properties base).bind fun p chained =>
      descend_chained root _ p name chained
  | literal | call | concat | index =>
    -- the equation of the remaining nodes carries the side conditions that they are no paths
    rw [ColumnPath.resolveWith]
    · exact Ensures.fault _ _
    all_goals simp

theorem direct_chained (c : Column) : (ColumnPath.direct root c).ChainedFrom root :=
  .stay root

/-- The hops of a resolved path lead from the table it is resolved on to the table owning its
column. -/
theorem resolve_chained (node : Node) :
    (ColumnPath.resolve catalog root node).Ensures (ColumnPath.ChainedFrom root) := by
  rw [ColumnPath.resolve]
  apply resolveWith_chained
  intro path
  split
  · exact Ensures.pure (direct_chained root _)
  · refine (Ensures.true _).bind fun parsed _ => ?_
    split
    · exact Ensures.fault _ _
    · apply resolveWith_chained
      intro name
      rw [ColumnPath.ofColumn]
      split
      · exact Ensures.pure (direct_chained root _)
      · exact Ensures.fault _ _

end Chain

/-! ## Evaluation along the hops -/

/-- The column a hop reads in its target, given the hops after it: the next hop's reference, or
`column` after the last hop. -/
def selectedAfter (column : String) : List Hop → String
  | [] => column
  | next :: _ => next.column.name

@[simp] theorem selectedAfter_nil (column : String) : selectedAfter column [] = column := rfl

@[simp] theorem selectedAfter_cons (column : String) (next : Hop) (rest : List Hop) :
    selectedAfter column (next :: rest) = next.column.name := rfl

theorem subselects_cons (physical : String) (e : PathExpr) (depth : Nat) (hop : Hop)
    (rest : List Hop) :
    ColumnPath.subselects physical e depth (hop :: rest) =
      if selectedAfter physical rest == hop.key then
        ColumnPath.subselects physical e (depth + 1) rest
      else
        ColumnPath.subselects physical
          (.subselect (hop.target.ref.withAlias (hopAlias depth)) (selectedAfter physical rest)
            hop.key e) (depth + 1) rest := by
  cases rest <;> rfl

theorem hides_of_subselects (r : TableRef) (physical : String) :
    ∀ (hops : List Hop) (depth : Nat) (e : PathExpr),
      (ColumnPath.subselects physical e depth hops).hides r = false → e.hides r = false
  | [], _, _, unhidden => unhidden
  | hop :: rest, depth, e, unhidden => by
    rw [subselects_cons] at unhidden
    split at unhidden
    · exact hides_of_subselects r physical rest _ _ unhidden
    · have wrapped := hides_of_subselects r physical rest _ _ unhidden
      simp only [PathExpr.hides, Bool.or_eq_false_iff] at wrapped
      exact wrapped.2

/-- The cell reached from `cell`, the reference the first hop follows: what `Instance.follow`
reaches from a row storing it. -/
def Instance.followFrom (db : Instance V) (column : String) : Cell V → List Hop → Option (Cell V)
  | cell, [] => some cell
  | none, _ :: _ => some none
  | some v, hop :: rest =>
      match (db.rowsOf hop.target.ref).find? (fun t => t.lookup hop.key == some (some v)) with
      | none => some none
      | some target => do db.followFrom column (← target.lookup (selectedAfter column rest)) rest

section Evaluation

variable (db : Instance V)

theorem followFrom_null (column : String) : ∀ hops, db.followFrom column none hops = some none
  | [] => rfl
  | _ :: _ => rfl

theorem follow_eq_followFrom (column : String) :
    ∀ (row : Tuple V) (hops : List Hop),
      db.follow column row hops = (row.lookup (selectedAfter column hops)).bind fun cell =>
        db.followFrom column cell hops
  | row, [] => by
    cases row.lookup column <;> simp [Instance.follow, Instance.followFrom, selectedAfter, *]
  | row, hop :: rest => by
    rcases stored : row.lookup hop.column.name with _ | _ | v
    · simp [Instance.follow, selectedAfter_cons, stored]
    · simp [Instance.follow, Instance.followFrom, selectedAfter_cons, stored]
    · simp only [Instance.follow, Instance.followFrom, selectedAfter_cons, stored,
        Option.bind_eq_bind, Option.bind_some]
      split
      · rename_i target found
        rw [found, follow_eq_followFrom column _ rest]
      · rename_i missing
        rw [missing]
        rfl

/-- Scopes opened inside the scope of `r`, none of them named by the qualifier of `r`. -/
def Unshadowing (r : TableRef) (inner : List (Scope V)) : Prop :=
  ∀ sc ∈ inner, sc.table.isNamedBy r.qualifierSchema r.qualifier = false

omit [DecidableEq V] in
theorem resolveColumn_own (r : TableRef) (row : Tuple V) (outer : List (Scope V)) (name : String)
    (qualified : r.qualifier ≠ "") :
    resolveColumn r.qualifierSchema r.qualifier name (⟨r, row⟩ :: outer) = row.lookup name := by
  simp [resolveColumn, qualified, TableRef.isNamedBy_own]

omit [DecidableEq V] in
/-- A qualified reference to `r` passes the scopes opened inside it that do not name `r`. -/
theorem resolveColumn_past (r : TableRef) (row : Tuple V) (name : String)
    (qualified : r.qualifier ≠ "") :
    ∀ inner : List (Scope V), Unshadowing r inner →
      resolveColumn r.qualifierSchema r.qualifier name (inner ++ [⟨r, row⟩]) = row.lookup name
  | [], _ => resolveColumn_own r row [] name qualified
  | sc :: inner, unshadowing => by
    have unnamed := unshadowing sc List.mem_cons_self
    have outer := resolveColumn_past r row name qualified inner fun sc' member =>
      unshadowing sc' (List.mem_cons_of_mem sc member)
    simpa [resolveColumn, qualified, unnamed] using outer

theorem mapM_eq_some_map {α β : Type} {f : α → Option β} (g : α → β) :
    ∀ {xs : List α}, (∀ a ∈ xs, f a = some (g a)) → xs.mapM f = some (xs.map g)
  | [], _ => rfl
  | a :: rest, each => by
    rw [List.mapM_cons, each a List.mem_cons_self,
      mapM_eq_some_map g fun a' member => each a' (List.mem_cons_of_mem a member)]
    rfl

/-- Whether the row's key equals the cell under SQL's `=`. -/
def keyIs (key : String) (cell : Cell V) (row : Tuple V) : Bool :=
  match row.lookup key with
  | some k => sqlEqual k cell
  | none => false

theorem keyIs_null (key : String) (row : Tuple V) : keyIs key none row = false := by
  unfold keyIs
  rcases row.lookup key with _ | _ | k <;> rfl

theorem keyIs_value (key : String) (v : V) :
    keyIs key (some v) = fun row => row.lookup key == some (some v) := by
  funext row
  unfold keyIs
  rcases row.lookup key with _ | _ | k
  · rfl
  · rfl
  · -- both sides decide `k = v`
    simp only [sqlEqual]
    rfl

/-- A subselect whose argument denotes `cell` on every row of its table keeps the rows whose key
is `cell`: NULL without one, the selected cell of the only one. -/
theorem eval_subselect (target : TableRef) (selected key : String) (argument : PathExpr)
    (scopes : List (Scope V)) (cell : Cell V) (aliased : target.qualifier ≠ "")
    (keyed : ∀ row ∈ db.rowsOf target, (row.lookup key).isSome)
    (denotes : ∀ row ∈ db.rowsOf target, argument.eval db (⟨target, row⟩ :: scopes) = some cell) :
    (PathExpr.subselect target selected key argument).eval db scopes =
      match (db.rowsOf target).filter (keyIs key cell) with
      | [] => some none
      | [row] => row.lookup selected
      | _ :: _ :: _ => none := by
  have tested : ∀ row ∈ db.rowsOf target,
      (do
        let k ← resolveColumn target.qualifierSchema target.qualifier key (⟨target, row⟩ :: scopes)
        let a ← argument.eval db (⟨target, row⟩ :: scopes)
        pure (row, sqlEqual k a)) = some (row, keyIs key cell row) := by
    intro row member
    obtain ⟨k, stored⟩ := Option.isSome_iff_exists.mp (keyed row member)
    rw [resolveColumn_own target row scopes key aliased, denotes row member, stored]
    simp [keyIs, stored]
  simp only [PathExpr.eval]
  rw [mapM_eq_some_map _ tested]
  simp only [Option.bind_eq_bind, Option.bind_some, List.filter_map, List.map_map]
  have kept : ((db.rowsOf target).filter ((·.2) ∘ fun row => (row, keyIs key cell row))).map
      ((·.1) ∘ fun row => (row, keyIs key cell row)) =
        (db.rowsOf target).filter (keyIs key cell) := by
    simp [Function.comp_def]
  rw [kept]
  split <;> simp [resolveColumn_own, aliased]

theorem eq_singleton_of_mem {α : Type} {l : List α} {a : α} (member : a ∈ l)
    (short : l.length ≤ 1) : l = [a] := by
  match l, member, short with
  | [_], member, _ => simp_all
  | _ :: _ :: _, _, short => simp at short

/-- Some row of `t` stores the cell under `column`, unless it is NULL. -/
def Instance.Stores (db : Instance V) (t : Table) (column : String) (cell : Cell V) : Prop :=
  ∀ v, cell = some v → ∃ row ∈ db.rowsOf t.ref, row.lookup column = some (some v)

theorem Instance.Serves.tail {hop : Hop} {rest : List Hop} {last : Table} {column : String}
    (serves : db.Serves (hop :: rest) last column) : db.Serves rest last column where
  stores h member := serves.stores h (List.mem_cons_of_mem hop member)
  keyed h member := serves.keyed h (List.mem_cons_of_mem hop member)
  unique h member := serves.unique h (List.mem_cons_of_mem hop member)
  matched h member := serves.matched h (List.mem_cons_of_mem hop member)
  reads := serves.reads

theorem Instance.Serves.selected_present {t last : Table} {hops : List Hop} {column : String}
    (serves : db.Serves hops last column) (chain : HopChain t hops last) :
    ∀ row ∈ db.rowsOf t.ref, (row.lookup (selectedAfter column hops)).isSome := by
  cases chain with
  | stay => exact serves.reads
  | step leaves _ =>
    intro row member
    rw [← leaves] at member
    exact serves.stores _ List.mem_cons_self row member

/-- A reference stored in a row of the hop's table is the key of exactly one row of its target. -/
theorem Instance.Serves.only_match {hop : Hop} {rest : List Hop} {last : Table} {column : String}
    (serves : db.Serves (hop :: rest) last column) {row : Tuple V}
    (member : row ∈ db.rowsOf hop.source.ref) {v : V}
    (reference : row.lookup hop.column.name = some (some v)) :
    ∃ t ∈ db.rowsOf hop.target.ref, t.lookup hop.key = some (some v) ∧
      (db.rowsOf hop.target.ref).filter (keyIs hop.key (some v)) = [t] := by
  obtain ⟨t, found, key⟩ := serves.matched hop List.mem_cons_self row member v reference
  refine ⟨t, found, key, ?_⟩
  rw [keyIs_value]
  exact eq_singleton_of_mem (by simp [found, key]) (serves.unique hop List.mem_cons_self v)

/-- What one hop does to the reference it follows: it yields the cell the next hop follows (or the
column read last), found in the only row whose key is the reference and NULL from a NULL
reference. A subselect over the hop's target computes that cell, and a hop selecting its own key
keeps the reference. -/
theorem hop_step {hop : Hop} {rest : List Hop} {here last : Table} {physical : String}
    {cell : Cell V} (serves : db.Serves (hop :: rest) last physical)
    (chain : HopChain here (hop :: rest) last) (stored : db.Stores here hop.column.name cell) :
    ∃ cell', db.followFrom physical cell (hop :: rest) = db.followFrom physical cell' rest ∧
      db.Stores hop.target (selectedAfter physical rest) cell' ∧
      (selectedAfter physical rest = hop.key → cell' = cell) ∧
      ∀ (target : TableRef) (argument : PathExpr) (scopes : List (Scope V)),
        db.rowsOf target = db.rowsOf hop.target.ref → target.qualifier ≠ "" →
        (∀ row ∈ db.rowsOf target, argument.eval db (⟨target, row⟩ :: scopes) = some cell) →
        (PathExpr.subselect target (selectedAfter physical rest) hop.key argument).eval db scopes =
          some cell' := by
  cases chain with
  | step leaves rests =>
  have keyed : ∀ row ∈ db.rowsOf hop.target.ref, (row.lookup hop.key).isSome :=
    serves.keyed hop List.mem_cons_self
  cases cell with
  | none =>
    -- a NULL reference matches no row
    refine ⟨none, by simp [Instance.followFrom, followFrom_null], (fun _ absurd => nomatch absurd),
      fun _ => rfl, fun target argument scopes same aliased denotes => ?_⟩
    rw [eval_subselect db target _ hop.key argument scopes none aliased (same ▸ keyed) denotes]
    have none_kept : (db.rowsOf target).filter (keyIs hop.key none) = [] :=
      List.filter_eq_nil_iff.mpr fun row _ => by simp [keyIs_null]
    rw [none_kept]
  | some v =>
    -- the reference is stored in a row of the hop's table, and exactly one target row has it
    obtain ⟨row, member, reference⟩ := stored v rfl
    rw [← leaves] at member
    obtain ⟨t, found, key, only⟩ := Instance.Serves.only_match db serves member reference
    have first : (db.rowsOf hop.target.ref).find? (fun row => row.lookup hop.key == some (some v)) =
        some t := by
      rw [← List.head?_filter, ← keyIs_value, only]
      rfl
    obtain ⟨cell', selected⟩ := Option.isSome_iff_exists.mp
      (Instance.Serves.selected_present db serves.tail rests t found)
    refine ⟨cell', ?_, fun v' same => ⟨t, found, same ▸ selected⟩, fun own => ?_,
      fun target argument scopes same aliased denotes => ?_⟩
    · simp [Instance.followFrom, first, selected]
    · rw [own, key] at selected
      exact (Option.some.inj selected).symm
    · rw [eval_subselect db target _ hop.key argument scopes (some v) aliased (same ▸ keyed)
        denotes, same, only]
      exact selected

theorem qualifier_hopAlias (r : TableRef) (depth : Nat) :
    (r.withAlias (hopAlias depth)).qualifier ≠ "" := by
  simp [TableRef.qualifier, TableRef.withAlias, hopAlias]

/-- The expression the hops build around `e` reads what following them reads from the reference
`e` denotes, in every stack of scopes opened inside the root's that does not shadow it. -/
theorem subselects_eval (root : TableRef) (ρ : Tuple V) (physical : String) :
    ∀ (hops : List Hop) (depth : Nat) (e : PathExpr) (cell : Cell V) (here last : Table),
      HopChain here hops last → db.Serves hops last physical →
      db.Stores here (selectedAfter physical hops) cell →
      (∀ inner, Unshadowing root inner → e.eval db (inner ++ [⟨root, ρ⟩]) = some cell) →
      (ColumnPath.subselects physical e depth hops).hides root = false →
      ∀ inner, Unshadowing root inner →
        ∃ reached, db.followFrom physical cell hops = some reached ∧
          (ColumnPath.subselects physical e depth hops).eval db (inner ++ [⟨root, ρ⟩]) =
            some reached
  | [], _, _, cell, _, _, _, _, _, denotes, _, inner, unshadowing =>
    ⟨cell, rfl, denotes inner unshadowing⟩
  | hop :: rest, depth, e, cell, here, last, chain, serves, stored, denotes, unhidden, inner,
      unshadowing => by
    obtain ⟨cell', followed, stored', keeps, computes⟩ := hop_step db serves chain stored
    cases chain with
    | step _ rests =>
    rw [subselects_cons] at unhidden ⊢
    rw [followed]
    by_cases own : (selectedAfter physical rest == hop.key) = true
    · -- the hop selects its own key: no subselect, and the reference is kept
      rw [if_pos own] at unhidden ⊢
      obtain rfl := keeps (beq_iff_eq.mp own)
      exact subselects_eval root ρ physical rest (depth + 1) e cell' hop.target last rests
        serves.tail stored' denotes unhidden inner unshadowing
    · -- a subselect over the hop's target, aliased by its depth
      rw [if_neg own] at unhidden ⊢
      have wrapped := hides_of_subselects root physical rest _ _ unhidden
      simp only [PathExpr.hides, Bool.or_eq_false_iff] at wrapped
      refine subselects_eval root ρ physical rest (depth + 1) _ cell' hop.target last rests
        serves.tail stored' ?_ unhidden inner unshadowing
      intro outer unshadowing'
      refine computes _ e _ rfl (qualifier_hopAlias _ depth) fun row _ =>
        denotes (⟨_, row⟩ :: outer) ?_
      intro sc member
      rcases List.mem_cons.mp member with rfl | member
      · exact wrapped.1
      · exact unshadowing' sc member

end Evaluation

/-! ## Reference paths -/

/-- The expression of a path through references, evaluated on a row of the table the path is
resolved on, reads the cell reached by following the references from that row. The table must be
named, and no subselect of the expression may be named by the table's qualifier. -/
theorem reference_path_reads_followed_value {catalog : Catalog} {root : Table} {node : Node}
    {p : ColumnPath} {physical : String} {e : PathExpr}
    (resolved : (ColumnPath.resolve catalog root node).Returns p)
    (stored : p.physical? = some physical) (reached : p.throughHops physical = some e)
    (named : root.name ≠ "") (unshadowed : e.hides root.ref = false)
    (db : Instance V) (ρ : Tuple V) (current : ρ ∈ db.rowsOf root.ref)
    (serves : db.Serves p.hops p.table physical) (qualify : Bool) :
    p.text qualify = .ok e.text ∧
      ∃ cell, db.follow physical ρ p.hops = some cell ∧ e.eval db [⟨root.ref, ρ⟩] = some cell := by
  have chain : HopChain root p.hops p.table :=
    (resolve_chained catalog root node).of_returns resolved
  refine ⟨by simp [ColumnPath.text, stored, reached], ?_⟩
  unfold ColumnPath.throughHops at reached
  split at reached
  · cases reached
  · rename_i first rest hops
    obtain rfl := Option.some.inj reached
    rw [hops] at chain serves unshadowed ⊢
    cases chain with
    | step leaves rests =>
    -- the root's reference column holds the reference the first hop follows
    have qualified : root.ref.qualifier ≠ "" := by simpa [TableRef.qualifier, Table.ref] using named
    obtain ⟨cell, reference⟩ := Option.isSome_iff_exists.mp
      (serves.stores first List.mem_cons_self ρ (leaves ▸ current))
    have denotes : ∀ inner, Unshadowing root.ref inner →
        (PathExpr.column first.source.ref first.column.name).eval db (inner ++ [⟨root.ref, ρ⟩]) =
          some cell := by
      intro inner unshadowing
      rw [leaves, PathExpr.eval, resolveColumn_past root.ref ρ _ qualified inner unshadowing]
      exact reference
    have storedCell : db.Stores root first.column.name cell :=
      fun v same => ⟨ρ, current, same ▸ reference⟩
    obtain ⟨final, followed, evaluated⟩ := subselects_eval db root.ref ρ physical (first :: rest) 0
      _ cell root p.table (.step leaves rests) serves storedCell denotes unshadowed []
      (by simp [Unshadowing])
    refine ⟨final, ?_, evaluated⟩
    rw [follow_eq_followFrom, selectedAfter_cons, reference]
    exact followed

/-! ## Samples

Books reference their author and authors their publisher: the publisher's name read from a book
meets every hypothesis. A table named `r1` referencing another is captured by the alias of its
own first subselect. -/

namespace PathSamples

def key : Column := ⟨"id", .named .i64, .primary, false, .scalar (.primitive .i64)⟩

def label : Column := ⟨"name", .named .string, .regular, false, .scalar (.primitive .string)⟩

/-- A column referencing the key of `target`. -/
def referenceTo (name target : String) : Column :=
  ⟨name, .named .i64, .regular, false, .reference (.primitive .i64) ⟨target, "id"⟩⟩

def sampleTable (name : String) (columns : List Column) : Table :=
  ⟨name, "", columns, Record.empty, snakeCaseNaming⟩

def publishers : Table := sampleTable "publishers" [key, label]

def authors : Table := sampleTable "authors" [key, label, referenceTo "publisher" "publishers"]

def books : Table := sampleTable "books" [key, referenceTo "author" "authors"]

def library : Catalog := ⟨[authors, books, publishers], none⟩

def publisherName : ColumnPath :=
  ⟨books, [⟨books, referenceTo "author" "authors", authors, "id"⟩,
    ⟨authors, referenceTo "publisher" "publishers", publishers, "id"⟩], publishers, label, none⟩

def publisherNameExpr : PathExpr :=
  .subselect (publishers.ref.withAlias "r2") "name" "id"
    (.subselect (authors.ref.withAlias "r1") "publisher" "id" (.column books.ref "author"))

/-- A book with an author and one without, the author, and the author's publisher. -/
def shelf : Instance Nat where
  rows _ name :=
    if name = "books" then
      [[("id", some 1), ("author", some 10)], [("id", some 2), ("author", none)]]
    else if name = "authors" then [[("id", some 10), ("name", some 5), ("publisher", some 100)]]
    else if name = "publishers" then [[("id", some 100), ("name", some 7)]]
    else []

def book : Tuple Nat := [("id", some 1), ("author", some 10)]

theorem book_reads_publisher_name :
    publisherName.text false = .ok publisherNameExpr.text ∧
      ∃ cell, shelf.follow "name" book publisherName.hops = some cell ∧
        publisherNameExpr.eval shelf [⟨books.ref, book⟩] = some cell := by
  have resolved : (ColumnPath.resolve library books
      (.reference (.reference (.property "author") "publisher") "name")).Returns publisherName :=
    ⟨Registry.empty, Registry.empty, rfl⟩
  have serves : shelf.Serves publisherName.hops publisherName.table "name" := by
    constructor
    case unique =>
      -- every target table of the path has a single row
      intro hop member v
      refine Nat.le_trans (List.length_filter_le _ _) ?_
      revert hop
      decide
    case matched =>
      intro hop member row stored v reference
      simp only [publisherName, List.mem_cons, List.not_mem_nil, or_false] at member
      rcases member with rfl | rfl
      all_goals
        simp [shelf, Instance.rowsOf, books, authors, publishers, sampleTable, Table.ref,
          referenceTo] at stored reference ⊢
        try rcases stored with rfl | rfl
        all_goals simp [List.lookup] at reference; try exact reference
    all_goals decide
  exact reference_path_reads_followed_value resolved rfl rfl (by decide) (by decide) shelf book
    (by decide) serves false

def cycle : Table :=
  sampleTable "u" [key, ⟨"next", .named .i64, .regular, false, .scalar (.primitive .i64)⟩, label]

def r1 : Table := sampleTable "r1" [key, referenceTo "next" "u"]

def shadowing : Catalog := ⟨[cycle, r1], none⟩

def nextName : ColumnPath := ⟨r1, [⟨r1, referenceTo "next" "u", cycle, "id"⟩], cycle, label, none⟩

def nextNameExpr : PathExpr :=
  .subselect (cycle.ref.withAlias "r1") "name" "id" (.column r1.ref "next")

/-- The row of `r1` references the first row of `u`; the second row of `u` references itself. -/
def shadowed : Instance Nat where
  rows _ name :=
    if name = "u" then [[("id", some 10), ("next", some 20), ("name", some 1)],
      [("id", some 20), ("next", some 20), ("name", some 2)]]
    else if name = "r1" then [[("id", some 1), ("next", some 10)]]
    else []

def shadowedRow : Tuple Nat := [("id", some 1), ("next", some 10)]

/-- With the root named like the alias of its first subselect, every hypothesis of
`reference_path_reads_followed_value` but the last holds, and the expression reads another row
than the reference leads to: the `"r1"."next"` it compares with is the inner row's. -/
theorem shadowed_root_reads_another_row :
    (ColumnPath.resolve shadowing r1 (.reference (.property "next") "name")).Returns nextName ∧
      nextName.throughHops "name" = some nextNameExpr ∧ nextNameExpr.hides r1.ref = true ∧
      nextName.text true =
        .ok "(SELECT \"r1\".\"name\" FROM \"u\" \"r1\" WHERE \"r1\".\"id\" = \"r1\".\"next\")" ∧
      shadowedRow ∈ shadowed.rowsOf r1.ref ∧ shadowed.Serves nextName.hops nextName.table "name" ∧
      shadowed.follow "name" shadowedRow nextName.hops = some (some 1) ∧
      nextNameExpr.eval shadowed [⟨r1.ref, shadowedRow⟩] = some (some 2) := by
  refine ⟨⟨Registry.empty, Registry.empty, rfl⟩, rfl, by decide, by decide, by decide, ?_,
    by decide, by decide⟩
  constructor
  case unique =>
    intro hop member v
    simp only [nextName, List.mem_singleton] at member
    subst member
    simp [shadowed, Instance.rowsOf, cycle, sampleTable, Table.ref, List.filter_cons, List.lookup]
    -- the keys 10 and 20 differ, so at most one row has the key `v`
    split_ifs <;> simp
    omega
  case matched =>
    intro hop member row stored v reference
    simp only [nextName, List.mem_singleton] at member
    subst member
    simp [shadowed, Instance.rowsOf, r1, cycle, sampleTable, Table.ref, referenceTo]
      at stored reference ⊢
    subst stored
    simp [List.lookup] at reference
    exact Or.inl reference
  all_goals decide

end PathSamples

end RelMap
