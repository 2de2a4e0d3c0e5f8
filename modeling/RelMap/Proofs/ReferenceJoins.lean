import Mathlib
import RelMap.Proofs.ReferencePaths
import RelMap.Proofs.CompiledOutcomes

/-!
# Reference selects return the rows the references reach

`selectReferences` writes a select of the records a reference node reaches: the table joined with
the target of each hop and then with the target of the node's own reference, the `i`-th joined
table aliased `ri` and joined on its key, with the filter and the ordering written in the
qualified context of the join. This module gives the statement the meaning standard SQL gives
it, on any database and for any meaning of the operators and functions a condition uses: the
joins, the three-valued `WHERE` that keeps a row when it is true, the select list read in the
table joined last, `LIMIT` keeping the first rows.

The main statement, `reference_select_returns_reached_rows`, says that without a limit, on a
named table that no alias `ri` names, the statement returns for each row of the table whose
references reach a row of the target, and that the filter keeps, the cells of the reached row
under the target's physical columns, and nothing else; and that every node, of the filter or of
the ordering, reads in the join what it reads on the table's row alone. With a limit, or on a
table named `r1`, it does not: `limited_or_captured_reference_select_differs`.
-/

namespace RelMap

set_option autoImplicit false

variable {V : Type} [DecidableEq V]

/-! ## What a condition computes -/

/-- What the database makes of the parameters, operators and functions of a condition. A
comparison is true, false or unknown (`none`). -/
structure Operators (V : Type) where
  param : Value → Cell V
  compare : Comparison → Cell V → Cell V → Option Bool
  call : String → List (Cell V) → Cell V
  concat : Cell V → Cell V → Cell V
  element : Cell V → Nat → Cell V
  truth : Cell V → Option Bool

/-- Three-valued `AND`: false wins over unknown. -/
def and3 : Option Bool → Option Bool → Option Bool
  | some false, _ => some false
  | _, some false => some false
  | some true, some true => some true
  | _, _ => none

/-- Three-valued `OR`: true wins over unknown. -/
def or3 : Option Bool → Option Bool → Option Bool
  | some true, _ => some true
  | _, some true => some true
  | some false, some false => some false
  | _, _ => none

mutual

/-- The cell of a node, given the cells of its column paths (`leaf`) and of its properties; none
when the statement fails. -/
def Node.cellWith (ops : Operators V) (leaf : Node → Option (Cell V))
    (property : String → Option (Cell V)) : Node → Option (Cell V)
  | .property path => property path
  | .reference base name => leaf (.reference base name)
  | .child base name => leaf (.child base name)
  | .literal d m =>
      match m.toNative d with
      | .ok v => some (ops.param v)
      | .error _ => none
  | .call name args _ => (Node.argsCellWith ops leaf property args).map (ops.call name)
  | .concat left right => do
      pure (ops.concat (← Node.cellWith ops leaf property left)
        (← Node.cellWith ops leaf property right))
  | .index base i => (Node.cellWith ops leaf property base).map fun cell => ops.element cell i

/-- The cells of the arguments of a call. -/
def Node.argsCellWith (ops : Operators V) (leaf : Node → Option (Cell V))
    (property : String → Option (Cell V)) : List Node → Option (List (Cell V))
  | [] => some []
  | a :: rest => do
      pure ((← Node.cellWith ops leaf property a) ::
        (← Node.argsCellWith ops leaf property rest))

end

/-- The truth of a condition, given the cells of its nodes: true, false or unknown; none when the
statement fails. `BETWEEN` is the conjunction of its two comparisons. -/
def Condition.truth (ops : Operators V) (cell : Node → Option (Cell V)) :
    Condition → Option (Option Bool)
  | .compare op left right => do pure (ops.compare op (← cell left) (← cell right))
  | .between value low high => do
      let v ← cell value
      let lo ← cell low
      let hi ← cell high
      pure (and3 (ops.compare .greaterEqual v lo) (ops.compare .lessEqual v hi))
  | .isNull n => do pure (some (← cell n).isNone)
  | .and left right => do pure (and3 (← left.truth ops cell) (← right.truth ops cell))
  | .or left right => do pure (or3 (← left.truth ops cell) (← right.truth ops cell))
  | .not inner => (inner.truth ops cell).map (Option.map (!·))
  | .raw n => (cell n).map ops.truth

/-- The cell of a resolved column path in the scopes, read as its text names it: the physical
column, qualified by the path's table when `qualify` holds, or the expression through its hops. -/
def ColumnPath.cell (db : Instance V) (qualify : Bool) (p : ColumnPath)
    (scopes : List (Scope V)) : Option (Cell V) :=
  match p.physical? with
  | none => none
  | some physical =>
      match p.throughHops physical with
      | none =>
          resolveColumn (if qualify then p.table.ref.qualifierSchema else "")
            (if qualify then p.table.ref.qualifier else "") physical scopes
      | some e => e.eval db scopes

namespace Compiler

variable (ops : Operators V) (db : Instance V) (r : Registry) (c : Compiler)

/-- The cell of a column path node of the compiler's table in the scopes. -/
def pathCell (scopes : List (Scope V)) (n : Node) : Option (Cell V) :=
  match (ColumnPath.resolve c.catalog c.table n).outcome r with
  | .ok p => p.cell db c.qualify scopes
  | .error _ => none

/-- The cell of a node as the compiler writes it, in the scopes: a property that is no column is
read as the path it spells. -/
def nodeCell (scopes : List (Scope V)) (n : Node) : Option (Cell V) :=
  n.cellWith ops (c.pathCell db r scopes) fun path =>
    match c.table.column? path with
    | some _ => c.pathCell db r scopes (.property path)
    | none =>
        match (parsePath c.catalog c.table path).outcome r with
        | .ok parsed =>
            parsed.cellWith ops (c.pathCell db r scopes) fun path =>
              c.pathCell db r scopes (.property path)
        | .error _ => none

/-- Whether the filter keeps the row the scopes stand on: SQL keeps it when the condition is
true. None when the statement fails. -/
def keeps (filter : Option Condition) (scopes : List (Scope V)) : Option Bool :=
  match filter with
  | some w => (w.truth ops (c.nodeCell ops db r scopes)).map (· = some true)
  | none => some true

end Compiler

/-! ## The joins -/

/-- A link the joins follow: the reference column read in the previous table, the target table,
the key of the target that the reference stores. -/
abbrev JoinLink := Column × Table × String

/-- The scopes of the rows the joins along the links add to the scopes of a row, innermost
first: each link's target aliased by its depth, and of its rows those whose key equals the
reference stored under the link's column in the row of `previous`. None when a column cannot
be read. -/
def Instance.joined (db : Instance V) (previous : TableRef) :
    Nat → List JoinLink → List (Scope V) → Option (List (List (Scope V)))
  | _, [], scopes => some [scopes]
  | depth, (column, target, key) :: rest, scopes => do
      let aliased := target.ref.withAlias (hopAlias depth)
      let matched ← (db.rowsOf aliased).mapM fun row => do
        let inner := ⟨aliased, row⟩ :: scopes
        let k ← resolveColumn aliased.qualifierSchema aliased.qualifier key inner
        let v ← resolveColumn previous.qualifierSchema previous.qualifier column.name inner
        if sqlEqual k v then db.joined aliased (depth + 1) rest inner else pure []
      pure matched.flatten

/-- The row reached from `row` along the links: through each, the row of its target whose key is
the reference stored under its column; none once a reference is NULL or no row has it. -/
def Instance.reach (db : Instance V) : Tuple V → List JoinLink → Option (Tuple V)
  | row, [] => some row
  | row, (column, target, key) :: rest =>
      match row.lookup column.name with
      | some (some v) =>
          match (db.rowsOf target.ref).find? fun t => t.lookup key == some (some v) with
          | some next => db.reach next rest
          | none => none
      | _ => none

/-- What is assumed of the database along the links leaving the table `previous`: its rows store
the link's reference, the rows of the link's target have the key, at most one per key value. -/
def Instance.Keyed (db : Instance V) : Table → List JoinLink → Prop
  | _, [] => True
  | previous, (column, target, key) :: rest =>
      (∀ row ∈ db.rowsOf previous.ref, (row.lookup column.name).isSome) ∧
      (∀ row ∈ db.rowsOf target.ref, (row.lookup key).isSome) ∧
      (∀ v : V,
        ((db.rowsOf target.ref).filter fun row => row.lookup key == some (some v)).length ≤ 1) ∧
      db.Keyed target rest

/-- The links a select of references joins along: each hop of the path, then the path's own
reference to the table `reached`, on the column it targets. -/
def ColumnPath.links (p : ColumnPath) (reached : Table) (target : Target) : List JoinLink :=
  p.hops.map (fun h => (h.column, h.target, h.key)) ++ [(p.column, reached, target.column)]

/-- No alias `ri` names the table: it has a schema, or a name other than every alias. -/
def Table.Unaliased (t : Table) : Prop := t.schemaName = "" → ∀ depth, t.name ≠ hopAlias depth

namespace Compiler

variable (ops : Operators V) (db : Instance V) (r : Registry) (c : Compiler)

/-- The rows of the select of references along the links, as SQL computes them: each row of the
compiler's table, joined along the links, kept by the filter written in the qualified context,
read under the columns in the table `selected`; a limit keeps the first rows. None when the
statement fails. -/
def joinedRows (links : List JoinLink) (selected : TableRef) (columns : List String)
    (o : SelectOptions) : Option (List (List (Cell V))) := do
  let perRow ← (db.rowsOf c.table.ref).mapM fun ρ => do
    let combined ← db.joined c.table.ref 0 links [⟨c.table.ref, ρ⟩]
    let kept ← combined.mapM fun scopes => do
      if ← { c with qualify := true }.keeps ops db r o.filter scopes then
        (columns.mapM fun name =>
          resolveColumn selected.qualifierSchema selected.qualifier name scopes).map ([·])
      else pure []
    pure kept.flatten
  let rows := perRow.flatten
  pure (match o.limit with
    | some n => rows.take n
    | none => rows)

/-- The rows a select of the records reached along the links is meant to return: for each row of
the compiler's table whose links reach a row, and that the filter keeps on the table alone, the
reached row's cells under the columns. -/
def reachedRows (links : List JoinLink) (columns : List String) (filter : Option Condition) :
    Option (List (List (Cell V))) := do
  let perRow ← (db.rowsOf c.table.ref).mapM fun ρ =>
    match db.reach ρ links with
    | none => pure []
    | some τ => do
        if ← { c with qualify := false }.keeps ops db r filter [Scope.mk c.table.ref ρ] then
          (columns.mapM fun name => τ.lookup name).map ([·])
        else pure []
  pure perRow.flatten

end Compiler

/-! ## Aliases never name an unaliased table -/

theorem hopAlias_ne_succ (depth : Nat) : hopAlias depth ≠ hopAlias (depth + 1) := by
  simp [hopAlias, Nat.repr_inj]

theorem hopAlias_isEmpty (depth : Nat) : (hopAlias depth).isEmpty = false := by
  simp [hopAlias]

theorem Table.Unaliased.unnamed {t : Table} (unaliased : t.Unaliased) (u : TableRef)
    (depth : Nat) :
    (u.withAlias (hopAlias depth)).isNamedBy t.ref.qualifierSchema t.ref.qualifier = false := by
  -- an alias is read only as an unqualified name: a table with a schema is never named by one
  by_cases bare : t.schemaName = ""
  · simpa [TableRef.isNamedBy, TableRef.withAlias, TableRef.qualifier, TableRef.qualifierSchema,
      Table.ref, hopAlias_isEmpty, bare] using unaliased bare depth
  · simp [TableRef.isNamedBy, TableRef.withAlias, TableRef.qualifierSchema, Table.ref,
      hopAlias_isEmpty, bare]

theorem hopAlias_unnamed_by_previous (u w : TableRef) (depth : Nat) :
    (u.withAlias (hopAlias (depth + 1))).isNamedBy (w.withAlias (hopAlias depth)).qualifierSchema
      (w.withAlias (hopAlias depth)).qualifier = false := by
  simp [TableRef.isNamedBy, TableRef.withAlias, TableRef.qualifier, TableRef.qualifierSchema,
    hopAlias_isEmpty, hopAlias_ne_succ depth]

/-- Scopes of tables each under an alias `ri`. -/
def HopAliased (inner : List (Scope V)) : Prop :=
  ∀ sc ∈ inner, ∃ (u : TableRef) (depth : Nat), sc.table = u.withAlias (hopAlias depth)

omit [DecidableEq V] in
theorem Table.Unaliased.unshadowing {t : Table} (unaliased : t.Unaliased)
    {inner : List (Scope V)} (aliased : HopAliased inner) : Unshadowing t.ref inner := by
  intro sc member
  obtain ⟨u, depth, named⟩ := aliased sc member
  rw [named]
  exact unaliased.unnamed u depth

/-! ## Nodes read the table's row past unshadowing scopes -/

/-- The columns of the expression are those of `root`, its subselects range over aliased tables. -/
def PathExpr.ReadsFrom (root : TableRef) : PathExpr → Prop
  | .column r _ => r = root
  | .subselect target _ _ argument => target.qualifier ≠ "" ∧ argument.ReadsFrom root

section Unshadowed

variable (db : Instance V)

/-- An expression over the columns of `root` reads the same in every stack of scopes opened
inside the root's that does not shadow it. -/
theorem PathExpr.eval_unshadowed (root : TableRef) (ρ : Tuple V)
    (qualified : root.qualifier ≠ "") :
    ∀ e : PathExpr, e.ReadsFrom root → e.hides root = false →
      ∀ inner, Unshadowing root inner →
        e.eval db (inner ++ [⟨root, ρ⟩]) = e.eval db [⟨root, ρ⟩]
  | .column r name, reads, _, inner, unshadowing => by
    obtain rfl : r = root := reads
    rw [PathExpr.eval, PathExpr.eval, resolveColumn_past r ρ name qualified inner unshadowing,
      resolveColumn_own r ρ [] name qualified]
  | .subselect target selected key argument, ⟨aliased, reads⟩, unhidden, inner,
      unshadowing => by
    simp only [PathExpr.hides, Bool.or_eq_false_iff] at unhidden
    -- the argument is read on each row of the subselect's table, opened inside both stacks
    have opened : ∀ row (outer : List (Scope V)), Unshadowing root outer →
        Unshadowing root (⟨target, row⟩ :: outer) := by
      intro row outer unshadowing' sc member
      rcases List.mem_cons.mp member with rfl | later
      · exact unhidden.1
      · exact unshadowing' sc later
    have argument_eq : ∀ row,
        argument.eval db (⟨target, row⟩ :: (inner ++ [⟨root, ρ⟩])) =
          argument.eval db [⟨target, row⟩, ⟨root, ρ⟩] := by
      intro row
      have within := eval_unshadowed root ρ qualified argument reads unhidden.2
        (⟨target, row⟩ :: inner) (opened row inner unshadowing)
      have alone := eval_unshadowed root ρ qualified argument reads unhidden.2 [⟨target, row⟩]
        (opened row [] (by simp [Unshadowing]))
      rw [List.cons_append] at within
      rw [within, ← alone]
      rfl
    simp only [PathExpr.eval, resolveColumn_own target _ _ _ aliased, argument_eq]

theorem subselects_readsFrom (root : TableRef) (physical : String) :
    ∀ (hops : List Hop) (depth : Nat) (e : PathExpr), e.ReadsFrom root →
      (ColumnPath.subselects physical e depth hops).ReadsFrom root
  | [], _, _, reads => reads
  | hop :: rest, depth, e, reads => by
    rw [subselects_cons]
    split
    · exact subselects_readsFrom root physical rest (depth + 1) e reads
    · exact subselects_readsFrom root physical rest (depth + 1) _
        ⟨qualifier_hopAlias _ depth, reads⟩

theorem subselects_unhidden {t : Table} (unaliased : t.Unaliased) (physical : String) :
    ∀ (hops : List Hop) (depth : Nat) (e : PathExpr), e.hides t.ref = false →
      (ColumnPath.subselects physical e depth hops).hides t.ref = false
  | [], _, _, unhidden => unhidden
  | hop :: rest, depth, e, unhidden => by
    rw [subselects_cons]
    split
    · exact subselects_unhidden unaliased physical rest (depth + 1) e unhidden
    · refine subselects_unhidden unaliased physical rest (depth + 1) _ ?_
      simp [PathExpr.hides, unaliased.unnamed, unhidden]

/-- A path of the table reads, qualified past unshadowing scopes, what it reads unqualified on
the table's row alone. -/
theorem ColumnPath.cell_unshadowed {root : Table} {p : ColumnPath}
    (chain : HopChain root p.hops p.table) (named : root.name ≠ "") (unaliased : root.Unaliased)
    (ρ : Tuple V) (inner : List (Scope V)) (unshadowing : Unshadowing root.ref inner) :
    p.cell db true (inner ++ [⟨root.ref, ρ⟩]) = p.cell db false [⟨root.ref, ρ⟩] := by
  have qualified : root.ref.qualifier ≠ "" := by
    simpa [TableRef.qualifier, Table.ref] using named
  unfold ColumnPath.cell
  rcases stored : p.physical? with _ | physical
  · rfl
  · unfold ColumnPath.throughHops
    rcases hops : p.hops with _ | ⟨first, rest⟩
    · -- a column of the table itself: the qualified name passes the inner scopes
      have own : p.table = root := by
        rw [hops] at chain
        cases chain
        rfl
      simp only [if_true, Bool.false_eq_true, if_false, own]
      rw [resolveColumn_past root.ref ρ physical qualified inner unshadowing]
      rcases read : ρ.lookup physical with _ | cell <;> simp [resolveColumn, read]
    · rw [hops] at chain
      cases chain with
      | step leaves _ =>
      simp only
      rw [leaves]
      exact PathExpr.eval_unshadowed db root.ref ρ qualified _
        (subselects_readsFrom root.ref physical _ 0 (.column root.ref first.column.name) rfl)
        (subselects_unhidden unaliased physical _ 0 (.column root.ref first.column.name) rfl)
        inner unshadowing

end Unshadowed

theorem Resolve.returns_of_outcome {α : Type} {x : Resolve α} {r : Registry} {a : α}
    (ok : x.outcome r = .ok a) : x.Returns a :=
  ⟨r, (x.run.run r).2, Prod.ext ok rfl⟩

namespace Compiler

variable (ops : Operators V) (db : Instance V) (r : Registry) (c : Compiler)

section Unshadowed

variable {c} (named : c.table.name ≠ "") (unaliased : c.table.Unaliased) (ρ : Tuple V)
  {inner : List (Scope V)} (unshadowing : Unshadowing c.table.ref inner)
include named unaliased unshadowing

theorem pathCell_unshadowed :
    { c with qualify := true }.pathCell db r (inner ++ [Scope.mk c.table.ref ρ]) =
      { c with qualify := false }.pathCell db r [Scope.mk c.table.ref ρ] := by
  funext n
  unfold pathCell
  dsimp only
  rcases resolved : (ColumnPath.resolve c.catalog c.table n).outcome r with _ | p
  · rfl
  · exact ColumnPath.cell_unshadowed db
      ((resolve_chained c.catalog c.table n).of_returns (Resolve.returns_of_outcome resolved))
      named unaliased ρ inner unshadowing

/-- Every node written in the qualified context of a join reads, past the joined scopes, what it
reads on the table's row alone. -/
theorem nodeCell_unshadowed :
    { c with qualify := true }.nodeCell ops db r (inner ++ [Scope.mk c.table.ref ρ]) =
      { c with qualify := false }.nodeCell ops db r [Scope.mk c.table.ref ρ] := by
  funext n
  unfold nodeCell
  rw [pathCell_unshadowed db r named unaliased ρ unshadowing]

theorem keeps_unshadowed (filter : Option Condition) :
    { c with qualify := true }.keeps ops db r filter (inner ++ [Scope.mk c.table.ref ρ]) =
      { c with qualify := false }.keeps ops db r filter [Scope.mk c.table.ref ρ] := by
  unfold keeps
  rw [nodeCell_unshadowed ops db r named unaliased ρ unshadowing]

end Unshadowed

end Compiler

/-! ## The joins reach one row -/

theorem mapM_flatten_filter {α β : Type} {f g : α → Option (List β)} {p : α → Bool} :
    ∀ xs : List α, (∀ x ∈ xs, f x = if p x then g x else some []) →
      List.flatten <$> xs.mapM f = List.flatten <$> (xs.filter p).mapM g
  | [], _ => rfl
  | x :: rest, each => by
    have later := mapM_flatten_filter rest fun y member => each y (List.mem_cons_of_mem x member)
    -- the rows of `x`, kept or none, go before those of the rest
    have before : ∀ (b : List β) (m : Option (List (List β))),
        List.flatten <$> (m >>= fun bs => pure (b :: bs)) = (b ++ ·) <$> (List.flatten <$> m) := by
      intro b m
      cases m <;> rfl
    rw [List.mapM_cons, each x List.mem_cons_self, List.filter_cons]
    by_cases kept : p x
    · rw [if_pos kept, if_pos kept, List.mapM_cons]
      rcases g x with _ | b
      · rfl
      · rw [← Option.pure_def, pure_bind, pure_bind, before, before, later]
    · rw [if_neg kept, if_neg kept, ← Option.pure_def, pure_bind, before, later]
      exact id_map _

theorem mapM_congr_mem {α β : Type} {f g : α → Option β} :
    ∀ {xs : List α}, (∀ x ∈ xs, f x = g x) → xs.mapM f = xs.mapM g
  | [], _ => rfl
  | x :: rest, same => by
    rw [List.mapM_cons, List.mapM_cons, same x List.mem_cons_self,
      mapM_congr_mem fun y member => same y (List.mem_cons_of_mem x member)]

/-- The table joined last along the links, under its alias; `previous` without links. -/
def lastJoined : TableRef → Nat → List JoinLink → TableRef
  | previous, _, [] => previous
  | _, depth, (_, target, _) :: rest =>
      lastJoined (target.ref.withAlias (hopAlias depth)) (depth + 1) rest

theorem lastJoined_append_last (column : Column) (target : Table) (key : String) :
    ∀ (links : List JoinLink) (previous : TableRef) (depth : Nat),
      lastJoined previous depth (links ++ [(column, target, key)]) =
        target.ref.withAlias (hopAlias (depth + links.length))
  | [], _, _ => rfl
  | (_, t, _) :: rest, _, depth => by
    rw [List.cons_append, lastJoined, lastJoined_append_last column target key rest,
      List.length_cons, Nat.add_assoc, Nat.add_comm 1]

/-- What the joins give for a row standing in `scopes` whose links reach `reached`: nothing when
they reach no row, else one stack, the scopes of the rows joined opened inside `scopes`, each
under an alias `ri`, in which the table `last` reads the row reached. -/
def JoinedTo (last : TableRef) (scopes : List (Scope V)) :
    Option (Tuple V) → List (List (Scope V)) → Prop
  | none, combined => combined = []
  | some τ, combined => ∃ inner, combined = [inner ++ scopes] ∧ HopAliased inner ∧
      ∀ name, resolveColumn last.qualifierSchema last.qualifier name (inner ++ scopes) =
        τ.lookup name

omit [DecidableEq V] in
theorem JoinedTo.widen {last : TableRef} {scopes : List (Scope V)} {u : TableRef} {depth : Nat}
    {row : Tuple V} {reached : Option (Tuple V)} {combined : List (List (Scope V))}
    (joined : JoinedTo last (⟨u.withAlias (hopAlias depth), row⟩ :: scopes) reached combined) :
    JoinedTo last scopes reached combined := by
  cases reached with
  | none => exact joined
  | some τ =>
    obtain ⟨inner, rfl, aliased, reads⟩ := joined
    refine ⟨inner ++ [⟨u.withAlias (hopAlias depth), row⟩], by simp, ?_,
      by simpa using reads⟩
    intro sc member
    rcases List.mem_append.mp member with earlier | last
    · exact aliased sc earlier
    · obtain rfl := List.mem_singleton.mp last
      exact ⟨u, depth, rfl⟩

/-- One join: of the rows of the link's target, those whose key is the reference the row of the
previous table stores, each joined further along the rest of the links. -/
theorem joined_cons (db : Instance V) {column : Column} {target : Table} {key : String}
    {rest : List JoinLink} {prevRef : TableRef} {depth : Nat} {π : Tuple V}
    {outer : List (Scope V)} {cπ : Cell V}
    (keys : ∀ row ∈ db.rowsOf target.ref, (row.lookup key).isSome)
    (named : prevRef.qualifier ≠ "")
    (fresh : (target.ref.withAlias (hopAlias depth)).isNamedBy prevRef.qualifierSchema
      prevRef.qualifier = false)
    (stored : π.lookup column.name = some cπ) :
    db.joined prevRef depth ((column, target, key) :: rest) (⟨prevRef, π⟩ :: outer) =
      List.flatten <$> ((db.rowsOf target.ref).filter (keyIs key cπ)).mapM fun τ =>
        db.joined (target.ref.withAlias (hopAlias depth)) (depth + 1) rest
          (⟨target.ref.withAlias (hopAlias depth), τ⟩ :: ⟨prevRef, π⟩ :: outer) := by
  -- the reference is read in the row of the previous table, past the row joined to it
  have reference : ∀ τ, resolveColumn prevRef.qualifierSchema prevRef.qualifier column.name
        (⟨target.ref.withAlias (hopAlias depth), τ⟩ :: ⟨prevRef, π⟩ :: outer) =
      some cπ := by
    intro τ
    simp [resolveColumn, named, fresh, TableRef.isNamedBy_own, stored]
  rw [Instance.joined, bind_pure_comp]
  refine mapM_flatten_filter _ fun τ member => ?_
  obtain ⟨k, keyRead⟩ := Option.isSome_iff_exists.mp (keys τ member)
  dsimp only
  rw [resolveColumn_own _ τ _ key (qualifier_hopAlias _ depth), keyRead, reference τ]
  simp [keyIs, keyRead]

/-- Where a key value is held by at most one row, no row holds it, or one row does and is the
row found by it. -/
theorem rows_with_key {rows : List (Tuple V)} {key : String} {v : V}
    (unique : (rows.filter fun row => row.lookup key == some (some v)).length ≤ 1) :
    (rows.filter (fun row => row.lookup key == some (some v)) = [] ∧
        rows.find? (fun row => row.lookup key == some (some v)) = none) ∨
      ∃ τ ∈ rows, rows.filter (fun row => row.lookup key == some (some v)) = [τ] ∧
        rows.find? (fun row => row.lookup key == some (some v)) = some τ := by
  rcases matching : rows.filter (fun row => row.lookup key == some (some v)) with
    _ | ⟨τ, _ | ⟨τ', more⟩⟩
  · exact .inl ⟨matching, by rw [← List.head?_filter, matching]; rfl⟩
  · have kept : τ ∈ rows.filter (fun row => row.lookup key == some (some v)) := by
      rw [matching]
      exact List.mem_singleton_self τ
    exact .inr ⟨τ, (List.mem_filter.mp kept).1, matching,
      by rw [← List.head?_filter, matching]; rfl⟩
  · rw [matching] at unique
    simp at unique

/-- The joins along the links add to a row one stack of scopes when its links reach a row, in
which the table joined last reads that row, and none otherwise. The induction is on the links,
each step joining the only row whose key is the reference. -/
theorem joined_reach (db : Instance V) (links : List JoinLink) :
    ∀ (previous : Table) (prevRef : TableRef) (depth : Nat) (π : Tuple V)
      (outer : List (Scope V)), db.Keyed previous links → π ∈ db.rowsOf previous.ref →
      prevRef.qualifier ≠ "" →
      (∀ u : TableRef, (u.withAlias (hopAlias depth)).isNamedBy prevRef.qualifierSchema
        prevRef.qualifier = false) →
      ∃ combined, db.joined prevRef depth links (⟨prevRef, π⟩ :: outer) = some combined ∧
        JoinedTo (lastJoined prevRef depth links) (⟨prevRef, π⟩ :: outer) (db.reach π links)
          combined := by
  induction links with
  | nil =>
    intro _ prevRef _ π outer _ _ named _
    exact ⟨_, rfl, [], rfl, by simp [HopAliased],
      fun name => resolveColumn_own prevRef π outer name named⟩
  | cons link rest joins_rest =>
    obtain ⟨column, target, key⟩ := link
    intro previous prevRef depth π outer ⟨stores, keys, unique, keyed⟩ current named fresh
    obtain ⟨cπ, stored⟩ := Option.isSome_iff_exists.mp (stores π current)
    rw [joined_cons db keys named (fresh target.ref) stored]
    rcases cπ with _ | v
    · -- a NULL reference matches no key: the links reach no row
      have none_kept : (db.rowsOf target.ref).filter (keyIs key none) = [] :=
        List.filter_eq_nil_iff.mpr fun τ _ => by simp [keyIs_null]
      refine ⟨[], by rw [none_kept]; rfl, ?_⟩
      simp only [Instance.reach, stored]
      rfl
    · rw [keyIs_value]
      rcases rows_with_key (unique v) with ⟨none_kept, missing⟩ | ⟨τ, member, only, found⟩
      · refine ⟨[], by rw [none_kept]; rfl, ?_⟩
        simp only [Instance.reach, stored, missing]
        rfl
      · -- the only row with the key is joined, and the joins go on from it
        obtain ⟨combined, joined, spec⟩ := joins_rest target
          (target.ref.withAlias (hopAlias depth)) (depth + 1) τ (⟨prevRef, π⟩ :: outer) keyed
          member (qualifier_hopAlias _ depth)
          fun u => hopAlias_unnamed_by_previous u target.ref depth
        refine ⟨combined, by simp [only, joined], ?_⟩
        simp only [Instance.reach, stored, found, lastJoined]
        exact spec.widen

namespace Compiler

variable (ops : Operators V) (db : Instance V) (r : Registry) (c : Compiler)

/-- Without a limit, on a named table that no alias `ri` names, the select along links whose keys
the database keeps unique returns the rows the links reach, read in the table joined last. -/
theorem joinedRows_eq_reachedRows (named : c.table.name ≠ "") (unaliased : c.table.Unaliased)
    {links : List JoinLink} (keyed : db.Keyed c.table links) {o : SelectOptions}
    (unlimited : o.limit = none) (columns : List String) :
    c.joinedRows ops db r links (lastJoined c.table.ref 0 links) columns o =
      c.reachedRows ops db r links columns o.filter := by
  have qualified : c.table.ref.qualifier ≠ "" := by
    simpa [TableRef.qualifier, Table.ref] using named
  unfold joinedRows reachedRows
  simp only [unlimited]
  congr 1
  -- each row of the table gives the same rows
  apply mapM_congr_mem
  intro ρ member
  obtain ⟨combined, joined, spec⟩ := joined_reach db links c.table c.table.ref 0 ρ [] keyed
    member qualified fun u => unaliased.unnamed u 0
  rw [joined]
  rcases reached : db.reach ρ links with _ | τ <;> rw [reached] at spec
  · rw [spec]
    rfl
  · obtain ⟨inner, rfl, aliased, reads⟩ := spec
    have keeps_eq := keeps_unshadowed ops db r named unaliased ρ
      (unaliased.unshadowing aliased) o.filter
    simp only [Option.pure_def, Option.bind_eq_bind, Option.bind_some, List.mapM_cons,
      List.mapM_nil, keeps_eq, reads]
    simp [Option.bind_assoc]

end Compiler

/-! ## The statement `selectReferences` writes -/

theorem Resolve.outcome_bind_eq_ok {α β : Type} {x : Resolve α} {f : α → Resolve β}
    {r : Registry} {b : β} (ok : (x >>= f).outcome r = .ok b) :
    ∃ a s, x.run.run r = (.ok a, s) ∧ (f a).outcome s = .ok b := by
  unfold Resolve.outcome at ok
  rw [Resolve.run_bind] at ok
  rcases ran : x.run.run r with ⟨_ | a, s⟩ <;> rw [ran] at ok
  · cases ok
  · exact ⟨a, s, rfl, ok⟩

/-- A select of references compiles from a path ending in a reference whose target table the
catalog has: it selects that table's physical columns under the alias joined last, from the
table joined along the links, with the clauses of the options written qualified. -/
theorem Compiler.selectReferences_ok {c : Compiler} {n : Node} {o : SelectOptions}
    {r : Registry} {text : Sql.Text} {reached : Table}
    (compiled : (c.selectReferences n o).outcome r = .ok (text, reached)) :
    ∃ p target clauses, (ColumnPath.resolve c.catalog c.table n).outcome r = .ok p ∧
      p.column.target? = some target ∧ c.catalog.table target.table = .ok reached ∧
      ({ c with qualify := true }.filter o).outcome r = .ok clauses ∧
      text = Sql.lit "SELECT " ++
        names true (reached.ref.withAlias (hopAlias ((p.links reached target).length - 1)))
          reached.physicalNames ++
        Sql.lit "\nFROM " ++ [Sql.Piece.fragment (Sql.lit c.table.ref.text)] ++
        [Sql.Piece.fragment (Sql.lit (joins c.table.ref 0 (p.links reached target)))] ++
        clauses ++ Sql.lit ";" := by
  unfold selectReferences at compiled
  obtain ⟨p, s, resolved, rest⟩ := Resolve.outcome_bind_eq_ok compiled
  split at rest
  · rename_i target _ targets
    obtain ⟨reached', s', lifted, rest'⟩ := Resolve.outcome_bind_eq_ok rest
    obtain ⟨clauses, _, filtered, returned⟩ := Resolve.outcome_bind_eq_ok rest'
    have looked := Resolve.Runs.lift (c.catalog.table target.table) s s (.refl s)
    rw [lifted] at looked
    -- the clauses are written from a registry with the links of `r`
    have kept : r.SameLinks s' := by
      have first := ((ColumnPath.resolve_steady c.catalog r c.table n).runs r (.refl r)).2
      rw [resolved] at first
      exact first.trans looked.2
    have written := ((Compiler.filter_steady { c with qualify := true } r o).runs)
      |>.outcome_of_sameLinks kept
    cases returned
    refine ⟨p, target, clauses, by simp [Resolve.outcome, resolved], targets, looked.1.symm,
      ?_, rfl⟩
    rw [← written]
    exact congrArg Prod.fst filtered
  · simp at rest

/-! ## Selects of references -/

/-- The select of the records a reference reaches, without a limit and on a named table that no
alias `ri` names, selects the reached table's physical columns from the table joined along the
path's hops and then its reference. On every database keeping the keys along them unique it
returns, for each row of the table whose references reach a row of the target and that the filter
keeps, the cells of the reached row under the target's physical columns, and nothing else; and
every node, of the filter or of the ordering, reads in the join what it reads on the table's row
alone. -/
theorem reference_select_returns_reached_rows {c : Compiler} {n : Node} {o : SelectOptions}
    {r : Registry} {text : Sql.Text} {reached : Table}
    (compiled : (c.selectReferences n o).outcome r = .ok (text, reached))
    (named : c.table.name ≠ "") (unaliased : c.table.Unaliased) (unlimited : o.limit = none) :
    (∃ p target clauses, (ColumnPath.resolve c.catalog c.table n).outcome r = .ok p ∧
      p.column.target? = some target ∧ c.catalog.table target.table = .ok reached ∧
      ({ c with qualify := true }.filter o).outcome r = .ok clauses ∧
      text = Sql.lit "SELECT " ++
        Compiler.names true
          (reached.ref.withAlias (hopAlias ((p.links reached target).length - 1)))
          reached.physicalNames ++
        Sql.lit "\nFROM " ++ [Sql.Piece.fragment (Sql.lit c.table.ref.text)] ++
        [Sql.Piece.fragment (Sql.lit (Compiler.joins c.table.ref 0 (p.links reached target)))] ++
        clauses ++ Sql.lit ";" ∧
      ∀ (ops : Operators V) (db : Instance V), db.Keyed c.table (p.links reached target) →
        c.joinedRows ops db r (p.links reached target)
            (reached.ref.withAlias (hopAlias ((p.links reached target).length - 1)))
            reached.physicalNames o =
          c.reachedRows ops db r (p.links reached target) reached.physicalNames o.filter) ∧
    ∀ (ops : Operators V) (db : Instance V) (ρ : Tuple V) (inner : List (Scope V)),
      Unshadowing c.table.ref inner →
        { c with qualify := true }.nodeCell ops db r (inner ++ [Scope.mk c.table.ref ρ]) =
          { c with qualify := false }.nodeCell ops db r [Scope.mk c.table.ref ρ] := by
  obtain ⟨p, target, clauses, resolved, targets, looked, filtered, written⟩ :=
    Compiler.selectReferences_ok compiled
  refine ⟨⟨p, target, clauses, resolved, targets, looked, filtered, written,
    fun ops db keyed => ?_⟩, fun ops db ρ inner unshadowing =>
      Compiler.nodeCell_unshadowed ops db r named unaliased ρ unshadowing⟩
  -- the table selected is the one joined last
  have last : lastJoined c.table.ref 0 (p.links reached target) =
      reached.ref.withAlias (hopAlias ((p.links reached target).length - 1)) := by
    rw [ColumnPath.links, lastJoined_append_last]
    simp
  rw [← last]
  exact Compiler.joinedRows_eq_reachedRows ops db r c named unaliased keyed unlimited _

/-! ## Samples

The table `b` references `u`, each of its two rows its own row of `u`: the select of the references
of `b` meets every hypothesis, and with a limit of one only the limit fails. The table `r1` of
`PathSamples` references a table `u` whose second row references itself. -/

namespace JoinSamples

open PathSamples

def people : Table := sampleTable "u" [key, label]

def follows : Table := sampleTable "b" [key, referenceTo "next" "u"]

def crossing : Catalog := ⟨[people, follows], none⟩

def followsCompiler : Compiler := { catalog := crossing, table := follows }

def nextPath : ColumnPath := ColumnPath.direct follows (referenceTo "next" "u")

/-- Two rows of `b`, each referencing its own row of `u`. -/
def crossed : Instance Nat where
  rows _ name :=
    if name = "u" then [[("id", some 1), ("name", some 5)], [("id", some 2), ("name", some 6)]]
    else if name = "b" then
      [[("id", some 10), ("next", some 1)], [("id", some 20), ("next", some 2)]]
    else []

theorem follows_unaliased : follows.Unaliased := by
  intro _ depth same
  have first := congrArg String.toList same
  simp [follows, sampleTable, hopAlias] at first

theorem crossed_keyed : crossed.Keyed follows (nextPath.links people ⟨"u", "id"⟩) := by
  refine ⟨by decide, by decide, fun v => ?_, trivial⟩
  simp [crossed, Instance.rowsOf, people, sampleTable, Table.ref, List.filter_cons, List.lookup]
  -- the keys 1 and 2 differ, so at most one row has the key `v`
  split_ifs <;> simp
  omega

theorem follows_select_returns_reached_rows :
    ∃ text, (followsCompiler.selectReferences (.property "next") {}).outcome Registry.empty =
        .ok (text, people) ∧ follows.name ≠ "" ∧ follows.Unaliased ∧
      (∃ p target clauses,
        (ColumnPath.resolve crossing follows (.property "next")).outcome Registry.empty = .ok p ∧
        p.column.target? = some target ∧ crossing.table target.table = .ok people ∧
        ({ followsCompiler with qualify := true }.filter {}).outcome Registry.empty =
          .ok clauses ∧
        text = Sql.lit "SELECT " ++
          Compiler.names true
            (people.ref.withAlias (hopAlias ((p.links people target).length - 1)))
            people.physicalNames ++
          Sql.lit "\nFROM " ++ [Sql.Piece.fragment (Sql.lit follows.ref.text)] ++
          [Sql.Piece.fragment (Sql.lit (Compiler.joins follows.ref 0 (p.links people target)))] ++
          clauses ++ Sql.lit ";" ∧
        ∀ (ops : Operators Nat) (db : Instance Nat), db.Keyed follows (p.links people target) →
          followsCompiler.joinedRows ops db Registry.empty (p.links people target)
              (people.ref.withAlias (hopAlias ((p.links people target).length - 1)))
              people.physicalNames {} =
            followsCompiler.reachedRows ops db Registry.empty (p.links people target)
              people.physicalNames none) ∧
      ∀ (ops : Operators Nat) (db : Instance Nat) (ρ : Tuple Nat) (inner : List (Scope Nat)),
        Unshadowing follows.ref inner →
          { followsCompiler with qualify := true }.nodeCell ops db Registry.empty
              (inner ++ [Scope.mk follows.ref ρ]) =
            { followsCompiler with qualify := false }.nodeCell ops db Registry.empty
              [Scope.mk follows.ref ρ] := by
  have compiled : (followsCompiler.selectReferences (.property "next") {}).outcome
      Registry.empty = .ok (_, people) := rfl
  exact ⟨_, compiled, by decide, follows_unaliased,
    reference_select_returns_reached_rows compiled (by decide) follows_unaliased rfl⟩

def r1Compiler : Compiler := { catalog := shadowing, table := PathSamples.r1 }

def r1NextPath : ColumnPath := ColumnPath.direct PathSamples.r1 (referenceTo "next" "u")

/-- With a limit of one, the select of the references of `b` returns one of the two rows they
reach, on a database keeping its keys unique. On the table named `r1` the alias of the first
join names the table too: SQL refuses two tables of one name in a `FROM` clause, and reading the
name in the innermost table, the join compares the row joined with itself and returns another
row than the reference reaches. -/
theorem limited_or_captured_reference_select_differs :
    ((∃ text, (followsCompiler.selectReferences (.property "next") { limit := some 1 }).outcome
        Registry.empty = .ok (text, people)) ∧
      (ColumnPath.resolve crossing follows (.property "next")).outcome Registry.empty =
        .ok nextPath ∧
      crossed.Keyed follows (nextPath.links people ⟨"u", "id"⟩) ∧
      ∀ ops : Operators Nat,
        followsCompiler.joinedRows ops crossed Registry.empty
            (nextPath.links people ⟨"u", "id"⟩) (people.ref.withAlias "r1") people.physicalNames
            { limit := some 1 } =
          some [[some 1, some 5]] ∧
        followsCompiler.reachedRows ops crossed Registry.empty
            (nextPath.links people ⟨"u", "id"⟩) people.physicalNames none =
          some [[some 1, some 5], [some 2, some 6]]) ∧
    ((∃ text, (r1Compiler.selectReferences (.property "next") {}).outcome Registry.empty =
        .ok (text, cycle)) ∧
      (ColumnPath.resolve shadowing PathSamples.r1 (.property "next")).outcome Registry.empty =
        .ok r1NextPath ∧
      ¬ PathSamples.r1.Unaliased ∧
      shadowed.Keyed PathSamples.r1 (r1NextPath.links cycle ⟨"u", "id"⟩) ∧
      ∀ ops : Operators Nat,
        r1Compiler.joinedRows ops shadowed Registry.empty (r1NextPath.links cycle ⟨"u", "id"⟩)
            (cycle.ref.withAlias "r1") cycle.physicalNames {} =
          some [[some 20, some 20, some 2]] ∧
        r1Compiler.reachedRows ops shadowed Registry.empty (r1NextPath.links cycle ⟨"u", "id"⟩)
            cycle.physicalNames none = some [[some 10, some 20, some 1]]) := by
  have r1Keyed : shadowed.Keyed PathSamples.r1 (r1NextPath.links cycle ⟨"u", "id"⟩) := by
    refine ⟨by decide, by decide, fun v => ?_, trivial⟩
    simp [shadowed, Instance.rowsOf, cycle, sampleTable, Table.ref, List.filter_cons, List.lookup]
    split_ifs <;> simp
    omega
  refine ⟨⟨⟨_, rfl⟩, rfl, crossed_keyed, fun ops => ⟨rfl, rfl⟩⟩,
    ⟨_, rfl⟩, rfl, fun unaliased => unaliased rfl 0 rfl, r1Keyed, fun ops => ⟨rfl, rfl⟩⟩

end JoinSamples

end RelMap