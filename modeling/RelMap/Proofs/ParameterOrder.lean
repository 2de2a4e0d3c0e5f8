import RelMap.Sql.Compile
import RelMap.Proofs.Postcondition
import RelMap.Proofs.PlaceholderNumbering

/-!
# Parameters are bound in the order they are written

A compiled statement binds one value for each literal of its nodes, for each datum it assigns
and for each field it inserts, in left-to-right order of the tree, `SET` before `WHERE` and
`WHERE` before `ORDER BY`. The bindings of a node, a condition and the options of a select are
defined here on the syntax alone; each compiler is proved to bind the native values of those
bindings, in order, whenever it returns a statement. Together with `render_eq_numbered` this
says that the `i`-th placeholder of the written statement binds the `i`-th of them.

Property paths bind nothing: a path parses to a node with no literal.
-/

namespace RelMap

set_option autoImplicit false

open Sql Resolve

/-- The values are the native values of the bindings, converted in order by their mappers. -/
def Binds (bindings : List (Datum × Mapper)) (values : List Value) : Prop :=
  List.Forall₂ (fun b v => b.2.toNative b.1 = .ok v) bindings values

@[simp] theorem binds_nil_iff (values : List Value) : Binds [] values ↔ values = [] :=
  List.forall₂_nil_left_iff

@[simp] theorem binds_single_iff (d : Datum) (m : Mapper) (values : List Value) :
    Binds [(d, m)] values ↔ ∃ v, m.toNative d = .ok v ∧ values = [v] := by
  cases values with
  | nil => simp [Binds]
  | cons v rest => simp [Binds, eq_comm]

theorem Binds.append {first second : List (Datum × Mapper)} {x y : List Value}
    (left : Binds first x) (right : Binds second y) : Binds (first ++ second) (x ++ y) :=
  List.rel_append left right

mutual

/-- The literals of a node with their mappers, in left-to-right order. -/
def Node.bindings : Node → List (Datum × Mapper)
  | .literal d m => [(d, m)]
  | .call _ args _ => Node.argBindings args
  | .concat l r => l.bindings ++ r.bindings
  | .index base _ => base.bindings
  | .property _ | .reference _ _ | .child _ _ => []

/-- The literals of call arguments, in order. -/
def Node.argBindings : List Node → List (Datum × Mapper)
  | [] => []
  | a :: rest => a.bindings ++ Node.argBindings rest

end

theorem Node.bindings_of_isColumnPath {n : Node} (named : n.isColumnPath) : n.bindings = [] := by
  cases n <;> simp_all [Node.isColumnPath, Node.bindings]

/-- The literals of a condition, in left-to-right order. -/
def Condition.bindings : Condition → List (Datum × Mapper)
  | .compare _ l r => l.bindings ++ r.bindings
  | .between v lo hi => v.bindings ++ lo.bindings ++ hi.bindings
  | .isNull n => n.bindings
  | .and l r => l.bindings ++ r.bindings
  | .or l r => l.bindings ++ r.bindings
  | .not inner => inner.bindings
  | .raw n => n.bindings

/-- The literals of an optional condition. -/
def whereBindings : Option Condition → List (Datum × Mapper)
  | some w => w.bindings
  | none => []

/-- The literals of sort keys, key by key. -/
def sortBindings (keys : List SortKey) : List (Datum × Mapper) :=
  keys.flatMap fun k => k.node.bindings

/-- The literals of a select's options: the condition's, then the sort keys'. -/
def SelectOptions.bindings (o : SelectOptions) : List (Datum × Mapper) :=
  whereBindings o.filter ++ sortBindings o.orderBy

/-- What an assignment binds, its path resolved to `p`: an expression binds its literals; a datum
binds its native value under the mapper of the assigned column, or, assigned to a whole virtual
column, each child's native value in declaration order. -/
def Assigned.Binds (p : ColumnPath) : Assigned → List Value → Prop
  | .node n, values => RelMap.Binds n.bindings values
  | .datum d, values =>
      match p.physical? with
      | some _ => ∃ m, p.mapper? = some m ∧ RelMap.Binds [(d, m)] values
      | none => ∃ v flat, p.column.virtual? = some v ∧ v.flatten d = .ok flat ∧
          values = flat.map Prod.snd

/-- The assignment binds `values` once its path is resolved. -/
def Compiler.AssignmentBinds (c : Compiler) (a : Assignment) (values : List Value) : Prop :=
  ∃ p, (ColumnPath.resolve c.catalog c.table (.property a.path)).Returns p ∧ a.value.Binds p values

/-! ## Paths bind nothing -/

theorem walk_binds_nothing (catalog : Catalog) (path : String) (node : Node)
    (position : PathPosition) (chars : List Char) (plain : node.bindings = []) :
    (PathWalk.walk catalog path node position chars).Ensures
      fun parsed => parsed.bindings = [] := by
  -- each step wraps the node read so far in a reference, a child or an element access
  fun_induction PathWalk.walk catalog path node position chars with
  | case1 => exact Ensures.pure plain
  | case2 | case4 | case6 | case7 | case9 | case10 => exact Ensures.fault _ _
  | case3 node position rest name named ih =>
    exact (Ensures.true _).bind fun column _ => ih column (by simp [Node.bindings])
  | case5 node position rest name named ih =>
    exact (Ensures.true _).bind fun child _ => ih child (by simp [Node.bindings])
  | case8 node position rest digits nonempty after tail index small ih =>
    exact (Ensures.true _).bind fun element _ => ih element (by simp [Node.bindings, plain])

theorem parsePath_binds_nothing (catalog : Catalog) (table : Table) (path : String) :
    (parsePath catalog table path).Ensures fun parsed => parsed.bindings = [] := by
  rw [parsePath]
  split
  · exact Ensures.fault _ _
  · split
    · exact Ensures.fault _ _
    · exact walk_binds_nothing _ _ _ _ _ (by simp [Node.bindings])

/-! ## Each compiler binds its literals in order -/

namespace Compiler

theorem pathText_binds_nothing (c : Compiler) (p : ColumnPath) :
    (c.pathText p).Ensures fun t => params t = [] := by
  rw [pathText]
  exact (Ensures.true _).bind fun s _ => Ensures.pure (params_lit s)

theorem columnProperty_binds_nothing (c : Compiler) (path : String) :
    (c.columnProperty path).Ensures fun t => params t = [] := by
  rw [columnProperty]
  exact (Ensures.true _).bind fun p _ => c.pathText_binds_nothing p

mutual

theorem nodeWith_binds (c : Compiler) (property : String → Resolve Text)
    (plain : ∀ path, (property path).Ensures fun t => params t = []) :
    ∀ n, (c.nodeWith property n).Ensures fun t => Binds n.bindings (params t)
  | .property path => by
    rw [nodeWith]
    exact (plain path).mono fun t empty => by simp [Node.bindings, empty]
  | .reference base name => by
    rw [nodeWith]
    exact (Ensures.true _).bind fun p _ =>
      (c.pathText_binds_nothing p).mono fun t empty => by simp [Node.bindings, empty]
  | .child base name => by
    rw [nodeWith]
    exact (Ensures.true _).bind fun p _ =>
      (c.pathText_binds_nothing p).mono fun t empty => by simp [Node.bindings, empty]
  | .literal d m => by
    rw [nodeWith]
    refine (Ensures.lift (fun v converted => converted)).bind fun v converted => Ensures.pure ?_
    simpa [Node.bindings] using converted
  | .call name args decode => by
    rw [nodeWith]
    split
    · exact Ensures.fault _ _
    · refine (argsWith_binds c property plain args).bind fun written binds => Ensures.pure ?_
      simpa [Node.bindings] using binds
  | .concat l r => by
    rw [nodeWith]
    refine (nodeWith_binds c property plain l).bind fun left leftBinds => ?_
    refine (nodeWith_binds c property plain r).bind fun right rightBinds => Ensures.pure ?_
    simpa [Node.bindings] using leftBinds.append rightBinds
  | .index base i => by
    rw [nodeWith]
    split
    · exact Ensures.fault _ _
    · refine (nodeWith_binds c property plain base).bind fun written binds => Ensures.pure ?_
      split <;> simpa [Node.bindings] using binds

theorem argsWith_binds (c : Compiler) (property : String → Resolve Text)
    (plain : ∀ path, (property path).Ensures fun t => params t = []) :
    ∀ args, (c.argsWith property args).Ensures fun t => Binds (Node.argBindings args) (params t)
  | [] => by
    rw [argsWith]
    exact Ensures.pure (by simp [Node.argBindings])
  | [a] => by
    rw [argsWith]
    exact (nodeWith_binds c property plain a).mono fun t binds => by
      simpa [Node.argBindings] using binds
  | a :: b :: rest => by
    rw [argsWith]
    · refine (nodeWith_binds c property plain a).bind fun first firstBinds => ?_
      refine (argsWith_binds c property plain (b :: rest)).bind fun others othersBind =>
        Ensures.pure ?_
      simpa [Node.argBindings] using firstBinds.append othersBind
    · exact List.cons_ne_nil b rest

end

theorem node_binds (c : Compiler) (n : Node) :
    (c.node n).Ensures fun t => Binds n.bindings (params t) := by
  rw [node]
  apply nodeWith_binds
  intro path
  split
  · exact c.columnProperty_binds_nothing path
  · -- a property that is not a column is a path, and a path has no literal
    refine (parsePath_binds_nothing c.catalog c.table path).bind fun parsed noLiteral => ?_
    refine (c.nodeWith_binds c.columnProperty c.columnProperty_binds_nothing parsed).mono ?_
    intro t binds
    rwa [noLiteral, binds_nil_iff] at binds

theorem condition_binds (c : Compiler) (w : Condition) :
    (c.condition w).Ensures fun t => Binds w.bindings (params t) := by
  induction w with
  | compare op l r =>
    rw [condition]
    refine (c.node_binds l).bind fun left leftBinds => ?_
    refine (c.node_binds r).bind fun right rightBinds => Ensures.pure ?_
    simpa [Condition.bindings] using leftBinds.append rightBinds
  | between v lo hi =>
    rw [condition]
    refine (c.node_binds v).bind fun value valueBinds => ?_
    refine (c.node_binds lo).bind fun low lowBinds => ?_
    refine (c.node_binds hi).bind fun high highBinds => Ensures.pure ?_
    simpa [Condition.bindings] using (valueBinds.append lowBinds).append highBinds
  | isNull n =>
    rw [condition]
    exact (c.node_binds n).bind fun t binds => Ensures.pure (by simpa [Condition.bindings])
  | and l r leftIh rightIh =>
    rw [condition]
    refine leftIh.bind fun left leftBinds => rightIh.bind fun right rightBinds => Ensures.pure ?_
    simpa [Condition.bindings] using leftBinds.append rightBinds
  | or l r leftIh rightIh =>
    rw [condition]
    refine leftIh.bind fun left leftBinds => rightIh.bind fun right rightBinds => Ensures.pure ?_
    simpa [Condition.bindings] using leftBinds.append rightBinds
  | not inner ih =>
    rw [condition]
    exact ih.bind fun t binds => Ensures.pure (by simpa [Condition.bindings])
  | raw n =>
    rw [condition]
    exact c.node_binds n

theorem sortKeys_binds (c : Compiler) (keys : List SortKey) :
    (c.sortKeys keys).Ensures fun t => Binds (sortBindings keys) (params t) := by
  fun_induction c.sortKeys keys with
  | case1 => exact Ensures.pure (by simp [sortBindings])
  | case2 k =>
    exact (c.node_binds k.node).bind fun t binds => Ensures.pure (by simpa [sortBindings])
  | case3 k rest more ih =>
    refine (c.node_binds k.node).bind fun first firstBinds => ?_
    refine ih.bind fun others othersBind => Ensures.pure ?_
    simpa [sortBindings] using firstBinds.append othersBind

theorem whereClause_binds (c : Compiler) (w : Option Condition) :
    (c.whereClause w).Ensures fun t => Binds (whereBindings w) (params t) := by
  cases w with
  | none =>
    rw [whereClause]
    exact Ensures.pure (by simp [whereBindings])
  | some w =>
    rw [whereClause]
    exact (c.condition_binds w).bind fun t binds => Ensures.pure (by simpa [whereBindings])

theorem orderClause_binds (c : Compiler) (keys : List SortKey) :
    (c.orderClause keys).Ensures fun t => Binds (sortBindings keys) (params t) := by
  rw [orderClause]
  split
  · rename_i empty
    exact Ensures.pure (by simp [sortBindings, List.isEmpty_iff.mp empty])
  · exact (c.sortKeys_binds keys).bind fun t binds => Ensures.pure (by simpa)

@[simp] theorem params_limitClause (limit : Option Nat) : params (limitClause limit) = [] := by
  cases limit <;> simp [limitClause]

theorem filter_binds (c : Compiler) (o : SelectOptions) :
    (c.filter o).Ensures fun t => Binds o.bindings (params t) := by
  rw [filter]
  refine (c.whereClause_binds o.filter).bind fun condition conditionBinds => ?_
  refine (c.orderClause_binds o.orderBy).bind fun order orderBinds => Ensures.pure ?_
  simpa [SelectOptions.bindings] using conditionBinds.append orderBinds

@[simp] theorem params_names (qualify : Bool) (r : TableRef) (columns : List String) :
    params (names qualify r columns) = [] := by
  simp [names, Function.comp_def]

theorem select_binds (c : Compiler) (o : SelectOptions) :
    (c.select o).Ensures fun t => Binds o.bindings (params t) := by
  rw [select]
  exact (c.filter_binds o).bind fun t binds => Ensures.pure (by simpa)

theorem wholeVirtual_isColumnPath (c : Compiler) (n : Node) :
    (c.wholeVirtual? n).Ensures fun found => found.isSome → n.isColumnPath := by
  rw [wholeVirtual?]
  split
  · exact Ensures.pure (by simp)
  · rename_i named
    exact Ensures.of_forall fun _ _ => by simpa using named

theorem flatten_params_of_forall₂ {α : Type} {xs : List α} {texts : List Text}
    (plain : List.Forall₂ (fun _ t => params t = []) xs texts) :
    (texts.map params).flatten = [] := by
  induction plain with
  | nil => rfl
  | cons first _ ih => simp [first, ih]

theorem selection_binds (c : Compiler) (n : Node) :
    (c.selection n).Ensures fun r => Binds n.bindings (params r.1) := by
  rw [selection]
  refine (c.wholeVirtual_isColumnPath n).bind fun found named => ?_
  split
  · -- a whole virtual column is a column path: its children are written as paths
    rename_i p v
    have plain : n.bindings = [] := Node.bindings_of_isColumnPath (named rfl)
    have children : (v.children.mapM fun child => c.pathText { p with child := some child }).Ensures
        (List.Forall₂ (fun _ t => params t = []) v.children) :=
      Ensures.mapM fun child _ => c.pathText_binds_nothing _
    refine children.bind fun texts written => Ensures.pure ?_
    simp [plain, flatten_params_of_forall₂ written]
  · refine (c.node_binds n).bind fun written binds => ?_
    exact (Ensures.true _).bind fun m _ => Ensures.pure binds

theorem selectNode_binds (c : Compiler) (n : Node) (o : SelectOptions) :
    (c.selectNode n o).Ensures fun r => Binds (n.bindings ++ o.bindings) (params r.1) := by
  rw [selectNode]
  refine (c.selection_binds n).bind fun ⟨selected, projection⟩ selectedBinds => ?_
  refine (c.filter_binds o).bind fun filter filterBinds => Ensures.pure ?_
  simpa using selectedBinds.append filterBinds

theorem selectReferences_binds (c : Compiler) (n : Node) (o : SelectOptions) :
    (c.selectReferences n o).Ensures fun r => Binds o.bindings (params r.1) := by
  rw [selectReferences]
  refine (Ensures.true _).bind fun p _ => ?_
  split
  · refine (Ensures.true _).bind fun reached _ => ?_
    exact ({ c with qualify := true }.filter_binds o).bind fun t binds =>
      Ensures.pure (by simpa)
  · exact Ensures.fault _ _

theorem params_insert (t : Table) (row : EncodedRow) :
    params (insert t row) = row.fields.map Prod.snd := by
  rw [insert]
  -- the `RETURNING` clause names columns and binds nothing
  split
  · rename_i empty
    split <;> simp [List.isEmpty_iff.mp empty, Function.comp_def]
  · split <;> simp [Function.comp_def, ← List.flatMap_def, ← List.map_eq_flatMap]

theorem assignment_binds (c : Compiler) (a : Assignment) :
    (c.assignment a).Ensures fun sets => c.AssignmentBinds a (sets.map params).flatten := by
  rw [assignment]
  refine (Ensures.returns _).bind fun p resolved => ?_
  split
  · exact Ensures.fault _ _
  · split
    · rename_i n physical value stored
      refine (c.node_binds n).bind fun t binds => Ensures.pure ⟨p, resolved, ?_⟩
      simpa [value, Assigned.Binds] using binds
    · rename_i d physical m value stored mapped
      refine (Ensures.lift fun v converted => converted).bind fun v converted =>
        Ensures.pure ⟨p, resolved, ?_⟩
      simp [value, Assigned.Binds, stored, mapped, converted]
    · rename_i _ d value unstored
      split
      · rename_i v virtual
        refine (Ensures.lift fun flat flattened => flattened).bind fun flat flattened =>
          Ensures.pure ⟨p, resolved, ?_⟩
        simp [value, Assigned.Binds, unstored, virtual, flattened, ← List.flatMap_def,
          Function.comp_def, ← List.map_eq_flatMap]
      · exact Ensures.fail _ _
    · exact Ensures.fault _ _

theorem update_binds (c : Compiler) (assignments : List Assignment) (w : Condition) :
    (c.update assignments w).Ensures fun t =>
      ∃ sets, List.Forall₂ c.AssignmentBinds assignments sets ∧
        ∃ conditionValues, Binds w.bindings conditionValues ∧
          params t = sets.flatten ++ conditionValues := by
  rw [update]
  split
  · exact Ensures.fail _ _
  · refine (Ensures.mapM fun a _ => c.assignment_binds a).bind fun sets setsBind => ?_
    refine (c.condition_binds w).bind fun condition conditionBinds => Ensures.pure ?_
    refine ⟨sets.map fun texts => (texts.map params).flatten, ?_, params condition,
      conditionBinds, ?_⟩
    · exact List.forall₂_map_right_iff.mpr setsBind
    · simp [List.map_flatten, List.flatten_flatten, Function.comp_def]

theorem delete_binds (c : Compiler) (w : Option Condition) :
    (c.delete w).Ensures fun t => Binds (whereBindings w) (params t) := by
  rw [delete]
  exact (c.whereClause_binds w).bind fun t binds => Ensures.pure (by simpa)

theorem count_binds (c : Compiler) (w : Option Condition) :
    (c.count w).Ensures fun t => Binds (whereBindings w) (params t) := by
  rw [count]
  exact (c.whereClause_binds w).bind fun t binds => Ensures.pure (by simpa)

end Compiler

/-- Every compiled statement numbers its placeholders `1, 2, ...` from left to right across its
clauses, and binds, in that order, the native values of the literals of its nodes, of the data it
assigns (`SET` before `WHERE`) and of the fields it inserts; a select binds its condition's
before its sort keys'. -/
theorem compiled_parameters_follow_placeholders (style : Placeholders) (c : Compiler) :
    (∀ t : Text, render style t = ⟨numberedFrom style 1 (tokens t), params t⟩) ∧
    (∀ n, (c.node n).Ensures fun t => Binds n.bindings (params t)) ∧
    (∀ w, (c.condition w).Ensures fun t => Binds w.bindings (params t)) ∧
    (∀ o, (c.select o).Ensures fun t => Binds o.bindings (params t)) ∧
    (∀ n o, (c.selectNode n o).Ensures fun r => Binds (n.bindings ++ o.bindings) (params r.1)) ∧
    (∀ n o, (c.selectReferences n o).Ensures fun r => Binds o.bindings (params r.1)) ∧
    (∀ row, params (Compiler.insert c.table row) = row.fields.map Prod.snd) ∧
    (∀ assignments w, (c.update assignments w).Ensures fun t =>
      ∃ sets, List.Forall₂ c.AssignmentBinds assignments sets ∧
        ∃ conditionValues, Binds w.bindings conditionValues ∧
          params t = sets.flatten ++ conditionValues) ∧
    (∀ w, (c.delete w).Ensures fun t => Binds (whereBindings w) (params t)) ∧
    (∀ w, (c.count w).Ensures fun t => Binds (whereBindings w) (params t)) :=
  ⟨render_eq_numbered style, c.node_binds, c.condition_binds, c.select_binds, c.selectNode_binds,
    c.selectReferences_binds, Compiler.params_insert c.table, c.update_binds, c.delete_binds,
    c.count_binds⟩

end RelMap
