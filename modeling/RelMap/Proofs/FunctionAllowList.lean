import Mathlib
import RelMap.Proofs.PathGrammar
import RelMap.Proofs.TableBuild

/-!
# The allow-list of functions

A catalog may name the functions the compiler accepts; a call of any other function is refused
as `Function not allowed`, the names compared ignoring ASCII case. The list cannot be bypassed:
whatever is compiled (a node, a condition, the filter and ordering of a select, the assignments
of an update), a compilation that succeeds has every function called anywhere in its input
accepted. Conversely a compilation is refused as a denial only for a function its input calls
and the catalog does not accept, so without an allow-list no compilation is refused so.

`Resolve.Guards x allows names` carries both directions through a compilation: it succeeds only
when every one of `names` is allowed, and is refused as a denial only of one of `names` that is
not. It is closed under the steps of a `do` block, the names of a block being those of its steps;
property paths and literals call nothing, and every other failure of the compiler (an invalid
path, a missing mapper, a conversion) is of another kind.
-/

namespace RelMap

set_option autoImplicit false

/-! ## The functions an input calls -/

mutual

def Node.functions : Node → List String
  | .call name args _ => name :: Node.argFunctions args
  | .concat l r => l.functions ++ r.functions
  | .index base _ => base.functions
  | .reference base _ => base.functions
  | .child base _ => base.functions
  | .property _ | .literal _ _ => []

def Node.argFunctions : List Node → List String
  | [] => []
  | a :: rest => a.functions ++ Node.argFunctions rest

end

def Condition.functions : Condition → List String
  | .compare _ l r => l.functions ++ r.functions
  | .between v lo hi => v.functions ++ lo.functions ++ hi.functions
  | .isNull n => n.functions
  | .and l r => l.functions ++ r.functions
  | .or l r => l.functions ++ r.functions
  | .not inner => inner.functions
  | .raw n => n.functions

def whereFunctions : Option Condition → List String
  | some w => w.functions
  | none => []

def sortFunctions (keys : List SortKey) : List String := keys.flatMap fun k => k.node.functions

def SelectOptions.functions (o : SelectOptions) : List String :=
  whereFunctions o.filter ++ sortFunctions o.orderBy

def Assignment.functions (a : Assignment) : List String :=
  match a.value with
  | .node n => n.functions
  | .datum _ => []

/-- What the compiler writes a statement, or a piece of one, from. -/
inductive Compilation where
  | node (n : Node)
  | condition (w : Condition)
  | select (o : SelectOptions)
  | selectNode (n : Node) (o : SelectOptions)
  | selectReferences (n : Node) (o : SelectOptions)
  | update (assignments : List Assignment) (w : Condition)
  | delete (w : Option Condition)
  | count (w : Option Condition)

def Compilation.functions : Compilation → List String
  | .node n => n.functions
  | .condition w => w.functions
  | .select o => o.functions
  | .selectNode n o => n.functions ++ o.functions
  | .selectReferences n o => n.functions ++ o.functions
  | .update assignments w => assignments.flatMap Assignment.functions ++ w.functions
  | .delete w => whereFunctions w
  | .count w => whereFunctions w

/-- The text the compiler writes from the input. -/
def Compiler.compile (c : Compiler) : Compilation → Resolve Sql.Text
  | .node n => c.node n
  | .condition w => c.condition w
  | .select o => c.select o
  | .selectNode n o => Prod.fst <$> c.selectNode n o
  | .selectReferences n o => Prod.fst <$> c.selectReferences n o
  | .update assignments w => c.update assignments w
  | .delete w => c.delete w
  | .count w => c.count w

/-! ## Guarded computations -/

namespace Resolve

variable {α β : Type} {allows : String → Bool}

/-- A success only when every name is allowed; a denial only of a name that is not. -/
def Guarded (allows : String → Bool) (names : List String) : Outcome α → Prop
  | .ok _ => ∀ f ∈ names, allows f = true
  | .error e => ∀ f, e = Failure.ofFault (.functionNotAllowed f) → f ∈ names ∧ allows f = false

/-- From every registry, `x` succeeds only when every name is allowed, and is refused as a
denial only of a name that is not. -/
def Guards (x : Resolve α) (allows : String → Bool) (names : List String) : Prop :=
  ∀ r, Guarded allows names (x.outcome r)

@[simp] theorem guarded_ok {names : List String} {a : α} :
    Guarded allows names (.ok a : Outcome α) ↔ ∀ f ∈ names, allows f = true := Iff.rfl

@[simp] theorem guarded_error {names : List String} {e : Failure} :
    Guarded allows names (.error e : Outcome α) ↔
      ∀ f, e = Failure.ofFault (.functionNotAllowed f) → f ∈ names ∧ allows f = false := Iff.rfl

variable {x : Resolve α} {names others : List String}

theorem Guards.congr (guards : x.Guards allows names) (same : ∀ f, f ∈ names ↔ f ∈ others) :
    x.Guards allows others := by
  intro r
  have guarded := guards r
  cases ran : x.outcome r with
  | ok a =>
    rw [ran, guarded_ok] at guarded
    exact fun f member => guarded f ((same f).mpr member)
  | error e =>
    rw [ran, guarded_error] at guarded
    intro f denied
    obtain ⟨member, refused⟩ := guarded f denied
    exact ⟨(same f).mp member, refused⟩

theorem Guards.pure (a : α) : (Pure.pure a : Resolve α).Guards allows [] :=
  fun _ _ absent => nomatch absent

theorem Guards.throw {e : Failure} (other : ∀ f, e ≠ Failure.ofFault (.functionNotAllowed f)) :
    (MonadExcept.throw e : Resolve α).Guards allows names :=
  fun _ f denied => absurd denied (other f)

theorem Guards.fault {g : Fault} (other : ∀ f, g ≠ .functionNotAllowed f) :
    (fault g : Resolve α).Guards allows names :=
  Guards.throw fun f same => other f (Problem.fault.inj (congrArg Failure.cause same))

theorem Guards.fail {p : Problem} (other : ∀ f, p ≠ .fault (.functionNotAllowed f)) :
    (fail p : Resolve α).Guards allows names :=
  Guards.throw fun f same => other f (congrArg Failure.cause same)

/-- The refusal of a call that is not allowed. -/
theorem Guards.deny {name : String} (refused : allows name = false) (member : name ∈ names) :
    (Resolve.fault (.functionNotAllowed name) : Resolve α).Guards allows names := by
  intro r f denied
  have same : name = f :=
    Fault.functionNotAllowed.inj (Problem.fault.inj (congrArg Failure.cause denied))
  exact same ▸ ⟨member, refused⟩

theorem Guards.lift {o : Outcome α} (other : ∀ f, o ≠ .error (Failure.ofFault (.functionNotAllowed f))) :
    (lift o).Guards allows [] := by
  cases o with
  | ok a => exact Guards.pure a
  | error e => exact Guards.throw fun f same => other f (congrArg Except.error same)

/-- The names of a block are those of its first step and of the rest, which may rely on what
the first step ensures of its result. -/
theorem Guards.bind_of {f : α → Resolve β} {Q : α → Prop} (first : x.Guards allows names)
    (holds : x.Ensures Q) (rest : ∀ a, Q a → (f a).Guards allows others) :
    (x >>= f).Guards allows (names ++ others) := by
  intro r
  have guarded := first r
  unfold outcome at guarded ⊢
  rw [run_bind]
  rcases ran : x.run.run r with ⟨_ | a, r'⟩
  · rw [ran, guarded_error] at guarded
    intro g denied
    obtain ⟨member, refused⟩ := guarded g denied
    exact ⟨List.mem_append_left _ member, refused⟩
  · rw [ran, guarded_ok] at guarded
    have later := rest a (holds r a r' ran) r'
    unfold outcome at later
    dsimp only
    rcases ranRest : (f a).run.run r' with ⟨_ | b, r''⟩
    · rw [ranRest, guarded_error] at later
      intro g denied
      obtain ⟨member, refused⟩ := later g denied
      exact ⟨List.mem_append_right _ member, refused⟩
    · rw [ranRest, guarded_ok] at later
      intro g member
      rcases List.mem_append.mp member with early | late
      · exact guarded g early
      · exact later g late

theorem Guards.bind {f : α → Resolve β} (first : x.Guards allows names)
    (rest : ∀ a, (f a).Guards allows others) : (x >>= f).Guards allows (names ++ others) :=
  first.bind_of (Ensures.true x) fun a _ => rest a

/-- A step whose result is only reshaped calls what the step calls. -/
theorem Guards.bind_pure {g : α → β} (first : x.Guards allows names) :
    (x >>= fun a => Pure.pure (g a)).Guards allows names :=
  (first.bind fun a => Guards.pure (g a)).congr (by simp)

/-- A call checked and allowed adds its name to what its arguments call. -/
theorem Guards.cons {name : String} (allowed : allows name = true) (guards : x.Guards allows names) :
    x.Guards allows (name :: names) := by
  intro r
  have guarded := guards r
  cases ran : x.outcome r with
  | ok a =>
    rw [ran, guarded_ok] at guarded
    intro f member
    rcases List.mem_cons.mp member with rfl | later
    · exact allowed
    · exact guarded f later
  | error e =>
    rw [ran, guarded_error] at guarded
    intro f denied
    obtain ⟨member, refused⟩ := guarded f denied
    exact ⟨List.mem_cons_of_mem _ member, refused⟩

theorem Guards.map (g : α → β) (guards : x.Guards allows names) : (g <$> x).Guards allows names := by
  rw [map_eq_pure_bind]
  exact guards.bind_pure

theorem Guards.tryCatch {h : Failure → Resolve α} (first : x.Guards allows names)
    (handler : ∀ e, (h e).Guards allows names) : (MonadExcept.tryCatch x h).Guards allows names := by
  intro r
  have guarded := first r
  unfold outcome at guarded ⊢
  rw [run_tryCatch]
  rcases ran : x.run.run r with ⟨_ | a, r'⟩
  · exact handler _ r'
  · rw [ran] at guarded
    exact guarded

theorem Guards.mapM {xs : List α} {f : α → Resolve β} {names : α → List String}
    (each : ∀ a ∈ xs, (f a).Guards allows (names a)) :
    (xs.mapM f).Guards allows (xs.flatMap names) := by
  induction xs with
  | nil => exact Guards.pure []
  | cons a rest ih =>
    rw [List.mapM_cons]
    have others := ih fun a' member => each a' (List.mem_cons_of_mem a member)
    refine ((each a List.mem_cons_self).bind fun b =>
      others.bind fun bs => Guards.pure (b :: bs)).congr ?_
    simp

theorem Ensures.map {P : β → Prop} (g : α → β) {Q : α → Prop} (ensures : x.Ensures Q)
    (holds : ∀ a, Q a → P (g a)) : (g <$> x).Ensures P := by
  rw [map_eq_pure_bind]
  exact ensures.bind fun a holdsOf => Ensures.pure (holds a holdsOf)

theorem Ensures.tryCatch {h : Failure → Resolve α} {P : α → Prop} (first : x.Ensures P)
    (handler : ∀ e, (h e).Ensures P) : (MonadExcept.tryCatch x h).Ensures P := by
  intro s a s' ran
  rw [run_tryCatch] at ran
  rcases ranFirst : x.run.run s with ⟨_ | b, mid⟩
  · rw [ranFirst] at ran
    exact handler _ mid a s' ran
  · rw [ranFirst] at ran
    cases ran
    exact first s a s' ranFirst

end Resolve

/-! ## Failures of other kinds -/

theorem Failure.within_ne_ofFault (e : Failure) (layer : Problem) (g : Fault) :
    e.within layer ≠ Failure.ofFault g :=
  fun same => List.cons_ne_nil _ _ (congrArg Failure.context same)

/-- A conversion's failure carries the layer naming the conversion. -/
theorem Mapper.toNative_ne_fault (m : Mapper) (d : Datum) (g : Fault) :
    m.toNative d ≠ .error (Failure.ofFault g) := by
  unfold Mapper.toNative
  split
  · simp
  · cases encoded : m.encode d with
    | ok v => simp [Outcome.within]
    | error e =>
      intro same
      exact e.within_ne_ofFault _ g (Except.error.inj same)

/-- Flattening fails for want of a declared child or of a part, or as a conversion. -/
theorem VirtualColumn.flatten_ne_fault (v : VirtualColumn) (d : Datum) (g : Fault) :
    v.flatten d ≠ .error (Failure.ofFault g) := by
  intro failed
  unfold VirtualColumn.flatten at failed
  split at failed
  · cases failed
  · simp only [bind, Except.bind] at failed
    split at failed
    · rename_i split
      cases failed
      exact v.codec.split_ne_fault d g split
    · split at failed
      · simp [Outcome.fail, Failure.ofFault, Failure.of] at failed
      · -- the first child that fails: a conversion, or a missing part
        obtain ⟨child, _, childFailed⟩ := exists_mem_of_mapM_eq_error failed
        split at childFailed
        · split at childFailed
          · rename_i converted
            cases childFailed
            exact child.mapper.toNative_ne_fault _ g converted
          · cases childFailed
        · simp [Outcome.fail, Failure.ofFault, Failure.of] at childFailed

theorem Catalog.table_ne_denial (catalog : Catalog) (name f : String) :
    catalog.table name ≠ .error (Failure.ofFault (.functionNotAllowed f)) := by
  unfold Catalog.table
  split <;> simp [Outcome.fault, Failure.ofFault, Failure.of]

theorem ColumnPath.text_ne_denial (p : ColumnPath) (qualify : Bool) (f : String) :
    p.text qualify ≠ .error (Failure.ofFault (.functionNotAllowed f)) := by
  unfold ColumnPath.text
  split
  · simp [Outcome.fault, Failure.ofFault, Failure.of]
  · split <;> simp

theorem Failure.FromRegistry.ne_denial {e : Failure} (registry : e.FromRegistry) (f : String) :
    e ≠ Failure.ofFault (.functionNotAllowed f) := by
  rintro rfl
  obtain ⟨key, kind | kind⟩ := registry <;>
    simp [Failure.fault?, Failure.layers, Failure.ofFault, Failure.of, Problem.fault?] at kind

/-! ## Paths and lookups call nothing -/

section Paths

open Resolve

variable (catalog : Catalog) (table : Table) {allows : String → Bool}

theorem invalid_guards {α : Type} (node : Node) (reason : PathProblem) {names : List String} :
    (ColumnPath.invalid node reason : Resolve α).Guards allows names :=
  Guards.fault (by simp)

theorem follow_guards (node : Node) (p : ColumnPath) (name : String) :
    (ColumnPath.follow catalog node p name).Guards allows [] := by
  unfold ColumnPath.follow
  split
  · refine (Guards.lift (catalog.table_ne_denial _)).bind fun t => ?_
    split
    · exact Guards.pure _
    · exact invalid_guards _ _
  · exact invalid_guards _ _

theorem descend_guards (node : Node) (p : ColumnPath) (name : String) :
    (ColumnPath.descend node p name).Guards allows [] := by
  unfold ColumnPath.descend
  split
  · split
    · exact Guards.pure _
    · exact invalid_guards _ _
  · exact invalid_guards _ _

theorem ofColumn_guards (name : String) : (ColumnPath.ofColumn table name).Guards allows [] := by
  unfold ColumnPath.ofColumn
  split
  · exact Guards.pure _
  · exact Guards.fault (by simp)

theorem resolveWith_guards {property : String → Resolve ColumnPath}
    (plain : ∀ path, (property path).Guards allows []) :
    ∀ n, (ColumnPath.resolveWith catalog property n).Guards allows [] := by
  intro n
  cases n with
  | property path =>
    rw [ColumnPath.resolveWith]
    exact plain path
  | reference base name =>
    rw [ColumnPath.resolveWith]
    exact (resolveWith_guards plain base).bind fun p => follow_guards catalog _ p name
  | child base name =>
    rw [ColumnPath.resolveWith]
    exact (resolveWith_guards plain base).bind fun p => descend_guards _ p name
  | literal | call | concat | index =>
    simp only [ColumnPath.resolveWith]
    exact invalid_guards _ _

/-- Only a chain of properties, references and children resolves, and it calls nothing. -/
theorem resolveWith_plain (property : String → Resolve ColumnPath) :
    ∀ n, (ColumnPath.resolveWith catalog property n).Ensures fun _ => n.functions = [] := by
  intro n
  cases n with
  | property _ => exact Ensures.of_forall fun _ => rfl
  | reference base name =>
    rw [ColumnPath.resolveWith]
    exact (resolveWith_plain property base).bind fun _ plain => Ensures.of_forall fun _ => plain
  | child base name =>
    rw [ColumnPath.resolveWith]
    exact (resolveWith_plain property base).bind fun _ plain => Ensures.of_forall fun _ => plain
  | literal | call | concat | index =>
    simp only [ColumnPath.resolveWith]
    exact Ensures.fault _ _

theorem parsePath_guards (path : String) : (parsePath catalog table path).Guards allows [] := by
  intro r
  cases parsed : (parsePath catalog table path).outcome r with
  | ok n => exact fun _ absent => nomatch absent
  | error e =>
    obtain ⟨reason, invalid⟩ := parsePath_refuses catalog path r table e parsed
    intro f denied
    rw [invalid] at denied
    simp [Failure.ofFault, Failure.of] at denied

theorem built_functions (first : String) (steps : List PathStep) : (built first steps).functions = [] := by
  unfold built
  -- each step wraps the node read so far, which calls nothing
  suffices wraps : ∀ base : Node, base.functions = [] →
      (steps.foldl (fun n step => step.build n) base).functions = [] from
    wraps _ rfl
  induction steps with
  | nil => exact fun _ plain => plain
  | cons step rest ih =>
    intro base plain
    apply ih
    cases step <;> exact plain

theorem parsePath_plain (path : String) :
    (parsePath catalog table path).Ensures fun parsed => parsed.functions = [] := by
  intro s parsed s' ran
  have returned : (parsePath catalog table path).outcome s = .ok parsed := by
    rw [outcome, ran]
  obtain ⟨first, steps, _, _, _, _, _, _, rfl⟩ := parsePath_sound catalog table path s returned
  exact built_functions first steps

theorem resolve_guards (n : Node) : (ColumnPath.resolve catalog table n).Guards allows [] := by
  unfold ColumnPath.resolve
  apply resolveWith_guards
  intro path
  split
  · exact Guards.pure _
  · refine (parsePath_guards catalog table path).bind fun parsed => ?_
    split
    · exact Guards.fault (by simp)
    · exact resolveWith_guards catalog (ofColumn_guards table) _

theorem resolve_plain (n : Node) :
    (ColumnPath.resolve catalog table n).Ensures fun _ => n.functions = [] :=
  resolveWith_plain catalog _ n

theorem lookup_guards (key : TypeKey) : (Resolve.lookup key).Guards allows [] := by
  intro r
  unfold outcome
  rw [run_lookup]
  cases looked : r.lookup key with
  | ok found => exact fun _ absent => nomatch absent
  | error e =>
    intro f denied
    have registry := Registry.lookup_error_fromRegistry (show (r.lookup key).map Prod.fst = .error e by
      rw [looked]
      rfl)
    exact absurd denied (registry.ne_denial f)

theorem elementOf_guards (m : Mapper) : (Resolve.elementOf m).Guards allows [] := by
  intro r
  unfold outcome
  rw [run_elementOf]
  cases found : r.elementOf m with
  | ok element => exact fun _ absent => nomatch absent
  | error e =>
    intro f denied
    unfold Registry.elementOf at found
    split at found
    · have registry := Registry.lookup_error_fromRegistry (show (r.lookup _).map Prod.fst = .error e by
        rw [found]
        rfl)
      exact absurd denied (registry.ne_denial f)
    · split at found
      · cases found
      · cases found
        simp [Failure.ofFault, Failure.of] at denied

end Paths

/-! ## Every compilation guards the functions of its input -/

namespace Compiler

open Resolve

variable (c : Compiler)

theorem pathText_guards (p : ColumnPath) : (c.pathText p).Guards c.catalog.allows [] := by
  unfold pathText
  exact (Guards.lift (p.text_ne_denial c.qualify)).bind_pure

theorem columnProperty_guards (path : String) :
    (c.columnProperty path).Guards c.catalog.allows [] := by
  unfold columnProperty
  exact (resolve_guards c.catalog c.table _).bind fun p => c.pathText_guards p

/-- A node written as the column path it resolves to calls nothing, for only a chain of
properties, references and children resolves. -/
theorem resolvedText_guards (n : Node) :
    (ColumnPath.resolve c.catalog c.table n >>= c.pathText).Guards c.catalog.allows n.functions :=
  (resolve_guards c.catalog c.table n).bind_of (resolve_plain c.catalog c.table n) fun p plain => by
    rw [plain]
    exact c.pathText_guards p

mutual

theorem nodeWith_guards (c : Compiler) (property : String → Resolve Sql.Text)
    (plain : ∀ path, (property path).Guards c.catalog.allows []) :
    ∀ n, (c.nodeWith property n).Guards c.catalog.allows n.functions
  | .property path => by
    rw [nodeWith]
    exact plain path
  | .reference base name => by
    rw [nodeWith]
    exact c.resolvedText_guards _
  | .child base name => by
    rw [nodeWith]
    exact c.resolvedText_guards _
  | .literal d m => by
    rw [nodeWith]
    exact (Guards.lift fun _ => m.toNative_ne_fault d _).bind_pure
  | .call name args decode => by
    rw [nodeWith]
    split
    · rename_i refused
      exact Guards.deny (by simpa using refused) List.mem_cons_self
    · rename_i allowed
      refine Guards.cons (by simpa using allowed) ?_
      exact (argsWith_guards c property plain args).bind_pure
  | .concat l r => by
    rw [nodeWith]
    exact (nodeWith_guards c property plain l).bind fun _ =>
      (nodeWith_guards c property plain r).bind_pure
  | .index base i => by
    rw [nodeWith]
    split
    · exact Guards.fault (by simp)
    · exact (nodeWith_guards c property plain base).bind_pure

theorem argsWith_guards (c : Compiler) (property : String → Resolve Sql.Text)
    (plain : ∀ path, (property path).Guards c.catalog.allows []) :
    ∀ args, (c.argsWith property args).Guards c.catalog.allows (Node.argFunctions args)
  | [] => by
    rw [argsWith]
    exact Guards.pure _
  | [a] => by
    rw [argsWith]
    exact (nodeWith_guards c property plain a).congr (by simp [Node.argFunctions])
  | a :: b :: rest => by
    rw [argsWith]
    · exact (nodeWith_guards c property plain a).bind fun _ =>
        (argsWith_guards c property plain (b :: rest)).bind_pure
    · exact List.cons_ne_nil b rest

end

theorem node_guards (n : Node) : (c.node n).Guards c.catalog.allows n.functions := by
  unfold node
  apply nodeWith_guards
  intro path
  split
  · exact c.columnProperty_guards path
  · -- a property path is parsed into references, children and elements, which call nothing
    refine (parsePath_guards c.catalog c.table path).bind_of (parsePath_plain c.catalog c.table path)
      fun parsed plain => ?_
    rw [← plain]
    exact nodeWith_guards c c.columnProperty c.columnProperty_guards parsed

theorem condition_guards : ∀ w : Condition, (c.condition w).Guards c.catalog.allows w.functions
  | .compare op l r => by
    rw [condition]
    exact (c.node_guards l).bind fun _ => (c.node_guards r).bind_pure
  | .between v lo hi => by
    rw [condition]
    refine ((c.node_guards v).bind fun _ => (c.node_guards lo).bind fun _ =>
      (c.node_guards hi).bind_pure).congr ?_
    simp [Condition.functions]
  | .isNull n => by
    rw [condition]
    exact (c.node_guards n).bind_pure
  | .and l r => by
    rw [condition]
    exact (condition_guards l).bind fun _ => (condition_guards r).bind_pure
  | .or l r => by
    rw [condition]
    exact (condition_guards l).bind fun _ => (condition_guards r).bind_pure
  | .not inner => by
    rw [condition]
    exact (condition_guards inner).bind_pure
  | .raw n => by
    rw [condition]
    exact c.node_guards n

theorem sortKeys_guards : ∀ keys, (c.sortKeys keys).Guards c.catalog.allows (sortFunctions keys)
  | [] => by
    rw [sortKeys]
    exact Guards.pure _
  | [k] => by
    rw [sortKeys]
    exact (c.node_guards k.node).bind_pure.congr (by simp [sortFunctions])
  | k :: next :: rest => by
    rw [sortKeys]
    · exact (c.node_guards k.node).bind fun _ => (sortKeys_guards (next :: rest)).bind_pure
    · exact List.cons_ne_nil next rest

theorem whereClause_guards : ∀ w, (c.whereClause w).Guards c.catalog.allows (whereFunctions w)
  | some w => by
    rw [whereClause]
    exact (c.condition_guards w).bind_pure
  | none => by
    rw [whereClause]
    exact Guards.pure _

theorem orderClause_guards (keys : List SortKey) :
    (c.orderClause keys).Guards c.catalog.allows (sortFunctions keys) := by
  unfold orderClause
  split
  · rename_i empty
    rw [List.isEmpty_iff.mp empty]
    exact Guards.pure _
  · exact (c.sortKeys_guards keys).bind_pure

theorem filter_guards (o : SelectOptions) : (c.filter o).Guards c.catalog.allows o.functions := by
  unfold filter
  exact (c.whereClause_guards o.filter).bind fun _ => (c.orderClause_guards o.orderBy).bind_pure

theorem select_guards (o : SelectOptions) : (c.select o).Guards c.catalog.allows o.functions := by
  unfold select
  exact (c.filter_guards o).bind_pure

theorem delete_guards (w : Option Condition) :
    (c.delete w).Guards c.catalog.allows (whereFunctions w) := by
  unfold delete
  exact (c.whereClause_guards w).bind_pure

theorem count_guards (w : Option Condition) :
    (c.count w).Guards c.catalog.allows (whereFunctions w) := by
  unfold count
  exact (c.whereClause_guards w).bind_pure

theorem pathMapper_guards (n : Node) : (c.pathMapper n).Guards c.catalog.allows [] := by
  unfold pathMapper
  refine (resolve_guards c.catalog c.table n).bind fun p => ?_
  split
  · exact Guards.pure _
  · exact Guards.fault (by simp)

mutual

theorem decodeWith_guards (c : Compiler) (property : String → Resolve Mapper)
    (plain : ∀ path, (property path).Guards c.catalog.allows []) :
    ∀ n, (c.decodeWith property n).Guards c.catalog.allows []
  | .property path => by
    rw [decodeWith]
    exact plain path
  | .reference base name => by
    rw [decodeWith]
    exact c.pathMapper_guards _
  | .child base name => by
    rw [decodeWith]
    exact c.pathMapper_guards _
  | .literal _ m => by
    rw [decodeWith]
    exact Guards.pure m
  | .call name args (some m) => by
    rw [decodeWith]
    exact Guards.pure m
  | .call name args none => by
    rw [decodeWith]
    exact firstArgWith_guards c property plain name args
  | .concat _ _ => by
    rw [decodeWith]
    exact lookup_guards _
  | .index base _ => by
    rw [decodeWith]
    exact (decodeWith_guards c property plain base).bind fun m => elementOf_guards m

theorem firstArgWith_guards (c : Compiler) (property : String → Resolve Mapper)
    (plain : ∀ path, (property path).Guards c.catalog.allows []) (name : String) :
    ∀ args, (c.firstArgWith property name args).Guards c.catalog.allows []
  | [] => by
    rw [firstArgWith]
    exact Guards.fail (by simp)
  | a :: _ => by
    rw [firstArgWith]
    exact decodeWith_guards c property plain a

end

theorem decodeMapper_guards (n : Node) : (c.decodeMapper n).Guards c.catalog.allows [] := by
  unfold decodeMapper
  apply decodeWith_guards
  intro path
  split
  · exact c.pathMapper_guards _
  · exact (parsePath_guards c.catalog c.table path).bind fun parsed =>
      decodeWith_guards c _ (fun _ => c.pathMapper_guards _) parsed

theorem wholeVirtual_guards (n : Node) : (c.wholeVirtual? n).Guards c.catalog.allows [] := by
  unfold wholeVirtual?
  split
  · exact Guards.pure _
  · refine ((Guards.map some (resolve_guards c.catalog c.table n)).tryCatch fun _ =>
      Guards.pure _).bind fun found => ?_
    split
    · split
      · exact Guards.pure _
      · exact Guards.pure _
    · exact Guards.pure _

/-- A node is taken as a whole virtual column only when it resolves, so it calls nothing. -/
theorem wholeVirtual_plain (n : Node) :
    (c.wholeVirtual? n).Ensures fun found => found.isSome = true → n.functions = [] := by
  unfold wholeVirtual?
  split
  · exact Ensures.pure nofun
  · have resolved : (MonadExcept.tryCatch (some <$> ColumnPath.resolve c.catalog c.table n)
        fun _ => pure none : Resolve (Option ColumnPath)).Ensures
          fun found => found.isSome = true → n.functions = [] :=
      ((resolve_plain c.catalog c.table n).map some fun _ plain _ => plain).tryCatch fun _ =>
        Ensures.pure nofun
    refine resolved.bind fun found plain => ?_
    rcases found with _ | p
    · exact Ensures.pure nofun
    · dsimp only
      split
      · exact Ensures.pure fun _ => plain rfl
      · exact Ensures.pure nofun

theorem selection_guards (n : Node) : (c.selection n).Guards c.catalog.allows n.functions := by
  unfold selection
  refine (c.wholeVirtual_guards n).bind_of (c.wholeVirtual_plain n) fun found whole => ?_
  rcases found with _ | ⟨p, v⟩
  · exact ((c.node_guards n).bind fun _ => (c.decodeMapper_guards n).bind_pure).congr (by simp)
  · rw [whole rfl]
    exact (Guards.mapM fun child _ => c.pathText_guards _).bind_pure.congr (by simp)

theorem selectNode_guards (n : Node) (o : SelectOptions) :
    (c.selectNode n o).Guards c.catalog.allows (n.functions ++ o.functions) := by
  unfold selectNode
  exact (c.selection_guards n).bind fun ⟨_, _⟩ => (c.filter_guards o).bind_pure

theorem selectReferences_guards (n : Node) (o : SelectOptions) :
    (c.selectReferences n o).Guards c.catalog.allows (n.functions ++ o.functions) := by
  unfold selectReferences
  refine (resolve_guards c.catalog c.table n).bind_of (resolve_plain c.catalog c.table n)
    fun p plain => ?_
  rw [plain]
  split
  · exact (Guards.lift (c.catalog.table_ne_denial _)).bind fun _ =>
      ({ c with qualify := true }.filter_guards o).bind_pure
  · exact Guards.fault (by simp)

theorem assignment_guards (a : Assignment) :
    (c.assignment a).Guards c.catalog.allows a.functions := by
  unfold assignment
  refine (resolve_guards c.catalog c.table _).bind fun p => ?_
  split
  · exact Guards.fault (by simp)
  · -- the match is on the value assigned, then on the path's physical column and mapper
    rcases a with ⟨path, n | d⟩ <;> cases physical : p.physical?
    · exact Guards.fault (by simp)
    · exact (c.node_guards n).bind_pure
    · cases virtual : p.column.virtual?
      · exact Guards.fail (by simp)
      · exact (Guards.lift fun _ => VirtualColumn.flatten_ne_fault _ d _).bind_pure
    · cases mapper : p.mapper?
      · exact Guards.fault (by simp)
      · exact (Guards.lift fun _ => Mapper.toNative_ne_fault _ d _).bind_pure

theorem update_guards (assignments : List Assignment) (w : Condition) :
    (c.update assignments w).Guards c.catalog.allows
      (assignments.flatMap Assignment.functions ++ w.functions) := by
  unfold update
  split
  · exact Guards.fail (by simp)
  · exact (Guards.mapM fun a _ => c.assignment_guards a).bind fun _ =>
      (c.condition_guards w).bind_pure

/-- A call of a function the catalog does not allow is refused as such, before its arguments are
looked at. -/
theorem node_call_refused {name : String} (args : List Node) (decode : Option Mapper)
    (refused : c.catalog.allows name = false) (r : Registry) :
    (c.node (.call name args decode)).outcome r =
      .error (Failure.ofFault (.functionNotAllowed name)) := by
  unfold node
  rw [nodeWith, if_pos (by simp [refused])]
  rfl

theorem compile_guards : ∀ input, (c.compile input).Guards c.catalog.allows input.functions
  | .node n => c.node_guards n
  | .condition w => c.condition_guards w
  | .select o => c.select_guards o
  | .selectNode n o => (c.selectNode_guards n o).map Prod.fst
  | .selectReferences n o => (c.selectReferences_guards n o).map Prod.fst
  | .update assignments w => c.update_guards assignments w
  | .delete w => c.delete_guards w
  | .count w => c.count_guards w

end Compiler

/-! ## The allow-list cannot be bypassed -/

namespace Catalog

variable {catalog : Catalog} {f : String}

/-- A function a listing catalog allows is one of the listed names, ignoring ASCII case. -/
theorem listed_of_allows {names : List String} (listing : catalog.allowed = some names)
    (allowed : catalog.allows f = true) :
    ∃ name ∈ names, name.toList.map Char.toLower = f.toList.map Char.toLower := by
  simp only [allows, listing, List.any_eq_true] at allowed
  obtain ⟨name, member, same⟩ := allowed
  exact ⟨name, member, by simpa [sameIgnoringAsciiCase] using same⟩

theorem allows_of_unlisted (unlisted : catalog.allowed = none) : catalog.allows f = true := by
  simp [allows, unlisted]

end Catalog

/-- Whatever the compiler writes, from every registry: a success has every function called in
the input on the catalog's list, ignoring ASCII case; a refusal as `Function not allowed` names a
function the input calls and the catalog does not allow, so a catalog without a list refuses
none so; and a call the catalog does not allow is refused so. -/
theorem allow_list_not_bypassed (c : Compiler) (input : Compilation) :
    (∀ names r text, c.catalog.allowed = some names → (c.compile input).outcome r = .ok text →
      ∀ f ∈ input.functions,
        ∃ name ∈ names, name.toList.map Char.toLower = f.toList.map Char.toLower) ∧
    (∀ r f, (c.compile input).outcome r = .error (Failure.ofFault (.functionNotAllowed f)) →
      f ∈ input.functions ∧ c.catalog.allows f = false) ∧
    (c.catalog.allowed = none →
      ∀ r f, (c.compile input).outcome r ≠ .error (Failure.ofFault (.functionNotAllowed f))) ∧
    (∀ r f args decode, c.catalog.allows f = false →
      (c.compile (.node (.call f args decode))).outcome r =
        .error (Failure.ofFault (.functionNotAllowed f))) := by
  have guards := c.compile_guards input
  refine ⟨fun names r text listing compiled f member => ?_, fun r f denied => ?_,
    fun unlisted r f denied => ?_, fun r f args decode refused => ?_⟩
  · have guarded := guards r
    rw [compiled, Resolve.guarded_ok] at guarded
    exact Catalog.listed_of_allows listing (guarded f member)
  · have guarded := guards r
    rw [denied, Resolve.guarded_error] at guarded
    exact guarded f rfl
  · have guarded := guards r
    rw [denied, Resolve.guarded_error] at guarded
    have refused := (guarded f rfl).2
    rw [Catalog.allows_of_unlisted unlisted] at refused
    cases refused
  · exact c.node_call_refused args decode refused r

end RelMap
