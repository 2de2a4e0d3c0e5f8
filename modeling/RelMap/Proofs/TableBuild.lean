import RelMap.Proofs.Outcomes
import RelMap.Schema.Table
import Mathlib.Data.List.Forall2
import Mathlib.Data.List.Nodup

/-!
# Building a table checks its whole definition

A table definition is built into a table exactly when it meets every rule of a table: it has
columns, no column declares children unless it is virtual, column names are distinct, a virtual
column is neither a key nor autoincrement and declares distinct children, an autoincrement column
is a key or stores an integer, the physical names of all columns are distinct, and every type the
build looks up resolves. A child's physical name is its own when declared, and otherwise what the
definition's naming, any function of the column and child names, makes of them. A definition that
breaks a rule is refused with `Invalid definition of table`, and one with a type that does not
resolve fails with the registry's own failure, a missing or a cyclic mapper; nothing else can go
wrong, and the two kinds of failure never meet.

The rules are stated on the definition, apart from the build (`TableSpec.Shaped`,
`TableSpec.Resolves`). The build is walked with `Checks`, a small logic over outcomes that carries
the three facts together: what a step returns, the rules its success stands for, and the kind of
its failures. Every built table then satisfies `Table.WellFormed`, from which its identity
condition can only fail for want of a key, and a row labelled with its physical names answers
each of them with its own value.
-/

namespace RelMap

set_option autoImplicit false

/-! ## Kinds of failure -/

namespace Failure

/-- A refusal of the definition of the table `table`. -/
def RefusesTable (table : String) (e : Failure) : Prop :=
  ∃ reason, e = Failure.ofFault (.invalidTable table reason)

/-- A failure whose kind is the registry's: no mapper, or a cyclic chain, for some key. -/
def FromRegistry (e : Failure) : Prop :=
  ∃ key, e.fault? = some (.mapperNotFound key) ∨ e.fault? = some (.cyclicMapper key)

theorem fault?_within (e : Failure) {layer : Problem} (plain : layer.fault? = none) :
    (e.within layer).fault? = e.fault? := by
  simp [fault?, within, layers, List.findSome?_cons, plain]

theorem FromRegistry.within {e : Failure} (registry : e.FromRegistry) {layer : Problem}
    (plain : layer.fault? = none) : (e.within layer).FromRegistry := by
  rw [FromRegistry, fault?_within e plain]
  exact registry

theorem not_refusesTable_of_fromRegistry {e : Failure} (registry : e.FromRegistry)
    (table : String) : ¬e.RefusesTable table := by
  rintro ⟨reason, rfl⟩
  obtain ⟨key, missing | cyclic⟩ := registry <;> simp_all [fault?, layers, ofFault, of, Problem.fault?]

end Failure

namespace Registry

/-- A failed lookup fails with the registry's own kind of failure: its only fault is the missing
or cyclic mapper at the end of the walk, under the contexts of the keys passed. -/
theorem lookup_error_fromRegistry {r : Registry} {key : TypeKey} {e : Failure}
    (failed : (r.lookup key).map Prod.fst = .error e) : e.FromRegistry := by
  obtain ⟨passed, last, _, outcome⟩ := (lookup_outcome_iff_walk r key _).mp failed
  -- the contexts put on the way are all `While resolving the intermediate type`
  have plain : ∀ p ∈ passed.filterMap (fun k => (r.link k).context? k), p.fault? = none := by
    intro p member
    obtain ⟨k, _, layer⟩ := List.mem_filterMap.mp member
    cases linked : r.link k <;> simp [linked, Link.context?] at layer
    subst layer
    rfl
  have noFault : ∀ context : List Problem, (∀ p ∈ context, p.fault? = none) →
      ∀ cause : Problem, Failure.fault? ⟨context, cause⟩ = cause.fault? := by
    intro context none cause
    simp only [Failure.fault?, Failure.layers, List.findSome?_append]
    rw [List.findSome?_eq_none_iff.mpr fun p member => by simp [none p member]]
    simp only [List.findSome?_cons, List.findSome?_nil]
    cases cause.fault? <;> rfl
  unfold walkOutcome at outcome
  split at outcome
  · cases outcome
    exact ⟨last.name, .inr (by rw [noFault _ plain]; rfl)⟩
  · split at outcome
    · cases outcome
    · cases outcome
      exact ⟨last.name, .inl (by rw [noFault _ plain]; rfl)⟩

end Registry

/-! ## The rules of a table definition -/

namespace ColumnSpec

def isVirtual (c : ColumnSpec) : Bool :=
  match c.shape with
  | .composite _ => true
  | _ => false

/-- The keys the build looks up for the column: each child's type for a virtual column, the
column's own type otherwise. -/
def lookedUp (c : ColumnSpec) : List TypeKey :=
  match c.shape with
  | .composite _ => c.children.map ChildSpec.type
  | _ => [c.type]

/-- The physical column of a child: its own, or the one the naming rule gives. -/
def childPhysical (naming : Naming) (c : ColumnSpec) (child : ChildSpec) : String :=
  child.physical.getD (naming c.name child.name)

/-- The physical columns storing the column. -/
def physicalNames (naming : Naming) (c : ColumnSpec) : List String :=
  match c.shape with
  | .composite _ => c.children.map (c.childPhysical naming)
  | _ => [c.name]

/-- Every key the build looks up for the column has a mapper. -/
def Resolves (r : Registry) (c : ColumnSpec) : Prop :=
  ∀ key ∈ c.lookedUp, ∃ m, (r.lookup key).map Prod.fst = .ok m

/-- The rules of one column that do not ask its types to resolve. -/
structure Shaped (r : Registry) (c : ColumnSpec) : Prop where
  childrenOnVirtual : c.isVirtual = false → c.children = []
  virtualNotKey : c.isVirtual = true → c.key = .regular ∧ c.autoincrement = false
  virtualChildren : c.isVirtual = true → c.children ≠ [] ∧ (c.children.map ChildSpec.name).Nodup
  autoincrementIntegral : c.autoincrement = true →
    c.key ≠ .regular ∨ ∀ m, (r.lookup c.type).map Prod.fst = .ok m → m.native.isIntegerType = true

end ColumnSpec

namespace TableSpec

/-- The rules of a table definition that do not ask its types to resolve. -/
structure Shaped (r : Registry) (spec : TableSpec) : Prop where
  hasColumns : spec.columns ≠ []
  columns : ∀ c ∈ spec.columns, c.Shaped r
  distinctNames : (spec.columns.map ColumnSpec.name).Nodup
  distinctPhysical : (spec.columns.flatMap (ColumnSpec.physicalNames spec.naming)).Nodup

/-- Every type the build looks up has a mapper. -/
def Resolves (r : Registry) (spec : TableSpec) : Prop := ∀ c ∈ spec.columns, c.Resolves r

end TableSpec

/-! ## What the build makes of a definition -/

/-- The child the build makes of a declared child of the column `column`. -/
structure ChildSpec.BuiltAs (r : Registry) (naming : Naming) (column : ColumnSpec)
    (spec : ChildSpec) (child : VirtualChild) : Prop where
  name : child.name = spec.name
  physical : child.physical = column.childPhysical naming spec
  type : child.type = spec.type
  mapper : (r.lookup spec.type).map Prod.fst = .ok child.mapper

/-- The kind the build gives a column specification: its type's mapper for a scalar or a
reference column, the built children for a virtual one. -/
def ColumnSpec.KindBuiltAs (r : Registry) (naming : Naming) (spec : ColumnSpec) :
    ColumnKind → Prop
  | .scalar m => spec.shape = .scalar ∧ (r.lookup spec.type).map Prod.fst = .ok m
  | .reference m target =>
      spec.shape = .reference target ∧ (r.lookup spec.type).map Prod.fst = .ok m
  | .composite v =>
      spec.shape = .composite v.codec ∧
        List.Forall₂ (ChildSpec.BuiltAs r naming spec) spec.children v.children

/-- The column the build makes of a specification. -/
structure ColumnSpec.BuiltAs (r : Registry) (naming : Naming) (spec : ColumnSpec) (c : Column) :
    Prop where
  name : c.name = spec.name
  type : c.type = spec.type
  key : c.key = spec.key
  autoincrement : c.autoincrement = spec.autoincrement
  kind : spec.KindBuiltAs r naming c.kind

/-- The table the build makes of a definition. -/
structure TableSpec.BuiltAs (r : Registry) (spec : TableSpec) (t : Table) : Prop where
  name : t.name = spec.name
  schemaName : t.schemaName = spec.schemaName
  defaults : t.defaults = spec.defaults
  naming : t.naming = spec.naming
  columns : List.Forall₂ (ColumnSpec.BuiltAs r spec.naming) spec.columns t.columns

/-- Each built child stores the physical name of the declared child it is built from. -/
theorem physical_of_builtAs {r : Registry} {naming : Naming} {c : ColumnSpec} :
    ∀ {specs : List ChildSpec} {children : List VirtualChild},
      List.Forall₂ (ChildSpec.BuiltAs r naming c) specs children →
        children.map VirtualChild.physical = specs.map (c.childPhysical naming)
  | _, _, .nil => rfl
  | _, _, .cons built rest => by simp [built.physical, physical_of_builtAs rest]

/-- The built column stores the physical names the definition gives it. -/
theorem ColumnSpec.BuiltAs.physicalNames {r : Registry} {naming : Naming} {s : ColumnSpec}
    {c : Column} (built : s.BuiltAs r naming c) : c.physicalNames = s.physicalNames naming := by
  obtain ⟨name, _, _, _, kind⟩ := built
  cases c with
  | mk _ _ _ _ kind' =>
    cases kind' with
    | scalar m => simpa [Column.physicalNames, ColumnSpec.physicalNames, kind.1] using name
    | reference m target =>
      simpa [Column.physicalNames, ColumnSpec.physicalNames, kind.1] using name
    | composite v =>
      simp only [Column.physicalNames, ColumnSpec.physicalNames, kind.1]
      exact physical_of_builtAs kind.2

/-! ## The invariant of built tables -/

/-- What holds of every table a build makes. -/
structure Table.WellFormed (t : Table) : Prop where
  hasColumns : t.columns ≠ []
  distinctNames : (t.columns.map Column.name).Nodup
  virtualColumns : ∀ c ∈ t.columns, ∀ v, c.virtual? = some v →
    c.key = .regular ∧ c.autoincrement = false ∧ v.children ≠ [] ∧
      (v.children.map VirtualChild.name).Nodup
  autoincrementIntegral : ∀ c ∈ t.columns, c.autoincrement = true →
    c.isKey = true ∨ ∃ m, c.mapper? = some m ∧ m.native.isIntegerType = true
  distinctPhysical : t.physicalNames.Nodup

/-! ## A logic of checked outcomes -/

section Checks

variable {α β : Type}

/-- An outcome of a step of the build of `table`: a result satisfying `R` when the shape rules
`S` and the resolutions `V` hold, and otherwise a refusal of the table with a shape rule broken,
or a registry failure with a resolution missing. -/
def Checked (table : String) (S V : Prop) (R : α → Prop) : Outcome α → Prop
  | .ok a => S ∧ V ∧ R a
  | .error e => (e.RefusesTable table ∧ ¬S) ∨ (e.FromRegistry ∧ ¬V)

/-- A step of the build whose outcome, run from the links of `r`, is `Checked`. -/
def Checks (table : String) (S V : Prop) (R : α → Prop) (r : Registry) (x : Resolve α) : Prop :=
  ∃ o, x.Runs r o ∧ Checked table S V R o

variable {table : String} {S S' V V' : Prop} {R R' : α → Prop} {r : Registry}

theorem Checked.ok_iff {o : Outcome α} (checked : Checked table S V R o) :
    (∃ a, o = .ok a) ↔ S ∧ V := by
  cases o with
  | ok a => exact ⟨fun _ => ⟨checked.1, checked.2.1⟩, fun _ => ⟨a, rfl⟩⟩
  | error e =>
    constructor
    · rintro ⟨_, absurd⟩
      cases absurd
    rintro ⟨shaped, resolves⟩
    rcases checked with ⟨_, broken⟩ | ⟨_, missing⟩
    · exact absurd shaped broken
    · exact absurd resolves missing

theorem Checks.outcome {x : Resolve α} (checks : Checks table S V R r x) :
    Checked table S V R (x.outcome r) := by
  obtain ⟨o, runs, checked⟩ := checks
  rw [runs.outcome_eq]
  exact checked

theorem Checks.congr {x : Resolve α} (checks : Checks table S V R r x) (shape : S ↔ S')
    (resolution : V ↔ V') (result : ∀ a, R a → R' a) : Checks table S' V' R' r x := by
  obtain ⟨o, runs, checked⟩ := checks
  refine ⟨o, runs, ?_⟩
  cases o with
  | ok a => exact ⟨shape.mp checked.1, resolution.mp checked.2.1, result a checked.2.2⟩
  | error e =>
    rcases checked with ⟨refused, broken⟩ | ⟨registry, missing⟩
    · exact .inl ⟨refused, mt shape.mpr broken⟩
    · exact .inr ⟨registry, mt resolution.mpr missing⟩

theorem Checks.pure {a : α} (shaped : S) (resolves : V) (result : R a) :
    Checks table S V R r (Pure.pure a) := ⟨_, Resolve.Runs.pure a r, shaped, resolves, result⟩

theorem Checks.refuse (reason : TableProblem) (broken : ¬S) :
    Checks table S V R r (TableSpec.invalid table reason) :=
  ⟨_, Resolve.Runs.fault _ r, .inl ⟨⟨reason, rfl⟩, broken⟩⟩

/-- A step that refuses the table when `c` holds, and otherwise goes on with `x`. -/
theorem Checks.guard {c : Prop} [Decidable c] (reason : TableProblem) {x : Resolve α}
    (rest : Checks table S V R r x) :
    Checks table (¬c ∧ S) V R r (if c then TableSpec.invalid table reason else x) := by
  split
  · rename_i refused
    exact Checks.refuse reason fun shaped => shaped.1 refused
  · rename_i passed
    exact rest.congr (Iff.intro (fun shaped => ⟨passed, shaped⟩) And.right) Iff.rfl fun _ => id

/-- The rest of a block runs on what its first step returned, under the rules that step stands
for. -/
theorem Checks.bind {S₂ V₂ : Prop} {R₂ : β → Prop} {x : Resolve α} {f : α → Resolve β}
    (first : Checks table S V R r x) (rest : ∀ a, S → V → R a → Checks table S₂ V₂ R₂ r (f a)) :
    Checks table (S ∧ S₂) (V ∧ V₂) R₂ r (x >>= f) := by
  obtain ⟨o, runs, checked⟩ := first
  cases o with
  | error e =>
    refine ⟨_, runs.bind_error, ?_⟩
    rcases checked with ⟨refused, broken⟩ | ⟨registry, missing⟩
    · exact .inl ⟨refused, fun shaped => broken shaped.1⟩
    · exact .inr ⟨registry, fun resolves => missing resolves.1⟩
  | ok a =>
    obtain ⟨shaped, resolves, result⟩ := checked
    obtain ⟨o', runs', checked'⟩ := rest a shaped resolves result
    refine ⟨o', runs.bind_ok runs', ?_⟩
    cases o' with
    | ok b => exact ⟨⟨shaped, checked'.1⟩, ⟨resolves, checked'.2.1⟩, checked'.2.2⟩
    | error e =>
      rcases checked' with ⟨refused, broken⟩ | ⟨registry, missing⟩
      · exact .inl ⟨refused, fun both => broken both.2⟩
      · exact .inr ⟨registry, fun both => missing both.2⟩

/-- A lookup, under a context that is no fault, succeeds exactly when its key resolves. -/
theorem Checks.lookup (key : TypeKey) (layer : Problem) (plain : layer.fault? = none) :
    Checks table True (∃ m, (r.lookup key).map Prod.fst = .ok m)
      (fun m => (r.lookup key).map Prod.fst = .ok m) r (Resolve.within layer (Resolve.lookup key)) := by
  refine ⟨_, (Resolve.Runs.lookup key r).within layer, ?_⟩
  rcases looked : (r.lookup key).map Prod.fst with e | m
  · exact .inr ⟨(Registry.lookup_error_fromRegistry looked).within plain,
      fun ⟨_, resolved⟩ => nomatch resolved⟩
  · exact ⟨trivial, ⟨m, rfl⟩, rfl⟩

end Checks

/-! ## The build, step by step -/

namespace TableSpec

theorem firstRepeated_eq_none_iff :
    ∀ (names taken : List String),
      firstRepeated names taken = none ↔ names.Nodup ∧ ∀ n ∈ names, n ∉ taken
  | [], _ => by simp [firstRepeated]
  | n :: rest, taken => by
    rw [firstRepeated]
    by_cases repeated : taken.contains n = true
    · rw [if_pos repeated]
      simp only [reduceCtorEq, false_iff, not_and]
      intro _ fresh
      exact fresh n List.mem_cons_self (List.contains_iff_mem.mp repeated)
    · rw [if_neg repeated, firstRepeated_eq_none_iff rest (n :: taken)]
      have unseen : n ∉ taken := fun member => repeated (List.contains_iff_mem.mpr member)
      constructor
      · rintro ⟨nodup, fresh⟩
        refine ⟨List.nodup_cons.mpr ⟨fun member => fresh n member List.mem_cons_self, nodup⟩, ?_⟩
        intro m member
        rcases List.mem_cons.mp member with rfl | later
        · exact unseen
        · exact fun seen => fresh m later (List.mem_cons_of_mem n seen)
      · rintro ⟨nodup, fresh⟩
        refine ⟨(List.nodup_cons.mp nodup).2, fun m member seen => ?_⟩
        rcases List.mem_cons.mp seen with rfl | earlier
        · exact (List.nodup_cons.mp nodup).1 member
        · exact fresh m (List.mem_cons_of_mem n member) earlier

theorem misuse?_eq_none_iff (c : ColumnSpec) :
    c.misuse? = none ↔ (c.isVirtual = false → c.children = []) := by
  unfold ColumnSpec.misuse? ColumnSpec.isVirtual
  rcases shape : c.shape with _ | _ | codec
  all_goals try simp
  all_goals
    cases last : c.children.getLast? with
    | none => simp [List.getLast?_eq_none_iff.mp last]
    | some child =>
      have : c.children ≠ [] := fun empty => by simp [empty] at last
      simp [this]

theorem resolveChildren_checks (r : Registry) (table : String) (naming : Naming)
    (column : ColumnSpec) :
    ∀ (children : List ChildSpec) (seen : List String),
      Checks table ((children.map ChildSpec.name).Nodup ∧ ∀ child ∈ children, child.name ∉ seen)
        (∀ child ∈ children, ∃ m, (r.lookup child.type).map Prod.fst = .ok m)
        (List.Forall₂ (ChildSpec.BuiltAs r naming column) children) r
        (resolveChildren table column.name naming children seen)
  | [], _ => Checks.pure (by simp) (by simp) .nil
  | child :: rest, seen => by
    rw [resolveChildren]
    refine Checks.congr (Checks.guard (.duplicateChild child.name column.name)
      ((Checks.lookup child.type (.resolvingChild column.name child.name) rfl).bind
        fun mapper _ _ looked =>
        (resolveChildren_checks r table naming column rest (child.name :: seen)).bind
          fun others _ _ built =>
            Checks.pure trivial trivial (List.Forall₂.cons ⟨rfl, rfl, rfl, looked⟩ built)))
      ?_ ?_ fun _ => id
    · -- a child name is new in the column when it is neither seen before nor declared again
      simp only [List.forall_mem_cons]
      simp only [List.contains_iff_mem, true_and, and_true, List.map_cons, List.nodup_cons,
        List.mem_map, not_exists, not_and, List.mem_cons, not_or]
      constructor
      · rintro ⟨unseen, nodup, fresh⟩
        exact ⟨⟨fun c member same => (fresh c member).1 same, nodup⟩, unseen,
          fun c member => (fresh c member).2⟩
      · rintro ⟨⟨unique, nodup⟩, unseen, fresh⟩
        exact ⟨unseen, nodup, fun c member => ⟨unique c member, fresh c member⟩⟩
    · simp only [and_true, List.forall_mem_cons]

theorem resolveKind_checks (r : Registry) (table : String) (naming : Naming) (c : ColumnSpec) :
    Checks table
      (c.isVirtual = true → c.key = .regular ∧ c.autoincrement = false ∧ c.children ≠ [] ∧
        (c.children.map ChildSpec.name).Nodup)
      (c.Resolves r) (c.KindBuiltAs r naming) r (resolveKind table naming c) := by
  unfold resolveKind
  split
  · rename_i plain
    refine Checks.congr ((Checks.lookup c.type (.resolvingColumn c.name table) rfl).bind
      fun m _ _ looked => Checks.pure trivial trivial ⟨plain, looked⟩) ?_ ?_ fun _ => id
    · simp [ColumnSpec.isVirtual, plain]
    · simp [ColumnSpec.Resolves, ColumnSpec.lookedUp, plain]
  · rename_i target reference
    refine Checks.congr ((Checks.lookup c.type (.resolvingColumn c.name table) rfl).bind
      fun m _ _ looked => Checks.pure trivial trivial ⟨reference, looked⟩) ?_ ?_ fun _ => id
    · simp [ColumnSpec.isVirtual, reference]
    · simp [ColumnSpec.Resolves, ColumnSpec.lookedUp, reference]
  · rename_i codec virtual
    refine Checks.congr (Checks.guard (.virtualKey c.name) (Checks.guard (.childless c.name)
      ((resolveChildren_checks r table naming c c.children []).bind fun children _ _ built =>
        Checks.pure trivial trivial ⟨virtual, built⟩))) ?_ ?_ fun _ => id
    · simp [ColumnSpec.isVirtual, virtual, and_assoc]
    · simp [ColumnSpec.Resolves, ColumnSpec.lookedUp, virtual]

/-- The shape rules of the columns `columns`, built when the names `names` and the physical names
`physical` are taken. -/
def ColumnRules (r : Registry) (naming : Naming) (columns : List ColumnSpec)
    (names physical : List String) : Prop :=
  (∀ c ∈ columns, c.Shaped r) ∧
    ((columns.map ColumnSpec.name).Nodup ∧ ∀ c ∈ columns, c.name ∉ names) ∧
    ((columns.flatMap (ColumnSpec.physicalNames naming)).Nodup ∧
      ∀ n ∈ columns.flatMap (ColumnSpec.physicalNames naming), n ∉ physical)

theorem columnRules_cons (r : Registry) (naming : Naming) (c : ColumnSpec)
    (rest : List ColumnSpec) (names physical : List String) :
    ColumnRules r naming (c :: rest) names physical ↔
      c.Shaped r ∧ c.name ∉ names ∧
        ((c.physicalNames naming).Nodup ∧ ∀ n ∈ c.physicalNames naming, n ∉ physical) ∧
        ColumnRules r naming rest (c.name :: names) ((c.physicalNames naming).reverse ++ physical) := by
  unfold ColumnRules
  simp only [List.map_cons, List.flatMap_cons, List.nodup_cons, List.nodup_append, List.mem_append,
    List.mem_reverse, List.mem_cons, not_or, List.mem_map, List.mem_flatMap]
  grind

theorem shaped_iff (r : Registry) (c : ColumnSpec) :
    c.Shaped r ↔ (c.isVirtual = false → c.children = []) ∧
      (c.isVirtual = true → c.key = .regular ∧ c.autoincrement = false ∧ c.children ≠ [] ∧
        (c.children.map ChildSpec.name).Nodup) ∧
      (c.autoincrement = true → c.key ≠ .regular ∨
        ∀ m, (r.lookup c.type).map Prod.fst = .ok m → m.native.isIntegerType = true) := by
  constructor
  · rintro ⟨plain, notKey, children, integral⟩
    exact ⟨plain, fun virtual => ⟨(notKey virtual).1, (notKey virtual).2, children virtual⟩, integral⟩
  · rintro ⟨plain, virtual, integral⟩
    exact ⟨plain, fun v => ⟨(virtual v).1, (virtual v).2.1⟩, fun v => (virtual v).2.2, integral⟩

theorem resolveColumns_checks (r : Registry) (table : String) (naming : Naming) :
    ∀ (columns : List ColumnSpec) (names physical : List String),
      Checks table (ColumnRules r naming columns names physical) (∀ c ∈ columns, c.Resolves r)
        (List.Forall₂ (ColumnSpec.BuiltAs r naming) columns) r
        (resolveColumns table naming columns names physical)
  | [], _, _ => Checks.pure (by simp [ColumnRules]) (by simp) .nil
  | c :: rest, names, physical => by
    rw [resolveColumns]
    split
    · rename_i misuse misused
      refine Checks.refuse misuse fun shaped => ?_
      have fine := (misuse?_eq_none_iff c).mpr
        ((columnRules_cons r naming c rest names physical).mp shaped).1.childrenOnVirtual
      simp [misused] at fine
    · rename_i fine
      have plain : c.misuse? = none := by
        cases misused : c.misuse? with
        | none => rfl
        | some misuse => exact absurd misused (fine misuse)
      refine Checks.congr (Checks.guard (.duplicateColumn c.name)
        ((resolveKind_checks r table naming c).bind fun kind kindShaped _ built =>
          (?step : Checks table
            ((c.autoincrement = true → c.key ≠ .regular ∨
                ∀ m, (r.lookup c.type).map Prod.fst = .ok m → m.native.isIntegerType = true) ∧
              ((c.physicalNames naming).Nodup ∧ ∀ n ∈ c.physicalNames naming, n ∉ physical) ∧
              ColumnRules r naming rest (c.name :: names)
                ((c.physicalNames naming).reverse ++ physical))
            (∀ c ∈ rest, c.Resolves r) (List.Forall₂ (ColumnSpec.BuiltAs r naming) (c :: rest)) r _)))
        ?shape (List.forall_mem_cons.symm) fun _ => id
      case step =>
        dsimp only
        refine Checks.congr (Checks.guard (.autoincrement c.name)
          (?tail : Checks table
            (((c.physicalNames naming).Nodup ∧ ∀ n ∈ c.physicalNames naming, n ∉ physical) ∧
              ColumnRules r naming rest (c.name :: names)
                ((c.physicalNames naming).reverse ++ physical))
            (∀ c ∈ rest, c.Resolves r) (List.Forall₂ (ColumnSpec.BuiltAs r naming) (c :: rest)) r _))
          ?integral Iff.rfl fun _ => id
        case integral =>
          refine Iff.and ?_ Iff.rfl
          cases kind with
          | scalar m =>
            obtain ⟨_, looked⟩ := built
            simp [Column.isKey, Column.mapper?, looked, or_iff_not_imp_left]
          | reference m target =>
            obtain ⟨_, looked⟩ := built
            simp [Column.isKey, Column.mapper?, looked, or_iff_not_imp_left]
          | composite v =>
            obtain ⟨shape, _⟩ := built
            have notKey := kindShaped (by simp [ColumnSpec.isVirtual, shape])
            simp [notKey.1, notKey.2.1]
        case tail =>
          have column : c.BuiltAs r naming ⟨c.name, c.type, c.key, c.autoincrement, kind⟩ :=
            ⟨rfl, rfl, rfl, rfl, built⟩
          rw [column.physicalNames]
          split
          · rename_i name repeated
            refine Checks.refuse (.duplicatePhysical name) fun ⟨unrepeated, _⟩ => ?_
            rw [(firstRepeated_eq_none_iff _ _).mpr unrepeated] at repeated
            cases repeated
          · rename_i unrepeated
            refine Checks.congr ((resolveColumns_checks r table naming rest (c.name :: names) _).bind
              fun others _ _ builtRest =>
                Checks.pure trivial trivial (List.Forall₂.cons column builtRest))
              ?_ (and_iff_left trivial) fun _ => id
            exact ⟨fun rules => ⟨(firstRepeated_eq_none_iff _ _).mp unrepeated, rules.1⟩,
              fun rules => ⟨rules.2, trivial⟩⟩
      case shape =>
        rw [columnRules_cons, shaped_iff, List.contains_iff_mem]
        have childless := (misuse?_eq_none_iff c).mp plain
        constructor
        · rintro ⟨fresh, virtual, integral, unique, rules⟩
          exact ⟨⟨childless, virtual, integral⟩, fresh, unique, rules⟩
        · rintro ⟨⟨_, virtual, integral⟩, fresh, unique, rules⟩
          exact ⟨fresh, virtual, integral, unique, rules⟩

theorem build_checks (r : Registry) (spec : TableSpec) :
    Checks spec.name (spec.Shaped r) (spec.Resolves r) (spec.BuiltAs r) r spec.build := by
  unfold build
  refine Checks.congr (Checks.guard .noColumns
    ((resolveColumns_checks r spec.name spec.naming spec.columns [] []).bind fun columns _ _ built =>
      Checks.pure trivial trivial ⟨rfl, rfl, rfl, rfl, built⟩)) ?_ (and_iff_left trivial) fun _ => id
  simp only [ColumnRules, List.not_mem_nil, not_false_eq_true, implies_true, and_true,
    List.isEmpty_iff]
  constructor
  · rintro ⟨nonempty, shaped, names, physical⟩
    exact ⟨nonempty, shaped, names, physical⟩
  · rintro ⟨nonempty, shaped, names, physical⟩
    exact ⟨nonempty, shaped, names, physical⟩

end TableSpec

/-! ## Built tables -/

section Lists

variable {α β γ : Type} {R : α → β → Prop}

/-- Lists related pointwise by a relation under which `f` and `g` agree have equal images. -/
theorem map_eq_map_of_forall₂ {f : α → γ} {g : β → γ} {l₁ : List α} {l₂ : List β}
    (related : List.Forall₂ R l₁ l₂) (agree : ∀ a b, R a b → f a = g b) : l₁.map f = l₂.map g := by
  rw [← List.forall₂_eq_eq_eq, List.forall₂_map_left_iff, List.forall₂_map_right_iff]
  exact related.imp agree

theorem exists_mem_of_forall₂ : ∀ {l₁ : List α} {l₂ : List β},
    List.Forall₂ R l₁ l₂ → ∀ b ∈ l₂, ∃ a ∈ l₁, R a b
  | _, _, .nil => by simp
  | _, _, .cons related rest => by
    intro b member
    rcases List.mem_cons.mp member with rfl | later
    · exact ⟨_, List.mem_cons_self, related⟩
    · obtain ⟨a, inRest, relatedLater⟩ := exists_mem_of_forall₂ rest b later
      exact ⟨a, List.mem_cons_of_mem _ inRest, relatedLater⟩

theorem exists_mem_zip_of_forall₂ : ∀ {l₁ : List α} {l₂ : List β},
    List.Forall₂ R l₁ l₂ → ∀ a ∈ l₁, ∃ b, (a, b) ∈ l₁.zip l₂ ∧ R a b
  | _, _, .nil => by simp
  | _, _, .cons related rest => by
    intro a member
    rw [List.zip_cons_cons]
    rcases List.mem_cons.mp member with rfl | later
    · exact ⟨_, List.mem_cons_self, related⟩
    · obtain ⟨b, paired, relatedLater⟩ := exists_mem_zip_of_forall₂ rest a later
      exact ⟨b, List.mem_cons_of_mem _ paired, relatedLater⟩

/-- A pointwise relation holds together with the membership of its left element. -/
theorem forall₂_and_mem_left {l₁ : List α} {l₂ : List β} (related : List.Forall₂ R l₁ l₂) :
    List.Forall₂ (fun a b => R a b ∧ a ∈ l₁) l₁ l₂ :=
  List.forall₂_iff_zip.mpr ⟨related.length_eq, fun member =>
    ⟨List.forall₂_zip related member, (List.of_mem_zip member).1⟩⟩

end Lists

section Columns

variable {r : Registry} {naming : Naming} {s : ColumnSpec} {c : Column}

/-- A built virtual column is a plain column with distinct children. -/
theorem ColumnSpec.BuiltAs.virtual (built : s.BuiltAs r naming c) (shaped : s.Shaped r)
    {v : VirtualColumn} (virtual : c.virtual? = some v) :
    c.key = .regular ∧ c.autoincrement = false ∧ v.children ≠ [] ∧
      (v.children.map VirtualChild.name).Nodup := by
  obtain ⟨_, _, key, autoincrement, kind⟩ := built
  have composite : c.kind = .composite v := by
    unfold Column.virtual? at virtual
    split at virtual <;> simp_all
  rw [composite] at kind
  obtain ⟨shape, children⟩ := kind
  have isVirtual : s.isVirtual = true := by simp [ColumnSpec.isVirtual, shape]
  obtain ⟨regular, notAutoincrement⟩ := shaped.virtualNotKey isVirtual
  obtain ⟨declared, distinct⟩ := shaped.virtualChildren isVirtual
  refine ⟨key.trans regular, autoincrement.trans notAutoincrement, ?_, ?_⟩
  · rintro empty
    rw [empty] at children
    exact declared (List.forall₂_nil_right_iff.mp children)
  · rw [← map_eq_map_of_forall₂ children fun _ _ child => child.name.symm]
    exact distinct

/-- A built autoincrement column is a key or stores an integer. -/
theorem ColumnSpec.BuiltAs.autoincrementIntegral (built : s.BuiltAs r naming c)
    (shaped : s.Shaped r) (autoincrement : c.autoincrement = true) :
    c.isKey = true ∨ ∃ m, c.mapper? = some m ∧ m.native.isIntegerType = true := by
  obtain ⟨_, _, key, declared, kind⟩ := built
  rw [declared] at autoincrement
  rcases shaped.autoincrementIntegral autoincrement with notRegular | integral
  · left
    simp [Column.isKey, key, notRegular]
  · right
    cases c with
    | mk _ _ _ _ kind' =>
      cases kind' with
      | scalar m => exact ⟨m, rfl, integral m kind.2⟩
      | reference m target => exact ⟨m, rfl, integral m kind.2⟩
      | composite v =>
        -- a virtual column is never autoincrement
        have isVirtual : s.isVirtual = true := by simp [ColumnSpec.isVirtual, kind.1]
        simp [(shaped.virtualNotKey isVirtual).2] at autoincrement

end Columns

/-- Every table a build makes of a definition meeting the shape rules is well formed. -/
theorem TableSpec.BuiltAs.wellFormed {r : Registry} {spec : TableSpec} {t : Table}
    (built : spec.BuiltAs r t) (shaped : spec.Shaped r) : t.WellFormed where
  hasColumns empty := by
    have columns := built.columns
    rw [empty] at columns
    exact shaped.hasColumns (List.forall₂_nil_right_iff.mp columns)
  distinctNames := by
    rw [← map_eq_map_of_forall₂ built.columns fun _ _ column => column.name.symm]
    exact shaped.distinctNames
  virtualColumns c member v virtual := by
    obtain ⟨s, declared, column⟩ := exists_mem_of_forall₂ built.columns c member
    exact column.virtual (shaped.columns s declared) virtual
  autoincrementIntegral c member autoincrement := by
    obtain ⟨s, declared, column⟩ := exists_mem_of_forall₂ built.columns c member
    exact column.autoincrementIntegral (shaped.columns s declared) autoincrement
  distinctPhysical := by
    unfold Table.physicalNames
    rw [List.flatMap_def,
      ← map_eq_map_of_forall₂ built.columns fun _ _ column => column.physicalNames.symm,
      ← List.flatMap_def]
    exact shaped.distinctPhysical

/-! ## What a well-formed table guarantees -/

section Traversal

variable {α β : Type} {f : α → Outcome β}

/-- A traversal that fails fails with the failure of one of its elements. -/
theorem exists_mem_of_mapM_eq_error : ∀ {l : List α} {e : Failure},
    l.mapM f = .error e → ∃ a ∈ l, f a = .error e
  | [], _, failed => nomatch failed
  | a :: rest, e, failed => by
    rw [List.mapM_cons] at failed
    cases first : f a with
    | error e' =>
      rw [first] at failed
      cases failed
      exact ⟨a, List.mem_cons_self, first⟩
    | ok b =>
      rw [first] at failed
      cases others : rest.mapM f with
      | error e' =>
        rw [others] at failed
        cases failed
        obtain ⟨a', member, failedAt⟩ := exists_mem_of_mapM_eq_error others
        exact ⟨a', List.mem_cons_of_mem a member, failedAt⟩
      | ok bs =>
        rw [others] at failed
        cases failed

/-- A successful traversal relates each element to its own result. -/
theorem forall₂_of_mapM_eq_ok : ∀ {l : List α} {results : List β},
    l.mapM f = .ok results → List.Forall₂ (fun a b => f a = .ok b) l results
  | [], _, mapped => by
    cases mapped
    exact .nil
  | a :: rest, _, mapped => by
    rw [List.mapM_cons] at mapped
    cases first : f a with
    | error e => rw [first] at mapped; cases mapped
    | ok b =>
      rw [first] at mapped
      cases others : rest.mapM f with
      | error e => rw [others] at mapped; cases mapped
      | ok bs =>
        rw [others] at mapped
        cases mapped
        exact .cons first (forall₂_of_mapM_eq_ok others)

end Traversal

namespace Table.WellFormed

variable {t : Table}

/-- A key column of a well-formed table stores a single value. -/
theorem key_mapper (wf : t.WellFormed) {c : Column} (member : c ∈ t.keyColumns) :
    ∃ m, c.mapper? = some m := by
  obtain ⟨inColumns, isKey⟩ := List.mem_filter.mp member
  cases kind : c.kind with
  | scalar m => exact ⟨m, by simp [Column.mapper?, kind]⟩
  | reference m _ => exact ⟨m, by simp [Column.mapper?, kind]⟩
  | composite v =>
    have regular := (wf.virtualColumns c inColumns v (by simp [Column.virtual?, kind])).1
    simp [Column.isKey, regular] at isKey

/-- The identity condition of a record in a well-formed table fails only for want of a key: the
table has no key column, or the record has no value for one. -/
theorem identity_error (wf : t.WellFormed) (record : Record) {e : Failure}
    (failed : t.identity record = .error e) :
    (t.keyColumns = [] ∧ e = Failure.ofFault (.missingKey t.name)) ∨
      ∃ c ∈ t.keyColumns, (record.datum c.name).isNull = true ∧
        e = Failure.of (.keyWithoutValue c.name t.name) := by
  unfold identity at failed
  simp only [bind, Except.bind] at failed
  split at failed
  · rename_i e' conditions
    cases failed
    obtain ⟨c, member, keyFailed⟩ := exists_mem_of_mapM_eq_error conditions
    obtain ⟨m, mapper⟩ := wf.key_mapper member
    right
    split at keyFailed
    · rename_i null
      cases keyFailed
      exact ⟨c, member, null, rfl⟩
    · rw [mapper] at keyFailed
      cases keyFailed
  · rename_i conditions mapped
    split at failed
    · cases failed
      exact .inl ⟨List.forall₂_nil_right_iff.mp (forall₂_of_mapM_eq_ok mapped), rfl⟩
    · cases failed

/-- In a row labelled with the physical names of a well-formed table, each name reads the value
at its own position. -/
theorem get?_physicalNames (wf : t.WellFormed) (values : List Value) (i : Nat)
    (h : i < t.physicalNames.length) :
    (Row.mk t.physicalNames values).get? t.physicalNames[i] = values[i]? := by
  have found : t.physicalNames.idxOf? t.physicalNames[i] = some i := by
    rw [List.idxOf?_eq_some_iff]
    refine ⟨h, rfl, fun j earlier same => ?_⟩
    have := (List.Nodup.getElem_inj_iff wf.distinctPhysical).mp same
    omega
  simp [Row.get?, found]

end Table.WellFormed

/-- Every table a build returns is well formed. -/
theorem TableSpec.wellFormed_of_build {r : Registry} {spec : TableSpec} {t : Table}
    (built : spec.build.outcome r = .ok t) : t.WellFormed := by
  have checked := (TableSpec.build_checks r spec).outcome
  rw [built] at checked
  exact checked.2.2.wellFormed checked.1

/-- A table definition, under any naming of the children's physical columns, is built exactly
when it meets the rules of a table and every type it names resolves. A failed build is either a
refusal of the table with a rule broken or a registry failure with a type unresolved, never both,
and the table built is the one the definition describes and is well formed: its identity
condition fails only for want of a key, and a row labelled with its physical names answers each
name with the value at that name's position. -/
theorem build_checks_definition (r : Registry) (spec : TableSpec) :
    ((∃ t, spec.build.outcome r = .ok t) ↔ spec.Shaped r ∧ spec.Resolves r) ∧
      (∀ e, spec.build.outcome r = .error e →
        Xor (e.RefusesTable spec.name ∧ ¬spec.Shaped r) (e.FromRegistry ∧ ¬spec.Resolves r)) ∧
      ∀ t, spec.build.outcome r = .ok t → spec.BuiltAs r t ∧ t.WellFormed ∧
        (∀ record e, t.identity record = .error e →
          (t.keyColumns = [] ∧ e = Failure.ofFault (.missingKey t.name)) ∨
            ∃ c ∈ t.keyColumns, (record.datum c.name).isNull = true ∧
              e = Failure.of (.keyWithoutValue c.name t.name)) ∧
        ∀ (values : List Value) (i : Nat) (h : i < t.physicalNames.length),
          (Row.mk t.physicalNames values).get? t.physicalNames[i] = values[i]? := by
  have checked := (TableSpec.build_checks r spec).outcome
  refine ⟨checked.ok_iff, fun e failed => ?_, fun t built => ?_⟩
  · rw [failed] at checked
    -- a refusal of the table is never a failure of the registry
    rcases checked with ⟨refused, broken⟩ | ⟨registry, missing⟩
    · exact .inl ⟨⟨refused, broken⟩, fun other =>
        Failure.not_refusesTable_of_fromRegistry other.1 spec.name refused⟩
    · exact .inr ⟨⟨registry, missing⟩, fun other =>
        Failure.not_refusesTable_of_fromRegistry registry spec.name other.1⟩
  · rw [built] at checked
    obtain ⟨shaped, _, builtAs⟩ := checked
    have wf := builtAs.wellFormed shaped
    exact ⟨builtAs, wf, fun record _ failed => wf.identity_error record failed,
      fun values i h => wf.get?_physicalNames values i h⟩

/-- Boxes with a virtual column `size` whose children are named `child_of_parent`, the child
`height` stored under its own physical name `tall`. -/
def sizedBoxes : TableSpec where
  name := "boxes"
  naming parent child := child ++ "_of_" ++ parent
  columns := [{ name := "id", type := .named .i64, key := .primary },
    { name := "size", type := .named .composite, shape := .composite .map,
      children := [{ name := "width", type := .named .i64 },
        { name := "height", type := .named .i64, physical := some "tall" }] }]

example : (sizedBoxes.build.outcome Registry.withDefaults).map Table.physicalNames =
    .ok ["id", "width_of_size", "tall"] := by
  cbv

end RelMap
