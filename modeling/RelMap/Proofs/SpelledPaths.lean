import RelMap.Proofs.CompiledOutcomes
import Mathlib

/-!
# Spelled and built property paths

A property path can be spelled as a string, `author->location.city`, or built with the node
constructors from its first segment: the child `city` of the reference `location` of the property
`author`. Parsing the string walks it step by step, checks each step against the schema, and gives
exactly the built node (`parsePath_spelled`); the string is then compiled as that node. So where
the string compiles, the built node compiles to the same text, and where the string has a decode
mapper, the built node has the same one.

The converse holds but for one check each way. The walk asks the mapper of an indexed value for
its elements, while an index node is written as a subscript of any base: `x[0]` on an integer
column is refused as a string and written `"x"[1]` when built. And the walk refuses an index of
2^64 or more, while the decode mapper of a built index never looks at the index.

The proof follows the walk. `Tracks` says where the node built so far stands against the walk's
position: at a column, the node resolves to that whole column; at a value, the node decodes with
the value's mapper. Each successful step keeps it (`Tracks.move_ok`), and a failed step leaves a
node that fails and whose extensions all fail (`Tracks.move_error`, `Fails.build`).
-/

namespace RelMap

set_option autoImplicit false

/-- A path segment: a non-empty run of ASCII letters, digits and underscores. -/
def IsSegment (s : String) : Prop := s.toList ≠ [] ∧ ∀ ch ∈ s.toList, isSegmentChar ch = true

instance (s : String) : Decidable (IsSegment s) := inferInstanceAs (Decidable (_ ∧ _))

/-- A step of a property path after its first segment. -/
inductive PathStep where
  /-- `->name`: the column `name` of the table the reference targets. -/
  | follow (name : String)
  /-- `.name`: the child `name` of a virtual column. -/
  | child (name : String)
  /-- `[digits]`: the element at the position the digits write. -/
  | index (digits : String)

namespace PathStep

def text : PathStep → String
  | follow name => "->" ++ name
  | child name => "." ++ name
  | index digits => "[" ++ digits ++ "]"

def WellFormed : PathStep → Prop
  | follow name | child name => IsSegment name
  | index digits => digits.toList ≠ [] ∧ ∀ ch ∈ digits.toList, ch.isDigit = true

/-- The node of the step over the node of the path before it. -/
def build : PathStep → Node → Node
  | follow name, n => .reference n name
  | child name, n => .child n name
  | index digits, n => .index n (digitsValue digits.toList)

/-- Where the walk of the path `path` goes on the step from a position, with the walk's checks. -/
def move (catalog : Catalog) (path : String) : PathStep → PathPosition → Resolve PathPosition
  | follow name, position => PathPosition.column <$> PathWalk.follow catalog path name position
  | child name, position =>
    (fun child => PathPosition.value child.mapper) <$> PathWalk.childOf path name position
  | index digits, position =>
    if 2 ^ 64 ≤ digitsValue digits.toList then
      PathWalk.invalid path (.indexTooLarge digits)
    else PathPosition.value <$> PathWalk.elementAt path position

end PathStep

/-- The path spelled as a string. -/
def spelled (first : String) (steps : List PathStep) : String :=
  first ++ String.join (steps.map PathStep.text)

/-- The path built with the node constructors. -/
def built (first : String) (steps : List PathStep) : Node :=
  steps.foldl (fun n step => step.build n) (.property first)

/-- The walk of the steps from a position, as the path's walk makes it. -/
def moves (catalog : Catalog) (path : String) (steps : List PathStep) (position : PathPosition) :
    Resolve PathPosition :=
  steps.foldlM (fun position step => step.move catalog path position) position

/-- The failure of the path `path` refusing to index a value that is no sequence. -/
def Failure.RefusesIndexing (path : String) (e : Failure) : Prop :=
  ∃ reason, e = Failure.ofFault (.invalidPath path (.notIndexable reason))

/-- The failure of the path `path` refusing an index of 2^64 or more. -/
def Failure.IndexTooLarge (path : String) (e : Failure) : Prop :=
  ∃ digits : String, 2 ^ 64 ≤ digitsValue digits.toList ∧
    e = Failure.ofFault (.invalidPath path (.indexTooLarge digits))

section Walk

variable (catalog : Catalog) (path : String)

/-- Splitting at the end of a run: the run is taken and the rest, which does not go on with it,
is left. -/
theorem span_append {p : Char → Bool} {word rest : List Char} (inside : ∀ ch ∈ word, p ch = true)
    (stops : ∀ ch ∈ rest.head?, p ch = false) :
    (word ++ rest).takeWhile p = word ∧ (word ++ rest).dropWhile p = rest := by
  have dropped : word.dropWhile p = [] := List.dropWhile_eq_nil_iff.mpr inside
  cases rest with
  | nil => simp [List.takeWhile_eq_self_iff.mpr inside, dropped]
  | cons ch tail =>
    have stopped : p ch = false := stops ch rfl
    rw [List.takeWhile_append_of_pos inside, List.dropWhile_append, dropped]
    simp [stopped]

theorem stepsText_toList (steps : List PathStep) :
    (String.join (steps.map PathStep.text)).toList = steps.flatMap fun step => step.text.toList := by
  simp [String.toList_join, List.flatMap_map]

theorem stepsText_stops (steps : List PathStep) :
    ∀ ch ∈ (steps.flatMap fun step => step.text.toList).head?, isSegmentChar ch = false := by
  intro ch first
  cases steps with
  | nil => simp at first
  | cons step rest =>
    cases step <;> simp [PathStep.text] at first <;> subst first <;> decide

theorem PathStep.walk_step (node : Node) (position : PathPosition) {step : PathStep}
    (wellFormed : step.WellFormed) (rest : List Char)
    (stops : ∀ ch ∈ rest.head?, isSegmentChar ch = false) :
    PathWalk.walk catalog path node position (step.text.toList ++ rest) =
      step.move catalog path position >>= fun next =>
        PathWalk.walk catalog path (step.build node) next rest := by
  cases step with
  | follow name =>
    obtain ⟨named, inside⟩ := wellFormed
    obtain ⟨taken, dropped⟩ := span_append inside stops
    have chars : (PathStep.follow name).text.toList ++ rest = '-' :: '>' :: (name.toList ++ rest) :=
      by simp [PathStep.text]
    rw [chars, PathWalk.walk.eq_2, taken, dropped, String.ofList_toList,
      if_neg (by simpa using named)]
    simp [PathStep.move, PathStep.build]
  | child name =>
    obtain ⟨named, inside⟩ := wellFormed
    obtain ⟨taken, dropped⟩ := span_append inside stops
    have chars : (PathStep.child name).text.toList ++ rest = '.' :: (name.toList ++ rest) := by
      simp [PathStep.text]
    rw [chars, PathWalk.walk.eq_3, taken, dropped, String.ofList_toList,
      if_neg (by simpa using named)]
    simp [PathStep.move, PathStep.build]
  | index digits =>
    obtain ⟨written, inside⟩ := wellFormed
    have closes : ∀ ch ∈ (']' :: rest).head?, ch.isDigit = false := by simp
    obtain ⟨taken, dropped⟩ := span_append inside closes
    have chars : (PathStep.index digits).text.toList ++ rest =
        '[' :: (digits.toList ++ ']' :: rest) := by
      simp [PathStep.text]
    rw [chars, PathWalk.walk.eq_4]
    simp only [taken, String.ofList_toList, PathStep.move, PathStep.build, Nat.pow_eq]
    rw [if_neg (by simpa using written)]
    split
    · rename_i after closing
      rw [dropped, List.cons.injEq] at closing
      rw [← closing.2]
      split
      · simp [PathWalk.invalid, Resolve.fault]
      · simp
    · rename_i unclosed
      exact absurd dropped (unclosed rest)

/-- Walking the spelled steps is making their moves, and gives the built node. -/
theorem walk_steps : ∀ (steps : List PathStep) (node : Node) (position : PathPosition),
    (∀ step ∈ steps, step.WellFormed) →
    PathWalk.walk catalog path node position (steps.flatMap fun step => step.text.toList) =
      moves catalog path steps position >>= fun _ =>
        pure (steps.foldl (fun n step => step.build n) node)
  | [], node, position, _ => by simp [moves, PathWalk.walk.eq_1]
  | step :: rest, node, position, wellFormed => by
    have later : ∀ next, PathWalk.walk catalog path (step.build node) next
        (rest.flatMap fun step => step.text.toList) =
          moves catalog path rest next >>= fun _ =>
            pure (rest.foldl (fun n step => step.build n) (step.build node)) :=
      fun next => walk_steps rest _ next fun s member => wellFormed s (List.mem_cons_of_mem _ member)
    rw [List.flatMap_cons, PathStep.walk_step catalog path node position
      (wellFormed step List.mem_cons_self) _ (stepsText_stops rest)]
    simp only [later, moves, List.foldlM_cons, bind_assoc, List.foldl_cons]

/-- A spelled path whose first segment is a column parses into the built node, after the moves of
its steps. -/
theorem parsePath_spelled (table : Table) {first : String} (segment : IsSegment first)
    (steps : List PathStep) (wellFormed : ∀ step ∈ steps, step.WellFormed) :
    parsePath catalog table (spelled first steps) =
      match table.column? first with
      | none => PathWalk.invalid (spelled first steps) (.notAColumn first table.name)
      | some column =>
        moves catalog (spelled first steps) steps (.column column) >>= fun _ =>
          pure (built first steps) := by
  have chars : (spelled first steps).toList =
      first.toList ++ steps.flatMap fun step => step.text.toList := by
    rw [spelled, String.toList_append, stepsText_toList]
  obtain ⟨taken, dropped⟩ := span_append segment.2 (stepsText_stops steps)
  unfold parsePath
  simp only [chars, taken, dropped, String.ofList_toList]
  rw [if_neg (by simpa using segment.1)]
  cases found : table.column? first with
  | none => rfl
  | some column => exact walk_steps catalog _ steps _ _ wellFormed

end Walk

namespace Resolve

variable {α β : Type}

/-- The computation fails from the links of `r`. -/
def Fails (x : Resolve α) (r : Registry) : Prop := ∃ e, x.outcome r = .error e

theorem Fails.bind {x : Resolve α} {f : α → Resolve β} {r : Registry} (failed : x.Fails r)
    (first : x.Steady r) (rest : ∀ a, (f a).Steady r) : (x >>= f).Fails r := by
  obtain ⟨e, failure⟩ := failed
  exact ⟨e, by rw [outcome_bind first rest, failure]; rfl⟩

theorem Fails.bind_ok {x : Resolve α} {f : α → Resolve β} {r : Registry} {a : α}
    (first : x.outcome r = .ok a) (steady : x.Steady r) (rest : ∀ a, (f a).Steady r)
    (failed : (f a).Fails r) : (x >>= f).Fails r := by
  obtain ⟨e, failure⟩ := failed
  exact ⟨e, by rw [outcome_bind steady rest, first]; exact failure⟩

theorem fault_fails (f : Fault) (r : Registry) : (fault f : Resolve α).Fails r := ⟨_, rfl⟩

@[simp] theorem lift_ok (a : α) : lift (.ok a : Outcome α) = Pure.pure a := rfl

@[simp] theorem lift_error (e : Failure) : lift (.error e : Outcome α) = MonadExcept.throw e := rfl

end Resolve

@[simp] theorem PathWalk.outcome_invalid {α : Type} (path : String) (reason : PathProblem)
    (r : Registry) :
    (PathWalk.invalid path reason : Resolve α).outcome r =
      .error (Failure.ofFault (.invalidPath path reason)) := rfl

@[simp] theorem ColumnPath.outcome_invalid {α : Type} (node : Node) (reason : PathProblem)
    (r : Registry) :
    (ColumnPath.invalid node reason : Resolve α).outcome r =
      .error (Failure.ofFault (.invalidPath node.describe reason)) := rfl

open Resolve

section Follow

variable (catalog : Catalog) (r : Registry)

/-- At a whole column, the walk's step along a reference and the column path's follow look up the
same target column. -/
theorem ColumnPath.follow_of_whole {p : ColumnPath} (whole : p.child = none) (node : Node)
    (path name : String) :
    (∀ column, (PathWalk.follow catalog path name (.column p.column)).outcome r = .ok column →
      ∃ q, (follow catalog node p name).outcome r = .ok q ∧ q.child = none ∧ q.column = column) ∧
    ((PathWalk.follow catalog path name (.column p.column)).Fails r →
      (follow catalog node p name).Fails r) := by
  unfold PathWalk.follow follow
  rw [whole]
  rcases kind : p.column.kind with m | ⟨m, target⟩ | v
  case scalar | composite => simp [Column.target?, kind, Fails]
  case reference =>
    simp only [Column.target?, kind]
    cases found : catalog.find? target.table with
    | none => simp [Catalog.table, found, Outcome.fault, Fails]
    | some t =>
      cases named : t.column? name with
      | none => simp [Catalog.table, found, named, Fails]
      | some column => simp [Catalog.table, found, named, Fails]

/-- At a whole column, the walk's step to a child and the column path's descent find the same
declared child. -/
theorem ColumnPath.descend_of_whole {p : ColumnPath} (whole : p.child = none) (node : Node)
    (path name : String) :
    (∀ child, (PathWalk.childOf path name (.column p.column)).outcome r = .ok child →
      (descend node p name).outcome r = .ok { p with child := some child }) ∧
    ((PathWalk.childOf path name (.column p.column)).Fails r → (descend node p name).Fails r) := by
  unfold PathWalk.childOf descend
  rw [whole]
  rcases kind : p.column.kind with m | ⟨m, target⟩ | v
  case scalar | reference => simp [Column.virtual?, kind, Fails]
  case composite =>
    simp only [Column.virtual?, kind]
    cases declared : v.child? name with
    | none => simp [Fails]
    | some child => simp [Fails]

theorem ColumnPath.follow_of_part {p : ColumnPath} (part : p.child.isSome) (node : Node)
    (name : String) : (follow catalog node p name).Fails r := by
  obtain ⟨child, named⟩ := Option.isSome_iff_exists.mp part
  simp [follow, named, Fails]

theorem ColumnPath.descend_of_part {p : ColumnPath} (part : p.child.isSome) (node : Node)
    (name : String) : (descend node p name).Fails r := by
  obtain ⟨child, named⟩ := Option.isSome_iff_exists.mp part
  simp [descend, named, Fails]

end Follow

namespace ColumnPath

variable (catalog : Catalog) (table : Table) (n : Node)

theorem resolve_reference (name : String) :
    resolve catalog table (.reference n name) =
      resolve catalog table n >>= fun p => follow catalog (.reference n name) p name := rfl

theorem resolve_child (name : String) :
    resolve catalog table (.child n name) =
      resolve catalog table n >>= fun p => descend (.child n name) p name := rfl

theorem resolve_index_fails (i : Nat) (r : Registry) :
    (resolve catalog table (.index n i)).Fails r := fault_fails _ r

theorem resolve_property_of_column {name : String} {col : Column}
    (found : table.column? name = some col) :
    resolve catalog table (.property name) = pure (direct table col) := by
  simp [resolve, resolveWith, found]

theorem resolve_property_fails {name : String} (absent : table.column? name = none)
    (r : Registry) (failed : (parsePath catalog table name).Fails r) :
    (resolve catalog table (.property name)).Fails r := by
  simp only [resolve, resolveWith, absent]
  refine failed.bind (parsePath_steady catalog table name r) fun parsed => ?_
  split
  · exact Steady.fault _ r
  · exact resolveWith_steady catalog r (ofColumn_steady r table) _

end ColumnPath

namespace Compiler

variable (c : Compiler) (r : Registry) (n : Node)

theorem node_reference (name : String) :
    c.node (.reference n name) =
      ColumnPath.resolve c.catalog c.table (.reference n name) >>= c.pathText := rfl

theorem node_child (name : String) :
    c.node (.child n name) = ColumnPath.resolve c.catalog c.table (.child n name) >>= c.pathText :=
  rfl

theorem decodeMapper_reference (name : String) :
    c.decodeMapper (.reference n name) = c.pathMapper (.reference n name) := rfl

theorem decodeMapper_child (name : String) :
    c.decodeMapper (.child n name) = c.pathMapper (.child n name) := rfl

theorem decodeMapper_index (i : Nat) :
    c.decodeMapper (.index n i) = c.decodeMapper n >>= Resolve.elementOf := rfl

theorem node_property_of_column {name : String} {col : Column}
    (found : c.table.column? name = some col) :
    c.node (.property name) = ColumnPath.resolve c.catalog c.table (.property name) >>= c.pathText := by
  simp [node, nodeWith, found, columnProperty]

theorem node_property_of_not_column {name : String} (absent : c.table.column? name = none) :
    c.node (.property name) = parsePath c.catalog c.table name >>= c.nodeWith c.columnProperty := by
  simp [node, nodeWith, absent]

theorem decodeMapper_property_of_column {name : String} {col : Column}
    (found : c.table.column? name = some col) :
    c.decodeMapper (.property name) = c.pathMapper (.property name) := by
  simp [decodeMapper, decodeWith, found]

theorem decodeMapper_property_of_not_column {name : String} (absent : c.table.column? name = none) :
    c.decodeMapper (.property name) = parsePath c.catalog c.table name >>=
      c.decodeWith (fun path => c.pathMapper (.property path)) := by
  simp [decodeMapper, decodeWith, absent]

theorem node_index_fails_of_large {i : Nat} (large : 2 ^ 64 ≤ i + 1) :
    (c.node (.index n i)).Fails r := by
  rw [node, nodeWith, Nat.pow_eq, if_pos large]
  exact fault_fails _ r

theorem node_index_fails {n : Node} (i : Nat) (failed : (c.node n).Fails r) :
    (c.node (.index n i)).Fails r := by
  rw [node, nodeWith]
  split
  · exact fault_fails _ r
  · exact failed.bind (c.node_steady r n) fun _ => Steady.pure _ r

theorem decodeMapper_index_fails {n : Node} (i : Nat) (failed : (c.decodeMapper n).Fails r) :
    (c.decodeMapper (.index n i)).Fails r :=
  failed.bind (c.decodeMapper_steady r n) fun m => Steady.elementOf m r

end Compiler

namespace Compiler

variable (c : Compiler) (r : Registry)

theorem pathMapper_fails {n : Node} (failed : (ColumnPath.resolve c.catalog c.table n).Fails r) :
    (c.pathMapper n).Fails r := by
  unfold pathMapper
  refine failed.bind (ColumnPath.resolve_steady c.catalog r c.table n) fun p => ?_
  split
  · exact Steady.pure _ r
  · exact Steady.fault _ r

theorem pathMapper_outcome {n : Node} {p : ColumnPath}
    (resolved : (ColumnPath.resolve c.catalog c.table n).outcome r = .ok p) :
    (c.pathMapper n).outcome r =
      match p.mapper? with
      | some m => .ok m
      | none => .error (Failure.ofFault (.invalidPath n.describe .wholeVirtualType)) := by
  unfold pathMapper
  rw [outcome_bind (ColumnPath.resolve_steady c.catalog r c.table n) fun q => ?steady, resolved]
  case steady =>
    split
    · exact Steady.pure _ r
    · exact Steady.fault _ r
  cases mapped : p.mapper? <;> simp [mapped, bind, Except.bind]

theorem pathText_fails_of_whole_virtual {p : ColumnPath} (whole : p.child = none)
    (virtual : p.column.mapper? = none) : (c.pathText p).Fails r := by
  have composite : ∃ v, p.column.kind = .composite v := by
    rcases kind : p.column.kind with m | ⟨m, target⟩ | v
    · simp [Column.mapper?, kind] at virtual
    · simp [Column.mapper?, kind] at virtual
    · exact ⟨v, rfl⟩
  obtain ⟨v, kind⟩ := composite
  have noPhysical : p.physical? = none := by simp [ColumnPath.physical?, whole, Column.virtual?, kind]
  unfold pathText
  simp [ColumnPath.text, noPhysical, Outcome.fault, Fails]

end Compiler

section Tracking

variable (c : Compiler) (r : Registry)

/-- The node stands for the whole column `col` that the walk reached: it resolves to that column,
and it is written and decoded as its column path. -/
structure AtColumn (n : Node) (col : Column) : Prop where
  resolves : ∃ p, (ColumnPath.resolve c.catalog c.table n).outcome r = .ok p ∧ p.child = none ∧
    p.column = col
  text : c.node n = ColumnPath.resolve c.catalog c.table n >>= c.pathText
  mapper : c.decodeMapper n = c.pathMapper n

/-- The node stands for a value of mapper `m` that the walk reached: it decodes with `m` and
resolves to no whole column. -/
structure AtValue (n : Node) (m : Mapper) : Prop where
  mapper : (c.decodeMapper n).outcome r = .ok m
  part : ∀ p, (ColumnPath.resolve c.catalog c.table n).outcome r = .ok p → p.child.isSome

/-- The node built so far stands where the walk stands. -/
def Tracks (n : Node) : PathPosition → Prop
  | .column col => AtColumn c r n col
  | .value m => AtValue c r n m

/-- Neither the node's column path nor its text can be had. -/
structure TextFails (n : Node) : Prop where
  path : (ColumnPath.resolve c.catalog c.table n).Fails r
  text : (c.node n).Fails r

/-- Neither the node's column path nor its decode mapper can be had. -/
structure MapperFails (n : Node) : Prop where
  path : (ColumnPath.resolve c.catalog c.table n).Fails r
  mapper : (c.decodeMapper n).Fails r

variable {c r}

theorem resolve_build_fails {n : Node}
    (failed : (ColumnPath.resolve c.catalog c.table n).Fails r) :
    ∀ step : PathStep, (ColumnPath.resolve c.catalog c.table (step.build n)).Fails r
  | .follow name => by
    rw [PathStep.build, ColumnPath.resolve_reference]
    exact failed.bind (ColumnPath.resolve_steady _ r _ n) fun p =>
      ColumnPath.follow_steady _ r _ p name
  | .child name => by
    rw [PathStep.build, ColumnPath.resolve_child]
    exact failed.bind (ColumnPath.resolve_steady _ r _ n) fun p =>
      ColumnPath.descend_steady r _ p name
  | .index _ => ColumnPath.resolve_index_fails _ _ n _ r

theorem fails_of_path {n : Node}
    (text : c.node n = ColumnPath.resolve c.catalog c.table n >>= c.pathText)
    (mapper : c.decodeMapper n = c.pathMapper n)
    (failed : (ColumnPath.resolve c.catalog c.table n).Fails r) :
    TextFails c r n ∧ MapperFails c r n := by
  refine ⟨⟨failed, ?_⟩, ⟨failed, ?_⟩⟩
  · rw [text]
    exact failed.bind (ColumnPath.resolve_steady c.catalog r c.table n) (c.pathText_steady r)
  · rw [mapper]
    exact c.pathMapper_fails r failed

theorem TextFails.build {n : Node} (failed : TextFails c r n) :
    ∀ step : PathStep, TextFails c r (step.build n)
  | .follow name => (fails_of_path (c.node_reference n name) (c.decodeMapper_reference n name)
      (resolve_build_fails failed.path (.follow name))).1
  | .child name => (fails_of_path (c.node_child n name) (c.decodeMapper_child n name)
      (resolve_build_fails failed.path (.child name))).1
  | .index _ => ⟨ColumnPath.resolve_index_fails _ _ n _ r, c.node_index_fails r _ failed.text⟩

theorem MapperFails.build {n : Node} (failed : MapperFails c r n) :
    ∀ step : PathStep, MapperFails c r (step.build n)
  | .follow name => (fails_of_path (c.node_reference n name) (c.decodeMapper_reference n name)
      (resolve_build_fails failed.path (.follow name))).2
  | .child name => (fails_of_path (c.node_child n name) (c.decodeMapper_child n name)
      (resolve_build_fails failed.path (.child name))).2
  | .index _ =>
    ⟨ColumnPath.resolve_index_fails _ _ n _ r, c.decodeMapper_index_fails r _ failed.mapper⟩

theorem TextFails.foldl {n : Node} (failed : TextFails c r n) :
    ∀ steps : List PathStep, TextFails c r (steps.foldl (fun n step => step.build n) n)
  | [] => failed
  | step :: rest => (failed.build step).foldl rest

theorem MapperFails.foldl {n : Node} (failed : MapperFails c r n) :
    ∀ steps : List PathStep, MapperFails c r (steps.foldl (fun n step => step.build n) n)
  | [] => failed
  | step :: rest => (failed.build step).foldl rest

theorem PathWalk.elementAt_outcome (path : String) (position : PathPosition) :
    (PathWalk.elementAt path position).outcome r =
      match position.mapper with
      | .error reason => .error (Failure.ofFault (.invalidPath path reason))
      | .ok m =>
        match (Resolve.elementOf m).outcome r with
        | .ok element => .ok element
        | .error e => .error (Failure.ofFault (.invalidPath path (.notIndexable e.message))) := by
  rcases mapped : position.mapper with reason | m
  · simp [PathWalk.elementAt, mapped]
  · simp only [PathWalk.elementAt, mapped]
    rw [outcome_tryCatch (Steady.elementOf m r) fun _ => PathWalk.invalid_steady path r _]
    cases (Resolve.elementOf m).outcome r <;> rfl

variable {n : Node} {position : PathPosition}

theorem Tracks.mapper_ok (tracks : Tracks c r n position) {m : Mapper}
    (found : position.mapper = .ok m) : (c.decodeMapper n).outcome r = .ok m := by
  cases position with
  | column col =>
    obtain ⟨p, resolved, whole, rfl⟩ := tracks.resolves
    have stored : p.column.mapper? = some m := by
      simp only [PathPosition.mapper] at found
      split at found
      · cases found
        assumption
      · cases found
    rw [tracks.mapper, c.pathMapper_outcome r resolved]
    simp [ColumnPath.mapper?, whole, stored]
  | value m' =>
    cases found
    exact tracks.mapper

theorem Tracks.mapper_error (tracks : Tracks c r n position) {reason : PathProblem}
    (refused : position.mapper = .error reason) :
    (c.node n).Fails r ∧ (c.decodeMapper n).Fails r := by
  cases position with
  | column col =>
    obtain ⟨p, resolved, whole, rfl⟩ := tracks.resolves
    have virtual : p.column.mapper? = none := by
      simp only [PathPosition.mapper] at refused
      split at refused
      · cases refused
      · assumption
    have steady := ColumnPath.resolve_steady c.catalog r c.table n
    refine ⟨?_, ?_⟩
    · rw [tracks.text]
      exact Fails.bind_ok resolved steady (c.pathText_steady r)
        (c.pathText_fails_of_whole_virtual r whole virtual)
    · rw [tracks.mapper, Fails, c.pathMapper_outcome r resolved]
      simp [ColumnPath.mapper?, whole, virtual]
  | value m => cases refused

theorem Tracks.follow (tracks : Tracks c r n position) (path name : String) :
    (∀ column, (PathWalk.follow c.catalog path name position).outcome r = .ok column →
      Tracks c r (.reference n name) (.column column)) ∧
    ((PathWalk.follow c.catalog path name position).Fails r →
      TextFails c r (.reference n name) ∧ MapperFails c r (.reference n name)) := by
  have steady := ColumnPath.resolve_steady c.catalog r c.table n
  have following : ∀ p, (ColumnPath.follow c.catalog (.reference n name) p name).Steady r :=
    fun p => ColumnPath.follow_steady _ r _ p name
  have fails := fails_of_path (c := c) (r := r) (c.node_reference n name)
    (c.decodeMapper_reference n name)
  cases position with
  | column col =>
    obtain ⟨p, resolved, whole, rfl⟩ := tracks.resolves
    have reference : (ColumnPath.resolve c.catalog c.table (.reference n name)).outcome r =
        (ColumnPath.follow c.catalog (.reference n name) p name).outcome r := by
      rw [ColumnPath.resolve_reference, outcome_bind steady following, resolved]
      rfl
    obtain ⟨onOk, onFail⟩ := ColumnPath.follow_of_whole c.catalog r whole (.reference n name) path name
    refine ⟨fun column walked => ?_, fun walkFails => fails ?_⟩
    · obtain ⟨q, followed, qWhole, qColumn⟩ := onOk column walked
      exact ⟨⟨q, reference.trans followed, qWhole, qColumn⟩, c.node_reference n name,
        c.decodeMapper_reference n name⟩
    · obtain ⟨e, failure⟩ := onFail walkFails
      exact ⟨e, reference.trans failure⟩
  | value m =>
    refine ⟨fun column walked => by simp [PathWalk.follow] at walked, fun _ => fails ?_⟩
    rw [ColumnPath.resolve_reference]
    cases resolved : (ColumnPath.resolve c.catalog c.table n).outcome r with
    | error e => exact Fails.bind ⟨e, resolved⟩ steady following
    | ok p =>
      exact Fails.bind_ok resolved steady following
        (ColumnPath.follow_of_part c.catalog r (tracks.part p resolved) _ name)

theorem Tracks.child (tracks : Tracks c r n position) (path name : String) :
    (∀ child, (PathWalk.childOf path name position).outcome r = .ok child →
      Tracks c r (.child n name) (.value child.mapper)) ∧
    ((PathWalk.childOf path name position).Fails r →
      TextFails c r (.child n name) ∧ MapperFails c r (.child n name)) := by
  have steady := ColumnPath.resolve_steady c.catalog r c.table n
  have descending : ∀ p, (ColumnPath.descend (.child n name) p name).Steady r :=
    fun p => ColumnPath.descend_steady r _ p name
  have fails := fails_of_path (c := c) (r := r) (c.node_child n name) (c.decodeMapper_child n name)
  cases position with
  | column col =>
    obtain ⟨p, resolved, whole, rfl⟩ := tracks.resolves
    have child : (ColumnPath.resolve c.catalog c.table (.child n name)).outcome r =
        (ColumnPath.descend (.child n name) p name).outcome r := by
      rw [ColumnPath.resolve_child, outcome_bind steady descending, resolved]
      rfl
    obtain ⟨onOk, onFail⟩ := ColumnPath.descend_of_whole r whole (.child n name) path name
    refine ⟨fun declared walked => ?_, fun walkFails => fails ?_⟩
    · have narrowed := child.trans (onOk declared walked)
      refine ⟨?_, fun q found => ?_⟩
      · rw [c.decodeMapper_child, c.pathMapper_outcome r narrowed]
        rfl
      · rw [narrowed] at found
        cases found
        rfl
    · obtain ⟨e, failure⟩ := onFail walkFails
      exact ⟨e, child.trans failure⟩
  | value m =>
    refine ⟨fun declared walked => by simp [PathWalk.childOf] at walked, fun _ => fails ?_⟩
    rw [ColumnPath.resolve_child]
    cases resolved : (ColumnPath.resolve c.catalog c.table n).outcome r with
    | error e => exact Fails.bind ⟨e, resolved⟩ steady descending
    | ok p =>
      exact Fails.bind_ok resolved steady descending
        (ColumnPath.descend_of_part r (tracks.part p resolved) _ name)

theorem Tracks.index (tracks : Tracks c r n position) (path : String) (i : Nat) :
    (∀ element, (PathWalk.elementAt path position).outcome r = .ok element →
      Tracks c r (.index n i) (.value element)) ∧
    (∀ e, (PathWalk.elementAt path position).outcome r = .error e →
      (e.RefusesIndexing path ∨ TextFails c r (.index n i)) ∧ MapperFails c r (.index n i)) := by
  have noPath := ColumnPath.resolve_index_fails c.catalog c.table n i r
  rw [PathWalk.elementAt_outcome]
  rcases mapped : position.mapper with reason | m
  · -- a whole virtual column: neither the text nor the mapper of the node under the index
    obtain ⟨text, mapper⟩ := tracks.mapper_error mapped
    refine ⟨fun element walked => (by cases walked), fun e _ => ⟨.inr ⟨noPath, ?_⟩, ⟨noPath, ?_⟩⟩⟩
    · exact c.node_index_fails r i text
    · exact c.decodeMapper_index_fails r i mapper
  · have decoded := tracks.mapper_ok mapped
    have indexed : (c.decodeMapper (.index n i)).outcome r = (Resolve.elementOf m).outcome r := by
      rw [c.decodeMapper_index, outcome_bind (c.decodeMapper_steady r n) fun m => Steady.elementOf m r,
        decoded]
      rfl
    simp only
    cases element? : (Resolve.elementOf m).outcome r with
    | ok element =>
      refine ⟨fun found walked => ?_, fun e walked => (by cases walked)⟩
      cases walked
      refine ⟨indexed.trans element?, fun p resolved => ?_⟩
      obtain ⟨e, failure⟩ := noPath
      rw [failure] at resolved
      cases resolved
    | error e' =>
      refine ⟨fun found walked => (by cases walked), fun e walked => ?_⟩
      cases walked
      exact ⟨.inl ⟨_, rfl⟩, ⟨noPath, e', indexed.trans element?⟩⟩

/-- One step of the walk from where the node stands: where the step succeeds, the node built
with it stands where the walk goes; where it fails, the built node has no text unless the walk
refused to index a value that is no sequence, and no decode mapper unless the walk refused an
index too large. -/
theorem Tracks.move (tracks : Tracks c r n position) (path : String) :
    ∀ step : PathStep,
      (∀ next, (step.move c.catalog path position).outcome r = .ok next →
        Tracks c r (step.build n) next) ∧
      (∀ e, (step.move c.catalog path position).outcome r = .error e →
        (e.RefusesIndexing path ∨ TextFails c r (step.build n)) ∧
          (e.IndexTooLarge path ∨ MapperFails c r (step.build n)))
  | .follow name => by
    obtain ⟨onOk, onFail⟩ := tracks.follow path name
    simp only [PathStep.move, PathStep.build,
      outcome_map _ (PathWalk.follow_steady c.catalog path r name position)]
    cases walked : (PathWalk.follow c.catalog path name position).outcome r with
    | ok column =>
      refine ⟨fun next moved => ?_, fun e moved => (by cases moved)⟩
      cases moved
      exact onOk column walked
    | error e' =>
      refine ⟨fun next moved => (by cases moved), fun e moved => ?_⟩
      obtain ⟨text, mapper⟩ := onFail ⟨e', walked⟩
      exact ⟨.inr text, .inr mapper⟩
  | .child name => by
    obtain ⟨onOk, onFail⟩ := tracks.child path name
    simp only [PathStep.move, PathStep.build,
      outcome_map _ (PathWalk.childOf_steady path r name position)]
    cases walked : (PathWalk.childOf path name position).outcome r with
    | ok child =>
      refine ⟨fun next moved => ?_, fun e moved => (by cases moved)⟩
      cases moved
      exact onOk child walked
    | error e' =>
      refine ⟨fun next moved => (by cases moved), fun e moved => ?_⟩
      obtain ⟨text, mapper⟩ := onFail ⟨e', walked⟩
      exact ⟨.inr text, .inr mapper⟩
  | .index digits => by
    simp only [PathStep.move, PathStep.build]
    by_cases large : 2 ^ 64 ≤ digitsValue digits.toList
    · -- refused by the walk; the text refuses it too, the decode mapper does not look
      rw [if_pos large]
      refine ⟨fun next moved => (by cases moved), fun e moved => ?_⟩
      cases moved
      exact ⟨.inr ⟨ColumnPath.resolve_index_fails _ _ n _ r,
        c.node_index_fails_of_large r n (by omega)⟩, .inl ⟨digits, large, rfl⟩⟩
    · rw [if_neg large, outcome_map _ (PathWalk.elementAt_steady path r position)]
      obtain ⟨onOk, onError⟩ := tracks.index path (digitsValue digits.toList)
      cases walked : (PathWalk.elementAt path position).outcome r with
      | ok element =>
        refine ⟨fun next moved => ?_, fun e moved => (by cases moved)⟩
        cases moved
        exact onOk element walked
      | error e' =>
        refine ⟨fun next moved => (by cases moved), fun e moved => ?_⟩
        cases moved
        obtain ⟨text, mapper⟩ := onError e' walked
        exact ⟨text, .inr mapper⟩

theorem PathStep.move_steady (catalog : Catalog) (path : String) (position : PathPosition) :
    ∀ step : PathStep, (step.move catalog path position).Steady r
  | .follow name => (PathWalk.follow_steady catalog path r name position).map _
  | .child name => (PathWalk.childOf_steady path r name position).map _
  | .index _ =>
    Steady.ite (PathWalk.invalid_steady path r _) ((PathWalk.elementAt_steady path r position).map _)

theorem moves_cons (catalog : Catalog) (path : String) (step : PathStep) (rest : List PathStep)
    (position : PathPosition) :
    moves catalog path (step :: rest) position =
      step.move catalog path position >>= fun next => moves catalog path rest next := rfl

theorem moves_steady (catalog : Catalog) (path : String) :
    ∀ (steps : List PathStep) (position : PathPosition), (moves catalog path steps position).Steady r
  | [], position => Steady.pure position r
  | step :: rest, position =>
    (step.move_steady catalog path position).bind fun next => moves_steady catalog path rest next

/-- A walk that fails leaves the node built from all the steps without text unless the walk
refused to index a value that is no sequence, and without decode mapper unless it refused an index
too large. -/
theorem Tracks.moves_error (path : String) :
    ∀ (steps : List PathStep) {n : Node} {position : PathPosition}, Tracks c r n position →
      ∀ {e : Failure}, (moves c.catalog path steps position).outcome r = .error e →
        (e.RefusesIndexing path ∨ TextFails c r (steps.foldl (fun n step => step.build n) n)) ∧
          (e.IndexTooLarge path ∨ MapperFails c r (steps.foldl (fun n step => step.build n) n))
  | [], _, _, _, _, failed => by cases failed
  | step :: rest, n, position, tracks, e, failed => by
    rw [moves_cons, outcome_bind (step.move_steady c.catalog path position)
      fun next => moves_steady c.catalog path rest next] at failed
    obtain ⟨onOk, onError⟩ := tracks.move path step
    cases moved : (step.move c.catalog path position).outcome r with
    | error e' =>
      rw [moved] at failed
      cases failed
      obtain ⟨text, mapper⟩ := onError _ moved
      exact ⟨text.imp_right fun failed => failed.foldl rest,
        mapper.imp_right fun failed => failed.foldl rest⟩
    | ok next =>
      rw [moved] at failed
      exact Tracks.moves_error path rest (onOk next moved) failed

end Tracking

namespace Outcome

variable {α β γ : Type} {excused : Failure → Prop}

/-- Two outcomes that agree but where `excused` allows: what the first gives when it succeeds,
the second gives too; where only the second succeeds, the first failed with an excused failure. -/
def Agrees (excused : Failure → Prop) (o o' : Outcome α) : Prop :=
  (∀ a, o = .ok a → o' = .ok a) ∧ ∀ e a, o = .error e → o' = .ok a → excused e

theorem Agrees.refl (excused : Failure → Prop) (o : Outcome α) : o.Agrees excused o :=
  ⟨fun _ same => same, fun e a failed succeeded => by rw [failed] at succeeded; cases succeeded⟩

theorem Agrees.mono {excused' : Failure → Prop} (weaker : ∀ e, excused e → excused' e)
    {o o' : Outcome α} (agrees : o.Agrees excused o') : o.Agrees excused' o' :=
  ⟨agrees.1, fun e a failed succeeded => weaker e (agrees.2 e a failed succeeded)⟩

theorem Agrees.of_error {o o' : Outcome α} (failed : ∃ e, o = .error e)
    (failed' : ∃ e, o' = .error e) : o.Agrees excused o' := by
  obtain ⟨e, rfl⟩ := failed
  obtain ⟨e', rfl⟩ := failed'
  exact ⟨fun a succeeded => (by cases succeeded), fun e a _ succeeded => (by cases succeeded)⟩

theorem Agrees.bind {o o' : Outcome α} {f f' : α → Outcome β} (first : o.Agrees excused o')
    (rest : ∀ a, (f a).Agrees excused (f' a)) : (o >>= f).Agrees excused (o' >>= f') := by
  constructor
  · intro b succeeded
    cases o with
    | error e => cases succeeded
    | ok a =>
      rw [first.1 a rfl]
      exact (rest a).1 b succeeded
  · intro e b failed succeeded
    cases o' with
    | error e' => cases succeeded
    | ok a' =>
      cases o with
      | error e₀ =>
        cases failed
        exact first.2 e a' rfl rfl
      | ok a =>
        have same : Except.ok a' = (Except.ok a : Outcome α) := first.1 a rfl
        cases same
        exact (rest _).2 e b failed succeeded

/-- A first step that succeeds or fails with an excused failure, or fails where the second
outcome fails too, leaves the second outcome as it is. -/
theorem agrees_after {o : Outcome γ} {o' : Outcome α}
    (excuse : ∀ e, o = .error e → excused e ∨ ∃ e', o' = .error e') :
    (o >>= fun _ => o').Agrees excused o' := by
  cases o with
  | ok _ => exact Agrees.refl excused o'
  | error e =>
    refine ⟨fun a succeeded => (by cases succeeded), fun e' a failed succeeded => ?_⟩
    cases failed
    rcases excuse e rfl with excused | ⟨e'', failed'⟩
    · exact excused
    · rw [failed'] at succeeded
      cases succeeded

end Outcome

namespace Resolve

variable {α β : Type} {excused : Failure → Prop}

/-- Two computations with outcomes fixed by the links of `r` that agree but where `excused`
allows. -/
structure AgreeOn (excused : Failure → Prop) (x x' : Resolve α) (r : Registry) : Prop where
  steady : x.Steady r
  steady' : x'.Steady r
  agrees : (x.outcome r).Agrees excused (x'.outcome r)

theorem AgreeOn.refl {x : Resolve α} {r : Registry} (steady : x.Steady r) : AgreeOn excused x x r :=
  ⟨steady, steady, Outcome.Agrees.refl excused _⟩

theorem AgreeOn.pure (a : α) (r : Registry) : AgreeOn excused (Pure.pure a) (Pure.pure a) r :=
  AgreeOn.refl (Steady.pure a r)

theorem AgreeOn.bind {x x' : Resolve α} {f f' : α → Resolve β} {r : Registry}
    (first : AgreeOn excused x x' r) (rest : ∀ a, AgreeOn excused (f a) (f' a) r) :
    AgreeOn excused (x >>= f) (x' >>= f') r := by
  have steady : ∀ a, (f a).Steady r := fun a => (rest a).steady
  have steady' : ∀ a, (f' a).Steady r := fun a => (rest a).steady'
  refine ⟨first.steady.bind steady, first.steady'.bind steady', ?_⟩
  rw [outcome_bind first.steady steady, outcome_bind first.steady' steady']
  exact first.agrees.bind fun a => (rest a).agrees

end Resolve

section Agreement

variable (c : Compiler) (r : Registry)

theorem spelled_nil (first : String) : spelled first [] = first := by simp [spelled]

theorem column?_spelled {table : Table} (plain : ∀ col ∈ table.columns, IsSegment col.name)
    (first : String) {steps : List PathStep} (stepped : steps ≠ []) :
    table.column? (spelled first steps) = none := by
  rw [Table.column?, List.find?_eq_none]
  intro col member named
  have same : col.name = spelled first steps := by simpa using named
  obtain ⟨step, rest, rfl⟩ := List.exists_cons_of_ne_nil stepped
  -- the character that opens the steps cannot stand in a segment
  obtain ⟨ch, head⟩ :
      ∃ ch, ((step :: rest).flatMap fun step => step.text.toList).head? = some ch := by
    cases step <;> simp [PathStep.text]
  have inside : ch ∈ col.name.toList := by
    rw [same, spelled, String.toList_append, stepsText_toList]
    exact List.mem_append_right _ (List.mem_of_mem_head? head)
  have segmentChar := (plain col member).2 ch inside
  rw [stepsText_stops _ ch head] at segmentChar
  cases segmentChar

namespace Compiler

theorem tracks_first {first : String} {col : Column} (found : c.table.column? first = some col) :
    Tracks c r (.property first) (.column col) :=
  ⟨⟨ColumnPath.direct c.table col, by rw [ColumnPath.resolve_property_of_column _ _ found]; rfl,
      rfl, rfl⟩,
    c.node_property_of_column found, c.decodeMapper_property_of_column found⟩

theorem fails_first {first : String} (segment : IsSegment first)
    (absent : c.table.column? first = none) :
    TextFails c r (.property first) ∧ MapperFails c r (.property first) := by
  have parsed : (parsePath c.catalog c.table first).Fails r := by
    have refused := parsePath_spelled c.catalog c.table segment [] (fun _ member => nomatch member)
    rw [spelled_nil, absent] at refused
    rw [refused]
    exact ⟨_, rfl⟩
  have path := ColumnPath.resolve_property_fails c.catalog c.table absent r parsed
  have steady := parsePath_steady c.catalog c.table first r
  refine ⟨⟨path, ?_⟩, ⟨path, ?_⟩⟩
  · rw [c.node_property_of_not_column absent]
    exact parsed.bind steady (c.nodeWith_steady r (c.columnProperty_steady r))
  · rw [c.decodeMapper_property_of_not_column absent]
    exact parsed.bind steady (c.decodeWith_steady r fun _ => c.pathMapper_steady r _)

theorem nodeWith_foldl {f g : String → Resolve Sql.Text} :
    ∀ (steps : List PathStep) {n : Node}, c.nodeWith f n = c.nodeWith g n →
      c.nodeWith f (steps.foldl (fun n step => step.build n) n) =
        c.nodeWith g (steps.foldl (fun n step => step.build n) n)
  | [], _, same => same
  | .follow _ :: rest, _, _ => nodeWith_foldl rest rfl
  | .child _ :: rest, _, _ => nodeWith_foldl rest rfl
  | .index _ :: rest, _, same => nodeWith_foldl rest (by simp only [PathStep.build, nodeWith, same])

theorem decodeWith_foldl {f g : String → Resolve Mapper} :
    ∀ (steps : List PathStep) {n : Node}, c.decodeWith f n = c.decodeWith g n →
      c.decodeWith f (steps.foldl (fun n step => step.build n) n) =
        c.decodeWith g (steps.foldl (fun n step => step.build n) n)
  | [], _, same => same
  | .follow _ :: rest, _, _ => decodeWith_foldl rest rfl
  | .child _ :: rest, _, _ => decodeWith_foldl rest rfl
  | .index _ :: rest, _, same =>
    decodeWith_foldl rest (by simp only [PathStep.build, decodeWith, same])

/-- Compiled as a string, a path whose first segment is a column makes the walk, then gives what
its built node gives. -/
theorem node_spelled {first : String} {col : Column} (found : c.table.column? first = some col)
    (segment : IsSegment first) {steps : List PathStep}
    (wellFormed : ∀ step ∈ steps, step.WellFormed)
    (absent : c.table.column? (spelled first steps) = none) :
    (c.node (.property (spelled first steps))).outcome r =
      (moves c.catalog (spelled first steps) steps (.column col)).outcome r >>= fun _ =>
        (c.node (built first steps)).outcome r := by
  have sameText : c.nodeWith c.columnProperty (built first steps) = c.node (built first steps) :=
    c.nodeWith_foldl steps (by simp [nodeWith, found])
  rw [c.node_property_of_not_column absent,
    parsePath_spelled c.catalog c.table segment steps wellFormed, found]
  simp only [bind_assoc, pure_bind, sameText]
  exact outcome_bind (moves_steady c.catalog _ steps _) fun _ => c.node_steady r _

theorem decodeMapper_spelled {first : String} {col : Column}
    (found : c.table.column? first = some col) (segment : IsSegment first)
    {steps : List PathStep} (wellFormed : ∀ step ∈ steps, step.WellFormed)
    (absent : c.table.column? (spelled first steps) = none) :
    (c.decodeMapper (.property (spelled first steps))).outcome r =
      (moves c.catalog (spelled first steps) steps (.column col)).outcome r >>= fun _ =>
        (c.decodeMapper (built first steps)).outcome r := by
  have sameMapper : c.decodeWith (fun path => c.pathMapper (.property path)) (built first steps) =
      c.decodeMapper (built first steps) :=
    c.decodeWith_foldl steps (by simp [decodeWith, found])
  rw [c.decodeMapper_property_of_not_column absent,
    parsePath_spelled c.catalog c.table segment steps wellFormed, found]
  simp only [bind_assoc, pure_bind, sameMapper]
  exact outcome_bind (moves_steady c.catalog _ steps _) fun _ => c.decodeMapper_steady r _

theorem spelled_fails {first : String} (segment : IsSegment first)
    (firstAbsent : c.table.column? first = none) {steps : List PathStep}
    (wellFormed : ∀ step ∈ steps, step.WellFormed)
    (absent : c.table.column? (spelled first steps) = none) :
    (c.node (.property (spelled first steps))).Fails r ∧
      (c.decodeMapper (.property (spelled first steps))).Fails r := by
  have parsed := parsePath_spelled c.catalog c.table segment steps wellFormed
  rw [firstAbsent] at parsed
  rw [c.node_property_of_not_column absent, c.decodeMapper_property_of_not_column absent, parsed]
  exact ⟨⟨_, rfl⟩, ⟨_, rfl⟩⟩

variable {c r}

theorem node_spelled_agrees (plain : ∀ col ∈ c.table.columns, IsSegment col.name)
    {first : String} (segment : IsSegment first) {steps : List PathStep}
    (wellFormed : ∀ step ∈ steps, step.WellFormed) :
    AgreeOn (Failure.RefusesIndexing (spelled first steps))
      (c.node (.property (spelled first steps))) (c.node (built first steps)) r := by
  refine ⟨c.node_steady r _, c.node_steady r _, ?_⟩
  cases steps with
  | nil =>
    rw [spelled_nil]
    exact Outcome.Agrees.refl _ _
  | cons step rest =>
    have absent := column?_spelled plain first (List.cons_ne_nil step rest)
    cases found : c.table.column? first with
    | none =>
      exact Outcome.Agrees.of_error (c.spelled_fails r segment found wellFormed absent).1
        ((fails_first c r segment found).1.foldl (step :: rest)).text
    | some col =>
      rw [c.node_spelled r found segment wellFormed absent]
      exact Outcome.agrees_after fun e walked =>
        ((tracks_first c r found).moves_error _ (step :: rest) walked).1.imp_right TextFails.text

theorem decodeMapper_spelled_agrees (plain : ∀ col ∈ c.table.columns, IsSegment col.name)
    {first : String} (segment : IsSegment first) {steps : List PathStep}
    (wellFormed : ∀ step ∈ steps, step.WellFormed) :
    AgreeOn (Failure.IndexTooLarge (spelled first steps))
      (c.decodeMapper (.property (spelled first steps))) (c.decodeMapper (built first steps)) r := by
  refine ⟨c.decodeMapper_steady r _, c.decodeMapper_steady r _, ?_⟩
  cases steps with
  | nil =>
    rw [spelled_nil]
    exact Outcome.Agrees.refl _ _
  | cons step rest =>
    have absent := column?_spelled plain first (List.cons_ne_nil step rest)
    cases found : c.table.column? first with
    | none =>
      exact Outcome.Agrees.of_error (c.spelled_fails r segment found wellFormed absent).2
        ((fails_first c r segment found).2.foldl (step :: rest)).mapper
    | some col =>
      rw [c.decodeMapper_spelled r found segment wellFormed absent]
      exact Outcome.agrees_after fun e walked =>
        ((tracks_first c r found).moves_error _ (step :: rest) walked).2.imp_right
          MapperFails.mapper

end Compiler

end Agreement

/-- A node, or a path spelled as a string against the same path built with the constructors. -/
inductive Node.Respelled : Node → Node → Prop
  | same (n : Node) : Node.Respelled n n
  | built {first : String} {steps : List PathStep} (segment : IsSegment first)
      (wellFormed : ∀ step ∈ steps, step.WellFormed) :
      Node.Respelled (.property (spelled first steps)) (built first steps)

/-- Two conditions alike but for operands that are a spelled path in the first and the same path
built in the second. -/
inductive Condition.Respelled : Condition → Condition → Prop
  | compare (op : Comparison) {left left' right right' : Node} :
      left.Respelled left' → right.Respelled right' →
      Condition.Respelled (.compare op left right) (.compare op left' right')
  | between {value value' low low' high high' : Node} :
      value.Respelled value' → low.Respelled low' → high.Respelled high' →
      Condition.Respelled (.between value low high) (.between value' low' high')
  | isNull {n n' : Node} : n.Respelled n' → Condition.Respelled (.isNull n) (.isNull n')
  | and {left left' right right' : Condition} :
      Condition.Respelled left left' → Condition.Respelled right right' →
      Condition.Respelled (.and left right) (.and left' right')
  | or {left left' right right' : Condition} :
      Condition.Respelled left left' → Condition.Respelled right right' →
      Condition.Respelled (.or left right) (.or left' right')
  | not {inner inner' : Condition} :
      Condition.Respelled inner inner' → Condition.Respelled (.not inner) (.not inner')
  | raw {n n' : Node} : n.Respelled n' → Condition.Respelled (.raw n) (.raw n')

section Conditions

variable {c : Compiler} {r : Registry} (plain : ∀ col ∈ c.table.columns, IsSegment col.name)
include plain

theorem Node.Respelled.agrees {n n' : Node} (respelled : n.Respelled n') :
    AgreeOn (fun e => ∃ path, e.RefusesIndexing path) (c.node n) (c.node n') r := by
  cases respelled with
  | same n => exact AgreeOn.refl (c.node_steady r n)
  | built segment wellFormed =>
    have agrees := Compiler.node_spelled_agrees (r := r) plain segment wellFormed
    exact ⟨agrees.steady, agrees.steady', agrees.agrees.mono fun e refused => ⟨_, refused⟩⟩

theorem Condition.Respelled.agrees {w w' : Condition} (respelled : w.Respelled w') :
    AgreeOn (fun e => ∃ path, e.RefusesIndexing path) (c.condition w) (c.condition w') r := by
  induction respelled with
  | compare op left right =>
    exact (left.agrees plain).bind fun _ => (right.agrees plain).bind fun _ => AgreeOn.pure _ r
  | between value low high =>
    exact (value.agrees plain).bind fun _ => (low.agrees plain).bind fun _ =>
      (high.agrees plain).bind fun _ => AgreeOn.pure _ r
  | isNull n => exact (n.agrees plain).bind fun _ => AgreeOn.pure _ r
  | and _ _ left right => exact left.bind fun _ => right.bind fun _ => AgreeOn.pure _ r
  | or _ _ left right => exact left.bind fun _ => right.bind fun _ => AgreeOn.pure _ r
  | not _ inner => exact inner.bind fun _ => AgreeOn.pure _ r
  | raw n => exact n.agrees plain

end Conditions

/-- Where column names are plain segments, a property path spelled as a string compiles as the
same path built with the node constructors: where the string gives a text, the built node gives
the same text, and where the built node gives one and the string does not, the string's walk
refused to index a value that is no sequence. The same holds of decode mappers, the excused
failure being an index of 2^64 or more, and of conditions whose operands are such paths. -/
theorem spelled_paths_compile_as_built (c : Compiler) (r : Registry)
    (plain : ∀ col ∈ c.table.columns, IsSegment col.name) :
    (∀ (first : String) (steps : List PathStep), IsSegment first →
      (∀ step ∈ steps, step.WellFormed) →
      ((c.node (.property (spelled first steps))).outcome r).Agrees
          (Failure.RefusesIndexing (spelled first steps)) ((c.node (built first steps)).outcome r) ∧
        ((c.decodeMapper (.property (spelled first steps))).outcome r).Agrees
          (Failure.IndexTooLarge (spelled first steps))
          ((c.decodeMapper (built first steps)).outcome r)) ∧
    ∀ w w', Condition.Respelled w w' →
      ((c.condition w).outcome r).Agrees (fun e => ∃ path, e.RefusesIndexing path)
        ((c.condition w').outcome r) :=
  ⟨fun _ _ segment wellFormed => ⟨(Compiler.node_spelled_agrees plain segment wellFormed).agrees,
      (Compiler.decodeMapper_spelled_agrees plain segment wellFormed).agrees⟩,
    fun _ _ respelled => (respelled.agrees plain).agrees⟩

/-! ## An index on an integer column -/

/-- The integer column `x`. -/
def integerColumn : Column := ⟨"x", .named .i64, .regular, false, .scalar (.primitive .i64)⟩

/-- A table `t` keyed by the integer `id`, with the integer column `x`. -/
def integerTable : Table :=
  ⟨"t", "", [⟨"id", .named .i64, .primary, false, .scalar (.primitive .i64)⟩, integerColumn],
    Record.empty, snakeCaseNaming⟩

/-- The compiler of `integerTable`, alone in its catalog. -/
def integerCompiler : Compiler := { catalog := { tables := [integerTable] }, table := integerTable }

theorem integer_path_compiles_as_built :
    (∀ col ∈ integerCompiler.table.columns, IsSegment col.name) ∧
      ((integerCompiler.node (.property (spelled "x" [.index "0"]))).outcome
          Registry.withDefaults).Agrees (Failure.RefusesIndexing (spelled "x" [.index "0"]))
        ((integerCompiler.node (built "x" [.index "0"])).outcome Registry.withDefaults) := by
  have plain : ∀ col ∈ integerCompiler.table.columns, IsSegment col.name := by
    simp [integerCompiler, integerTable, integerColumn, IsSegment, isSegmentChar]
  exact ⟨plain, ((spelled_paths_compile_as_built integerCompiler Registry.withDefaults plain).1
    "x" [.index "0"] ⟨by simp, by simp [isSegmentChar]⟩ (by simp [PathStep.WellFormed])).1⟩

/-- The element `0` of the integer column `x`: refused when spelled `x[0]`, since an integer is no
sequence, and written `"x"[1]` when built. -/
theorem integer_index_refused_spelled_written_built :
    (∃ reason, (integerCompiler.node (.property "x[0]")).outcome Registry.withDefaults =
        .error (Failure.ofFault (.invalidPath "x[0]" (.notIndexable reason)))) ∧
      (integerCompiler.node (.index (.property "x") 0)).outcome Registry.withDefaults =
        .ok (Sql.lit "\"x\"" ++ Sql.lit "[1]") := by
  have written : (integerCompiler.node (.index (.property "x") 0)).outcome Registry.withDefaults =
      .ok (Sql.lit "\"x\"" ++ Sql.lit "[1]") := rfl
  refine ⟨⟨(Failure.of (.notSequence "i64")).message, ?_⟩, written⟩
  have spelledX : spelled "x" [.index "0"] = "x[0]" := by decide
  have found : integerCompiler.table.column? "x" = some integerColumn := by cbv
  have absent : integerCompiler.table.column? (spelled "x" [.index "0"]) = none := by
    rw [spelledX]
    cbv
  -- an integer mapper has no element, whatever the registry holds
  have notSequence : (Resolve.elementOf (.primitive .i64)).outcome Registry.withDefaults =
      .error (Failure.of (.notSequence "i64")) := by
    rw [(Resolve.Runs.elementOf _ _).outcome_eq]
    rfl
  have small : ¬ 2 ^ 64 ≤ digitsValue "0".toList := by decide
  -- the walk asks the integer mapper for its elements
  have walked : (moves integerCompiler.catalog "x[0]" [.index "0"] (.column integerColumn)).outcome
      Registry.withDefaults = .error (Failure.ofFault (.invalidPath "x[0]"
        (.notIndexable (Failure.of (.notSequence "i64")).message))) := by
    rw [moves_cons, outcome_bind (PathStep.move_steady _ _ _ _) fun next => moves_steady _ _ _ _]
    simp only [PathStep.move, if_neg small]
    rw [outcome_map _ (PathWalk.elementAt_steady _ _ _), PathWalk.elementAt_outcome]
    simp only [integerColumn, PathPosition.mapper, Column.mapper?, notSequence]
    rfl
  rw [← spelledX, integerCompiler.node_spelled Registry.withDefaults found
    ⟨by simp, by simp [isSegmentChar]⟩ (by simp [PathStep.WellFormed]) absent, spelledX, walked]
  rfl

end RelMap
