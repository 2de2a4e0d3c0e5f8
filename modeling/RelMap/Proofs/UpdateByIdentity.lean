import RelMap.Proofs.InsertWriteBack
import RelMap.Proofs.SpelledPaths

/-!
# Updating, finding and deleting a record by its identity

The identity of a record is the conjunction, nested from the left, of one equality for each key
column in table order: the column's quoted name equal to a placeholder bound to the encoded
value of the record's datum. Updating a record sends one `UPDATE` by that identity, assigning
every column outside the key in table order, a virtual column child by child (a NULL composite
as the typed NULLs of its children); finding and deleting a record select and delete by the same
identity.

Updating refuses, before anything is sent and leaving the store as it was, a table without key
column, a record without a value for a key (the first such key is named), and a table whose
every column is a key.

Every compilation step here neither reads nor changes the registry, so each is stated as an
equality of computations (`c.node n = pure text`), and the run of an operation follows from its
`SendsPrepared` description.
-/

namespace RelMap

set_option autoImplicit false

open Sql Store

/-! ## The statements by identity -/

namespace Repository

/-- One entry of a `SET` clause: the quoted column, set to a placeholder bound to the value. -/
def setEntry (field : String × Value) : Text := lit (quote field.1 ++ " = ") ++ [.param field.2]

/-- One term of an identity: the quoted key column, equal to a placeholder bound to the value. -/
def keyEquals (field : String × Value) : Text :=
  lit (quote field.1) ++ lit " = " ++ [.param field.2]

/-- Both conditions, each in parentheses. -/
def both (left right : Text) : Text := lit "(" ++ left ++ lit ") AND (" ++ right ++ lit ")"

/-- The equalities of the key fields, joined from the left. -/
def identityCondition : List (String × Value) → Text
  | [] => []
  | key :: rest => (rest.map keyEquals).foldl both (keyEquals key)

def updateStatement (t : Table) (sets keys : List (String × Value)) : Text :=
  lit ("UPDATE " ++ t.ref.text ++ "\nSET ") ++ [.fragment (separatedBy ", " (sets.map setEntry))] ++
    lit "\nWHERE " ++ [.fragment (identityCondition keys)] ++ lit ";"

def findStatement (t : Table) (keys : List (String × Value)) : Text :=
  lit "SELECT " ++ Compiler.names false t.ref t.physicalNames ++ lit "\nFROM " ++
    [.fragment (lit t.ref.text)] ++ lit "\nWHERE " ++ [.fragment (identityCondition keys)] ++
    lit "\nLIMIT 1" ++ lit ";"

def deleteStatement (t : Table) (keys : List (String × Value)) : Text :=
  lit ("DELETE FROM " ++ t.ref.text) ++ lit "\nWHERE " ++ [.fragment (identityCondition keys)] ++
    lit ";"

end Repository

/-- The store once the executor has received `q` and used up one answer. -/
def StoreState.sent (s : StoreState) (q : Query) : StoreState :=
  { s with executor :=
      { s.executor with received := s.executor.received ++ [q], script := s.executor.script.tail } }

/-! ## Columns and paths of a well-formed table -/

section Traversal

variable {α β : Type} {f : α → Outcome β}

/-- A traversal succeeds when each element does. -/
theorem exists_mapM_eq_ok : ∀ {l : List α}, (∀ a ∈ l, ∃ b, f a = .ok b) → ∃ bs, l.mapM f = .ok bs
  | [], _ => ⟨[], rfl⟩
  | a :: rest, each => by
    obtain ⟨b, first⟩ := each a List.mem_cons_self
    obtain ⟨bs, others⟩ := exists_mapM_eq_ok fun a' member => each a' (List.mem_cons_of_mem a member)
    exact ⟨b :: bs, by rw [List.mapM_cons, first, others]; rfl⟩

end Traversal

namespace Column

variable {c : Column} {m : Mapper} {r : Record} {fields : List (String × Value)}

theorem virtual?_of_mapper (mapper : c.mapper? = some m) : c.virtual? = none := by
  cases kind : c.kind <;> simp_all [mapper?, virtual?]

/-- A column storing one value writes one field, under its own name. -/
theorem Written.of_mapper (mapper : c.mapper? = some m) (written : c.Written r fields) :
    ∃ value, m.toNative (r.datum c.name) = .ok value ∧ fields = [(c.name, value)] := by
  unfold Written at written
  cases kind : c.kind
  case scalar m' | reference m' _ =>
    simp only [kind] at written
    simp only [mapper?, kind, Option.some.injEq] at mapper
    exact mapper ▸ written
  case composite v => simp [mapper?, kind] at mapper

end Column

/-- The columns of a list with distinct names are found by name. -/
theorem find?_name_of_nodup {c : Column} : ∀ {columns : List Column},
    (columns.map Column.name).Nodup → c ∈ columns →
      columns.find? (fun d => d.name == c.name) = some c
  | [], _, member => nomatch member
  | d :: rest, distinct, member => by
    rw [List.map_cons, List.nodup_cons] at distinct
    by_cases same : d = c
    · subst same
      simp
    · have inRest : c ∈ rest := (List.mem_cons.mp member).resolve_left (Ne.symm same)
      have otherName : d.name ≠ c.name := fun named =>
        distinct.1 (named ▸ List.mem_map_of_mem inRest)
      rw [List.find?_cons_of_neg (by simpa using otherName)]
      exact find?_name_of_nodup distinct.2 inRest

theorem Table.WellFormed.column?_of_mem {t : Table} (wf : t.WellFormed) {c : Column}
    (member : c ∈ t.columns) : t.column? c.name = some c :=
  find?_name_of_nodup wf.distinctNames member

theorem TableRef.column_unqualified (r : TableRef) (name : String) :
    r.column false name = quote name := by
  simp [TableRef.column]

/-- A column storing one value, named directly, is written as its quoted name. -/
theorem ColumnPath.text_direct {t : Table} {col : Column} (plain : col.virtual? = none) :
    (ColumnPath.direct t col).text false = .ok (quote col.name) := by
  simp [ColumnPath.text, ColumnPath.physical?, ColumnPath.direct, ColumnPath.throughHops, plain,
    TableRef.column_unqualified]

/-! ## The identity of a record -/

namespace Table

variable {t : Table} {record : Record} {c : Column}

/-- The equality a key column contributes to the identity of `record`. -/
def keyTerm (t : Table) (record : Record) (c : Column) : Outcome Condition := do
  let datum := record.datum c.name
  if datum.isNull then Outcome.fail (.keyWithoutValue c.name t.name)
  else
    match c.mapper? with
    | some m => .ok (Condition.compare .equal (.property c.name) (.literal datum m))
    | none => Outcome.fault (.invalidTable t.name .virtualKeyColumn)

theorem identity_eq (t : Table) (record : Record) :
    t.identity record = (do
      let conditions ← t.keyColumns.mapM (keyTerm t record)
      match conditions with
      | [] => Outcome.fault (.missingKey t.name)
      | first :: rest => .ok (rest.foldl .and first)) := rfl

theorem keyTerm_of_null (null : (record.datum c.name).isNull = true) :
    keyTerm t record c = Outcome.fail (.keyWithoutValue c.name t.name) := by
  simp [keyTerm, null]

theorem keyTerm_of_present {m : Mapper} (mapper : c.mapper? = some m)
    (present : (record.datum c.name).isNull = false) :
    keyTerm t record c =
      .ok (Condition.compare .equal (.property c.name) (.literal (record.datum c.name) m)) := by
  simp [keyTerm, present, mapper]

/-- A key term is the equality of the column's value with the record's datum. -/
theorem keyTerm_eq_ok {w : Condition} (term : keyTerm t record c = .ok w) :
    ∃ m, c.mapper? = some m ∧
      w = Condition.compare .equal (.property c.name) (.literal (record.datum c.name) m) := by
  cases mapper : c.mapper? with
  | none =>
    simp only [keyTerm, mapper] at term
    split at term <;> cases term
  | some m =>
    simp only [keyTerm, mapper] at term
    split at term
    · cases term
    · cases term
      exact ⟨m, rfl, rfl⟩

theorem identity_of_no_key (none : t.keyColumns = []) :
    t.identity record = .error (Failure.ofFault (.missingKey t.name)) := by
  rw [identity_eq, none]
  rfl

/-- The first key column without a value is the one the identity names. -/
theorem WellFormed.identity_of_missing (wf : t.WellFormed) {before after : List Column}
    (keys : t.keyColumns = before ++ c :: after)
    (present : ∀ b ∈ before, (record.datum b.name).isNull = false)
    (null : (record.datum c.name).isNull = true) :
    t.identity record = .error (Failure.of (.keyWithoutValue c.name t.name)) := by
  have valued : ∀ b ∈ before, ∃ w, keyTerm t record b = .ok w := fun b member => by
    obtain ⟨m, mapper⟩ := wf.key_mapper (keys ▸ List.mem_append_left _ member)
    exact ⟨_, keyTerm_of_present mapper (present b member)⟩
  obtain ⟨conditions, earlier⟩ := exists_mapM_eq_ok valued
  rw [identity_eq, keys, List.mapM_append, earlier, List.mapM_cons, keyTerm_of_null null]
  rfl

/-- With a value for every key, the identity is the conjunction of the key terms. -/
theorem WellFormed.identity_eq_ok (wf : t.WellFormed)
    (present : ∀ c ∈ t.keyColumns, (record.datum c.name).isNull = false)
    {first : Column} {rest : List Column} (keys : t.keyColumns = first :: rest) :
    ∃ w ws, t.identity record = .ok (ws.foldl .and w) ∧
      List.Forall₂ (fun c w => keyTerm t record c = .ok w) (first :: rest) (w :: ws) := by
  have valued : ∀ c ∈ t.keyColumns, ∃ w, keyTerm t record c = .ok w := fun c member => by
    obtain ⟨m, mapper⟩ := wf.key_mapper member
    exact ⟨_, keyTerm_of_present mapper (present c member)⟩
  obtain ⟨conditions, mapped⟩ := exists_mapM_eq_ok valued
  have terms := forall₂_of_mapM_eq_ok mapped
  rw [keys] at terms
  cases terms with
  | cons term others => exact ⟨_, _, by rw [identity_eq, mapped]; rfl, .cons term others⟩

end Table

/-! ## Compiling by identity -/

namespace Resolve

variable {α β : Type}

theorem lift_error_bind (e : Failure) (f : α → Resolve β) :
    lift (.error e : Outcome α) >>= f = lift (.error e) := rfl

theorem lift_ok_bind (a : α) (f : α → Resolve β) : lift (.ok a : Outcome α) >>= f = f a := by
  rw [lift_ok, pure_bind]

end Resolve

namespace Compiler

variable (c : Compiler) {record : Record} {col : Column}

theorem node_column (unqualified : c.qualify = false) (found : c.table.column? col.name = some col)
    (plain : col.virtual? = none) :
    c.node (.property col.name) = pure (lit (quote col.name)) := by
  rw [c.node_property_of_column found, ColumnPath.resolve_property_of_column c.catalog c.table found,
    pure_bind]
  simp [pathText, unqualified, ColumnPath.text_direct plain]

theorem node_literal {d : Datum} {m : Mapper} {value : Value} (encoded : m.toNative d = .ok value) :
    c.node (.literal d m) = pure [.param value] := by
  simp [node, nodeWith, encoded, Resolve.lift_ok]

/-- The term of a key column is written as the key's equality. -/
theorem condition_keyTerm {w : Condition} {key : String × Value} (unqualified : c.qualify = false)
    (found : c.table.column? col.name = some col) (term : c.table.keyTerm record col = .ok w)
    (written : col.Written record [key]) :
    c.condition w = pure (Repository.keyEquals key) := by
  obtain ⟨m, mapper, rfl⟩ := Table.keyTerm_eq_ok term
  obtain ⟨value, encoded, keyed⟩ := written.of_mapper mapper
  rw [List.singleton_inj.mp keyed]
  simp only [condition, c.node_column unqualified found (Column.virtual?_of_mapper mapper),
    c.node_literal encoded, pure_bind]
  rfl

theorem conditions_keyTerms {cols : List Column} {conditions : List Condition}
    {keys : List (String × Value)} (unqualified : c.qualify = false)
    (found : ∀ col ∈ cols, c.table.column? col.name = some col)
    (terms : List.Forall₂ (fun col w => c.table.keyTerm record col = .ok w) cols conditions)
    (keyed : List.Forall₂ (fun col key => col.Written record [key]) cols keys) :
    List.Forall₂ (fun w key => c.condition w = pure (Repository.keyEquals key)) conditions keys := by
  induction terms generalizing keys with
  | nil =>
    cases keyed
    exact .nil
  | cons term _ ih =>
    cases keyed with
    | cons written others =>
      exact .cons (c.condition_keyTerm unqualified (found _ List.mem_cons_self) term written)
        (ih (fun col member => found col (List.mem_cons_of_mem _ member)) others)

/-- A conjunction folded from the left is written as the texts folded from the left. -/
theorem condition_foldl_and {w₀ : Condition} {text₀ : Text} {ws : List Condition}
    {keys : List (String × Value)} (first : c.condition w₀ = pure text₀)
    (compiled : List.Forall₂ (fun w key => c.condition w = pure (Repository.keyEquals key)) ws keys) :
    c.condition (ws.foldl .and w₀) = pure ((keys.map Repository.keyEquals).foldl Repository.both text₀) := by
  induction compiled generalizing w₀ text₀ with
  | nil => exact first
  | cons head _ ih =>
    apply ih
    simp only [condition, first, head, pure_bind]
    rfl

theorem assignment_written {fields : List (String × Value)}
    (found : c.table.column? col.name = some col) (written : col.Written record fields) :
    c.assignment ⟨col.name, .datum (record.datum col.name)⟩ =
      pure (fields.map Repository.setEntry) := by
  unfold assignment
  rw [ColumnPath.resolve_property_of_column c.catalog c.table found, pure_bind]
  unfold Column.Written at written
  -- the path is the column itself: no hops, and its own name unless it is virtual
  cases kind : col.kind
  case scalar m | reference m _ =>
    simp only [kind] at written
    obtain ⟨value, encoded, rfl⟩ := written
    simp [ColumnPath.direct, ColumnPath.physical?, ColumnPath.mapper?, Column.virtual?,
      Column.mapper?, kind, encoded, Repository.setEntry]
  case composite v =>
    simp only [kind] at written
    obtain ⟨flat, flattened, rfl⟩ := written
    simp [ColumnPath.direct, ColumnPath.physical?, ColumnPath.mapper?, Column.virtual?,
      Column.mapper?, kind, flattened, Repository.setEntry, Function.comp_def]

theorem mapM_assignments {cols : List Column} {sets : List (List (String × Value))}
    (found : ∀ col ∈ cols, c.table.column? col.name = some col)
    (written : List.Forall₂ (Column.Written record) cols sets) :
    (cols.map fun col => (⟨col.name, .datum (record.datum col.name)⟩ : Assignment)).mapM
        c.assignment = pure (sets.map (List.map Repository.setEntry)) := by
  induction written with
  | nil => rfl
  | cons first _ ih =>
    rw [List.map_cons, List.mapM_cons, c.assignment_written (found _ List.mem_cons_self) first,
      pure_bind, ih (fun col member => found col (List.mem_cons_of_mem _ member)), pure_bind]
    rfl

theorem update_written {cols : List Column} {sets : List (List (String × Value))}
    {w : Condition} {condition : Text} (found : ∀ col ∈ cols, c.table.column? col.name = some col)
    (written : List.Forall₂ (Column.Written record) cols sets) (assigns : cols ≠ [])
    (compiled : c.condition w = pure condition) :
    c.update (cols.map fun col => ⟨col.name, .datum (record.datum col.name)⟩) w =
      pure (lit ("UPDATE " ++ c.table.ref.text ++ "\nSET ") ++
        [.fragment (separatedBy ", " (sets.flatten.map Repository.setEntry))] ++ lit "\nWHERE " ++
        [.fragment condition] ++ lit ";") := by
  unfold update
  rw [if_neg (by simpa using assigns), c.mapM_assignments found written, pure_bind, compiled,
    pure_bind, List.map_flatten]

theorem select_by {w : Condition} {condition : Text} (compiled : c.condition w = pure condition) :
    c.select { SelectOptions.addFilter {} w with limit := some 1 } =
      pure (lit "SELECT " ++ names false c.table.ref c.table.physicalNames ++ lit "\nFROM " ++
        [.fragment (lit c.table.ref.text)] ++ lit "\nWHERE " ++ [.fragment condition] ++
        lit "\nLIMIT 1" ++ lit ";") := by
  have one : "\nLIMIT " ++ Nat.repr 1 = "\nLIMIT 1" := by decide
  simp [select, filter, whereClause, orderClause, limitClause, SelectOptions.addFilter, compiled, one]

theorem delete_by {w : Condition} {condition : Text} (compiled : c.condition w = pure condition) :
    c.delete (some w) =
      pure (lit ("DELETE FROM " ++ c.table.ref.text) ++ lit "\nWHERE " ++ [.fragment condition] ++
        lit ";") := by
  simp [delete, whereClause, compiled]

end Compiler

/-! ## Running by identity -/

namespace Store.SendsPrepared

variable {α β γ : Type} {prep : Resolve β} {text : β → Text}
  {exchange : Executor → Query → Outcome γ} {finish : β → γ → Outcome α} {m : Store α}

/-- A preparation that compiles without the registry sends its statement. -/
theorem run_of_pure (sends : SendsPrepared prep text exchange finish m) {b : β}
    (prepared : prep = pure b) (s : StoreState) :
    let q := Sql.render s.executor.style (text b)
    m.run.run s = (exchange s.executor q >>= finish b, s.sent q) := by
  rw [sends s, prepared]
  simp only [Executor.run_eq]
  rfl

/-- A preparation refused without the registry sends nothing and leaves the store as it was. -/
theorem run_of_refused (sends : SendsPrepared prep text exchange finish m) {e : Failure}
    (refused : prep = Resolve.lift (.error e)) (s : StoreState) : m.run.run s = (.error e, s) := by
  rw [sends s, refused]
  rfl

end Store.SendsPrepared

namespace Repository

/-- What updating `record` by its identity does from the store `s`: the refusals, each before
anything is sent and leaving the store as it was, and otherwise the one `UPDATE` sent, finding
and deleting the record sending statements by the same identity. -/
structure UpdatesByIdentity (r : Repository) (record : Record) (s : StoreState) : Prop where
  noKey : r.table.keyColumns = [] →
    (r.update record).run.run s = (.error (Failure.ofFault (.missingKey r.table.name)), s)
  keyWithoutValue : ∀ before c after, r.table.keyColumns = before ++ c :: after →
    (∀ b ∈ before, (record.datum b.name).isNull = false) → (record.datum c.name).isNull = true →
      (r.update record).run.run s = (.error (Failure.of (.keyWithoutValue c.name r.table.name)), s)
  nothingToUpdate : (∀ c ∈ r.table.keyColumns, (record.datum c.name).isNull = false) →
    (∀ c ∈ r.table.columns, c.isKey = true) →
      (r.update record).run.run s = (.error (Failure.of (.nothingToUpdate r.table.name)), s)
  sends : ∀ sets keys, r.table.keyColumns ≠ [] →
    (∀ c ∈ r.table.keyColumns, (record.datum c.name).isNull = false) →
    (∃ c ∈ r.table.columns, c.isKey = false) →
    List.Forall₂ (Column.Written record) (r.table.columns.filter fun c => !c.isKey) sets →
    List.Forall₂ (fun c key => c.Written record [key]) r.table.keyColumns keys →
      sets.flatten.map Prod.fst =
          (r.table.columns.filter fun c => !c.isKey).flatMap Column.physicalNames ∧
        (r.update record).run.run s =
          (s.executor.executed (Sql.render s.executor.style (updateStatement r.table sets.flatten keys))
              >>= (fun result => .ok result.affected),
            s.sent (Sql.render s.executor.style (updateStatement r.table sets.flatten keys))) ∧
        ((r.find record).run.run s).2 =
          s.sent (Sql.render s.executor.style (findStatement r.table keys)) ∧
        ((r.deleteRecord record).run.run s).2 =
          s.sent (Sql.render s.executor.style (deleteStatement r.table keys))

variable {r : Repository} {record : Record}

/-- With a value for every key, the identity compiles to the conjunction of the keys'
equalities. -/
theorem identity_compiles (wf : r.table.WellFormed) (hasKey : r.table.keyColumns ≠ [])
    (present : ∀ c ∈ r.table.keyColumns, (record.datum c.name).isNull = false)
    {keys : List (String × Value)}
    (keyed : List.Forall₂ (fun c key => c.Written record [key]) r.table.keyColumns keys) :
    ∃ w, r.table.identity record = .ok w ∧
      r.compiler.condition w = pure (identityCondition keys) := by
  obtain ⟨first, rest, split⟩ := List.exists_cons_of_ne_nil hasKey
  obtain ⟨w, ws, identified, terms⟩ := wf.identity_eq_ok present split
  have found : ∀ col ∈ first :: rest, r.compiler.table.column? col.name = some col :=
    fun col member => wf.column?_of_mem (List.mem_filter.mp (split ▸ member)).1
  rw [split] at keyed
  cases keyed with
  | cons firstKey otherKeys =>
    have compiled := r.compiler.conditions_keyTerms rfl found terms (.cons firstKey otherKeys)
    cases compiled with
    | cons head tail => exact ⟨_, identified, r.compiler.condition_foldl_and head tail⟩

/-- Updating a record of a well-formed table by its identity. -/
theorem update_by_identity (r : Repository) (wf : r.table.WellFormed) (record : Record)
    (s : StoreState) : r.UpdatesByIdentity record s where
  noKey none := (r.update_sends record).run_of_refused (by rw [Table.identity_of_no_key none]; rfl) s
  keyWithoutValue _ _ _ split present null :=
    (r.update_sends record).run_of_refused
      (by rw [wf.identity_of_missing split present null]; rfl) s
  nothingToUpdate present allKeys := by
    -- every column is a key: the key columns are all the columns, and none is left to assign
    have keysAll : r.table.keyColumns = r.table.columns := List.filter_eq_self.mpr allKeys
    obtain ⟨first, rest, split⟩ := List.exists_cons_of_ne_nil (keysAll ▸ wf.hasColumns)
    obtain ⟨w, _, identified, _⟩ := wf.identity_eq_ok present split
    have unassigned : keylessAssignments r.table record = [] := by
      simpa [keylessAssignments, List.filter_eq_nil_iff] using allKeys
    refine (r.update_sends record).run_of_refused ?_ s
    rw [identified, Resolve.lift_ok_bind, unassigned]
    rfl
  sends sets keys hasKey present someAssigned written keyed := by
    obtain ⟨w, identified, compiled⟩ := identity_compiles wf hasKey present keyed
    have found : ∀ col ∈ r.table.columns.filter (fun c => !c.isKey),
        r.compiler.table.column? col.name = some col :=
      fun col member => wf.column?_of_mem (List.mem_filter.mp member).1
    have assigns : (r.table.columns.filter fun c => !c.isKey) ≠ [] := by
      obtain ⟨c, member, regular⟩ := someAssigned
      exact List.ne_nil_of_mem (List.mem_filter.mpr ⟨member, by simp [regular]⟩)
    refine ⟨?_, ?_, ?_, ?_⟩
    · rw [List.map_flatten, List.flatMap_def,
        map_eq_map_of_forall₂ written fun _ _ writtenOf => writtenOf.names.symm]
    · refine (r.update_sends record).run_of_pure ?_ s
      rw [identified, Resolve.lift_ok_bind]
      exact r.compiler.update_written found written assigns compiled
    · refine congrArg Prod.snd ((r.find_sends record).run_of_pure ?_ s)
      rw [identified, Resolve.lift_ok_bind]
      exact r.compiler.select_by compiled
    · refine congrArg Prod.snd ((r.deleteRecord_sends record).run_of_pure ?_ s)
      rw [identified, Resolve.lift_ok_bind]
      exact r.compiler.delete_by compiled

end Repository

namespace UpdateSamples

open InsertSamples

/-- A counter with its key, renamed. -/
def renamed : Record := Record.ofList [("id", .i64 7), ("label", .string "renamed")]

theorem counter_updated_by_identity :
    repository.table.WellFormed ∧ repository.UpdatesByIdentity renamed state :=
  have wf : repository.table.WellFormed := TableSpec.wellFormed_of_build counters_built
  ⟨wf, Repository.update_by_identity repository wf renamed state⟩

end UpdateSamples

end RelMap
