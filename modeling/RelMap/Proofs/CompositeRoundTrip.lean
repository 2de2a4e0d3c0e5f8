import RelMap.Proofs.RecordRows
import RelMap.Sql.Compile

/-!
# Composite values over their children, and back

A virtual column writes a composite value as one native value per declared child
(`VirtualColumn.flatten`) and rebuilds it from those values (`VirtualColumn.assemble`); a select
of the whole column decodes each row that way (`Projection.composite`).

Flattening refuses a datum that is not NULL exactly when its codec cannot split it, splits out a
part no child declares, leaves a declared child without its part, or a child's mapper cannot
write its part (`flatten_fails_iff`). NULL always flattens, to the children's descriptors.

Assembling the flattened values, child `k` given the `k`-th value, gives the datum back when the
codec, whichever it is, joins back its parts and each child's mapper reads back its part, with one
exception: every child written as NULL assembles to NULL, so a composite whose parts are all NULL
is read back as NULL (`null_part_composite_reads_back_null`). Of the codecs the library is used
with, the location codec joins back every location, and the map codec every composite whose
entries are in name order.
-/

namespace RelMap

set_option autoImplicit false

namespace VirtualColumn

/-- Why flattening a datum that is not NULL fails: the codec cannot split it, or it splits out a
part that no child declares, or a declared child has no part, or a child's mapper cannot write its
part. -/
def Refuses (v : VirtualColumn) (d : Datum) : Prop :=
  (∃ e, v.codec.split d = .error e) ∨
    ∃ p, v.codec.split d = .ok p ∧
      ((∃ n ∈ p.names, ∀ child ∈ v.children, child.name ≠ n) ∨
        (∃ child ∈ v.children, p.find? child.name = none) ∨
        ∃ child ∈ v.children, ∃ part e, p.find? child.name = some part ∧
          child.mapper.toNative part = .error e)

theorem child?_eq_none_iff {v : VirtualColumn} {n : String} :
    v.child? n = none ↔ ∀ child ∈ v.children, child.name ≠ n := by
  simp [child?, List.find?_eq_none]

/-- The native value written for one child from the parts of a split. -/
def writeChild (p : Parts) (c : VirtualChild) : Outcome (VirtualChild × Value) :=
  match p.find? c.name with
  | some part => do
      let value ← c.mapper.toNative part
      .ok (c, value)
  | none => Outcome.fail (.missingChild c.name)

theorem flatten_of_split {v : VirtualColumn} {d : Datum} {p : Parts} (present : d.isNull = false)
    (split : v.codec.split d = .ok p) :
    v.flatten d =
      match p.names.find? fun name => (v.child? name).isNone with
      | some unknown => Outcome.fail (.undeclaredChild unknown)
      | none => v.children.mapM (writeChild p) := by
  simp only [flatten, present, Bool.false_eq_true, if_false, split, bind, Except.bind]
  rfl

/-- The children fail to be written exactly when one of them lacks its part or cannot be
written. -/
theorem mapM_writeChild_fails_iff (p : Parts) (children : List VirtualChild) :
    (∃ e, children.mapM (writeChild p) = .error e) ↔
      (∃ child ∈ children, p.find? child.name = none) ∨
        ∃ child ∈ children, ∃ part e, p.find? child.name = some part ∧
          child.mapper.toNative part = .error e := by
  constructor
  · rintro ⟨e, failed⟩
    obtain ⟨child, member, step⟩ := exists_mem_of_mapM_eq_error failed
    unfold writeChild at step
    cases found : p.find? child.name with
    | none => exact .inl ⟨child, member, found⟩
    | some part =>
      rw [found] at step
      cases written : child.mapper.toNative part with
      | error e' => exact .inr ⟨child, member, part, e', found, written⟩
      | ok value => simp [written, bind, Except.bind] at step
  · intro refused
    cases mapped : children.mapM (writeChild p) with
    | error e => exact ⟨e, rfl⟩
    | ok results =>
      -- a traversal that succeeds wrote every child
      have wrote := forall₂_of_mapM_eq_ok mapped
      have each : ∀ child ∈ children, ∃ x, writeChild p child = .ok x := by
        intro child member
        obtain ⟨x, _, step⟩ := exists_mem_zip_of_forall₂ wrote child member
        exact ⟨x, step⟩
      rcases refused with ⟨child, member, missing⟩ | ⟨child, member, part, e, found, unwritten⟩
      · obtain ⟨x, step⟩ := each child member
        simp [writeChild, missing, Outcome.fail] at step
      · obtain ⟨x, step⟩ := each child member
        simp [writeChild, found, unwritten, bind, Except.bind] at step

/-- Flattening fails exactly on a datum that is not NULL and that the codec, the declared
children or their mappers refuse. -/
theorem flatten_fails_iff (v : VirtualColumn) (d : Datum) :
    (∃ e, v.flatten d = .error e) ↔ d.isNull = false ∧ v.Refuses d := by
  cases null : d.isNull with
  | true => simp [flatten, null]
  | false =>
    simp only [true_and]
    cases split : v.codec.split d with
    | error e =>
      have failed : v.flatten d = .error e := by
        simp [flatten, null, split, bind, Except.bind]
      exact ⟨fun _ => .inl ⟨e, split⟩, fun _ => ⟨e, failed⟩⟩
    | ok p =>
      rw [flatten_of_split null split]
      have splitOnly : v.Refuses d ↔
          ((∃ n ∈ p.names, ∀ child ∈ v.children, child.name ≠ n) ∨
            (∃ child ∈ v.children, p.find? child.name = none) ∨
            ∃ child ∈ v.children, ∃ part e, p.find? child.name = some part ∧
              child.mapper.toNative part = .error e) := by
        simp [Refuses, split]
      rw [splitOnly]
      cases undeclared : p.names.find? fun name => (v.child? name).isNone with
      | some unknown =>
        -- the first part no child declares is refused, whatever the children hold
        have named := List.find?_some undeclared
        have unknownMember := List.mem_of_find?_eq_some undeclared
        refine ⟨fun _ => .inl ⟨unknown, unknownMember, ?_⟩, fun _ => ⟨_, rfl⟩⟩
        exact child?_eq_none_iff.mp (by simpa using named)
      | none =>
        -- every part is declared by a child, so only the children can refuse
        have noUnknown : ¬ ∃ n ∈ p.names, ∀ child ∈ v.children, child.name ≠ n := by
          rintro ⟨n, member, unnamed⟩
          have known := List.find?_eq_none.mp undeclared n member
          simp [child?_eq_none_iff.mpr unnamed] at known
        simp only [noUnknown, false_or]
        exact mapM_writeChild_fails_iff p v.children

end VirtualColumn

/-- A whole virtual column decodes a row by assembling its children from the row's values, the
`k`-th child from the `k`-th value. -/
theorem Projection.decode_composite (v : VirtualColumn) (row : Row) :
    (Projection.composite v).decode row =
      v.assemble fun i child =>
        match row.values[i]? with
        | some value => .ok value
        | none => Outcome.fail (.rowMissingChild child.name) := rfl

/-! ## The codecs the library is used with -/

/-- The location codec joins back every location it splits. -/
theorem Codec.location_joins_split (city country : String) :
    (Codec.location.split (.location city country)).bind Codec.location.join =
      .ok (.location city country) := by
  -- the parts are kept in name order, `city` before `country`
  have ordered : ¬ ("country" < "city") := by decide
  simp [Codec.location, Codec.ofFns, Datum.get, Datum.type?, Parts.ofList, Fields.ofList,
    Fields.insert, ordered, Parts.get, Parts.find?, Fields.find?, bind, Except.bind]

/-- The map codec joins back a composite exactly when its entries are in name order, each name
once: joining gives the parts in that order. -/
theorem Codec.map_joins_split_iff (entries : List (String × Datum)) :
    (Codec.map.split (.composite entries)).bind Codec.map.join = .ok (.composite entries) ↔
      Fields.Sorted entries := by
  have joined : (Codec.map.split (.composite entries)).bind Codec.map.join =
      .ok (.composite (Fields.ofList entries)) := by
    simp [Codec.map, Codec.ofFns, Datum.get, Datum.type?, Parts.ofList, bind, Except.bind]
  rw [joined]
  constructor
  · intro same
    have kept : Fields.ofList entries = entries := by simpa using same
    exact kept ▸ Fields.sorted_ofList entries
  · intro sorted
    rw [Fields.ofList_of_sorted sorted]

/-- For a virtual column of a built table: flattening fails exactly on a datum, not NULL, that
the codec, the declared children or their mappers refuse. And when the codec joins back its parts
and each child's mapper reads back its part, the flattened values assemble back, child `k` given
the `k`-th value, to the datum, or to NULL when every child was written as NULL; the row of a
select of the whole column holding those values decodes the same way. -/
theorem flattened_composite_assembles_back {r : Registry} {spec : TableSpec} {t : Table}
    (built : spec.build.outcome r = .ok t) {c : Column} (member : c ∈ t.columns)
    {v : VirtualColumn} (virtual : c.virtual? = some v) (d : Datum) :
    ((∃ e, v.flatten d = .error e) ↔ d.isNull = false ∧ v.Refuses d) ∧
      (v.ReadsBack d → ∀ flat, v.flatten d = .ok flat →
        (∀ valueOf : Nat → VirtualChild → Outcome Value,
          (∀ k (h : k < flat.length), valueOf k flat[k].1 = .ok flat[k].2) →
            v.assemble valueOf = .ok (if flat.all (fun x => x.2.isNull) then .null else d)) ∧
        ∀ labels : List String, (Projection.composite v).decode ⟨labels, flat.map Prod.snd⟩ =
          .ok (if flat.all (fun x => x.2.isNull) then .null else d)) := by
  have distinct := ((TableSpec.wellFormed_of_build built).virtualColumns c member v virtual).2.2.2
  refine ⟨v.flatten_fails_iff d, fun laws flat flattened => ?_⟩
  have assembled : ∀ valueOf : Nat → VirtualChild → Outcome Value,
      (∀ k (h : k < flat.length), valueOf k flat[k].1 = .ok flat[k].2) →
        v.assemble valueOf = .ok (if flat.all (fun x => x.2.isNull) then .null else d) :=
    fun _ reads => VirtualColumn.assemble_of_flatten_at flattened distinct laws reads
  refine ⟨assembled, fun labels => ?_⟩
  rw [Projection.decode_composite]
  refine assembled _ fun k h => ?_
  simp [h]

/-- The virtual column `v` of `compositeTable`: a map composite with the one integer child `a`. -/
def compositeVirtual : VirtualColumn := ⟨[⟨"a", "v_a", .named .i64, .primitive .i64⟩], .map⟩

theorem compositeVirtual_of_table :
    compositeSpec.build.outcome Registry.withDefaults = .ok compositeTable ∧
      (⟨"v", .named .composite, .regular, false, .composite compositeVirtual⟩ : Column) ∈
        compositeTable.columns ∧
      (⟨"v", .named .composite, .regular, false, .composite compositeVirtual⟩ : Column).virtual? =
        some compositeVirtual :=
  ⟨compositeTable_built, by simp [compositeTable, compositeVirtual], rfl⟩

/-- The composite with the part `a = 5` is written as `5` and assembled back. -/
theorem five_part_assembles_back :
    (compositeSpec.build.outcome Registry.withDefaults = .ok compositeTable ∧
      (⟨"v", .named .composite, .regular, false, .composite compositeVirtual⟩ : Column) ∈
        compositeTable.columns ∧
      (⟨"v", .named .composite, .regular, false, .composite compositeVirtual⟩ : Column).virtual? =
        some compositeVirtual) ∧
      (((∃ e, compositeVirtual.flatten (.composite [("a", .i64 5)]) = .error e) ↔
          (Datum.composite [("a", .i64 5)]).isNull = false ∧
            compositeVirtual.Refuses (.composite [("a", .i64 5)])) ∧
        (compositeVirtual.ReadsBack (.composite [("a", .i64 5)]) →
          ∀ flat, compositeVirtual.flatten (.composite [("a", .i64 5)]) = .ok flat →
            (∀ valueOf : Nat → VirtualChild → Outcome Value,
              (∀ k (h : k < flat.length), valueOf k flat[k].1 = .ok flat[k].2) →
                compositeVirtual.assemble valueOf =
                  .ok (if flat.all (fun x => x.2.isNull) then .null
                    else .composite [("a", .i64 5)])) ∧
            ∀ labels : List String,
              (Projection.composite compositeVirtual).decode ⟨labels, flat.map Prod.snd⟩ =
                .ok (if flat.all (fun x => x.2.isNull) then .null
                  else .composite [("a", .i64 5)]))) :=
  let ⟨built, member, virtual⟩ := compositeVirtual_of_table
  ⟨⟨built, member, virtual⟩,
    flattened_composite_assembles_back built member virtual (.composite [("a", .i64 5)])⟩

/-- A composite whose one part is NULL, in the virtual column of a built table: the codec joins
back what it splits, the child's mapper reads the part back, flattening succeeds, and yet the row of
the flattened values decodes to NULL, not to the composite. -/
theorem null_part_composite_reads_back_null :
    (compositeSpec.build.outcome Registry.withDefaults = .ok compositeTable ∧
      (⟨"v", .named .composite, .regular, false, .composite compositeVirtual⟩ : Column) ∈
        compositeTable.columns) ∧
      compositeVirtual.codec.split (.composite [("a", .null)]) =
        .ok (Parts.ofList [("a", .null)]) ∧
      compositeVirtual.codec.join (Parts.ofList [("a", .null)]) = .ok (.composite [("a", .null)]) ∧
      (Mapper.primitive .i64).RoundTrips .null ∧
      compositeVirtual.flatten (.composite [("a", .null)]) =
        .ok [(⟨"a", "v_a", .named .i64, .primitive .i64⟩, .int64 none)] ∧
      (Projection.composite compositeVirtual).decode ⟨["v_a"], [.int64 none]⟩ = .ok .null ∧
      Datum.null ≠ .composite [("a", .null)] :=
  ⟨⟨compositeVirtual_of_table.1, compositeVirtual_of_table.2.1⟩, rfl, rfl,
    Mapper.roundTrips_null _, rfl, rfl, nofun⟩

end RelMap
