import Mathlib
import RelMap.Proofs.TableBuild
import RelMap.Proofs.NamedFields
import RelMap.Proofs.MapperRoundTrip

/-!
# A record read back from its row

Encoding a record of a well-formed table gives the physical columns in table order, virtual
children expanded in declaration order, without the autoincrement columns whose value is unset;
those are listed apart, in table order. A row labelled with the encoded fields, and with a value
the database generated for each column left out, decodes to a record that holds each column's
datum again, provided each mapper reads back the datum it writes and each virtual column's codec
joins back the parts it splits. A column left out holds what its mapper reads from the generated
value, and every field of the table's default record that is not a column is kept.

The one exception is a virtual column whose children are all written as NULL: assembling gives
NULL back, whatever composite was written. `Column.readBack` says what each column reads back.
-/

namespace RelMap

set_option autoImplicit false

namespace Column

/-- Whether encoding `r` leaves the column to the database: an autoincrement column storing one
value, whose native value is unset (NULL or integer zero). -/
def leftOut (r : Record) (c : Column) : Bool :=
  c.autoincrement &&
    match c.mapper? with
    | some m =>
        match m.toNative (r.datum c.name) with
        | .ok value => value.isUnset
        | .error _ => false
    | none => false

/-- The fields the encoding of `r` gives the column: the native value of each child of a virtual
column under the child's physical name, the column's native value under its name otherwise. -/
def Written (r : Record) (c : Column) (fields : List (String × Value)) : Prop :=
  match c.kind with
  | .composite v => ∃ flat, v.flatten (r.datum c.name) = .ok flat ∧
      fields = flat.map fun x => (x.1.physical, x.2)
  | .scalar m | .reference m _ =>
      ∃ value, m.toNative (r.datum c.name) = .ok value ∧ fields = [(c.name, value)]

/-- What a decoded row gives back for the datum `d` of the column: NULL for a virtual column whose
children were all written as NULL, `d` itself otherwise. -/
def readBack (c : Column) (d : Datum) : Datum :=
  match c.kind with
  | .composite v =>
      match v.flatten d with
      | .ok flat => if flat.all (fun x => x.2.isNull) then .null else d
      | .error _ => d
  | _ => d

end Column

/-! ## Flattening a composite -/

namespace VirtualColumn

variable {v : VirtualColumn} {d : Datum} {flat : List (VirtualChild × Value)}

/-- What a successful flattening is made of: the children's descriptors for NULL; otherwise the
codec's parts, all named by children, each child's part written by the child's mapper. -/
theorem flatten_eq_ok (flattened : v.flatten d = .ok flat) :
    (d.isNull = true ∧ flat = v.children.map fun c => (c, c.mapper.native)) ∨
      (d.isNull = false ∧ ∃ p, v.codec.split d = .ok p ∧
        (∀ n ∈ p.names, ∃ c ∈ v.children, c.name = n) ∧
        List.Forall₂ (fun c x => x.1 = c ∧ ∃ part, p.find? c.name = some part ∧
          c.mapper.toNative part = .ok x.2) v.children flat) := by
  unfold flatten at flattened
  split at flattened
  · rename_i null
    cases flattened
    exact .inl ⟨null, rfl⟩
  · rename_i present
    refine .inr ⟨by simpa using present, ?_⟩
    simp only [bind, Except.bind] at flattened
    split at flattened
    · cases flattened
    · rename_i p split
      refine ⟨p, split, ?_⟩
      split at flattened
      · cases flattened
      · rename_i declared
        refine ⟨fun n member => ?_, ?_⟩
        · -- no part escapes the children: the search for an undeclared name found none
          have known : v.child? n ≠ none := by
            simpa using List.find?_eq_none.mp declared n member
          obtain ⟨c, found⟩ := Option.ne_none_iff_exists'.mp known
          exact ⟨c, List.mem_of_find?_eq_some found, by simpa using List.find?_some found⟩
        · refine (forall₂_of_mapM_eq_ok flattened).imp fun c x step => ?_
          split at step
          · rename_i part found
            split at step
            · cases step
            · rename_i value written
              cases step
              exact ⟨rfl, part, found, written⟩
          · cases step

theorem map_fst_of_flatten_eq_ok (flattened : v.flatten d = .ok flat) :
    flat.map Prod.fst = v.children := by
  rcases flatten_eq_ok flattened with ⟨_, rfl⟩ | ⟨_, _, _, _, children⟩
  · simp [Function.comp_def]
  · rw [← map_eq_map_of_forall₂ children fun _ _ written => written.1.symm]
    simp

end VirtualColumn

namespace Column

variable {r : Record}

theorem Written.names {c : Column} {fields : List (String × Value)} (written : c.Written r fields) :
    fields.map Prod.fst = c.physicalNames := by
  unfold Column.Written at written
  unfold Column.physicalNames
  split at written
  · rename_i v kind
    obtain ⟨flat, flattened, rfl⟩ := written
    simp only [kind]
    rw [← VirtualColumn.map_fst_of_flatten_eq_ok flattened]
    simp
  all_goals
    rename_i kind
    obtain ⟨value, _, rfl⟩ := written
    simp [kind]

end Column

/-! ## Assembling a composite back -/

/-- A value a mapper writes and reads back is NULL exactly when the datum is. -/
theorem Mapper.isNull_of_readsBack {m : Mapper} {d : Datum} {v : Value}
    (written : m.toNative d = .ok v) (read : m.fromNative v = .ok d) : v.isNull = d.isNull := by
  cases null : d.isNull with
  | true =>
    simp only [Mapper.toNative, null, if_true, Except.ok.injEq] at written
    rw [← written]
    exact Mapper.native_isNull m
  | false =>
    cases written' : v.isNull with
    | false => rfl
    | true =>
      simp only [Mapper.fromNative, written', if_true, Except.ok.injEq] at read
      rw [← read] at null
      cases null

namespace VirtualColumn

/-- Gathering from position `i` reads the `k`-th flattened value for the child at `i + k`. -/
theorem gather_at (valueOf : Nat → VirtualChild → Outcome Value) :
    ∀ (flat : List (VirtualChild × Value)) (i : Nat),
      (∀ k (h : k < flat.length), valueOf (i + k) flat[k].1 = .ok flat[k].2) →
      (∀ x ∈ flat, ∃ d, x.1.mapper.fromNative x.2 = .ok d) →
      ∃ data, gather valueOf (flat.map Prod.fst) i = .ok data ∧
        List.Forall₂ (fun x entry => entry.1 = x.1.name ∧ x.1.mapper.fromNative x.2 = .ok entry.2)
          flat data
  | [], _, _, _ => ⟨[], rfl, .nil⟩
  | x :: rest, i, reads, decodes => by
    obtain ⟨d, decoded⟩ := decodes x List.mem_cons_self
    have first : valueOf i x.1 = .ok x.2 := by
      have atHead := reads 0 (by simp)
      rwa [List.getElem_cons_zero, Nat.add_zero] at atHead
    have later : ∀ k (h : k < rest.length), valueOf (i + 1 + k) rest[k].1 = .ok rest[k].2 := by
      intro k h
      have shifted := reads (k + 1) (by simp [h])
      rw [show i + (k + 1) = i + 1 + k by omega] at shifted
      simpa using shifted
    obtain ⟨data, gathered, related⟩ := gather_at valueOf rest (i + 1) later
      (fun y member => decodes y (List.mem_cons_of_mem x member))
    refine ⟨(x.1.name, d) :: data, ?_, .cons ⟨rfl, decoded⟩ related⟩
    simp [gather, first, decoded, gathered, bind, Except.bind]

/-- What assembling needs of a datum that is not NULL: the codec joins back the parts it splits the
datum into, and each child's mapper reads back whatever it writes of its part. -/
def ReadsBack (v : VirtualColumn) (d : Datum) : Prop :=
  d.isNull = false → ∀ p, v.codec.split d = .ok p → v.codec.join p = .ok d ∧
    ∀ child ∈ v.children, ∀ part x, p.find? child.name = some part →
      child.mapper.toNative part = .ok x → child.mapper.fromNative x = .ok part

variable {v : VirtualColumn} {d : Datum} {flat : List (VirtualChild × Value)}

/-- Parts gathered under the children's names, each as `p` has it, are `p` when every part of `p`
is named by a child. -/
theorem ofList_eq_parts {p : Parts} (distinct : (v.children.map VirtualChild.name).Nodup)
    (declared : ∀ n ∈ p.names, ∃ c ∈ v.children, c.name = n) {data : List (String × Datum)}
    (names : data.map Prod.fst = v.children.map VirtualChild.name)
    (found : ∀ entry ∈ data, p.find? entry.1 = some entry.2) :
    Parts.ofList data = p := by
  -- both are sorted and agree on every name
  have sameEntries : Fields.ofList data = p.entries := by
    refine Fields.Sorted.ext (Fields.sorted_ofList data) p.sorted fun n => ?_
    by_cases named : n ∈ data.map Prod.fst
    · obtain ⟨entry, member, rfl⟩ := List.mem_map.mp named
      rw [Fields.find?_ofList_of_mem (by rw [names]; exact distinct) member]
      exact (found entry member).symm
    · rw [Fields.find?_ofList_of_not_mem named]
      cases inParts : Fields.find? p.entries n with
      | none => rfl
      | some x =>
        obtain ⟨c, member, rfl⟩ := declared n (Fields.mem_names_of_find?_eq_some inParts)
        exact absurd (by rw [names]; exact List.mem_map_of_mem member) named
  exact Parts.ext sameEntries

/-- Assembling what a flattening wrote, child `k` given the `k`-th value, gives back the composite,
or NULL when every child was written as NULL. -/
theorem assemble_of_flatten_at (flattened : v.flatten d = .ok flat)
    (distinct : (v.children.map VirtualChild.name).Nodup) (laws : v.ReadsBack d)
    {valueOf : Nat → VirtualChild → Outcome Value}
    (reads : ∀ k (h : k < flat.length), valueOf k flat[k].1 = .ok flat[k].2) :
    v.assemble valueOf = .ok (if flat.all (fun x => x.2.isNull) then .null else d) := by
  have children := map_fst_of_flatten_eq_ok flattened
  have readsFrom : ∀ k (h : k < flat.length), valueOf (0 + k) flat[k].1 = .ok flat[k].2 := by
    simpa using reads
  unfold assemble
  rcases flatten_eq_ok flattened with ⟨_, rfl⟩ | ⟨present, p, split, declared, parts⟩
  · -- NULL is written as the children's descriptors, which read back as NULL
    obtain ⟨data, gathered, related⟩ := gather_at valueOf _ 0 readsFrom fun x member => by
      obtain ⟨c, _, rfl⟩ := List.mem_map.mp member
      exact ⟨.null, by simp [Mapper.fromNative, Mapper.native_isNull]⟩
    have allNull : data.all (fun entry => entry.2.isNull) = true := by
      rw [List.all_eq_true]
      intro entry member
      obtain ⟨x, inFlat, entryOf⟩ := exists_mem_of_forall₂ related entry member
      obtain ⟨c, _, rfl⟩ := List.mem_map.mp inFlat
      simp only [Mapper.fromNative, Mapper.native_isNull, if_true, Except.ok.injEq] at entryOf
      rw [← entryOf.2]
      rfl
    rw [← children, gathered]
    simp [bind, Except.bind, allNull, Mapper.native_isNull]
  · obtain ⟨joined, partsRead⟩ := laws present p split
    -- each written value reads back as its child's part
    have each : ∀ x ∈ flat, ∃ part, p.find? x.1.name = some part ∧
        x.1.mapper.toNative part = .ok x.2 ∧ x.1.mapper.fromNative x.2 = .ok part := by
      intro x member
      obtain ⟨c, inChildren, rfl, part, found, written⟩ := exists_mem_of_forall₂ parts x member
      exact ⟨part, found, written, partsRead x.1 inChildren part x.2 found written⟩
    obtain ⟨data, gathered, related⟩ := gather_at valueOf flat 0 readsFrom fun x member => by
      obtain ⟨part, _, _, read⟩ := each x member
      exact ⟨part, read⟩
    have found : ∀ entry ∈ data, p.find? entry.1 = some entry.2 := by
      intro entry member
      obtain ⟨x, inFlat, named, read⟩ := exists_mem_of_forall₂ related entry member
      obtain ⟨part, foundPart, _, readPart⟩ := each x inFlat
      rw [named, Except.ok.inj (read.symm.trans readPart)]
      exact foundPart
    have names : data.map Prod.fst = v.children.map VirtualChild.name := by
      rw [← children, List.map_map]
      exact (map_eq_map_of_forall₂ related fun _ _ related => related.1.symm).symm
    have sameNull : flat.all (fun x => x.2.isNull) = data.all (fun entry => entry.2.isNull) := by
      have agree : flat.map (fun x => x.2.isNull) = data.map (fun entry => entry.2.isNull) :=
        map_eq_map_of_forall₂ (forall₂_and_mem_left related) fun x entry facts => by
          obtain ⟨⟨_, read⟩, member⟩ := facts
          obtain ⟨part, _, written, readPart⟩ := each x member
          rw [Mapper.isNull_of_readsBack written readPart, Except.ok.inj (read.symm.trans readPart)]
      simpa [List.all_map] using congrArg (fun l => l.all id) agree
    rw [← children, gathered]
    simp only [bind, Except.bind, sameNull]
    split_ifs
    · rfl
    · rw [ofList_eq_parts distinct declared names found]
      exact joined

/-- Assembling what a flattening wrote gives back the composite, or NULL when every child was
written as NULL, provided the codec joins back its parts and each child's mapper reads back its
part. -/
theorem assemble_of_flatten (flattened : v.flatten d = .ok flat)
    (distinct : (v.children.map VirtualChild.name).Nodup)
    (laws : d.isNull = false → ∀ p, v.codec.split d = .ok p → v.codec.join p = .ok d ∧
      ∀ child ∈ v.children, ∀ part, p.find? child.name = some part → child.mapper.RoundTrips part)
    {valueOf : Nat → VirtualChild → Outcome Value} (reads : ∀ x ∈ flat, ∀ j, valueOf j x.1 = .ok x.2) :
    v.assemble valueOf = .ok (if flat.all (fun x => x.2.isNull) then .null else d) := by
  refine assemble_of_flatten_at flattened distinct (fun present p split => ?_)
    fun k h => reads flat[k] (List.getElem_mem h) k
  obtain ⟨joined, roundTrips⟩ := laws present p split
  refine ⟨joined, fun child member part x found written => ?_⟩
  obtain ⟨value, written', _, read⟩ := roundTrips child member part found
  rw [written] at written'
  cases written'
  exact read

end VirtualColumn

/-! ## Encoding column by column -/

namespace Table

variable {r : Record}

theorem encodeColumn_eq_ok {c : Column} {part : List (String × Value) ⊕ Column}
    (encoded : encodeColumn r c = .ok part) :
    (c.leftOut r = true ∧ part = .inr c) ∨
      (c.leftOut r = false ∧ ∃ fields, part = .inl fields ∧ c.Written r fields) := by
  unfold encodeColumn at encoded
  cases kind : c.kind with
  | composite v =>
    rw [kind] at encoded
    simp only [bind, Except.bind] at encoded
    split at encoded
    · cases encoded
    · rename_i flat flattened
      cases encoded
      refine .inr ⟨by simp [Column.leftOut, Column.mapper?, kind], _, rfl, ?_⟩
      simp only [Column.Written, kind]
      refine ⟨flat, ?_, rfl⟩
      cases written : v.flatten (r.datum c.name) <;> simp_all [Outcome.within]
  | scalar m | reference m _ =>
    rw [kind] at encoded
    simp only [bind, Except.bind] at encoded
    split at encoded
    · cases encoded
    · rename_i value converted
      have written : m.toNative (r.datum c.name) = .ok value := by
        cases converting : m.toNative (r.datum c.name) with
        | error e => simp [converting, Outcome.within] at converted
        | ok v => simpa [converting, Outcome.within] using converted
      split at encoded
      · rename_i unset
        cases encoded
        exact .inl ⟨by simpa [Column.leftOut, Column.mapper?, kind, written] using unset, rfl⟩
      · rename_i set
        cases encoded
        refine .inr ⟨by simpa [Column.leftOut, Column.mapper?, kind, written] using set, _, rfl, ?_⟩
        simp only [Column.Written, kind]
        exact ⟨value, written, rfl⟩

/-- The fold that collects the encoded columns: the fields of the columns kept, in order, and the
columns left out, in order. -/
theorem foldl_encoded {step : EncodedRow → (List (String × Value) ⊕ Column) → EncodedRow}
    (onFields : ∀ acc fields, step acc (.inl fields) = ⟨acc.fields ++ fields, acc.omitted⟩)
    (onColumn : ∀ acc c, step acc (.inr c) = ⟨acc.fields, acc.omitted ++ [c]⟩) :
    ∀ {columns : List Column} {parts : List (List (String × Value) ⊕ Column)},
      List.Forall₂ (fun c part => encodeColumn r c = .ok part) columns parts → ∀ acc,
        (parts.foldl step acc).omitted = acc.omitted ++ columns.filter (Column.leftOut r) ∧
        ∃ written, List.Forall₂ (Column.Written r) (columns.filter fun c => !c.leftOut r) written ∧
          (parts.foldl step acc).fields = acc.fields ++ written.flatten
  | _, _, .nil, acc => ⟨by simp, [], .nil, by simp⟩
  | c :: _, part :: _, .cons encoded rest, acc => by
    obtain ⟨omitted, written, related, fields⟩ := foldl_encoded onFields onColumn rest (step acc part)
    simp only [List.foldl_cons]
    rcases encodeColumn_eq_ok encoded with ⟨out, rfl⟩ | ⟨kept, fieldsOf, rfl, writtenOf⟩
    · rw [onColumn] at omitted fields ⊢
      exact ⟨by simp [omitted, out], written, by simpa [out] using related, fields⟩
    · rw [onFields] at omitted fields ⊢
      refine ⟨by simp [omitted, kept], fieldsOf :: written, ?_, by simp [fields]⟩
      simpa [kept] using List.Forall₂.cons writtenOf related

variable {t : Table} {e : EncodedRow}

theorem encode_eq_ok (encoded : t.encode r = .ok e) :
    e.omitted = t.columns.filter (Column.leftOut r) ∧
      ∃ written, List.Forall₂ (Column.Written r) (t.columns.filter fun c => !c.leftOut r) written ∧
        e.fields = written.flatten := by
  unfold encode at encoded
  simp only [bind, Except.bind] at encoded
  split at encoded
  · cases encoded
  · rename_i parts mapped
    cases encoded
    simpa using foldl_encoded (fun _ _ => rfl) (fun _ _ => rfl) (forall₂_of_mapM_eq_ok mapped) ⟨[], []⟩

/-- The encoded fields are the physical columns of the columns kept, in table order. -/
theorem encode_names (encoded : t.encode r = .ok e) :
    e.fields.map Prod.fst = (t.columns.filter fun c => !c.leftOut r).flatMap Column.physicalNames := by
  obtain ⟨_, written, related, fields⟩ := encode_eq_ok encoded
  rw [fields, List.map_flatten, List.flatMap_def,
    map_eq_map_of_forall₂ related fun _ _ writtenOf => writtenOf.names.symm]

end Table

/-! ## Reading the row of an encoded record -/

/-- In a row with distinct labels, each label reads the value paired with it. -/
theorem Row.get?_of_mem_zip {labels : List String} {values : List Value} (distinct : labels.Nodup)
    {name : String} {value : Value} (member : (name, value) ∈ labels.zip values) :
    (Row.mk labels values).get? name = some value := by
  obtain ⟨i, bound, paired⟩ := List.mem_iff_getElem.mp member
  simp only [List.getElem_zip, Prod.mk.injEq] at paired
  have inLabels : i < labels.length := by simp at bound; omega
  have found : labels.idxOf? name = some i := by
    rw [List.idxOf?_eq_some_iff]
    refine ⟨inLabels, paired.1, fun j earlier same => ?_⟩
    have := (List.Nodup.getElem_inj_iff distinct).mp (same.trans paired.1.symm)
    omega
  simp [Row.get?, found, ← paired.2]

namespace Table

variable {r : Record} {t : Table} {e : EncodedRow}

theorem physicalNames_of_leftOut {c : Column} (out : c.leftOut r = true) :
    c.physicalNames = [c.name] := by
  cases kind : c.kind with
  | composite v => simp [Column.leftOut, Column.mapper?, kind] at out
  | scalar m => simp [Column.physicalNames, kind]
  | reference m target => simp [Column.physicalNames, kind]

/-- The labels of the row of an encoded record, its fields and then the columns left out, are the
table's physical names in another order, so they are distinct. -/
theorem labels_nodup (wf : t.WellFormed) (encoded : t.encode r = .ok e) :
    (e.fields.map Prod.fst ++ e.omitted.map Column.name).Nodup := by
  obtain ⟨omitted, _⟩ := encode_eq_ok encoded
  have leftOutNames : e.omitted.map Column.name = e.omitted.flatMap Column.physicalNames := by
    rw [List.map_eq_flatMap]
    refine List.flatMap_congr fun c member => ?_
    rw [omitted] at member
    exact (physicalNames_of_leftOut (List.mem_filter.mp member).2).symm
  rw [encode_names encoded, leftOutNames, omitted, ← List.flatMap_append]
  have perm := (List.filter_append_perm (fun c => !c.leftOut r) t.columns).flatMap_right
    Column.physicalNames
  simp only [Bool.not_not] at perm
  exact perm.nodup_iff.mpr wf.distinctPhysical

theorem row_reads_field (wf : t.WellFormed) (encoded : t.encode r = .ok e) (generated : List Value)
    {name : String} {value : Value} (member : (name, value) ∈ e.fields) :
    (Row.mk (e.fields.map Prod.fst ++ e.omitted.map Column.name)
      (e.fields.map Prod.snd ++ generated)).get? name = some value := by
  refine Row.get?_of_mem_zip (labels_nodup wf encoded) ?_
  rw [List.zip_append (by simp), ← List.zip_of_prod rfl rfl]
  exact List.mem_append_left _ member

theorem row_reads_omitted (wf : t.WellFormed) (encoded : t.encode r = .ok e)
    {generated : List Value} {c : Column} {g : Value} (member : (c, g) ∈ e.omitted.zip generated) :
    (Row.mk (e.fields.map Prod.fst ++ e.omitted.map Column.name)
      (e.fields.map Prod.snd ++ generated)).get? c.name = some g := by
  refine Row.get?_of_mem_zip (labels_nodup wf encoded) ?_
  have named : (e.omitted.map Column.name).zip generated =
      (e.omitted.zip generated).map (Prod.map Column.name id) := List.zip_map_left
  rw [List.zip_append (by simp), named]
  exact List.mem_append_right _ (List.mem_map.mpr ⟨(c, g), member, rfl⟩)

/-! ## Decoding column by column -/

/-- What the round trip of the record `r` through a row asks of the table: each column's mapper
writes the record's datum and reads it back, and each virtual column's codec joins back the parts
it splits a non-null datum into, each part written and read back by its child's mapper. -/
structure ReadsBack (t : Table) (r : Record) : Prop where
  mappers : ∀ c ∈ t.columns, ∀ m, c.mapper? = some m → m.RoundTrips (r.datum c.name)
  codecs : ∀ c ∈ t.columns, ∀ v, c.virtual? = some v → (r.datum c.name).isNull = false →
    ∀ p, v.codec.split (r.datum c.name) = .ok p → v.codec.join p = .ok (r.datum c.name) ∧
      ∀ child ∈ v.children, ∀ part, p.find? child.name = some part → child.mapper.RoundTrips part

/-- A column storing one value reads it from the row with its mapper. -/
theorem decodeColumn_of_mapper {row : Row} {c : Column} {m : Mapper} (mapper : c.mapper? = some m)
    {g : Value} (got : row.get? c.name = some g) : decodeColumn row c = m.fromNative g := by
  cases kind : c.kind with
  | composite v => simp [Column.mapper?, kind] at mapper
  | scalar m' =>
    simp only [Column.mapper?, kind, Option.some.injEq] at mapper
    subst mapper
    simp [decodeColumn, kind, rowValue, got, bind, Except.bind]
  | reference m' target =>
    simp only [Column.mapper?, kind, Option.some.injEq] at mapper
    subst mapper
    simp [decodeColumn, kind, rowValue, got, bind, Except.bind]

theorem readBack_of_mapper {c : Column} {m : Mapper} (mapper : c.mapper? = some m) (d : Datum) :
    c.readBack d = d := by
  cases kind : c.kind <;> simp_all [Column.mapper?, Column.readBack]

/-- A column storing one value, written and read back by its mapper, reads back its datum. -/
theorem decodeColumn_of_stored {row : Row} {c : Column} {m : Mapper} (mapper : c.mapper? = some m)
    (roundTrips : m.RoundTrips (r.datum c.name)) {value : Value}
    (converted : m.toNative (r.datum c.name) = .ok value) (got : row.get? c.name = some value) :
    decodeColumn row c = .ok (r.datum c.name) := by
  obtain ⟨value', converted', _, read⟩ := roundTrips
  rw [converted] at converted'
  cases converted'
  rw [decodeColumn_of_mapper mapper got, read]

/-- A column kept in the row reads back what `Column.readBack` says. -/
theorem decodeColumn_of_written {row : Row} {c : Column} {fields : List (String × Value)}
    (written : c.Written r fields) (wf : t.WellFormed) (laws : t.ReadsBack r) (member : c ∈ t.columns)
    (reads : ∀ x ∈ fields, row.get? x.1 = some x.2) :
    decodeColumn row c = .ok (c.readBack (r.datum c.name)) := by
  unfold Column.Written at written
  cases kind : c.kind with
  | composite v =>
    rw [kind] at written
    obtain ⟨flat, flattened, rfl⟩ := written
    have virtual : c.virtual? = some v := by simp [Column.virtual?, kind]
    simp only [decodeColumn, Column.readBack, kind, flattened]
    refine VirtualColumn.assemble_of_flatten flattened
      (wf.virtualColumns c member v virtual).2.2.2 (laws.codecs c member v virtual)
      fun x inFlat _ => ?_
    simp [rowValue, reads (x.1.physical, x.2) (List.mem_map_of_mem inFlat)]
  | scalar m | reference m _ =>
    rw [kind] at written
    obtain ⟨value, converted, rfl⟩ := written
    have mapper : c.mapper? = some m := by simp [Column.mapper?, kind]
    rw [readBack_of_mapper mapper]
    exact decodeColumn_of_stored mapper (laws.mappers c member m mapper) converted
      (reads _ List.mem_cons_self)

/-- The fold that decodes the columns one after the other into the record: each column's name gets
its decoded datum, and every other name keeps its field. -/
theorem foldlM_decoded (row : Row) {step : Record → Column → Outcome Record}
    (onColumn : ∀ R c d, decodeColumn row c = .ok d → step R c = .ok (R.set c.name d))
    (P : Column → Datum → Prop) :
    ∀ (columns : List Column) (start : Record), (columns.map Column.name).Nodup →
      (∀ c ∈ columns, ∃ d, decodeColumn row c = .ok d ∧ P c d) →
      ∃ R, columns.foldlM step start = .ok R ∧ (∀ c ∈ columns, P c (R.datum c.name)) ∧
        ∀ n, (∀ c ∈ columns, c.name ≠ n) → R.get? n = start.get? n
  | [], start, _, _ => ⟨start, rfl, by simp, fun _ _ => rfl⟩
  | c :: rest, start, distinct, each => by
    rw [List.map_cons, List.nodup_cons] at distinct
    obtain ⟨d, decoded, holds⟩ := each c List.mem_cons_self
    obtain ⟨R, folded, restHold, kept⟩ := foldlM_decoded row onColumn P rest (start.set c.name d)
      distinct.2 fun c' member => each c' (List.mem_cons_of_mem c member)
    refine ⟨R, ?_, fun c' member => ?_, fun n others => ?_⟩
    · rw [List.foldlM_cons, onColumn start c d decoded]
      exact folded
    · rcases List.mem_cons.mp member with rfl | later
      · -- no later column has the name, so the datum set here stays
        have stays : R.get? c'.name = some d := by
          rw [kept c'.name fun c'' inRest same => distinct.1 (same ▸ List.mem_map_of_mem inRest),
            Record.get?_set_self]
        simpa [Record.datum, stays] using holds
      · exact restHold c' later
    · rw [kept n fun c' inRest => others c' (List.mem_cons_of_mem c inRest),
        Record.get?_set_of_ne _ (others c List.mem_cons_self)]

/-- Decoding a row whose every column decodes gives the default record with each column's name
set to its datum. -/
theorem decode_eq_ok (row : Row) (P : Column → Datum → Prop)
    (distinct : (t.columns.map Column.name).Nodup)
    (each : ∀ c ∈ t.columns, ∃ d, decodeColumn row c = .ok d ∧ P c d) :
    ∃ R, t.decode row = .ok R ∧ (∀ c ∈ t.columns, P c (R.datum c.name)) ∧
      ∀ n, (∀ c ∈ t.columns, c.name ≠ n) → R.get? n = t.defaults.get? n :=
  foldlM_decoded row (fun _ _ _ decoded => by simp [decoded, Outcome.within, bind, Except.bind]) P
    t.columns t.defaults distinct each

/-- Decoding the row of an encoded record, completed with a value for each column left out,
reads back every column kept as `Column.readBack` says: its datum, or NULL for a virtual column
whose children were all written as NULL. A column left out reads its generated value, and the
default record's other fields are kept. The encoded fields are the physical columns of the columns
kept, in table order, and the columns left out are the autoincrement columns written as unset. -/
theorem record_reads_back_from_row (wf : t.WellFormed) (laws : t.ReadsBack r)
    (encoded : t.encode r = .ok e) (generated : List Value)
    (decodes : List.Forall₂ (fun c g => ∃ m d, c.mapper? = some m ∧ m.fromNative g = .ok d)
      e.omitted generated) :
    e.omitted = t.columns.filter (Column.leftOut r) ∧
      e.fields.map Prod.fst = (t.columns.filter fun c => !c.leftOut r).flatMap Column.physicalNames ∧
      ∃ R, t.decode ⟨e.fields.map Prod.fst ++ e.omitted.map Column.name,
          e.fields.map Prod.snd ++ generated⟩ = .ok R ∧
        (∀ c ∈ t.columns, c.leftOut r = false → R.datum c.name = c.readBack (r.datum c.name)) ∧
        List.Forall₂ (fun c g => ∀ m, c.mapper? = some m → m.fromNative g = .ok (R.datum c.name))
          e.omitted generated ∧
        ∀ n, (∀ c ∈ t.columns, c.name ≠ n) → R.get? n = t.defaults.get? n := by
  obtain ⟨omitted, written, related, fields⟩ := encode_eq_ok encoded
  refine ⟨omitted, encode_names encoded, ?_⟩
  set row : Row := ⟨e.fields.map Prod.fst ++ e.omitted.map Column.name,
    e.fields.map Prod.snd ++ generated⟩ with rowIs
  -- a column kept reads back its datum, a column left out the value generated for it
  have each : ∀ c ∈ t.columns, ∃ d, decodeColumn row c = .ok d ∧
      ((c.leftOut r = false → d = c.readBack (r.datum c.name)) ∧
        ∀ m g, c.mapper? = some m → row.get? c.name = some g → m.fromNative g = .ok d) := by
    intro c member
    cases out : c.leftOut r with
    | false =>
      have kept : c ∈ t.columns.filter fun c => !c.leftOut r := List.mem_filter.mpr ⟨member, by simp [out]⟩
      obtain ⟨fieldsOf, paired, writtenOf⟩ := exists_mem_zip_of_forall₂ related c kept
      have inFields : ∀ x ∈ fieldsOf, x ∈ e.fields := fun x inFieldsOf => by
        rw [fields]
        exact List.mem_flatten.mpr ⟨fieldsOf, (List.of_mem_zip paired).2, inFieldsOf⟩
      have decoded := decodeColumn_of_written writtenOf wf laws member fun x inFieldsOf =>
        row_reads_field wf encoded generated (inFields x inFieldsOf)
      refine ⟨_, decoded, fun _ => rfl, fun m g mapper got => ?_⟩
      rw [← decodeColumn_of_mapper mapper got]
      exact decoded
    | true =>
      have inOmitted : c ∈ e.omitted := by
        rw [omitted]
        exact List.mem_filter.mpr ⟨member, out⟩
      obtain ⟨g, paired, m, d, mapper, read⟩ := exists_mem_zip_of_forall₂ decodes c inOmitted
      have got := row_reads_omitted wf encoded paired
      refine ⟨d, by rw [decodeColumn_of_mapper mapper got]; exact read, by simp,
        fun m' g' mapper' got' => ?_⟩
      rw [mapper, Option.some.injEq] at mapper'
      rw [got, Option.some.injEq] at got'
      rw [← mapper', ← got']
      exact read
  obtain ⟨R, decoded, holds, kept⟩ := decode_eq_ok row _ wf.distinctNames each
  refine ⟨R, decoded, fun c member stored => (holds c member).1 stored, ?_, kept⟩
  refine List.forall₂_iff_zip.mpr ⟨decodes.length_eq, fun {c g} paired m mapper => ?_⟩
  have member : c ∈ t.columns := by
    have inOmitted := (List.of_mem_zip paired).1
    rw [omitted] at inOmitted
    exact (List.mem_filter.mp inOmitted).1
  exact (holds c member).2 m g mapper (row_reads_omitted wf encoded paired)

end Table

/-! ## A composite of NULL parts -/

/-- A table `t` keyed by the integer `id`, with a virtual column `v` of one integer child `a`. -/
def compositeSpec : TableSpec :=
  { name := "t"
    columns := [
      { name := "id", type := .named .i64, key := .primary },
      { name := "v", type := .named .composite, shape := .composite .map,
        children := [{ name := "a", type := .named .i64 }] }] }

/-- The table built from `compositeSpec`. -/
def compositeTable : Table :=
  ⟨"t", "", [⟨"id", .named .i64, .primary, false, .scalar (.primitive .i64)⟩,
    ⟨"v", .named .composite, .regular, false,
      .composite ⟨[⟨"a", "v_a", .named .i64, .primitive .i64⟩], .map⟩⟩], Record.empty,
    snakeCaseNaming⟩

/-- A record of `compositeTable` whose composite holds the one part `part`. -/
def onePart (id : Int64) (part : Datum) : Record :=
  Record.ofList [("id", .i64 id), ("v", .composite [("a", part)])]

theorem compositeTable_built :
    compositeSpec.build.outcome Registry.withDefaults = .ok compositeTable := by
  cbv

theorem onePart_readsBack (id : Int64) {part : Datum}
    (roundTrips : (Mapper.primitive .i64).RoundTrips part) :
    compositeTable.ReadsBack (onePart id part) := by
  have idDatum : (onePart id part).datum "id" = .i64 id := by cbv
  have vDatum : (onePart id part).datum "v" = .composite [("a", part)] := by cbv
  constructor
  · intro c member m mapper
    simp only [compositeTable, List.mem_cons, List.not_mem_nil, or_false] at member
    rcases member with rfl | rfl
    · simp only [Column.mapper?, Option.some.injEq] at mapper
      subst mapper
      dsimp only
      rw [idDatum]
      exact (Mapper.encodes_primitive .i64).roundTrips rfl
    · simp [Column.mapper?] at mapper
  · intro c member v virtual _ p split
    simp only [compositeTable, List.mem_cons, List.not_mem_nil, or_false] at member
    rcases member with rfl | rfl
    · simp [Column.virtual?] at virtual
    · simp only [Column.virtual?, Option.some.injEq] at virtual
      subst virtual
      dsimp only at split ⊢
      rw [vDatum] at split ⊢
      have parts : Codec.split .map (.composite [("a", part)]) = .ok (Parts.ofList [("a", part)]) :=
        rfl
      rw [parts, Except.ok.injEq] at split
      subst split
      refine ⟨rfl, fun child inChildren part' found => ?_⟩
      simp only [List.mem_cons, List.not_mem_nil, or_false] at inChildren
      subst inChildren
      have only : (Parts.ofList [("a", part)]).find? "a" = some part := rfl
      rw [only, Option.some.injEq] at found
      subst found
      exact roundTrips

/-- The table built from `compositeSpec` meets the read-back laws for a record whose composite
holds one NULL part, yet the record read back from its row holds NULL for the composite. -/
theorem null_part_reads_back_as_null :
    compositeSpec.build.outcome Registry.withDefaults = .ok compositeTable ∧
      compositeTable.ReadsBack (onePart 1 .null) ∧
      compositeTable.encode (onePart 1 .null) =
        .ok ⟨[("id", .int64 (some 1)), ("v_a", .int64 none)], []⟩ ∧
      (compositeTable.decode ⟨["id", "v_a"], [.int64 (some 1), .int64 none]⟩).map
        (fun R => R.datum "v") = .ok .null ∧
      (onePart 1 .null).datum "v" = .composite [("a", .null)] :=
  ⟨compositeTable_built, onePart_readsBack 1 (Mapper.roundTrips_null _), rfl, rfl, rfl⟩

/-- The row of a record whose composite holds a non-null part reads the composite back. -/
theorem one_part_row_reads_back :
    ∃ R, compositeTable.decode ⟨["id", "v_a"], [.int64 (some 1), .int64 (some 5)]⟩ = .ok R ∧
      R.datum "id" = .i64 1 ∧ R.datum "v" = .composite [("a", .i64 5)] := by
  have encoded : compositeTable.encode (onePart 1 (.i64 5)) =
      .ok ⟨[("id", .int64 (some 1)), ("v_a", .int64 (some 5))], []⟩ := rfl
  obtain ⟨_, _, R, decoded, readBack, _, _⟩ :=
    Table.record_reads_back_from_row (TableSpec.wellFormed_of_build compositeTable_built)
      (onePart_readsBack 1 ⟨_, rfl, rfl, rfl⟩) encoded [] .nil
  refine ⟨R, decoded, ?_, ?_⟩
  · exact (readBack _ List.mem_cons_self rfl).trans rfl
  · exact (readBack _ (List.mem_cons_of_mem _ List.mem_cons_self) rfl).trans rfl

end RelMap
