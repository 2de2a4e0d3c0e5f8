import Mathlib
import RelMap.Proofs.SuccessorWalk
import RelMap.Library

/-!
# Mappers read back what they write

A datum of a type, written to a native value by the mapper a registry gives for the type, is read
back unchanged, provided the registry's direct mappers are those of primitive types and each type
stored through another goes forward to data of that type which its backward conversion takes
back. NULL is written as the mapper's descriptor, a typed NULL, and read back as NULL; so are the
NULL items of a sequence, at any depth. The written value has the type of the descriptor.

The proof follows the successor walk of the lookup: the primitive mapper where the walk ends reads
back its own type, and each key passed wraps the mapper of the next key as a chained or a list
mapper that reads back its own type in turn. `mapper_reads_back_written_data` also covers the
passthrough mapper of a value, which reads back every value of that value's type.

Read-back is equality of data: NaN floats included, the datum read is the datum written.
-/

namespace RelMap

set_option autoImplicit false

/-! ## Descriptors -/

namespace Value

theorem sameType_refl (v : Value) : v.sameType v = true := by
  cases v with
  | list items element =>
    rw [sameType]
    exact sameType_refl element
  | _ => rfl

theorem sameType_asNull_right (v P : Value) : v.sameType P.asNull = v.sameType P := by
  cases P <;> cases v <;> rfl

end Value

theorem Mapper.native_isNull (m : Mapper) : m.native.isNull = true := by
  induction m with
  | primitive p => cases p <;> rfl
  | passthrough descriptor => cases descriptor <;> rfl
  | list element _ => rfl
  | chain _ via _ ih => exact ih
  | custom c => cases c <;> rfl

/-! ## Primitive types -/

theorem Primitive.decode_of_range {p : Primitive} {lo hi n : Int} {v : Value}
    (bounds : p.intRange = some (lo, hi)) (integer : v.integer? = some n)
    (range : lo ≤ n ∧ n ≤ hi) : p.decode v = .ok (p.intDatum n) := by
  unfold decode
  rw [bounds]
  simp only [decodeInteger, integer]
  exact if_pos range

/-- A datum of a primitive type is written as a value with a payload, of the type's column type,
and read back unchanged. -/
theorem Primitive.round_trip (p : Primitive) {d : Datum} (typed : d.type? = some p.type) :
    ∃ v, p.encode d = .ok v ∧ v.isNull = false ∧ v.sameType p.emptyValue = true ∧
      p.decode v = .ok d := by
  cases d <;> cases p <;> simp [Datum.type?, Primitive.type] at typed
  all_goals refine ⟨_, rfl, rfl, rfl, ?_⟩
  all_goals try rfl
  -- an integer is in its type's range, and converting its number back gives the integer
  case i8.i8 n =>
    rw [decode_of_range rfl rfl ⟨n.le_toInt, by have := n.toInt_lt; omega⟩]
    simp [intDatum]
  case i16.i16 n =>
    rw [decode_of_range rfl rfl ⟨n.le_toInt, by have := n.toInt_lt; omega⟩]
    simp [intDatum]
  case i32.i32 n =>
    rw [decode_of_range rfl rfl ⟨n.le_toInt, by have := n.toInt_lt; omega⟩]
    simp [intDatum]
  case i64.i64 n =>
    rw [decode_of_range rfl rfl ⟨n.le_toInt, by have := n.toInt_lt; omega⟩]
    simp [intDatum]
  case u8.u8 n =>
    rw [decode_of_range rfl rfl ⟨by omega, by have := n.toNat_lt; omega⟩]
    simp [intDatum]
  case u16.u16 n =>
    rw [decode_of_range rfl rfl ⟨by omega, by have := n.toNat_lt; omega⟩]
    simp [intDatum]
  case u32.u32 n =>
    rw [decode_of_range rfl rfl ⟨by omega, by have := n.toNat_lt; omega⟩]
    simp [intDatum]
  case u64.u64 n =>
    rw [decode_of_range rfl rfl ⟨by omega, by have := n.toNat_lt; omega⟩]
    simp [intDatum]

/-! ## Well-typed data and faithful registries -/

/-- `d` is a datum of the type `key`, never NULL: a datum holding the named type, or a sequence
whose items are each NULL or a datum of the element type. -/
def TypeKey.Holds : TypeKey → Datum → Prop
  | .named t, d => d.type? = some t
  | .list element, d => ∃ items, d = .list items ∧ ∀ x ∈ items, x = .null ∨ element.Holds x

theorem TypeKey.Holds.isNull_eq_false {key : TypeKey} {d : Datum} (holds : key.Holds d) :
    d.isNull = false := by
  cases key with
  | named t =>
    simp only [TypeKey.Holds] at holds
    simp [Datum.isNull, holds]
  | list element =>
    obtain ⟨items, rfl, _⟩ := holds
    rfl

/-- Each datum of `key` goes forward to a datum of `intermediate`, never NULL, that comes back as
the datum itself. -/
def Step.Inverts (s : Step) (key intermediate : TypeKey) : Prop :=
  ∀ x, key.Holds x → ∃ y, s.forward x = .ok y ∧ intermediate.Holds y ∧ s.backward y = .ok x

theorem Step.isbnText_inverts : Step.isbnText.Inverts (.named .isbn) (.named .string) := by
  intro x typed
  cases x <;> simp [TypeKey.Holds, Datum.type?] at typed
  exact ⟨_, rfl, rfl, rfl⟩

/-- What the round trip asks of an entry at `key`: a direct mapper is that of a primitive type,
and a step to an intermediate type is undone by its backward conversion. -/
def Entry.Faithful (key : TypeKey) : Entry → Prop
  | .direct m => ∃ p, m = .primitive p
  | .via intermediate step => step.Inverts key intermediate
  | .derived _ => True

namespace Registry

def Faithful (r : Registry) : Prop :=
  ∀ key entry, (key, entry) ∈ r.entries → entry.Faithful key

theorem Faithful.empty : Registry.empty.Faithful := by
  intro key entry member
  simp [Registry.empty] at member

theorem Faithful.insert {r : Registry} {key : TypeKey} {entry : Entry} (faithful : r.Faithful)
    (fits : entry.Faithful key) : (r.insert key entry).Faithful := by
  intro k e member
  rcases mem_insert member with ⟨rfl, rfl⟩ | old
  · exact fits
  · exact faithful _ _ old

theorem Faithful.registerPrimitives {r : Registry} (faithful : r.Faithful)
    (primitives : List Primitive) : (primitives.foldl registerPrimitive r).Faithful := by
  induction primitives generalizing r with
  | nil => exact faithful
  | cons p rest ih => exact ih (faithful.insert ⟨p, rfl⟩)

theorem withDefaults_faithful : Registry.withDefaults.Faithful :=
  Faithful.empty.registerPrimitives Primitive.all

end Registry

/-! ## Round trips of the kinds of mapper -/

namespace Mapper

/-- The mapper writes each datum of `key` as a value with a payload, of the type of its
descriptor, and reads that value back as the datum. -/
def Encodes (m : Mapper) (key : TypeKey) : Prop :=
  ∀ d, key.Holds d → ∃ v, m.encode d = .ok v ∧ v.isNull = false ∧
    v.sameType m.native = true ∧ m.decode v = .ok d

/-- Writing `d` succeeds with a value of the descriptor's type, which reads back as `d`. -/
def RoundTrips (m : Mapper) (d : Datum) : Prop :=
  ∃ v, m.toNative d = .ok v ∧ v.sameType m.native = true ∧ m.fromNative v = .ok d

theorem roundTrips_null (m : Mapper) : m.RoundTrips .null :=
  ⟨m.native, rfl, Value.sameType_refl _, by simp [fromNative, native_isNull]⟩

theorem Encodes.roundTrips {m : Mapper} {key : TypeKey} (encodes : m.Encodes key) {d : Datum}
    (typed : key.Holds d) : m.RoundTrips d := by
  obtain ⟨v, written, payload, sameType, read⟩ := encodes d typed
  refine ⟨v, ?_, sameType, ?_⟩
  · simp [toNative, typed.isNull_eq_false, written, Outcome.within]
  · simp [fromNative, payload, read, Outcome.within]

theorem encodes_primitive (p : Primitive) : (Mapper.primitive p).Encodes (.named p.type) :=
  fun _ typed => p.round_trip typed

/-- How a list mapper writes an item: NULL as the element descriptor, any other item by the
element mapper. -/
def writeItem (element : Mapper) (item : Datum) : Outcome Value :=
  if item.isNull then .ok element.native
  else (element.encode item).within (.toNative element.key.name)

/-- How a list mapper reads an item: a typed NULL as NULL, any other value by the element
mapper. -/
def readItem (element : Mapper) (v : Value) : Outcome Datum :=
  if v.isNull then .ok .null else (element.decode v).within (.fromNative element.key.name)

theorem encode_list (element : Mapper) (d : Datum) :
    (Mapper.list element).encode d = (do
      let items ← d.asList
      let values ← items.mapM element.writeItem
      .ok (.list (some values) element.native)) := rfl

theorem decode_list (element : Mapper) (items : List Value) (descriptor : Value) :
    (Mapper.list element).decode (.list (some items) descriptor) = (do
      let data ← items.mapM element.readItem
      .ok (.list data)) := rfl

theorem Encodes.item {element : Mapper} {key : TypeKey} (encodes : element.Encodes key)
    {x : Datum} (typed : x = .null ∨ key.Holds x) :
    ∃ v, element.writeItem x = .ok v ∧ element.readItem v = .ok x := by
  rcases typed with rfl | typed
  · exact ⟨element.native, rfl, by simp [readItem, native_isNull]⟩
  · obtain ⟨v, written, payload, _, read⟩ := encodes x typed
    refine ⟨v, ?_, ?_⟩
    · simp [writeItem, typed.isNull_eq_false, written, Outcome.within]
    · simp [readItem, payload, read, Outcome.within]

end Mapper

theorem mapM_undone {α β ε : Type} {f : α → Except ε β} {g : β → Except ε α} (xs : List α)
    (each : ∀ x ∈ xs, ∃ y, f x = .ok y ∧ g y = .ok x) :
    ∃ ys, xs.mapM f = .ok ys ∧ ys.mapM g = .ok xs := by
  induction xs with
  | nil => exact ⟨[], rfl, rfl⟩
  | cons x rest ih =>
    obtain ⟨y, forward, backward⟩ := each x List.mem_cons_self
    obtain ⟨ys, forwardRest, backwardRest⟩ :=
      ih fun x' member => each x' (List.mem_cons_of_mem x member)
    refine ⟨y :: ys, ?_, ?_⟩
    · rw [List.mapM_cons, forward, forwardRest]
      rfl
    · rw [List.mapM_cons, backward, backwardRest]
      rfl

namespace Mapper

theorem Encodes.list {element : Mapper} {key : TypeKey} (encodes : element.Encodes key) :
    (Mapper.list element).Encodes (.list key) := by
  rintro _ ⟨items, rfl, each⟩
  obtain ⟨values, written, read⟩ :=
    mapM_undone items fun x member => encodes.item (each x member)
  refine ⟨.list (some values) element.native, ?_, rfl, ?_, ?_⟩
  · simp [encode_list, Datum.asList, bind, Except.bind, written]
  · -- the items' descriptor is the element's, and the list descriptor holds its typed NULL
    simp [native, Value.listOf, Value.sameType, Value.sameType_asNull_right, Value.sameType_refl]
  · simp [decode_list, bind, Except.bind, read]

/-- The label of a chained mapper only names it in messages: any label reads back the data its
step takes to data of the mapper it is built over. -/
theorem Encodes.chain {via : Mapper} {key intermediate : TypeKey} {step : Step}
    (encodes : via.Encodes intermediate) (inverts : step.Inverts key intermediate)
    (label : TypeKey) : (Mapper.chain label via step).Encodes key := by
  intro d typed
  obtain ⟨stored, forward, storedTyped, backward⟩ := inverts d typed
  obtain ⟨v, written, payload, sameType, read⟩ := encodes stored storedTyped
  refine ⟨v, ?_, payload, sameType, ?_⟩
  · simp [encode, bind, Except.bind, forward, storedTyped.isNull_eq_false, written,
      Outcome.within]
  · simp [decode, bind, Except.bind, read, Outcome.within, backward]

end Mapper

/-! ## Along the successor walk -/

namespace Registry

/-- A link that ends the walk with a mapper or goes on through an intermediate type is the link
of the key's own entry. -/
theorem entry_of_link {r : Registry} {key : TypeKey} {l : Link} (linked : r.link key = l)
    (entered : l.isElement = false) (present : l.next? ≠ none ∨ ∃ m, l = .terminal m) :
    ∃ entry, (key, entry) ∈ r.entries ∧ entry.link = l := by
  unfold link at linked
  split at linked
  · rename_i entry found
    exact ⟨entry, find?_mem found, linked⟩
  · split at linked
    · subst linked
      simp [Link.isElement] at entered
    · subst linked
      simp [Link.next?] at present

namespace Faithful

variable {r : Registry} (faithful : r.Faithful)
include faithful

theorem terminal_encodes (keyed : r.WellKeyed) {key : TypeKey} {m : Mapper}
    (linked : r.link key = .terminal m) : m.Encodes key := by
  obtain ⟨entry, member, entryLink⟩ := entry_of_link linked rfl (.inr ⟨m, rfl⟩)
  cases entry with
  | direct m' =>
    cases entryLink
    obtain ⟨p, rfl⟩ := faithful key _ member
    rw [← keyed.terminal_key linked]
    exact Mapper.encodes_primitive p
  | via _ _ => cases entryLink
  | derived _ => cases entryLink

theorem link_inverts {key intermediate : TypeKey} {step : Step}
    (linked : r.link key = .via intermediate step) : step.Inverts key intermediate := by
  obtain ⟨entry, member, entryLink⟩ := entry_of_link linked rfl (.inl (by simp [Link.next?]))
  cases entry with
  | via _ _ =>
    cases entryLink
    exact faithful key _ member
  | direct _ => cases entryLink
  | derived _ => cases entryLink

/-- The mapper built back along a walk to a direct entry reads back the data of the key the walk
starts from. The induction is on the walk: each key passed wraps the mapper of the next key,
through the step of its entry or as the list of it. -/
theorem compose_encodes (keyed : r.WellKeyed) {seen passed : List TypeKey} {key last : TypeKey}
    {terminal : Mapper} (walk : r.Walk seen key passed last)
    (ends : r.link last = .terminal terminal) : (r.compose passed terminal).Encodes key := by
  induction walk with
  | revisit _ => exact faithful.terminal_encodes keyed ends
  | halt _ _ => exact faithful.terminal_encodes keyed ends
  | @pass seen key next last passed _ goesOn _ ih =>
    have composeCons : r.compose (key :: passed) terminal =
        (r.link key).wrap key (r.compose passed terminal) := rfl
    rw [composeCons]
    cases linked : r.link key with
    | via intermediate step =>
      have sameNext : next = intermediate := by
        simpa [next?, linked, Link.next?] using goesOn.symm
      subst sameNext
      exact (ih ends).chain (faithful.link_inverts linked) key
    | element element =>
      have sameNext : next = element := by
        simpa [next?, linked, Link.next?] using goesOn.symm
      subst sameNext
      rw [keyed.element_key linked]
      exact (ih ends).list
    | terminal _ => simp [next?, linked, Link.next?] at goesOn
    | missing => simp [next?, linked, Link.next?] at goesOn

end Faithful

theorem walkOutcome_ok {r : Registry} {seen passed : List TypeKey} {last : TypeKey} {M : Mapper}
    (outcome : r.walkOutcome seen passed last = .ok M) :
    ∃ m, r.link last = .terminal m ∧ M = r.compose passed m := by
  unfold walkOutcome at outcome
  split at outcome
  · cases outcome
  · split at outcome
    · rename_i m linked
      cases outcome
      exact ⟨m, linked, rfl⟩
    all_goals cases outcome

end Registry

/-- Every mapper a faithful registry built by its own operations gives for a key reads back what
it writes of NULL and of each datum of the key; a passthrough mapper reads back NULL and every
value with a payload of its descriptor's type. -/
theorem mapper_reads_back_written_data :
    (∀ (r r' : Registry) (key : TypeKey) (M : Mapper) (d : Datum), r.Reachable → r.Faithful →
      r.lookup key = .ok (M, r') → d = .null ∨ M.key.Holds d → M.RoundTrips d) ∧
    (∀ (P : Value) (d : Datum),
      d = .null ∨ (∃ v, d = .native v ∧ v.isNull = false ∧ v.sameType P = true) →
        (Mapper.passthrough P).RoundTrips d) := by
  refine ⟨?_, ?_⟩
  · intro r r' key M d reachable faithful looked typed
    have keyed := reachable.wellKeyed
    obtain ⟨passed, last, walk, outcome⟩ :=
      (Registry.lookup_outcome_iff_walk r key (.ok M)).mp (by rw [looked]; rfl)
    obtain ⟨m, ends, rfl⟩ := Registry.walkOutcome_ok outcome
    rcases typed with rfl | typed
    · exact Mapper.roundTrips_null _
    · rw [keyed.compose_key walk ends] at typed
      exact (faithful.compose_encodes keyed walk ends).roundTrips typed
  · rintro P d (rfl | ⟨v, rfl, payload, sameType⟩)
    · exact Mapper.roundTrips_null _
    · have ofType : v.sameType P.asNull = true := by
        rw [Value.sameType_asNull_right]
        exact sameType
      refine ⟨v, ?_, ofType, ?_⟩
      · simp [Mapper.toNative, Datum.isNull, Datum.type?, Mapper.encode, Datum.get, bind,
          Except.bind, ofType, Outcome.within]
      · simp [Mapper.fromNative, payload, Mapper.decode, Outcome.within]

theorem library_isbn_list_reads_back :
    (Mapper.list (.chain (.named .isbn) (.primitive .string) .isbnText)).RoundTrips
        (.list [.isbn "978-0-262-03384-8", .null]) ∧
      (Mapper.passthrough (.list none (.int32 none))).RoundTrips
        (.native (.list (some [.int32 (some 7), .int32 none]) (.int32 none))) := by
  have registered : Registry.withDefaults.registerVia (.named .isbn) (.named .string) .isbnText =
      .ok (Registry.withDefaults.insert (.named .isbn) (.via (.named .string) .isbnText)) := by
    cbv
  have library : Library.registry =
      Registry.withDefaults.insert (.named .isbn) (.via (.named .string) .isbnText) := by
    simp only [Library.registry, registered]
  have looked : Library.registry.lookup (.list (.named .isbn)) =
      .ok (.list (.chain (.named .isbn) (.primitive .string) .isbnText),
        Library.registry.insertIfAbsent (.list (.named .isbn)) (.derived (.named .isbn))) := by
    rw [library]
    cbv
  have reachable : Library.registry.Reachable :=
    library ▸ .registerVia Registry.withDefaults_reachable registered
  have faithful : Library.registry.Faithful :=
    library ▸ Registry.withDefaults_faithful.insert Step.isbnText_inverts
  refine ⟨mapper_reads_back_written_data.1 _ _ _ _ _ reachable faithful looked (.inr ?_),
    mapper_reads_back_written_data.2 _ _ (.inr ⟨_, rfl, rfl, rfl⟩)⟩
  -- the items are a book number and NULL
  refine ⟨_, rfl, ?_⟩
  simp [Mapper.key, TypeKey.Holds, Datum.type?]

end RelMap
