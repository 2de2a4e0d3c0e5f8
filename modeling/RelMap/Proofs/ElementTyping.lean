import Mathlib
import RelMap.Proofs.PathGrammar
import RelMap.Proofs.MapperRoundTrip

/-!
# Element typing of sequences

The element mapper of a mapper is decided by its key first: a sequence key goes back to the
registry for the element type's current mapper, and only another key is decided by the native
descriptor, a list descriptor giving a passthrough of its element descriptor. The two ways agree
when every sequence key of the registry holds a derived sequence. A lookup then gives, for a
sequence key, the list mapper over the mapper the registry gives for the element, and for a named
key a mapper with that key. So every mapper the registry gives has an element mapper exactly when
its native descriptor is a list, and that element mapper has the list's element type; the parser's
`[n]` and the decoding of an index node ask for it, so both inherit this.

Nothing of this holds of other mappers. A sequence key registered through a text type gives a
text mapper whose elements are still looked up, and a mapper the registry gave before its element
type was registered again indexes with the element's new mapper.
-/

namespace RelMap

set_option autoImplicit false

namespace Registry

/-- Every entry at a sequence key is the derived sequence of its element. -/
def SequencesDerived (r : Registry) : Prop :=
  ∀ element entry, (TypeKey.list element, entry) ∈ r.entries → entry = .derived element

/-- The registry gives `m` for some key. -/
def Gives (r : Registry) (m : Mapper) : Prop := ∃ key, (r.lookup key).map Prod.fst = .ok m

/-! ## Registries whose sequences are derived -/

namespace SequencesDerived

theorem empty : Registry.empty.SequencesDerived := by
  intro element entry member
  simp [Registry.empty] at member

variable {r : Registry}

theorem insert {key : TypeKey} {entry : Entry} (derived : r.SequencesDerived)
    (fits : ∀ element, key = .list element → entry = .derived element) :
    (r.insert key entry).SequencesDerived := by
  intro element e member
  rcases mem_insert member with ⟨same, rfl⟩ | old
  · exact fits element same.symm
  · exact derived _ _ old

theorem insertIfAbsent (derived : r.SequencesDerived) (element : TypeKey) :
    (r.insertIfAbsent (.list element) (.derived element)).SequencesDerived := by
  intro k e member
  unfold Registry.insertIfAbsent at member
  split at member
  · exact derived _ _ member
  · rcases List.mem_append.mp member with old | new
    · exact derived _ _ old
    · simp only [List.mem_singleton, Prod.mk.injEq, TypeKey.list.injEq] at new
      obtain ⟨rfl, rfl⟩ := new
      rfl

theorem recordDerived (derived : r.SequencesDerived) (keys : List TypeKey) :
    (r.recordDerived keys).SequencesDerived := by
  induction keys generalizing r with
  | nil => exact derived
  | cons key rest ih =>
    simp only [Registry.recordDerived, List.foldl_cons]
    apply ih
    cases key with
    | list element => exact derived.insertIfAbsent element
    | named _ => exact derived

theorem lookup {r' : Registry} {key : TypeKey} {m : Mapper} (derived : r.SequencesDerived)
    (looked : r.lookup key = .ok (m, r')) : r'.SequencesDerived := by
  unfold Registry.lookup at looked
  split at looked
  · cases looked
    exact derived.recordDerived _
  · cases looked

theorem elementOf {r' : Registry} {m element : Mapper} (derived : r.SequencesDerived)
    (found : r.elementOf m = .ok (element, r')) : r'.SequencesDerived := by
  unfold Registry.elementOf at found
  split at found
  · exact derived.lookup found
  · split at found
    · cases found
      exact derived
    · cases found

theorem deriveArray {r' : Registry} {element : TypeKey} {m : Mapper}
    (derived : r.SequencesDerived) (made : r.deriveArray element = .ok (m, r')) :
    r'.SequencesDerived := by
  unfold Registry.deriveArray at made
  split at made
  · cases made
    exact (derived.recordDerived _).insert fun _ same => by cases same; rfl
  · cases made

/-- Registering a mapper of a named type keeps the sequences derived. -/
theorem register {m : Mapper} (derived : r.SequencesDerived) (named : ∀ element, m.key ≠ .list element) :
    (r.register m).SequencesDerived :=
  derived.insert fun element same => absurd same (named element)

/-- Registering a named type through an intermediate type keeps the sequences derived. -/
theorem registerVia {r' : Registry} {t : DatumType} {intermediate : TypeKey} {step : Step}
    (derived : r.SequencesDerived)
    (registered : r.registerVia (.named t) intermediate step = .ok r') : r'.SequencesDerived := by
  unfold Registry.registerVia at registered
  split at registered
  · rename_i looked
    cases registered
    exact (derived.lookup looked).insert fun _ same => by cases same
  · cases registered

/-- The link of a sequence key goes on to its element. -/
theorem link (derived : r.SequencesDerived) (element : TypeKey) :
    r.link (.list element) = .element element := by
  cases found : r.find? (.list element) with
  | none => simp [Registry.link, found]
  | some entry => simp [Registry.link, found, derived element entry (find?_mem found), Entry.link]

end SequencesDerived

theorem withDefaults_sequencesDerived : Registry.withDefaults.SequencesDerived := by
  have primitives : ∀ (ps : List Primitive) (r : Registry), r.SequencesDerived →
      (ps.foldl registerPrimitive r).SequencesDerived := by
    intro ps
    induction ps with
    | nil => exact fun _ derived => derived
    | cons p ps ih => exact fun r derived => ih _ (derived.register fun _ same => by cases same)
  exact primitives Primitive.all _ SequencesDerived.empty

/-! ## What a lookup gives -/

/-- A walk that ends with a mapper ends at a key met for the first time, at a direct entry. -/
theorem walkOutcome_eq_ok {r : Registry} {seen passed : List TypeKey} {last : TypeKey} {m : Mapper}
    (ok : r.walkOutcome seen passed last = .ok m) :
    last ∉ seen ∧ last ∉ passed ∧ ∃ t, r.link last = .terminal t ∧ m = r.compose passed t := by
  unfold walkOutcome at ok
  split at ok
  · cases ok
  · rename_i fresh
    simp only [not_or] at fresh
    split at ok
    · rename_i t ends
      cases ok
      exact ⟨fresh.1, fresh.2, t, ends, rfl⟩
    · cases ok

/-- A walk that meets no key twice is the same walk after forgetting some of the keys seen
before it. -/
theorem Walk.forget {r : Registry} {seen passed : List TypeKey} {key last : TypeKey}
    (walk : r.Walk seen key passed last) {fewer : List TypeKey} (within : ∀ k ∈ fewer, k ∈ seen)
    (fresh : last ∉ seen ∧ last ∉ passed) : r.Walk fewer key passed last := by
  induction walk generalizing fewer with
  | revisit seenBefore => exact absurd seenBefore fresh.1
  | halt unseen stops => exact .halt (fun member => unseen (within _ member)) stops
  | @pass seen key next last passed unseen goesOn _ ih =>
    have notKey : last ≠ key := fun same => fresh.2 (by simp [same])
    refine .pass (fun member => unseen (within _ member)) goesOn (ih ?_ ?_)
    · intro k member
      rcases List.mem_cons.mp member with rfl | earlier
      · exact List.mem_cons_self
      · exact List.mem_cons_of_mem _ (within k earlier)
    · simp only [List.mem_cons, not_or]
      exact ⟨⟨notKey, fresh.1⟩, fun member => fresh.2 (List.mem_cons_of_mem _ member)⟩

theorem walkOutcome_forget {r : Registry} {seen fewer passed : List TypeKey} {last : TypeKey}
    (within : ∀ k ∈ fewer, k ∈ seen) (fresh : last ∉ seen) :
    r.walkOutcome fewer passed last = r.walkOutcome seen passed last := by
  by_cases again : last ∈ passed
  · simp [walkOutcome, again]
  · have unseen : last ∉ fewer := fun member => fresh (within _ member)
    simp [walkOutcome, again, fresh, unseen]

/-- A well-keyed registry gives a mapper the key it was looked up by. -/
theorem WellKeyed.lookup_key {r : Registry} (keyed : r.WellKeyed) {key : TypeKey} {m : Mapper}
    (gives : (r.lookup key).map Prod.fst = .ok m) : m.key = key := by
  obtain ⟨passed, last, walk, outcome⟩ := (lookup_outcome_iff_walk r key _).mp gives
  obtain ⟨_, _, t, ends, rfl⟩ := walkOutcome_eq_ok outcome
  exact keyed.compose_key walk ends

/-- Where sequences are derived, a sequence key gives the list mapper over the mapper the
registry gives for the element. The walk from the sequence key passes it and goes on from the
element; having met no key twice, it is the walk from the element alone. -/
theorem SequencesDerived.lookup_list {r : Registry} (derived : r.SequencesDerived)
    {element : TypeKey} {m : Mapper} (gives : (r.lookup (.list element)).map Prod.fst = .ok m) :
    ∃ inner, (r.lookup element).map Prod.fst = .ok inner ∧ m = .list inner := by
  obtain ⟨passed, last, walk, outcome⟩ := (lookup_outcome_iff_walk r _ _).mp gives
  have linked := derived.link element
  cases walk with
  | revisit seenBefore => cases seenBefore
  | halt _ stops => simp [next?, linked, Link.next?] at stops
  | @pass _ _ next _ passed _ goesOn rest =>
    have sameNext : next = element := by
      simpa [next?, linked, Link.next?] using goesOn.symm
    subst sameNext
    rw [walkOutcome_cons, linked] at outcome
    cases inner : r.walkOutcome [.list next] passed last with
    | error e =>
      rw [inner] at outcome
      cases outcome
    | ok inner' =>
      rw [inner] at outcome
      cases outcome
      obtain ⟨unseen, unpassed, _⟩ := walkOutcome_eq_ok inner
      have within : ∀ k ∈ ([] : List TypeKey), k ∈ [TypeKey.list next] := by simp
      refine ⟨inner', (lookup_outcome_iff_walk r next _).mpr ⟨passed, last, ?_, ?_⟩, rfl⟩
      · exact rest.forget within ⟨unseen, unpassed⟩
      · rw [walkOutcome_forget within unseen, inner]

/-! ## Element typing -/

/-- What element typing asks of the element mapper `o` found for `m`: there is one exactly when
`m`'s native descriptor is a list, and it has the list's element type. -/
def TypesElements (m : Mapper) (o : Outcome Mapper) : Prop :=
  ((∃ element, o = .ok element) ↔ ∃ items e, m.native = .list items e) ∧
    ∀ element items e, o = .ok element → m.native = .list items e →
      element.native.sameType e = true

theorem TypesElements.congr {m : Mapper} {o o' : Outcome Mapper} (typed : TypesElements m o)
    (same : ∀ element, o' = .ok element ↔ o = .ok element) : TypesElements m o' := by
  obtain ⟨exists_iff, sameType⟩ := typed
  refine ⟨?_, fun element items e found listed => sameType element items e ((same _).mp found) listed⟩
  rw [← exists_iff]
  exact exists_congr same

/-- A descriptor has the type of its own typed NULL. -/
theorem sameType_asNull_self (v : Value) : v.asNull.sameType v = true := by
  cases v with
  | list items element =>
    rw [Value.asNull, Value.sameType]
    exact Value.sameType_refl element
  | _ => rfl

/-- Under a named key the native descriptor decides: a list descriptor gives a passthrough of
its element descriptor, which has that descriptor's type. -/
theorem typesElements_of_named {r : Registry} {m : Mapper} {t : DatumType}
    (named : m.key = .named t) : TypesElements m ((r.elementOf m).map Prod.fst) := by
  -- under a named key, the element mapper passes the element descriptor of a list through
  have byNative : ∀ element, (r.elementOf m).map Prod.fst = .ok element ↔
      ∃ items e, m.native = .list items e ∧ element = .passthrough e := by
    intro element
    simp only [elementOf, named]
    cases m.native <;> simp [Except.map, Outcome.fail, eq_comm]
  refine ⟨⟨?_, ?_⟩, fun element items e found listed => ?_⟩
  · rintro ⟨element, found⟩
    obtain ⟨items, e, listed, _⟩ := (byNative element).mp found
    exact ⟨items, e, listed⟩
  · rintro ⟨items, e, listed⟩
    exact ⟨_, (byNative _).mpr ⟨items, e, listed, rfl⟩⟩
  · obtain ⟨items', e', listed', rfl⟩ := (byNative element).mp found
    rw [listed] at listed'
    cases listed'
    exact sameType_asNull_self e

/-- Under a sequence key the element mapper is the registry's mapper of the element type, which a
list mapper over it has as the element type of its descriptor. -/
theorem typesElements_of_list {r : Registry} (keyed : r.WellKeyed) {element : TypeKey}
    {inner : Mapper} (gives : (r.lookup element).map Prod.fst = .ok inner) :
    TypesElements (.list inner) ((r.elementOf (.list inner)).map Prod.fst) := by
  have innerKey := keyed.lookup_key gives
  have found : (r.elementOf (.list inner)).map Prod.fst = .ok inner := by
    simp only [elementOf, Mapper.key, innerKey]
    exact gives
  rw [found]
  refine ⟨⟨fun _ => ⟨none, inner.native.asNull, rfl⟩, fun _ => ⟨inner, rfl⟩⟩,
    fun element items e same listed => ?_⟩
  cases same
  simp only [Mapper.native, Value.listOf, Value.list.injEq] at listed
  rw [← listed.2, Value.sameType_asNull_right]
  exact Value.sameType_refl _

/-- Every mapper that a well-keyed registry with derived sequences gives has its elements
typed. -/
theorem typesElements_of_gives {r : Registry} (keyed : r.WellKeyed)
    (derived : r.SequencesDerived) {m : Mapper} (gives : r.Gives m) :
    TypesElements m ((r.elementOf m).map Prod.fst) := by
  obtain ⟨key, looked⟩ := gives
  cases key with
  | named t => exact typesElements_of_named (keyed.lookup_key looked)
  | list element =>
    obtain ⟨inner, innerGiven, rfl⟩ := derived.lookup_list looked
    exact typesElements_of_list keyed innerGiven

/-- What a lookup gives, the registry it leaves gives too. -/
theorem gives_of_lookup {r r' : Registry} {key : TypeKey} {m : Mapper}
    (looked : r.lookup key = .ok (m, r')) : r'.Gives m := by
  refine ⟨key, ?_⟩
  rw [← lookup_of_sameLinks (sameLinks_of_lookup looked), looked]
  rfl

end Registry

open Registry

/-- Element typing of sequences, where every sequence key of the registry holds a derived
sequence: a mapper that a lookup gives has an element mapper, in the registry the lookup leaves,
exactly when its native descriptor is a list, and that element mapper has the list's element type.
The parser indexes a value of that mapper on the same terms, and an index node over a node
decoded with that mapper is decoded with the element mapper. -/
theorem element_typing_of_derived_sequences {r r' : Registry} {key : TypeKey} {m : Mapper}
    (reachable : r.Reachable) (derived : r.SequencesDerived)
    (looked : r.lookup key = .ok (m, r')) :
    TypesElements m ((r'.elementOf m).map Prod.fst) ∧
      (∀ (path : String) (position : PathPosition), position.mapper = .ok m →
        TypesElements m ((PathWalk.elementAt path position).outcome r')) ∧
      ∀ (c : Compiler) (n : Node) (i : Nat), (c.decodeMapper n).outcome r' = .ok m →
        TypesElements m ((c.decodeMapper (.index n i)).outcome r') := by
  have typed : TypesElements m ((r'.elementOf m).map Prod.fst) :=
    typesElements_of_gives (reachable.wellKeyed.lookup looked) (derived.lookup looked)
      (gives_of_lookup looked)
  refine ⟨typed, fun path position mapped => typed.congr fun element => ?_,
    fun c n i decoded => typed.congr fun element => ?_⟩
  · -- the parser asks for the element mapper of the position's mapper
    rw [PathWalk.elementAt_ok_iff, mapped]
    simp
  · -- an index node decodes its base, then asks for the element mapper
    rw [Compiler.decodeMapper_index,
      Resolve.outcome_bind (c.decodeMapper_steady r' n) fun m => Resolve.Steady.elementOf m r',
      decoded]
    show (Resolve.elementOf m).outcome r' = .ok element ↔ _
    rw [(Resolve.Runs.elementOf m r').outcome_eq]

namespace ElementSamples

open Registry

/-- The registry of primitives after looking up the sequence of 64-bit integers. -/
def integersLooked : Registry :=
  withDefaults.insertIfAbsent (.list (.named .i64)) (.derived (.named .i64))

theorem defaults_integer_sequence_elements_typed :
    withDefaults.lookup (.list (.named .i64)) = .ok (.list (.primitive .i64), integersLooked) ∧
      TypesElements (.list (.primitive .i64))
        ((integersLooked.elementOf (.list (.primitive .i64))).map Prod.fst) := by
  have looked : withDefaults.lookup (.list (.named .i64)) =
      .ok (.list (.primitive .i64), integersLooked) := by
    cbv
  exact ⟨looked, (element_typing_of_derived_sequences withDefaults_reachable
    withDefaults_sequencesDerived looked).1⟩

/-- The registry of primitives with the sequence of 64-bit integers stored through text. -/
def integersThroughText : Registry :=
  withDefaults.insert (.list (.named .i64)) (.via (.named .string) default)

/-- Element typing fails off its hypotheses. A sequence key registered through text gives a mapper
with a text descriptor whose elements are still looked up, as 64-bit integers. And the list
mapper that the primitives give for the sequence of 64-bit integers, once 64-bit integers are
registered again as text, indexes with the text mapper while its descriptor still lists 64-bit
integers. -/
theorem element_typing_fails_off_current_sequences :
    (withDefaults.registerVia (.list (.named .i64)) (.named .string) default =
        .ok integersThroughText ∧ integersThroughText.Reachable ∧
      integersThroughText.lookup (.list (.named .i64)) =
        .ok (.chain (.list (.named .i64)) (.primitive .string) default, integersThroughText) ∧
      (Mapper.chain (.list (.named .i64)) (.primitive .string) default).native = .varchar none ∧
      integersThroughText.elementOf (.chain (.list (.named .i64)) (.primitive .string) default) =
        .ok (.primitive .i64, integersThroughText)) ∧
    ((withDefaults.register (.custom .integerAsText)).elementOf (.list (.primitive .i64)) =
        .ok (.custom .integerAsText, withDefaults.register (.custom .integerAsText)) ∧
      (Mapper.list (.primitive .i64)).native = .list none (.int64 none) ∧
      (Mapper.custom .integerAsText).native = .varchar none) := by
  have registered : withDefaults.registerVia (.list (.named .i64)) (.named .string) default =
      .ok integersThroughText := by
    cbv
  refine ⟨⟨registered, withDefaults_reachable.registerVia registered, by cbv, rfl, by cbv⟩,
    by cbv, rfl, rfl⟩

end ElementSamples

end RelMap
