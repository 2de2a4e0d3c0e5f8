import RelMap.Mapper.Registry
import Mathlib.Logic.Function.Iterate

/-!
# Lookup follows the successor walk

Every key of a registry has a successor link: a key stored through another type goes on to that
type, a sequence entry or a sequence key without entry goes on to its element, a direct entry
ends the walk with its mapper, and a named key without entry ends it with nothing. The walk from
a key follows these links until it meets a key it has passed or a key without successor.

This module states the walk on its own, as the keys it passes and the key where it stops, and
proves that looking a key up gives exactly what its walk determines: a cycle failure naming the
first key met twice, a not-found failure naming a key without entry, and otherwise the mapper
built back along the walk from the direct entry where it ends. The walk always ends, and it is
the only one from its key.

For a registry built through the registry's own operations every direct entry sits at its
mapper's key and every derived sequence at the key of its sequence, and then the mapper built
along a walk has the looked-up key and the direct mapper's native descriptor, wrapped as a list
descriptor once for every sequence step.
-/

namespace RelMap

set_option autoImplicit false

/-- Where the successor walk goes from a key. -/
inductive Link where
  /-- A direct entry: the walk ends with its mapper. -/
  | terminal (m : Mapper)
  /-- Stored through another type: the walk goes on to that type. -/
  | via (intermediate : TypeKey) (step : Step)
  /-- A sequence: the walk goes on to its element type. -/
  | element (element : TypeKey)
  /-- A named type without entry: the walk ends without a mapper. -/
  | missing
  deriving Inhabited

namespace Link

/-- The key the walk goes on to. -/
def next? : Link → Option TypeKey
  | .via intermediate _ => some intermediate
  | .element next => some next
  | .terminal _ | .missing => none

/-- The mapper built at `key` over the mapper of the key after it. -/
def wrap (key : TypeKey) (inner : Mapper) : Link → Mapper
  | .via _ step => .chain key inner step
  | .element _ => .list inner
  | .terminal _ | .missing => inner

/-- The context put at `key` over a failure further along the walk. -/
def context? (key : TypeKey) : Link → Option Problem
  | .via _ _ => some (.resolvingVia key.name)
  | _ => none

/-- Whether the walk goes on to the element of a sequence. -/
def isElement : Link → Bool
  | .element _ => true
  | _ => false

/-- What a link makes at `key` of the outcome further along the walk: a mapper is wrapped, a
failure gets the key's context. -/
def carry (key : TypeKey) (l : Link) : Outcome Mapper → Outcome Mapper
  | .ok inner => .ok (l.wrap key inner)
  | .error e =>
      match l.context? key with
      | some layer => .error (e.within layer)
      | none => .error e

end Link

/-- The successor link of an entry. -/
def Entry.link : Entry → Link
  | .direct m => .terminal m
  | .via intermediate step => .via intermediate step
  | .derived element => .element element

namespace Registry

/-- The successor link of a key: its entry's, or, for a key without entry, the element of a
sequence key and nothing for a named key. -/
def link (r : Registry) (key : TypeKey) : Link :=
  match r.find? key with
  | some entry => entry.link
  | none =>
      match key with
      | .list element => .element element
      | .named _ => .missing

/-- The successor of a key. -/
def next? (r : Registry) (key : TypeKey) : Option TypeKey := (r.link key).next?

/-- `r.Walk seen key passed last`: the successor walk from `key`, after the keys of `seen`, passes
the keys `passed` in order and stops at `last`, a key passed before or a key without successor. -/
inductive Walk (r : Registry) : List TypeKey → TypeKey → List TypeKey → TypeKey → Prop
  | revisit {seen : List TypeKey} {key : TypeKey} : key ∈ seen → Walk r seen key [] key
  | halt {seen : List TypeKey} {key : TypeKey} :
      key ∉ seen → r.next? key = none → Walk r seen key [] key
  | pass {seen : List TypeKey} {key next last : TypeKey} {passed : List TypeKey} :
      key ∉ seen → r.next? key = some next → Walk r (key :: seen) next passed last →
      Walk r seen key (key :: passed) last

/-- The mapper built back along the keys passed, from the mapper where the walk ends. -/
def compose (r : Registry) (passed : List TypeKey) (terminal : Mapper) : Mapper :=
  passed.foldr (fun key inner => (r.link key).wrap key inner) terminal

/-- How many of the keys passed go on to the element of a sequence. -/
def sequenceSteps (r : Registry) (passed : List TypeKey) : Nat :=
  passed.countP fun key => (r.link key).isElement

/-- What a lookup gives for a walk: a cycle at a key met twice, a missing mapper at a key
without successor or entry, and otherwise the mapper built back along the walk. A failure
carries the context of each key passed through an intermediate type, the first outermost. -/
def walkOutcome (r : Registry) (seen passed : List TypeKey) (last : TypeKey) : Outcome Mapper :=
  let context := passed.filterMap fun key => (r.link key).context? key
  if last ∈ seen ∨ last ∈ passed then .error ⟨context, .fault (.cyclicMapper last.name)⟩
  else
    match r.link last with
    | .terminal m => .ok (r.compose passed m)
    | _ => .error ⟨context, .fault (.mapperNotFound last.name)⟩

theorem walkOutcome_cons (r : Registry) (seen passed : List TypeKey) (key last : TypeKey) :
    r.walkOutcome seen (key :: passed) last =
      (r.link key).carry key (r.walkOutcome (key :: seen) passed last) := by
  have sameCycle :
      (last ∈ seen ∨ last ∈ key :: passed) ↔ (last ∈ key :: seen ∨ last ∈ passed) := by
    simp only [List.mem_cons]
    constructor
    · rintro (h | h | h) <;> simp [h]
    · rintro ((h | h) | h) <;> simp [h]
  unfold walkOutcome
  by_cases cycle : last ∈ key :: seen ∨ last ∈ passed
  · simp only [if_pos (sameCycle.mpr cycle), if_pos cycle]
    cases layer : (r.link key).context? key <;> simp [Link.carry, layer, Failure.within]
  · simp only [if_neg (mt sameCycle.mp cycle), if_neg cycle]
    cases (r.link last) <;> cases layer : (r.link key).context? key <;>
      simp [Link.carry, compose, layer, Failure.within]

theorem link_of_found {r : Registry} {key found : TypeKey} {entry : Entry}
    (h : r.entries.find? (fun entry => entry.1 == key) = some (found, entry)) :
    r.link key = entry.link := by
  simp [link, find?, h]

theorem link_list_of_not_found {r : Registry} {element : TypeKey}
    (h : r.entries.find? (fun entry => entry.1 == .list element) = none) :
    r.link (.list element) = .element element := by
  simp [link, find?, h]

theorem link_named_of_not_found {r : Registry} {t : DatumType}
    (h : r.entries.find? (fun entry => entry.1 == .named t) = none) :
    r.link (.named t) = .missing := by
  simp [link, find?, h]

/-- A fresh key whose link goes on: its walk is the walk of its successor with the key in front,
and its outcome is the successor's put through the link. -/
theorem walk_through_link {r : Registry} {visiting : List TypeKey} {key next : TypeKey}
    {inner result : Outcome Mapper} (fresh : key ∉ visiting)
    (goesOn : (r.link key).next? = some next)
    (rest : ∃ passed last, r.Walk (key :: visiting) next passed last ∧
      inner = r.walkOutcome (key :: visiting) passed last)
    (through : result = (r.link key).carry key inner) :
    ∃ passed last, r.Walk visiting key passed last ∧
      result = r.walkOutcome visiting passed last := by
  obtain ⟨passed, last, walk, outcome⟩ := rest
  refine ⟨key :: passed, last, .pass fresh goesOn walk, ?_⟩
  rw [walkOutcome_cons, through, outcome]

/-- Resolution from any stack of visited keys gives what the walk from there determines. The
induction follows the recursion of `resolve`: each recursive call passes one fresh key. -/
theorem resolve_follows_walk (r : Registry) (visiting : List TypeKey) (key : TypeKey) :
    ∃ passed last, r.Walk visiting key passed last ∧
      (resolve r.entries visiting key).map Prod.fst = r.walkOutcome visiting passed last := by
  fun_induction resolve r.entries visiting key with
  | case1 visiting key seen =>
      refine ⟨[], key, .revisit seen, ?_⟩
      simp [walkOutcome, seen, Outcome.fault, Failure.ofFault, Failure.of, Except.map]
  | case2 visiting key fresh _ m found =>
      have linked : r.link key = .terminal m := link_of_found found
      refine ⟨[], key, .halt fresh (by simp [next?, linked, Link.next?]), ?_⟩
      simp [walkOutcome, fresh, linked, compose, Except.map]
  | case3 visiting key fresh _ intermediate step found _ via derived resolved ih =>
      have linked : r.link key = .via intermediate step := link_of_found found
      exact walk_through_link fresh (by simp [linked, Link.next?]) ih
        (by rw [resolved, linked]; rfl)
  | case4 visiting key fresh _ intermediate step found _ e failed ih =>
      have linked : r.link key = .via intermediate step := link_of_found found
      exact walk_through_link fresh (by simp [linked, Link.next?]) ih
        (by rw [failed, linked]; rfl)
  | case5 visiting key fresh _ element found _ m derived resolved ih =>
      have linked : r.link key = .element element := link_of_found found
      exact walk_through_link fresh (by simp [linked, Link.next?]) ih
        (by rw [resolved, linked]; rfl)
  | case6 visiting key fresh _ element found _ e failed ih =>
      have linked : r.link key = .element element := link_of_found found
      exact walk_through_link fresh (by simp [linked, Link.next?]) ih
        (by rw [failed, linked]; rfl)
  | case7 visiting element m derived resolved fresh found ih =>
      have linked : r.link (.list element) = .element element := link_list_of_not_found found
      exact walk_through_link fresh (by simp [linked, Link.next?]) ih
        (by rw [resolved, linked]; rfl)
  | case8 visiting element e failed fresh found ih =>
      have linked : r.link (.list element) = .element element := link_list_of_not_found found
      exact walk_through_link fresh (by simp [linked, Link.next?]) ih
        (by rw [failed, linked]; rfl)
  | case9 visiting t fresh found =>
      have linked : r.link (.named t) = .missing := link_named_of_not_found found
      refine ⟨[], .named t, .halt fresh (by simp [next?, linked, Link.next?]), ?_⟩
      simp [walkOutcome, fresh, linked, Outcome.fault, Failure.ofFault, Failure.of, Except.map]

theorem Walk.unique {r : Registry} {seen passed passed' : List TypeKey} {key last last' : TypeKey}
    (walk : r.Walk seen key passed last) (other : r.Walk seen key passed' last') :
    passed = passed' ∧ last = last' := by
  induction walk generalizing passed' last' with
  | revisit seenBefore =>
      cases other with
      | revisit _ => exact ⟨rfl, rfl⟩
      | halt fresh _ => exact absurd seenBefore fresh
      | pass fresh _ _ => exact absurd seenBefore fresh
  | halt fresh stops =>
      cases other with
      | revisit seenBefore => exact absurd seenBefore fresh
      | halt _ _ => exact ⟨rfl, rfl⟩
      | pass _ goesOn _ => simp [stops] at goesOn
  | pass fresh goesOn rest ih =>
      cases other with
      | revisit seenBefore => exact absurd seenBefore fresh
      | halt _ stops => simp [stops] at goesOn
      | pass _ goesOn' rest' =>
          rw [goesOn] at goesOn'
          cases goesOn'
          obtain ⟨samePassed, sameLast⟩ := ih rest'
          exact ⟨by rw [samePassed], sameLast⟩

theorem lookup_map_fst (r : Registry) (key : TypeKey) :
    (r.lookup key).map Prod.fst = (resolve r.entries [] key).map Prod.fst := by
  cases resolved : resolve r.entries [] key <;> simp [lookup, resolved, Except.map]

/-- The outcome of a lookup is the outcome of the walk from the key, and of no other walk. -/
theorem lookup_outcome_iff_walk (r : Registry) (key : TypeKey) (o : Outcome Mapper) :
    (r.lookup key).map Prod.fst = o ↔
      ∃ passed last, r.Walk [] key passed last ∧ r.walkOutcome [] passed last = o := by
  obtain ⟨passed, last, walk, outcome⟩ := resolve_follows_walk r [] key
  rw [lookup_map_fst, outcome]
  constructor
  · intro reached
    exact ⟨passed, last, walk, reached⟩
  · rintro ⟨passed', last', walk', reached⟩
    obtain ⟨rfl, rfl⟩ := walk.unique walk'
    exact reached

/-- The mapper built along a walk has the direct mapper's native descriptor, wrapped as a list
descriptor once for every sequence step: a chained mapper keeps its intermediate's descriptor. -/
theorem compose_native (r : Registry) (passed : List TypeKey) (terminal : Mapper) :
    (r.compose passed terminal).native = Value.listOf^[r.sequenceSteps passed] terminal.native := by
  induction passed with
  | nil => rfl
  | cons key passed ih =>
      have composeCons : r.compose (key :: passed) terminal =
          (r.link key).wrap key (r.compose passed terminal) := rfl
      have stepsCons : r.sequenceSteps (key :: passed) =
          r.sequenceSteps passed + if (r.link key).isElement then 1 else 0 := by
        simp [sequenceSteps, List.countP_cons]
      rw [composeCons, stepsCons]
      cases (r.link key) with
      | element _ =>
          simp only [Link.wrap, Mapper.native, Link.isElement, if_true, ih]
          rw [Function.iterate_succ_apply']
      | via _ _ => simp [Link.wrap, Mapper.native, Link.isElement, ih]
      | terminal _ => simp [Link.wrap, Link.isElement, ih]
      | missing => simp [Link.wrap, Link.isElement, ih]

end Registry

/-- The key an entry fits: a direct mapper its own key, a derived sequence the key of the
sequence of its element, and an entry through an intermediate type any key. -/
def Entry.FitsKey : Entry → TypeKey → Prop
  | .direct m, key => m.key = key
  | .via _ _, _ => True
  | .derived element, key => key = .list element

namespace Registry

/-- Every entry sits at a key it fits. -/
def WellKeyed (r : Registry) : Prop :=
  ∀ key entry, (key, entry) ∈ r.entries → entry.FitsKey key

theorem find?_mem {r : Registry} {key : TypeKey} {entry : Entry} (h : r.find? key = some entry) :
    (key, entry) ∈ r.entries := by
  obtain ⟨found, foundIn, rfl⟩ := Option.map_eq_some_iff.mp h
  have sameKey : found.1 = key := by simpa using List.find?_some foundIn
  have member := List.mem_of_find?_eq_some foundIn
  rw [← sameKey]
  exact member

theorem WellKeyed.empty : Registry.empty.WellKeyed := by
  intro key entry member
  simp [Registry.empty] at member

theorem mem_insert {r : Registry} {key k : TypeKey} {entry e : Entry}
    (member : (k, e) ∈ (r.insert key entry).entries) :
    (k = key ∧ e = entry) ∨ (k, e) ∈ r.entries := by
  unfold Registry.insert at member
  split at member
  · obtain ⟨old, oldIn, replaced⟩ := List.mem_map.mp member
    by_cases same : old.1 == key
    · simp only [same, if_true, Prod.mk.injEq] at replaced
      exact .inl ⟨replaced.1.symm, replaced.2.symm⟩
    · simp only [same, Bool.false_eq_true, if_false] at replaced
      subst replaced
      exact .inr oldIn
  · rcases List.mem_append.mp member with old | new
    · exact .inr old
    · simp only [List.mem_singleton, Prod.mk.injEq] at new
      exact .inl new

theorem WellKeyed.insert {r : Registry} {key : TypeKey} {entry : Entry} (keyed : r.WellKeyed)
    (fits : entry.FitsKey key) : (r.insert key entry).WellKeyed := by
  intro k e member
  rcases mem_insert member with ⟨rfl, rfl⟩ | old
  · exact fits
  · exact keyed _ _ old

theorem WellKeyed.insertIfAbsent {r : Registry} {key : TypeKey} {entry : Entry}
    (keyed : r.WellKeyed) (fits : entry.FitsKey key) : (r.insertIfAbsent key entry).WellKeyed := by
  intro k e member
  unfold Registry.insertIfAbsent at member
  split at member
  · exact keyed _ _ member
  · rcases List.mem_append.mp member with old | new
    · exact keyed _ _ old
    · simp only [List.mem_singleton, Prod.mk.injEq] at new
      obtain ⟨rfl, rfl⟩ := new
      exact fits

theorem WellKeyed.recordDerived {r : Registry} (keyed : r.WellKeyed) (derived : List TypeKey) :
    (r.recordDerived derived).WellKeyed := by
  induction derived generalizing r with
  | nil => exact keyed
  | cons key rest ih =>
      simp only [Registry.recordDerived, List.foldl_cons]
      apply ih
      cases key with
      | list element => exact keyed.insertIfAbsent rfl
      | named _ => exact keyed

theorem WellKeyed.lookup {r r' : Registry} {key : TypeKey} {m : Mapper} (keyed : r.WellKeyed)
    (looked : r.lookup key = .ok (m, r')) : r'.WellKeyed := by
  unfold Registry.lookup at looked
  split at looked
  · cases looked
    exact keyed.recordDerived _
  · cases looked

theorem WellKeyed.registerVia {r r' : Registry} {key intermediate : TypeKey} {step : Step}
    (keyed : r.WellKeyed) (registered : r.registerVia key intermediate step = .ok r') :
    r'.WellKeyed := by
  unfold Registry.registerVia at registered
  split at registered
  · rename_i looked
    cases registered
    exact (keyed.lookup looked).insert trivial
  · cases registered

theorem WellKeyed.deriveArray {r r' : Registry} {element : TypeKey} {m : Mapper}
    (keyed : r.WellKeyed) (derived : r.deriveArray element = .ok (m, r')) : r'.WellKeyed := by
  unfold Registry.deriveArray at derived
  split at derived
  · cases derived
    exact (keyed.recordDerived _).insert rfl
  · cases derived

theorem WellKeyed.elementOf {r r' : Registry} {m element : Mapper} (keyed : r.WellKeyed)
    (found : r.elementOf m = .ok (element, r')) : r'.WellKeyed := by
  unfold Registry.elementOf at found
  split at found
  · exact keyed.lookup found
  · split at found
    · cases found
      exact keyed
    · cases found

theorem WellKeyed.terminal_key {r : Registry} {key : TypeKey} {m : Mapper} (keyed : r.WellKeyed)
    (linked : r.link key = .terminal m) : m.key = key := by
  unfold link at linked
  split at linked
  · rename_i entry found
    cases entry with
    | direct m' =>
        cases linked
        exact keyed _ _ (find?_mem found)
    | via _ _ => simp [Entry.link] at linked
    | derived _ => simp [Entry.link] at linked
  · split at linked <;> simp at linked

theorem WellKeyed.element_key {r : Registry} {key element : TypeKey} (keyed : r.WellKeyed)
    (linked : r.link key = .element element) : key = .list element := by
  unfold link at linked
  split at linked
  · rename_i entry found
    cases entry with
    | derived element' =>
        cases linked
        exact keyed _ _ (find?_mem found)
    | direct _ => simp [Entry.link] at linked
    | via _ _ => simp [Entry.link] at linked
  · split at linked
    · cases linked
      rfl
    · simp at linked

/-- The mapper built along a walk that ends at a direct entry has the key the walk started from.
The induction is on the walk: a chained mapper has its own key, and a list mapper the key of the
sequence of its element, which is the key passed. -/
theorem WellKeyed.compose_key {r : Registry} {seen passed : List TypeKey} {key last : TypeKey}
    {terminal : Mapper} (keyed : r.WellKeyed) (walk : r.Walk seen key passed last)
    (ends : r.link last = .terminal terminal) : (r.compose passed terminal).key = key := by
  induction walk with
  | revisit _ => exact keyed.terminal_key ends
  | halt _ _ => exact keyed.terminal_key ends
  | @pass seen key next last passed _ goesOn _ ih =>
      have composeCons : r.compose (key :: passed) terminal =
          (r.link key).wrap key (r.compose passed terminal) := rfl
      rw [composeCons]
      cases linked : r.link key with
      | via _ _ => rfl
      | element element =>
          have sameNext : next = element := by
            simpa [next?, linked, Link.next?] using goesOn.symm
          have isSequence := keyed.element_key linked
          simp only [Link.wrap, Mapper.key, ih (ends), sameNext, isSequence]
      | terminal _ => simp [next?, linked, Link.next?] at goesOn
      | missing => simp [next?, linked, Link.next?] at goesOn

/-- The registries that the registry's operations build from the empty registry. -/
inductive Reachable : Registry → Prop
  | empty : Reachable .empty
  | register {r : Registry} (m : Mapper) : Reachable r → Reachable (r.register m)
  | registerVia {r r' : Registry} {key intermediate : TypeKey} {step : Step} :
      Reachable r → r.registerVia key intermediate step = .ok r' → Reachable r'
  | deriveArray {r r' : Registry} {element : TypeKey} {m : Mapper} :
      Reachable r → r.deriveArray element = .ok (m, r') → Reachable r'
  | lookup {r r' : Registry} {key : TypeKey} {m : Mapper} :
      Reachable r → r.lookup key = .ok (m, r') → Reachable r'
  | elementOf {r r' : Registry} {m element : Mapper} :
      Reachable r → r.elementOf m = .ok (element, r') → Reachable r'

theorem Reachable.wellKeyed {r : Registry} (reachable : r.Reachable) : r.WellKeyed := by
  induction reachable with
  | empty => exact WellKeyed.empty
  | register m _ ih => exact ih.insert rfl
  | registerVia _ registered ih => exact ih.registerVia registered
  | deriveArray _ derived ih => exact ih.deriveArray derived
  | lookup _ looked ih => exact ih.lookup looked
  | elementOf _ found ih => exact ih.elementOf found

theorem Reachable.registerPrimitives {r : Registry} (reachable : r.Reachable)
    (primitives : List Primitive) : (primitives.foldl registerPrimitive r).Reachable := by
  induction primitives generalizing r with
  | nil => exact reachable
  | cons p rest ih => exact ih (reachable.register (.primitive p))

theorem withDefaults_reachable : Registry.withDefaults.Reachable :=
  Reachable.empty.registerPrimitives Primitive.all

/-- The resolution contract of the lookup of `key`. -/
structure ResolvesAlongWalk (r : Registry) (key : TypeKey) : Prop where
  /-- The lookup gives what the walk from the key determines, and no walk determines another
  outcome: a cycle failure, a not-found failure or the mapper built along the walk. -/
  outcome (o : Outcome Mapper) : (r.lookup key).map Prod.fst = o ↔
    ∃ passed last, r.Walk [] key passed last ∧ r.walkOutcome [] passed last = o
  /-- The mapper built along the walk to a direct entry has the looked-up key, and the direct
  mapper's native descriptor wrapped once for each sequence step. -/
  composed (passed : List TypeKey) (last : TypeKey) (m : Mapper) :
    r.Walk [] key passed last → r.link last = .terminal m →
      (r.compose passed m).key = key ∧
        (r.compose passed m).native = Value.listOf^[r.sequenceSteps passed] m.native

theorem lookup_resolves_along_walk {r : Registry} (reachable : r.Reachable) (key : TypeKey) :
    r.ResolvesAlongWalk key where
  outcome o := lookup_outcome_iff_walk r key o
  composed passed _ m walk ends :=
    ⟨reachable.wellKeyed.compose_key walk ends, compose_native r passed m⟩

theorem defaults_sequence_resolves_along_walk :
    Registry.withDefaults.Reachable ∧
      Registry.withDefaults.ResolvesAlongWalk (.list (.list (.named .i32))) :=
  ⟨withDefaults_reachable, lookup_resolves_along_walk withDefaults_reachable _⟩

end Registry

end RelMap
