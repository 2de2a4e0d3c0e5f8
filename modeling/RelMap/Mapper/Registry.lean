import RelMap.Mapper.Basic

/-!
# The type registry

The registry maps type keys to entries: a mapper given directly, a type stored through another
type (with the step between them), or a sequence derived from its element type. Registering a key
again replaces its entry.

Looking a key up follows the successor walk: an entry stored through another type goes on to that
type, a sequence entry, or a sequence key with no entry, goes on to its element; a direct entry
ends the walk. The walk fails with `The type mapper chain of K is cyclic` when it comes back to a
key it has visited, and with `No type mapper is registered for K` at a named key with no entry.
Otherwise the mapper is built back along the walk: a chained mapper over the mapper of the
stored-through type, a list mapper over its element's mapper. Failures below a stored-through type
get the context `While resolving the intermediate type of K`.

A sequence key met without an entry gets one once its lookup succeeds, so `contains` tells which
sequences have been looked up. The walk visits each registered key at most once and otherwise
only shrinks the key, so it ends.
-/

namespace RelMap

set_option autoImplicit false

/-- What the registry holds for a key. -/
inductive Entry where
  | direct (m : Mapper)
  /-- Stored through the type `intermediate`, converted by `step`. -/
  | via (intermediate : TypeKey) (step : Step)
  /-- The sequence of `element`, derived from the element's mapper. -/
  | derived (element : TypeKey)
  deriving Inhabited

/-- The registry's entries, each key at most once, in order of first registration. -/
structure Registry where
  entries : List (TypeKey × Entry)
  deriving Inhabited

namespace Registry

/-- The registry with no entry. -/
def empty : Registry := ⟨[]⟩

/-- The entry of a key. -/
def find? (r : Registry) (key : TypeKey) : Option Entry :=
  (r.entries.find? fun entry => entry.1 == key).map Prod.snd

def contains (r : Registry) (key : TypeKey) : Bool := (r.find? key).isSome

/-- Sets the entry of `key`, replacing the previous one. -/
def insert (r : Registry) (key : TypeKey) (entry : Entry) : Registry :=
  if r.contains key then
    ⟨r.entries.map fun old => if old.1 == key then (key, entry) else old⟩
  else ⟨r.entries ++ [(key, entry)]⟩

/-- Sets the entry of `key` only if it has none. -/
def insertIfAbsent (r : Registry) (key : TypeKey) (entry : Entry) : Registry :=
  if r.contains key then r else ⟨r.entries ++ [(key, entry)]⟩

/-- Registers a mapper for its key. -/
def register (r : Registry) (m : Mapper) : Registry := r.insert m.key (.direct m)

/-- Registers the primitive mapper of a primitive type. -/
def registerPrimitive (r : Registry) (p : Primitive) : Registry := r.register (.primitive p)

/-- The registry of every primitive type. -/
def withDefaults : Registry := Primitive.all.foldl registerPrimitive empty

/-- Registered keys not yet visited: the measure that a walk step through an entry lowers. -/
def unvisited (entries : List (TypeKey × Entry)) (visiting : List TypeKey) : Nat :=
  (entries.filter fun entry => entry.1 ∉ visiting).length

theorem unvisited_lt {entries : List (TypeKey × Entry)} {visiting : List TypeKey}
    {key : TypeKey} {found : TypeKey × Entry}
    (h : entries.find? (fun entry => entry.1 == key) = some found) (fresh : key ∉ visiting) :
    unvisited entries (key :: visiting) < unvisited entries visiting := by
  have mem := List.mem_of_find?_eq_some h
  have same : found.1 = key := by simpa using List.find?_some h
  unfold unvisited
  have split : entries.filter (fun entry => entry.1 ∉ key :: visiting) =
      (entries.filter fun entry => entry.1 ∉ visiting).filter (fun entry => entry.1 ≠ key) := by
    rw [List.filter_filter]
    congr 1
    funext entry
    simp only [List.mem_cons, not_or, Bool.decide_and]
  rw [split]
  apply List.length_filter_lt_length_iff_exists.mpr
  exact ⟨found, List.mem_filter.mpr ⟨mem, by simpa [same] using fresh⟩, by simp [same]⟩

/-- The walk from `key`, `visiting` holding the keys already passed: the mapper and the sequence
keys without entry met on the way, innermost first. -/
def resolve (entries : List (TypeKey × Entry)) (visiting : List TypeKey) (key : TypeKey) :
    Outcome (Mapper × List TypeKey) :=
  if fresh : key ∈ visiting then Outcome.fault (.cyclicMapper key.name)
  else
    match found : entries.find? (fun entry => entry.1 == key) with
    | some (_, .direct m) => .ok (m, [])
    | some (_, .via intermediate step) =>
        have := unvisited_lt found fresh
        match resolve entries (key :: visiting) intermediate with
        | .ok (via, derived) => .ok (.chain key via step, derived)
        | .error e => .error (e.within (.resolvingVia key.name))
    | some (_, .derived element) =>
        have := unvisited_lt found fresh
        match resolve entries (key :: visiting) element with
        | .ok (m, derived) => .ok (.list m, derived)
        | .error e => .error e
    | none =>
        match _shape : key with
        | .list element =>
            match resolve entries (.list element :: visiting) element with
            | .ok (m, derived) => .ok (.list m, derived ++ [.list element])
            | .error e => .error e
        | .named _ => Outcome.fault (.mapperNotFound key.name)
termination_by (unvisited entries visiting, key)
decreasing_by
  · exact Prod.Lex.left _ _ this
  · exact Prod.Lex.left _ _ this
  · apply Prod.Lex.right'
    · unfold unvisited
      apply Nat.le_of_eq
      congr 1
      apply List.filter_congr
      intro entry mem
      simp only [List.mem_cons, not_or, Bool.decide_and]
      have : entry.1 ≠ TypeKey.list element := by
        intro same
        have := List.find?_eq_none.mp found entry mem
        simp [same, _shape] at this
      simp [this]
    · simp

/-- Records the derived sequence entries met by a walk. -/
def recordDerived (r : Registry) (derived : List TypeKey) : Registry :=
  derived.foldl (fun acc key =>
    match key with
    | .list element => acc.insertIfAbsent key (.derived element)
    | .named _ => acc) r

/-- The mapper of `key`, and the registry with the sequences met on the way recorded. -/
def lookup (r : Registry) (key : TypeKey) : Outcome (Mapper × Registry) :=
  match resolve r.entries [] key with
  | .ok (m, derived) => .ok (m, r.recordDerived derived)
  | .error e => .error e

/-- Registers `key` as stored through `intermediate`, whose mapper must resolve. -/
def registerVia (r : Registry) (key intermediate : TypeKey) (step : Step) : Outcome Registry :=
  match r.lookup intermediate with
  | .ok (_, r) => .ok (r.insert key (.via intermediate step))
  | .error e => .error (e.within (.registeringVia key.name intermediate.name))

/-- Registers the sequence of `element`, whose mapper must resolve; gives the sequence's
mapper. -/
def deriveArray (r : Registry) (element : TypeKey) : Outcome (Mapper × Registry) :=
  match resolve r.entries [.list element] element with
  | .ok (m, derived) =>
      .ok (.list m, (r.recordDerived derived).insert (.list element) (.derived element))
  | .error e => .error e

/-- The mapper of the elements of a sequence mapper: the registry's mapper of the element type
for a sequence key, a passthrough of the element descriptor for another key whose native type is
a list, and a failure otherwise. -/
def elementOf (r : Registry) (m : Mapper) : Outcome (Mapper × Registry) :=
  match m.key with
  | .list element => r.lookup element
  | .named _ =>
      match m.native with
      | .list _ element => .ok (.passthrough element, r)
      | _ => Outcome.fail (.notSequence m.key.name)

end Registry

/-- Computations that read the registry, may record derived sequences in it, and may fail; what
they recorded stays recorded when a later step fails. -/
abbrev Resolve (α : Type) := ExceptT Failure (StateM Registry) α

namespace Resolve

/-- A failure whose cause is the given problem. -/
def fail {α : Type} (p : Problem) : Resolve α := throw (Failure.of p)

/-- A failure whose cause is a fault of the mapping layer. -/
def fault {α : Type} (f : Fault) : Resolve α := throw (Failure.ofFault f)

/-- A result computed without the registry. -/
def lift {α : Type} (o : Outcome α) : Resolve α :=
  match o with
  | .ok a => pure a
  | .error e => throw e

/-- Puts a context layer over a failure. -/
def within {α : Type} (layer : Problem) (x : Resolve α) : Resolve α :=
  tryCatch x fun e => throw (e.within layer)

/-- The mapper of a key, recording the sequences met on the way. -/
def lookup (key : TypeKey) : Resolve Mapper := do
  match (← get).lookup key with
  | .ok (m, r) => set r; pure m
  | .error e => throw e

/-- The element mapper of a sequence mapper. -/
def elementOf (m : Mapper) : Resolve Mapper := do
  match (← get).elementOf m with
  | .ok (element, r) => set r; pure element
  | .error e => throw e

end Resolve

end RelMap
