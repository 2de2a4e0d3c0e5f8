import RelMap.Proofs.SuccessorWalk

/-!
# Outcomes fixed by the successor links

Resolving computations read the registry only through lookups, whose outcome the successor links
of the keys fix (`lookup_outcome_iff_walk`), and change it only by recording derived sequence
entries, which leave every link as it was. So a computation built from lookups gives the same
outcome from any two registries with the same links, and leaves a registry with the links it was
run on. `Resolve.Runs x r o` says this of one outcome `o`: run from any registry with the links of
`r`, `x` gives `o` and keeps the links. It holds of the building blocks and is carried through a
`do` block step by step, each step run only on what the step before returned, so that what a
compiler or a table build returns can be worked out without following the registry through it.
-/

namespace RelMap

set_option autoImplicit false

namespace Registry

/-- Registries whose keys have the same successor links. -/
def SameLinks (r s : Registry) : Prop := r.link = s.link

theorem SameLinks.refl (r : Registry) : r.SameLinks r := rfl

theorem SameLinks.symm {r s : Registry} (same : r.SameLinks s) : s.SameLinks r := Eq.symm same

theorem SameLinks.trans {r s u : Registry} (first : r.SameLinks s) (second : s.SameLinks u) :
    r.SameLinks u := Eq.trans first second

theorem Walk.of_sameLinks {r s : Registry} (same : r.SameLinks s) {seen passed : List TypeKey}
    {key last : TypeKey} (walk : r.Walk seen key passed last) : s.Walk seen key passed last := by
  have links : r.link = s.link := same
  have nextSame : ∀ k, s.next? k = r.next? k := fun k => by simp only [next?, links]
  induction walk with
  | revisit seenBefore => exact .revisit seenBefore
  | halt fresh stops => exact .halt fresh (by rw [nextSame]; exact stops)
  | pass fresh goesOn _ ih => exact .pass fresh (by rw [nextSame]; exact goesOn) ih

theorem walkOutcome_of_sameLinks {r s : Registry} (same : r.SameLinks s)
    (seen passed : List TypeKey) (last : TypeKey) :
    r.walkOutcome seen passed last = s.walkOutcome seen passed last := by
  simp only [walkOutcome, compose, show r.link = s.link from same]

/-- Lookups cannot tell registries with the same links apart. -/
theorem lookup_of_sameLinks {r s : Registry} (same : r.SameLinks s) (key : TypeKey) :
    (r.lookup key).map Prod.fst = (s.lookup key).map Prod.fst := by
  obtain ⟨passed, last, walk, outcome⟩ := (lookup_outcome_iff_walk r key _).mp rfl
  exact ((lookup_outcome_iff_walk s key _).mpr
    ⟨passed, last, walk.of_sameLinks same, by rw [← walkOutcome_of_sameLinks same, outcome]⟩).symm

/-- Recording a sequence key without entry gives it the link it already had. -/
theorem sameLinks_insertIfAbsent_derived (r : Registry) (element : TypeKey) :
    r.SameLinks (r.insertIfAbsent (.list element) (.derived element)) := by
  unfold SameLinks insertIfAbsent
  split
  · rfl
  · rename_i absent
    funext k
    have notFound : r.entries.find? (fun entry => entry.1 == .list element) = none := by
      rcases found : r.entries.find? (fun entry => entry.1 == .list element) with _ | entry
      · exact found
      · simp [contains, find?, found] at absent
    by_cases same : k = .list element
    · subst same
      simp [link, find?, notFound, Entry.link]
    · rcases found : r.entries.find? (fun entry => entry.1 == k) with _ | entry
      · simp [link, find?, found, List.find?_append, Ne.symm same]
      · simp [link, find?, found, List.find?_append]

theorem sameLinks_recordDerived (r : Registry) (derived : List TypeKey) :
    r.SameLinks (r.recordDerived derived) := by
  induction derived generalizing r with
  | nil => exact .refl r
  | cons key rest ih =>
    simp only [recordDerived, List.foldl_cons]
    cases key with
    | list element => exact (sameLinks_insertIfAbsent_derived r element).trans (ih _)
    | named _ => exact ih r

theorem sameLinks_of_lookup {r r' : Registry} {key : TypeKey} {m : Mapper}
    (looked : r.lookup key = .ok (m, r')) : r.SameLinks r' := by
  unfold lookup at looked
  split at looked
  · cases looked
    exact sameLinks_recordDerived r _
  · cases looked

theorem sameLinks_of_elementOf {r r' : Registry} {m element : Mapper}
    (found : r.elementOf m = .ok (element, r')) : r.SameLinks r' := by
  unfold elementOf at found
  split at found
  · exact sameLinks_of_lookup found
  · split at found
    · cases found
      exact .refl r
    · cases found

theorem elementOf_of_sameLinks {r s : Registry} (same : r.SameLinks s) (m : Mapper) :
    (r.elementOf m).map Prod.fst = (s.elementOf m).map Prod.fst := by
  unfold elementOf
  split
  · exact lookup_of_sameLinks same _
  · split <;> rfl

end Registry

namespace Resolve

variable {α β : Type}

/-- What the computation gives when run on `r`, leaving out the registry it ends with. -/
def outcome (x : Resolve α) (r : Registry) : Outcome α := (x.run.run r).1

/-- Run from any registry with the links of `r`, the computation gives `o` and ends with a
registry that still has those links. -/
def Runs (x : Resolve α) (r : Registry) (o : Outcome α) : Prop :=
  ∀ s, r.SameLinks s → (x.run.run s).1 = o ∧ r.SameLinks (x.run.run s).2

variable {x : Resolve α} {r : Registry} {o : Outcome α}

theorem Runs.outcome_eq (runs : x.Runs r o) : x.outcome r = o := (runs r (.refl r)).1

/-- The outcome is the same from every registry with the links of `r`. -/
theorem Runs.outcome_of_sameLinks (runs : x.Runs r o) {s : Registry} (same : r.SameLinks s) :
    x.outcome s = o := (runs s same).1

theorem Runs.unique {o' : Outcome α} (runs : x.Runs r o) (runs' : x.Runs r o') : o = o' := by
  rw [← runs.outcome_eq, runs'.outcome_eq]

theorem run_bind (x : Resolve α) (f : α → Resolve β) (s : Registry) :
    (x >>= f).run.run s =
      match x.run.run s with
      | (.ok a, s') => (f a).run.run s'
      | (.error e, s') => (.error e, s') := by
  simp only [ExceptT.run_bind, StateT.run_bind]
  rcases x.run.run s with ⟨_ | a, s'⟩ <;> rfl

/-- The rest of a block runs on what its first step returned, from a registry that still has the
links of `r`. -/
theorem Runs.bind_ok {f : α → Resolve β} {a : α} {o' : Outcome β} (first : x.Runs r (.ok a))
    (rest : (f a).Runs r o') : (x >>= f).Runs r o' := by
  intro s same
  rw [run_bind]
  obtain ⟨returned, kept⟩ := first s same
  rcases ran : x.run.run s with ⟨_ | b, s'⟩ <;> rw [ran] at returned kept <;> cases returned
  exact rest s' kept

theorem Runs.bind_error {f : α → Resolve β} {e : Failure} (first : x.Runs r (.error e)) :
    (x >>= f).Runs r (.error e) := by
  intro s same
  rw [run_bind]
  obtain ⟨returned, kept⟩ := first s same
  rcases ran : x.run.run s with ⟨_ | b, s'⟩ <;> rw [ran] at returned kept <;> cases returned
  exact ⟨rfl, kept⟩

/-- A block runs as its steps' outcomes, bound in the outcome monad. -/
theorem Runs.bind {f : α → Resolve β} {g : α → Outcome β} (first : x.Runs r o)
    (rest : ∀ a, o = .ok a → (f a).Runs r (g a)) : (x >>= f).Runs r (o >>= g) := by
  cases o with
  | error e => exact first.bind_error
  | ok a => exact first.bind_ok (rest a rfl)

theorem Runs.pure (a : α) (r : Registry) : (Pure.pure a : Resolve α).Runs r (.ok a) :=
  fun _ same => ⟨rfl, same⟩

theorem Runs.throw (e : Failure) (r : Registry) :
    (MonadExcept.throw e : Resolve α).Runs r (.error e) :=
  fun _ same => ⟨rfl, same⟩

theorem Runs.fail (p : Problem) (r : Registry) :
    (fail p : Resolve α).Runs r (.error (Failure.of p)) := Runs.throw _ r

theorem Runs.fault (f : Fault) (r : Registry) :
    (fault f : Resolve α).Runs r (.error (Failure.ofFault f)) := Runs.throw _ r

theorem Runs.lift (o : Outcome α) (r : Registry) : (lift o).Runs r o := by
  cases o with
  | ok a => exact Runs.pure a r
  | error e => exact Runs.throw e r

theorem Runs.ite {c : Prop} [Decidable c] {y : Resolve α} {o' : Outcome α} (yes : x.Runs r o)
    (no : y.Runs r o') : (if c then x else y).Runs r (if c then o else o') := by
  split <;> assumption

theorem Runs.map (f : α → β) (runs : x.Runs r o) : (f <$> x).Runs r (f <$> o) := by
  rw [map_eq_pure_bind, map_eq_pure_bind]
  exact runs.bind fun a _ => Runs.pure (f a) r

theorem run_tryCatch (x : Resolve α) (h : Failure → Resolve α) (s : Registry) :
    (MonadExcept.tryCatch x h).run.run s =
      match x.run.run s with
      | (.ok a, s') => (.ok a, s')
      | (.error e, s') => (h e).run.run s' := by
  simp only [ExceptT.run_tryCatch, StateT.run_bind]
  rcases x.run.run s with ⟨_ | a, s'⟩ <;> rfl

theorem Runs.tryCatch_ok {h : Failure → Resolve α} {a : α} (first : x.Runs r (.ok a)) :
    (MonadExcept.tryCatch x h).Runs r (.ok a) := by
  intro s same
  rw [run_tryCatch]
  obtain ⟨returned, kept⟩ := first s same
  rcases ran : x.run.run s with ⟨_ | b, s'⟩ <;> rw [ran] at returned kept <;> cases returned
  exact ⟨rfl, kept⟩

theorem Runs.tryCatch_error {h : Failure → Resolve α} {e : Failure} (first : x.Runs r (.error e))
    (handler : (h e).Runs r o) : (MonadExcept.tryCatch x h).Runs r o := by
  intro s same
  rw [run_tryCatch]
  obtain ⟨returned, kept⟩ := first s same
  rcases ran : x.run.run s with ⟨_ | b, s'⟩ <;> rw [ran] at returned kept <;> cases returned
  exact handler s' kept

theorem Runs.within (layer : Problem) (runs : x.Runs r o) :
    (within layer x).Runs r (Outcome.within layer o) := by
  cases o with
  | ok a => exact runs.tryCatch_ok
  | error e => exact runs.tryCatch_error (Runs.throw _ r)

theorem run_lookup (key : TypeKey) (s : Registry) :
    (lookup key).run.run s =
      match s.lookup key with
      | .ok (m, s') => (.ok m, s')
      | .error e => (.error e, s) := by
  -- the block reads the registry and matches on its lookup
  rcases looked : s.lookup key with _ | ⟨m, s'⟩ <;>
  · show (match s.lookup key with
      | .ok (m, r) => (set r *> Pure.pure m : Resolve Mapper)
      | .error e => MonadExcept.throw e).run.run s = _
    rw [looked]
    rfl

theorem run_elementOf (m : Mapper) (s : Registry) :
    (elementOf m).run.run s =
      match s.elementOf m with
      | .ok (e, s') => (.ok e, s')
      | .error e => (.error e, s) := by
  rcases found : s.elementOf m with _ | ⟨e, s'⟩ <;>
  · show (match s.elementOf m with
      | .ok (e, r) => (set r *> Pure.pure e : Resolve Mapper)
      | .error e => MonadExcept.throw e).run.run s = _
    rw [found]
    rfl

/-- A lookup gives what the registry's lookup gives, from any registry with the same links. -/
theorem Runs.lookup (key : TypeKey) (r : Registry) :
    (lookup key).Runs r ((r.lookup key).map Prod.fst) := by
  intro s same
  have looked := Registry.lookup_of_sameLinks same key
  rw [run_lookup]
  rcases ranS : s.lookup key with e | ⟨m, s'⟩ <;> rw [ranS] at looked
  · exact ⟨by rw [looked]; rfl, same⟩
  · exact ⟨by rw [looked]; rfl, same.trans (Registry.sameLinks_of_lookup ranS)⟩

theorem Runs.elementOf (m : Mapper) (r : Registry) :
    (elementOf m).Runs r ((r.elementOf m).map Prod.fst) := by
  intro s same
  have found := Registry.elementOf_of_sameLinks same m
  rw [run_elementOf]
  rcases ranS : s.elementOf m with e | ⟨element, s'⟩ <;> rw [ranS] at found
  · exact ⟨by rw [found]; rfl, same⟩
  · exact ⟨by rw [found]; rfl, same.trans (Registry.sameLinks_of_elementOf ranS)⟩

end Resolve

end RelMap
