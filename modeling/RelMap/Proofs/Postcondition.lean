import RelMap.Mapper.Registry
import Mathlib.Data.List.Forall2

/-!
# Postconditions of resolving computations

`x.Ensures P` says that whatever value `x` returns, from any registry, satisfies `P`. It is
partial correctness: a computation that fails ensures everything. The rules follow the shapes a
`do` block is made of, so a statement about a compiler is proved by walking its blocks in order.
-/

namespace RelMap

set_option autoImplicit false

namespace Resolve

variable {α β : Type}

/-- Every value the computation returns satisfies `P`. -/
def Ensures (x : Resolve α) (P : α → Prop) : Prop :=
  ∀ s a s', x.run.run s = (.ok a, s') → P a

theorem run_pure (a : α) (s : Registry) : (pure a : Resolve α).run.run s = (.ok a, s) := rfl

theorem Ensures.pure {a : α} {P : α → Prop} (holds : P a) : Ensures (Pure.pure a) P := by
  intro s b s' ran
  rw [run_pure] at ran
  cases ran
  exact holds

theorem Ensures.bind {x : Resolve α} {f : α → Resolve β} {Q : α → Prop} {P : β → Prop}
    (first : x.Ensures Q) (rest : ∀ a, Q a → (f a).Ensures P) : (x >>= f).Ensures P := by
  intro s b s' ran
  simp only [ExceptT.run_bind, StateT.run_bind] at ran
  rcases ranFirst : x.run.run s with ⟨_ | a, mid⟩
  · rw [ranFirst] at ran
    cases ran
  · rw [ranFirst] at ran
    exact rest a (first s a mid ranFirst) mid b s' ran

theorem Ensures.mono {x : Resolve α} {P Q : α → Prop} (ensures : x.Ensures P)
    (weaker : ∀ a, P a → Q a) : x.Ensures Q :=
  fun s a s' ran => weaker a (ensures s a s' ran)

theorem Ensures.and {x : Resolve α} {P Q : α → Prop} (first : x.Ensures P) (second : x.Ensures Q) :
    x.Ensures fun a => P a ∧ Q a :=
  fun s a s' ran => ⟨first s a s' ran, second s a s' ran⟩

theorem Ensures.of_forall {x : Resolve α} {P : α → Prop} (always : ∀ a, P a) : x.Ensures P :=
  fun _ a _ _ => always a

theorem Ensures.true (x : Resolve α) : x.Ensures fun _ => True :=
  Ensures.of_forall fun _ => trivial

/-- `x` returns `a` from some registry. -/
def Returns (x : Resolve α) (a : α) : Prop :=
  ∃ s s', x.run.run s = (.ok a, s')

theorem Ensures.returns (x : Resolve α) : x.Ensures x.Returns :=
  fun s _ s' ran => ⟨s, s', ran⟩

theorem Ensures.of_returns {x : Resolve α} {P : α → Prop} {a : α} (ensures : x.Ensures P)
    (returned : x.Returns a) : P a := by
  obtain ⟨s, s', ran⟩ := returned
  exact ensures s a s' ran

theorem Ensures.throw (e : Failure) (P : α → Prop) : (throw e : Resolve α).Ensures P := by
  intro s a s' ran
  cases ran

theorem Ensures.fail (p : Problem) (P : α → Prop) : (fail p : Resolve α).Ensures P :=
  Ensures.throw _ P

theorem Ensures.fault (f : Fault) (P : α → Prop) : (fault f : Resolve α).Ensures P :=
  Ensures.throw _ P

theorem Ensures.lift {o : Outcome α} {P : α → Prop} (holds : ∀ a, o = .ok a → P a) :
    (lift o).Ensures P := by
  cases o with
  | error e => exact Ensures.throw e P
  | ok a => exact Ensures.pure (holds a rfl)

/-- A computation run on each item returns, item by item, what it ensures of that item. -/
theorem Ensures.mapM {xs : List α} {f : α → Resolve β} {R : α → β → Prop}
    (each : ∀ a ∈ xs, (f a).Ensures (R a)) : (xs.mapM f).Ensures (List.Forall₂ R xs) := by
  induction xs with
  | nil => exact Ensures.pure .nil
  | cons a rest ih =>
    rw [List.mapM_cons]
    refine (each a List.mem_cons_self).bind fun b first => ?_
    have others := ih fun a' member => each a' (List.mem_cons_of_mem a member)
    exact others.bind fun bs rest => Ensures.pure (.cons first rest)

end Resolve

end RelMap
