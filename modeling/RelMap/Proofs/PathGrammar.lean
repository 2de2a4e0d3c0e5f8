import RelMap.Proofs.SpelledPaths
import Mathlib

/-!
# The grammar of property paths

A property path is accepted exactly when the grammar spells it and every step can be taken from
where the walk stands. The grammar: a first segment, then steps `->name`, `.name` and `[digits]`,
where a name is a segment and the digits are a non-empty run of decimal digits whose value is
below 2^64 (`PathStep.Lexical`). The steps that can be taken (`PathStep.Goes`):

- `->name` right after a reference column (reached as a column, not after `.` or `[n]`) whose
  target table is in the catalog and has the column `name`;
- `.name` right after a virtual column that declares the child `name`;
- `[n]` after a column that is not virtual, or after a value, whose mapper has an element mapper
  in the registry.

An accepted path gives the node built from its first segment and its steps, in order; a refused
one fails with `Invalid property path` naming the path (`parsePath_accepts_grammar`).

Writing an accepted node back as a path gives the path again, each index in canonical decimal
(leading zeros dropped, `0` kept), and that text parses to the same node
(`describe_inverts_parsePath`).
-/

namespace RelMap

set_option autoImplicit false

open Resolve

namespace PathStep

/-- The step as the grammar spells it: a segment after `->` or `.`, or a non-empty run of decimal
digits between brackets whose value is below 2^64. -/
def Lexical : PathStep → Prop
  | follow name | child name => IsSegment name
  | index digits => digits.toList ≠ [] ∧ (∀ ch ∈ digits.toList, ch.isDigit = true) ∧
      digitsValue digits.toList < 2 ^ 64

theorem Lexical.wellFormed {step : PathStep} (lexical : step.Lexical) : step.WellFormed := by
  cases step with
  | follow name | child name => exact lexical
  | index digits => exact ⟨lexical.1, lexical.2.1⟩

/-- A step the schema and the registry allow from a position of the walk, and where it leads. -/
inductive Goes (catalog : Catalog) (r : Registry) : PathStep → PathPosition → PathPosition → Prop
  /-- `->name` from a reference column to the column `name` of its target table. -/
  | follow {c : Column} {m : Mapper} {target : Target} {t : Table} {col : Column} {name : String}
      (reference : c.kind = .reference m target) (known : catalog.find? target.table = some t)
      (column : t.column? name = some col) :
      Goes catalog r (.follow name) (.column c) (.column col)
  /-- `.name` from a virtual column to the value of its declared child `name`. -/
  | child {c : Column} {v : VirtualColumn} {child : VirtualChild} {name : String}
      (composite : c.kind = .composite v) (declared : v.child? name = some child) :
      Goes catalog r (.child name) (.column c) (.value child.mapper)
  /-- `[n]` from a position with a mapper to the value of the mapper's elements. -/
  | index {position : PathPosition} {m element : Mapper} {digits : String}
      (indexed : position.mapper = .ok m) (sequence : (r.elementOf m).map Prod.fst = .ok element) :
      Goes catalog r (.index digits) position (.value element)

/-- The steps taken one after the other from a position. -/
inductive Walks (catalog : Catalog) (r : Registry) : List PathStep → PathPosition → Prop
  | nil (position : PathPosition) : Walks catalog r [] position
  | cons {step : PathStep} {rest : List PathStep} {position next : PathPosition}
      (goes : Goes catalog r step position next) (walks : Walks catalog r rest next) :
      Walks catalog r (step :: rest) position

end PathStep

/-! ## One step of the walk -/

section Step

variable (catalog : Catalog) (path : String) (r : Registry)

open PathStep

theorem PathWalk.follow_ok_iff {name : String} {position : PathPosition} {col : Column} :
    (PathWalk.follow catalog path name position).outcome r = .ok col ↔
      Goes catalog r (.follow name) position (.column col) := by
  constructor
  · intro followed
    cases position with
    | value m => simp [PathWalk.follow] at followed
    | column c =>
      cases kind : c.kind with
      | scalar m => simp [PathWalk.follow, kind] at followed
      | composite v => simp [PathWalk.follow, kind] at followed
      | reference m target =>
        cases known : catalog.find? target.table with
        | none => simp [PathWalk.follow, kind, known] at followed
        | some t =>
          cases column : t.column? name with
          | none => simp [PathWalk.follow, kind, known, column] at followed
          | some col' =>
            have same : col' = col := by simpa [PathWalk.follow, kind, known, column] using followed
            subst same
            exact .follow kind known column
  · intro goes
    cases goes with
    | follow reference known column => simp [PathWalk.follow, reference, known, column]

theorem PathWalk.childOf_ok {name : String} {position : PathPosition} {child : VirtualChild}
    (found : (PathWalk.childOf path name position).outcome r = .ok child) :
    Goes catalog r (.child name) position (.value child.mapper) := by
  cases position with
  | value m => simp [PathWalk.childOf] at found
  | column c =>
    cases kind : c.kind with
    | scalar m => simp [PathWalk.childOf, kind] at found
    | reference m target => simp [PathWalk.childOf, kind] at found
    | composite v =>
      cases declared : v.child? name with
      | none => simp [PathWalk.childOf, kind, declared] at found
      | some child' =>
        have same : child' = child := by simpa [PathWalk.childOf, kind, declared] using found
        subst same
        exact .child kind declared

theorem PathWalk.elementAt_ok_iff {position : PathPosition} {element : Mapper} :
    (PathWalk.elementAt path position).outcome r = .ok element ↔
      ∃ m, position.mapper = .ok m ∧ (r.elementOf m).map Prod.fst = .ok element := by
  rw [PathWalk.elementAt_outcome]
  cases position.mapper with
  | error reason => simp
  | ok m =>
    dsimp only
    rw [(Runs.elementOf m r).outcome_eq]
    rcases found : r.elementOf m with e | ⟨found, r'⟩
    · simp [found, Except.map]
    · simp [found, Except.map]

/-- A mapped outcome succeeds exactly when the outcome does. -/
theorem Outcome.map_eq_ok_iff {α β : Type} {f : α → β} {o : Outcome α} {b : β} :
    f <$> o = .ok b ↔ ∃ a, o = .ok a ∧ f a = b := by
  cases o <;> simp [Functor.map, Except.map]

/-- A step the grammar spells is taken by the walk exactly when the schema and the registry
allow it. -/
theorem PathStep.move_ok_iff {step : PathStep} (lexical : step.Lexical) {position next : PathPosition} :
    (step.move catalog path position).outcome r = .ok next ↔ Goes catalog r step position next := by
  cases step with
  | follow name =>
    rw [PathStep.move, outcome_map _ (PathWalk.follow_steady catalog path r name position),
      Outcome.map_eq_ok_iff]
    constructor
    · rintro ⟨col, followed, rfl⟩
      exact (PathWalk.follow_ok_iff catalog path r).mp followed
    · intro goes
      cases goes with
      | follow reference known column =>
        exact ⟨_, (PathWalk.follow_ok_iff catalog path r).mpr (.follow reference known column), rfl⟩
  | child name =>
    rw [PathStep.move, outcome_map _ (PathWalk.childOf_steady path r name position),
      Outcome.map_eq_ok_iff]
    constructor
    · rintro ⟨child, found, rfl⟩
      exact PathWalk.childOf_ok catalog path r found
    · intro goes
      cases goes with
      | child composite declared =>
        exact ⟨_, by simp [PathWalk.childOf, composite, declared], rfl⟩
  | index digits =>
    rw [PathStep.move, if_neg (Nat.not_le.mpr lexical.2.2),
      outcome_map _ (PathWalk.elementAt_steady path r position), Outcome.map_eq_ok_iff]
    constructor
    · rintro ⟨element, found, rfl⟩
      obtain ⟨m, indexed, sequence⟩ := (PathWalk.elementAt_ok_iff path r).mp found
      exact .index indexed sequence
    · intro goes
      cases goes with
      | index indexed sequence =>
        exact ⟨_, (PathWalk.elementAt_ok_iff path r).mpr ⟨_, indexed, sequence⟩, rfl⟩

/-- Steps the grammar spells are all taken exactly when each is allowed where the one before
leads. -/
theorem moves_ok_iff : ∀ {steps : List PathStep}, (∀ step ∈ steps, step.Lexical) →
    ∀ {position : PathPosition},
      (∃ last, (moves catalog path steps position).outcome r = .ok last) ↔
        Walks catalog r steps position
  | [], _, position => ⟨fun _ => .nil position, fun _ => ⟨position, rfl⟩⟩
  | step :: rest, lexical, position => by
    have later : ∀ next, (∃ last, (moves catalog path rest next).outcome r = .ok last) ↔
        Walks catalog r rest next :=
      fun _ => moves_ok_iff fun s member => lexical s (List.mem_cons_of_mem _ member)
    rw [moves_cons, outcome_bind (step.move_steady catalog path position)
      fun next => moves_steady catalog path rest next]
    constructor
    · rintro ⟨last, walked⟩
      cases moved : (step.move catalog path position).outcome r with
      | error e => simp [moved, bind, Except.bind] at walked
      | ok next =>
        rw [moved] at walked
        exact .cons ((step.move_ok_iff catalog path r (lexical step List.mem_cons_self)).mp moved)
          ((later next).mp ⟨last, walked⟩)
    · intro walks
      cases walks with
      | cons goes walks =>
        rw [(step.move_ok_iff catalog path r (lexical step List.mem_cons_self)).mpr goes]
        exact (later _).mpr walks

end Step

/-! ## What an accepting walk has read -/

section Walk

variable (catalog : Catalog) (path : String) (r : Registry)

open PathStep

theorem isSegment_takeWhile {chars : List Char} (nonempty : ¬(chars.takeWhile isSegmentChar).isEmpty) :
    IsSegment (String.ofList (chars.takeWhile isSegmentChar)) := by
  refine ⟨by simpa using nonempty, fun ch member => ?_⟩
  rw [String.toList_ofList] at member
  exact List.mem_takeWhile_imp member

/-- A walk that accepts the rest of a path has read steps the grammar spells, each allowed where
it was taken, and gives the node built from them. -/
theorem walk_sound {node : Node} {position : PathPosition} {chars : List Char} {n : Node}
    (walked : (PathWalk.walk catalog path node position chars).outcome r = .ok n) :
    ∃ steps : List PathStep, chars = steps.flatMap (fun step => step.text.toList) ∧
      (∀ step ∈ steps, step.Lexical) ∧ Walks catalog r steps position ∧
      n = steps.foldl (fun n step => step.build n) node := by
  fun_induction PathWalk.walk catalog path node position chars with
  | case1 node position =>
    have same : node = n := by simpa using walked
    exact ⟨[], rfl, by simp, .nil position, by simp [same]⟩
  | case2 | case4 | case6 | case7 | case9 | case10 => simp at walked
  | case3 node position rest name nonempty ih =>
    rw [outcome_bind (PathWalk.follow_steady catalog path r _ position)
      fun _ => PathWalk.walk_steady catalog path r _ _ _] at walked
    cases followed : (PathWalk.follow catalog path (String.ofList name) position).outcome r with
    | error e => simp [followed, bind, Except.bind] at walked
    | ok col =>
      rw [followed] at walked
      obtain ⟨steps, chars, lexical, walks, built⟩ := ih col walked
      refine ⟨.follow _ :: steps, ?_, ?_, .cons ((PathWalk.follow_ok_iff catalog path r).mp followed)
        walks, built⟩
      · have split : rest = name ++ rest.dropWhile isSegmentChar :=
          List.takeWhile_append_dropWhile.symm
        conv_lhs => rw [split, chars]
        simp [PathStep.text]
      · exact List.forall_mem_cons.2 ⟨isSegment_takeWhile nonempty, lexical⟩
  | case5 node position rest name nonempty ih =>
    rw [outcome_bind (PathWalk.childOf_steady path r _ position)
      fun _ => PathWalk.walk_steady catalog path r _ _ _] at walked
    cases found : (PathWalk.childOf path (String.ofList name) position).outcome r with
    | error e => simp [found, bind, Except.bind] at walked
    | ok child =>
      rw [found] at walked
      obtain ⟨steps, chars, lexical, walks, built⟩ := ih child walked
      refine ⟨.child _ :: steps, ?_, ?_, .cons (PathWalk.childOf_ok catalog path r found) walks,
        built⟩
      · have split : rest = name ++ rest.dropWhile isSegmentChar :=
          List.takeWhile_append_dropWhile.symm
        conv_lhs => rw [split, chars]
        simp [PathStep.text]
      · exact List.forall_mem_cons.2 ⟨isSegment_takeWhile nonempty, lexical⟩
  | case8 node position rest digits nonempty after tail value fits ih =>
    rw [outcome_bind (PathWalk.elementAt_steady path r position)
      fun _ => PathWalk.walk_steady catalog path r _ _ _] at walked
    cases found : (PathWalk.elementAt path position).outcome r with
    | error e => simp [found, bind, Except.bind] at walked
    | ok element =>
      rw [found] at walked
      obtain ⟨steps, chars, lexical, walks, built⟩ := ih element walked
      obtain ⟨m, indexed, sequence⟩ := (PathWalk.elementAt_ok_iff path r).mp found
      refine ⟨.index (String.ofList (rest.takeWhile Char.isDigit)) :: steps, ?_, ?_,
        .cons (.index indexed sequence) walks, by simpa [PathStep.build] using built⟩
      · have split : rest = digits ++ ']' :: after := by
          rw [← tail]
          exact List.takeWhile_append_dropWhile.symm
        conv_lhs => rw [split, chars]
        simp [PathStep.text, digits]
      · refine List.forall_mem_cons.2
          ⟨⟨by simpa [digits] using nonempty, fun ch inside => ?_, by simpa using fits⟩, lexical⟩
        rw [String.toList_ofList] at inside
        exact List.mem_takeWhile_imp inside

end Walk

/-! ## Refusals name the path -/

section Refusal

variable (catalog : Catalog) (path : String) (r : Registry)

/-- Every failure the computation gives from the links of `r` is `Invalid property path` of
`path`. -/
def RefusesAsPath {α : Type} (x : Resolve α) : Prop :=
  ∀ e, x.outcome r = .error e → ∃ reason, e = Failure.ofFault (.invalidPath path reason)

variable {α β : Type}

theorem invalid_refuses (reason : PathProblem) :
    RefusesAsPath path r (PathWalk.invalid path reason : Resolve α) := by
  intro e failed
  exact ⟨reason, by simpa using failed.symm⟩

theorem pure_refuses (a : α) : RefusesAsPath path r (Pure.pure a : Resolve α) := by
  intro e failed
  cases failed

theorem RefusesAsPath.bind {x : Resolve α} {f : α → Resolve β} (first : x.Steady r)
    (rest : ∀ a, (f a).Steady r) (refuses : RefusesAsPath path r x)
    (later : ∀ a, RefusesAsPath path r (f a)) : RefusesAsPath path r (x >>= f) := by
  intro e failed
  rw [outcome_bind first rest] at failed
  cases ran : x.outcome r with
  | error e' =>
    rw [ran] at failed
    cases failed
    exact refuses e ran
  | ok a =>
    rw [ran] at failed
    exact later a e failed

theorem PathWalk.follow_refuses (name : String) (position : PathPosition) :
    RefusesAsPath path r (PathWalk.follow catalog path name position) := by
  unfold PathWalk.follow
  split
  · split
    · split
      · exact invalid_refuses path r _
      · split
        · exact pure_refuses path r _
        · exact invalid_refuses path r _
    · exact invalid_refuses path r _
  · exact invalid_refuses path r _

theorem PathWalk.childOf_refuses (name : String) (position : PathPosition) :
    RefusesAsPath path r (PathWalk.childOf path name position) := by
  unfold PathWalk.childOf
  split
  · split
    · split
      · exact pure_refuses path r _
      · exact invalid_refuses path r _
    · exact invalid_refuses path r _
  · exact invalid_refuses path r _

theorem PathWalk.elementAt_refuses (position : PathPosition) :
    RefusesAsPath path r (PathWalk.elementAt path position) := by
  intro e failed
  rw [PathWalk.elementAt_outcome] at failed
  rcases mapped : position.mapper with reason | m
  · simp only [mapped] at failed
    exact ⟨reason, by simpa using failed.symm⟩
  · -- a value the registry cannot index is refused as the path's own failure
    rcases found : (Resolve.elementOf m).outcome r with e' | element
    · simp only [mapped, found] at failed
      exact ⟨.notIndexable e'.message, by simpa using failed.symm⟩
    · simp [mapped, found] at failed

theorem PathWalk.walk_refuses (node : Node) (position : PathPosition) (chars : List Char) :
    RefusesAsPath path r (PathWalk.walk catalog path node position chars) := by
  fun_induction PathWalk.walk catalog path node position chars with
  | case1 => exact pure_refuses path r _
  | case2 | case4 | case6 | case7 | case9 | case10 => exact invalid_refuses path r _
  | case3 node position rest name nonempty next =>
    exact (follow_refuses catalog path r _ position).bind path r
      (PathWalk.follow_steady catalog path r _ position)
      (fun _ => PathWalk.walk_steady catalog path r _ _ _) next
  | case5 node position rest name nonempty next =>
    exact (childOf_refuses path r _ position).bind path r
      (PathWalk.childOf_steady path r _ position)
      (fun _ => PathWalk.walk_steady catalog path r _ _ _) next
  | case8 node position rest digits nonempty after tail value fits next =>
    exact (elementAt_refuses path r position).bind path r
      (PathWalk.elementAt_steady path r position)
      (fun _ => PathWalk.walk_steady catalog path r _ _ _) next

theorem parsePath_refuses (table : Table) :
    RefusesAsPath path r (parsePath catalog table path) := by
  unfold parsePath
  dsimp only
  split
  · exact invalid_refuses path r _
  · split
    · exact invalid_refuses path r _
    · exact PathWalk.walk_refuses catalog path r _ _ _

end Refusal

/-! ## Accepted paths -/

/-- The grammar spells the path from a first segment naming a column of the table, every step is
allowed where the one before leads, and `n` is the node built from the first segment and the
steps. -/
def PathAccepts (catalog : Catalog) (r : Registry) (table : Table) (path : String) (n : Node) :
    Prop :=
  ∃ (first : String) (steps : List PathStep) (column : Column),
    path = spelled first steps ∧ IsSegment first ∧ (∀ step ∈ steps, step.Lexical) ∧
      table.column? first = some column ∧ PathStep.Walks catalog r steps (.column column) ∧
      n = built first steps

section Accepted

variable (catalog : Catalog) (table : Table) (path : String) (r : Registry)

theorem parsePath_sound {n : Node} (parsed : (parsePath catalog table path).outcome r = .ok n) :
    PathAccepts catalog r table path n := by
  unfold parsePath at parsed
  dsimp only at parsed
  split at parsed
  · simp at parsed
  · rename_i nonempty
    split at parsed
    · simp at parsed
    · rename_i column found
      obtain ⟨steps, chars, lexical, walks, built⟩ := walk_sound catalog path r parsed
      refine ⟨_, steps, column, ?_, isSegment_takeWhile nonempty, lexical, found, walks, built⟩
      rw [← String.toList_inj, spelled, String.toList_append, stepsText_toList,
        String.toList_ofList, ← chars, List.takeWhile_append_dropWhile]

theorem parsePath_complete {n : Node} (accepts : PathAccepts catalog r table path n) :
    (parsePath catalog table path).outcome r = .ok n := by
  obtain ⟨first, steps, column, rfl, segment, lexical, found, walks, rfl⟩ := accepts
  rw [parsePath_spelled catalog table segment steps fun step member => (lexical step member).wellFormed]
  simp only [found]
  obtain ⟨last, moved⟩ := (moves_ok_iff catalog _ r lexical).mpr walks
  rw [outcome_bind (moves_steady catalog _ steps _) fun _ => Steady.pure _ r, moved]
  rfl

/-- The path parser accepts exactly the paths the grammar spells whose steps the schema and the
registry allow, giving the node built from the steps, and refuses every other path with
`Invalid property path` naming it. -/
theorem parsePath_accepts_grammar :
    (∀ n, (parsePath catalog table path).outcome r = .ok n ↔ PathAccepts catalog r table path n) ∧
      ∀ e, (parsePath catalog table path).outcome r = .error e →
        ∃ reason, e = Failure.ofFault (.invalidPath path reason) :=
  ⟨fun _ => ⟨parsePath_sound catalog table path r, parsePath_complete catalog table path r⟩,
    parsePath_refuses catalog path r table⟩

end Accepted

/-! ## Writing an accepted node back -/

/-- Decimal digits in canonical form: leading zeros dropped, a lone `0` kept for zero. -/
def canonicalDigits (digits : List Char) : List Char :=
  match digits.dropWhile (· == '0') with
  | [] => ['0']
  | significant => significant

namespace PathStep

/-- The step with its index, if it has one, written in canonical decimal. -/
def canonical : PathStep → PathStep
  | index digits => index (String.ofList (canonicalDigits digits.toList))
  | step => step

end PathStep

section Digits

theorem digitsValue_eq_ofDigitChars (digits : List Char) :
    digitsValue digits = Nat.ofDigitChars 10 digits 0 := by
  simp only [digitsValue, Nat.ofDigitChars_eq_foldl, Nat.mul_comm]

theorem digitChar_of_isDigit {ch : Char} (digit : ch.isDigit = true) :
    (ch.toNat - '0'.toNat).digitChar = ch := by
  have table : ∀ k < 10, (Nat.digitChar k).toNat = 48 + k := by decide
  have bounds := Char.isDigit_iff_toNat.mp digit
  have zero : '0'.toNat = 48 := rfl
  have nine : '9'.toNat = 57 := rfl
  rw [zero, nine] at bounds
  rw [zero]
  apply Char.toNat_inj.mp
  rw [table _ (by omega)]
  omega

theorem digit_lt_ten {ch : Char} (digit : ch.isDigit = true) : ch.toNat - '0'.toNat < 10 := by
  have bounds := Char.isDigit_iff_toNat.mp digit
  have zero : '0'.toNat = 48 := rfl
  have nine : '9'.toNat = 57 := rfl
  omega

/-- Leading zeros add nothing to the value. -/
theorem ofDigitChars_dropZeros (digits : List Char) :
    Nat.ofDigitChars 10 (digits.dropWhile (· == '0')) 0 = Nat.ofDigitChars 10 digits 0 := by
  induction digits with
  | nil => rfl
  | cons ch rest ih =>
    by_cases zero : ch = '0'
    · subst zero
      simp [Nat.ofDigitChars_cons, ih]
    · simp [zero]

/-- Digits without a leading zero are the decimal writing of their value. -/
theorem toDigits_ofDigitChars {digits : List Char} (nonempty : digits ≠ [])
    (decimal : ∀ ch ∈ digits, ch.isDigit = true) (leading : digits.head? ≠ some '0') :
    Nat.toDigits 10 (Nat.ofDigitChars 10 digits 0) = digits := by
  induction digits using List.reverseRecOn with
  | nil => contradiction
  | append_singleton front last ih =>
    have lastDigit : last.isDigit = true := decimal last (by simp)
    have small := digit_lt_ten lastDigit
    rw [Nat.ofDigitChars_append, Nat.ofDigitChars_cons, Nat.ofDigitChars_nil]
    cases front with
    | nil =>
      rw [Nat.ofDigitChars_nil, Nat.mul_zero, Nat.zero_add, Nat.toDigits_of_lt_base small,
        digitChar_of_isDigit lastDigit]
      rfl
    | cons first rest =>
      have firstDigit : first.isDigit = true := decimal first (by simp)
      have notZero : first ≠ '0' := by simpa using leading
      -- the front starts with a non-zero digit, so its value is positive
      have positive : 0 < Nat.ofDigitChars 10 (first :: rest) 0 := by
        rw [Nat.ofDigitChars_cons, Nat.ofDigitChars_eq_ofDigitChars_zero, Nat.mul_zero, Nat.zero_add]
        have bounds := Char.isDigit_iff_toNat.mp firstDigit
        have above : '0'.toNat < first.toNat := by
          rcases Nat.lt_or_eq_of_le bounds.1 with above | same
          · exact above
          · exact absurd (Char.toNat_inj.mp same).symm notZero
        have digit : 0 < first.toNat - '0'.toNat := by omega
        have power : 0 < 10 ^ rest.length := Nat.pow_pos (by decide)
        exact Nat.lt_of_lt_of_le (Nat.mul_pos power digit) (Nat.le_add_right _ _)
      have front : Nat.toDigits 10 (Nat.ofDigitChars 10 (first :: rest) 0) = first :: rest :=
        ih (by simp) (fun ch member => decimal ch (List.mem_append_left [last] member))
          (by simpa using notZero)
      rw [← Nat.toDigits_append_toDigits (by decide) positive small, front,
        Nat.toDigits_of_lt_base small, digitChar_of_isDigit lastDigit]

theorem canonicalDigits_eq (digits : List Char) :
    canonicalDigits digits =
      if digits.dropWhile (· == '0') = [] then ['0'] else digits.dropWhile (· == '0') := by
  unfold canonicalDigits
  rcases significant : digits.dropWhile (· == '0') with _ | ⟨first, rest⟩ <;> simp

/-- A run of decimal digits has the canonical digits of its value as its decimal writing. -/
theorem toDigits_digitsValue {digits : List Char} (decimal : ∀ ch ∈ digits, ch.isDigit = true) :
    Nat.toDigits 10 (digitsValue digits) = canonicalDigits digits := by
  rw [digitsValue_eq_ofDigitChars, ← ofDigitChars_dropZeros, canonicalDigits_eq]
  split_ifs with zeros
  · rw [zeros, Nat.ofDigitChars_nil, Nat.toDigits_zero]
  · -- what is left after the leading zeros starts with another digit
    have leading : (digits.dropWhile (· == '0')).head? ≠ some '0' := by
      have stops := List.head_dropWhile_not (· == '0') zeros
      rw [List.head?_eq_some_head zeros]
      simpa using stops
    exact toDigits_ofDigitChars zeros
      (fun ch member => decimal ch ((List.dropWhile_suffix _).subset member)) leading

theorem toString_digitsValue {digits : List Char} (decimal : ∀ ch ∈ digits, ch.isDigit = true) :
    toString (digitsValue digits) = String.ofList (canonicalDigits digits) := by
  rw [Nat.toString_eq_ofList_toDigits, toDigits_digitsValue decimal]

theorem digitsValue_canonicalDigits (digits : List Char) :
    digitsValue (canonicalDigits digits) = digitsValue digits := by
  rw [digitsValue_eq_ofDigitChars, digitsValue_eq_ofDigitChars, ← ofDigitChars_dropZeros digits,
    canonicalDigits_eq]
  split_ifs with zeros
  · rw [zeros]
    rfl
  · rfl

theorem canonicalDigits_ne_nil (digits : List Char) : canonicalDigits digits ≠ [] := by
  rw [canonicalDigits_eq]
  split_ifs with zeros
  · simp
  · exact zeros

theorem isDigit_of_mem_canonicalDigits {digits : List Char}
    (decimal : ∀ ch ∈ digits, ch.isDigit = true) :
    ∀ ch ∈ canonicalDigits digits, ch.isDigit = true := by
  rw [canonicalDigits_eq]
  split_ifs
  · simp
  · exact fun ch member => decimal ch ((List.dropWhile_suffix _).subset member)

end Digits

namespace PathStep

variable {catalog : Catalog} {r : Registry}

theorem build_canonical (step : PathStep) : step.canonical.build = step.build := by
  funext n
  cases step with
  | follow name | child name => rfl
  | index digits => simp [canonical, build, digitsValue_canonicalDigits]

theorem Lexical.canonical {step : PathStep} (lexical : step.Lexical) : step.canonical.Lexical := by
  cases step with
  | follow name | child name => exact lexical
  | index digits =>
    obtain ⟨_, decimal, fits⟩ := lexical
    refine ⟨by simpa using canonicalDigits_ne_nil _, ?_, ?_⟩
    · simpa using isDigit_of_mem_canonicalDigits decimal
    · simpa [digitsValue_canonicalDigits] using fits

theorem Goes.canonical {step : PathStep} {position next : PathPosition}
    (goes : Goes catalog r step position next) : Goes catalog r step.canonical position next := by
  cases goes with
  | follow reference known column => exact .follow reference known column
  | child composite declared => exact .child composite declared
  | index indexed sequence => exact .index indexed sequence

theorem Walks.canonical {steps : List PathStep} {position : PathPosition}
    (walks : Walks catalog r steps position) : Walks catalog r (steps.map canonical) position := by
  induction walks with
  | nil position => exact .nil position
  | cons goes _ ih => exact .cons goes.canonical ih

/-- Describing the node of a step appends the step's text, its index in canonical decimal. -/
theorem describe_build {step : PathStep} (lexical : step.Lexical) (base : Node) :
    (step.build base).describe = base.describe ++ step.canonical.text := by
  cases step with
  | follow name => simp [build, canonical, text, Node.describe, String.append_assoc]
  | child name => simp [build, canonical, text, Node.describe, String.append_assoc]
  | index digits =>
    simp [build, canonical, text, Node.describe, String.append_assoc,
      toString_digitsValue lexical.2.1]

end PathStep

theorem built_canonical (first : String) (steps : List PathStep) :
    built first (steps.map PathStep.canonical) = built first steps := by
  simp only [built, List.foldl_map, PathStep.build_canonical]

theorem describe_foldl_build : ∀ {steps : List PathStep}, (∀ step ∈ steps, step.Lexical) →
    ∀ base : Node, (steps.foldl (fun n step => step.build n) base).describe =
      base.describe ++ String.join (steps.map fun step => step.canonical.text)
  | [], _, base => by simp
  | step :: rest, lexical, base => by
    rw [List.foldl_cons, describe_foldl_build (fun s member => lexical s (List.mem_cons_of_mem _ member)),
      PathStep.describe_build (lexical step List.mem_cons_self)]
    simp [String.append_assoc]

/-- The node built from lexical steps is described by the same steps, indices made canonical. -/
theorem describe_built (first : String) {steps : List PathStep}
    (lexical : ∀ step ∈ steps, step.Lexical) :
    (built first steps).describe = spelled first (steps.map PathStep.canonical) := by
  rw [built, describe_foldl_build lexical, spelled, List.map_map]
  rfl

section Described

variable (catalog : Catalog) (table : Table) (path : String) (r : Registry)

/-- Describing a node the parser gives writes its path back, each index in canonical decimal,
and the text written parses to the same node. -/
theorem describe_inverts_parsePath {n : Node}
    (parsed : (parsePath catalog table path).outcome r = .ok n) :
    (∃ (first : String) (steps : List PathStep), path = spelled first steps ∧
        (∀ step ∈ steps, step.Lexical) ∧ n.describe = spelled first (steps.map PathStep.canonical)) ∧
      (parsePath catalog table n.describe).outcome r = .ok n := by
  obtain ⟨first, steps, column, spelledPath, segment, lexical, found, walks, rfl⟩ :=
    parsePath_sound catalog table path r parsed
  have written := describe_built first lexical
  refine ⟨⟨first, steps, spelledPath, lexical, written⟩, ?_⟩
  have canonicalLexical : ∀ step ∈ steps.map PathStep.canonical, step.Lexical := by
    intro step member
    obtain ⟨original, inSteps, rfl⟩ := List.mem_map.mp member
    exact (lexical original inSteps).canonical
  exact parsePath_complete catalog table _ r ⟨first, steps.map PathStep.canonical, column, written,
    segment, canonicalLexical, found, walks.canonical, (built_canonical first steps).symm⟩

end Described

/-- The sequence column `tags`, holding native lists of texts as they are. -/
def tagsColumn : Column :=
  ⟨"tags", .named .native, .regular, false, .scalar (.passthrough (.list none (.varchar none)))⟩

/-- A table `notes` with the sequence column `tags`. -/
def notesTable : Table := ⟨"notes", "", [tagsColumn], Record.empty, snakeCaseNaming⟩

/-- `tags[007]` parses to the element 7 of `tags`, which is described as `tags[7]`. -/
theorem padded_index_described_canonically :
    (parsePath { tables := [notesTable] } notesTable "tags[007]").outcome Registry.empty =
        .ok (.index (.property "tags") 7) ∧
      ((∃ (first : String) (steps : List PathStep), "tags[007]" = spelled first steps ∧
          (∀ step ∈ steps, step.Lexical) ∧
          (Node.index (.property "tags") 7).describe = spelled first (steps.map PathStep.canonical)) ∧
        (parsePath { tables := [notesTable] } notesTable
          (Node.index (.property "tags") 7).describe).outcome Registry.empty =
            .ok (.index (.property "tags") 7)) := by
  have spelledPath : "tags[007]" = spelled "tags" [.index "007"] := by decide
  have lexical : ∀ step ∈ [PathStep.index "007"], step.Lexical := by
    simp [PathStep.Lexical, digitsValue]
  have found : notesTable.column? "tags" = some tagsColumn := rfl
  have walks : PathStep.Walks { tables := [notesTable] } Registry.empty [.index "007"]
      (.column tagsColumn) := .cons (.index rfl rfl) (.nil _)
  have parsed := parsePath_complete _ _ _ _ ⟨"tags", [.index "007"], tagsColumn, spelledPath,
    ⟨by simp, by simp [isSegmentChar]⟩, lexical, found, walks, rfl⟩
  exact ⟨parsed, describe_inverts_parsePath _ _ _ _ parsed⟩

end RelMap
