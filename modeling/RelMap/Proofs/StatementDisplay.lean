import RelMap.Proofs.ByteOffsets
import RelMap.Proofs.SendAfterValidation
import Mathlib.Data.List.DropRight

/-!
# Statements shown in failures

A failure of the executor shows the statement it failed on cut to a byte budget. The cut is
searched downwards from the budget, one byte at a time, for a character boundary; offset 0 is one,
so the search always ends. It ends at the last boundary within the budget, so the kept text is
the longest prefix of the statement whose encoding fits the budget, and its bytes are the first
bytes of the statement. Trailing white space is then dropped, and `...` marks a statement that
did not fit, which keeps what is shown within 500 bytes.

Executing and fetching are the only places that make a failure of the executor, and both put the
statement they received, shown this way, over the database's message.
-/

namespace RelMap

set_option autoImplicit false

open String (utf8Len)

/-! ## The search for a boundary -/

/-- `cut` is the last character boundary of `s` within `budget` bytes. -/
def LastBoundaryWithin (s : String) (budget cut : Nat) : Prop :=
  Utf8.isCharBoundary s cut = true ∧ cut ≤ budget ∧
    ∀ k, Utf8.isCharBoundary s k = true → k ≤ budget → k ≤ cut

section Boundaries

variable (s : String)

theorem isCharBoundary_zero : Utf8.isCharBoundary s 0 = true :=
  Utf8.isCharBoundary_iff.mpr ⟨0, Nat.zero_le _, by simp⟩

theorem isCharBoundary_le_size {k : Nat} (boundary : Utf8.isCharBoundary s k = true) :
    k ≤ s.utf8ByteSize := by
  obtain ⟨j, _, offset⟩ := Utf8.isCharBoundary_iff.mp boundary
  have whole : s.utf8ByteSize = utf8Len (s.toList.take j) + utf8Len (s.toList.drop j) := by
    rw [← String.utf8Len_append, List.take_append_drop, String.utf8Len_toList]
  omega

theorem boundaryBelow_le : ∀ n, boundaryBelow s n ≤ n
  | 0 => le_refl 0
  | n + 1 => by
    rw [boundaryBelow]
    split
    · exact le_refl _
    · exact Nat.le_succ_of_le (boundaryBelow_le n)

theorem isCharBoundary_boundaryBelow : ∀ n, Utf8.isCharBoundary s (boundaryBelow s n) = true
  | 0 => isCharBoundary_zero s
  | n + 1 => by
    rw [boundaryBelow]
    split
    · assumption
    · exact isCharBoundary_boundaryBelow n

/-- No boundary at or below the starting offset lies above where the search stops. -/
theorem le_boundaryBelow {k : Nat} (boundary : Utf8.isCharBoundary s k = true) :
    ∀ n, k ≤ n → k ≤ boundaryBelow s n
  | 0, below => below
  | n + 1, below => by
    rw [boundaryBelow]
    split
    · exact below
    · rename_i skipped
      have other : k ≠ n + 1 := fun same => skipped (same ▸ boundary)
      exact le_boundaryBelow boundary n (by omega)

theorem lastBoundaryWithin_boundaryBelow (budget : Nat) :
    LastBoundaryWithin s budget (boundaryBelow s budget) :=
  ⟨isCharBoundary_boundaryBelow s budget, boundaryBelow_le s budget,
    fun _ boundary below => le_boundaryBelow s boundary budget below⟩

theorem lastBoundaryWithin_size {budget : Nat} (fits : s.utf8ByteSize ≤ budget) :
    LastBoundaryWithin s budget s.utf8ByteSize := by
  refine ⟨?_, fits, fun _ boundary _ => isCharBoundary_le_size s boundary⟩
  exact Utf8.isCharBoundary_iff.mpr ⟨s.toList.length, le_refl _, by simp⟩

end Boundaries

/-! ## The kept prefix -/

/-- `t` is the longest prefix of `chars` whose encoding takes at most `budget` bytes. -/
def LongestFitting (chars : List Char) (budget : Nat) (t : List Char) : Prop :=
  t <+: chars ∧ utf8Len t ≤ budget ∧ ∀ p, p <+: chars → utf8Len p ≤ budget → p <+: t

/-- The characters of a text up to its first `j` characters, as a slice from offset 0. -/
theorem slice_take (s : String) (j : Nat) :
    Utf8.slice s 0 (utf8Len (s.toList.take j)) = String.ofList (s.toList.take j) := by
  have pieces : s.toList = [] ++ s.toList.take j ++ s.toList.drop j := by simp
  simpa using Utf8.slice_of_split pieces

/-- The truncation keeps the first characters of the text up to the last boundary within the
budget: the whole text when it fits. -/
theorem truncated_toList (s : String) (budget : Nat) :
    ∃ j ≤ s.toList.length, (truncated s budget).toList = s.toList.take j ∧
      LastBoundaryWithin s budget (utf8Len (s.toList.take j)) := by
  by_cases fits : s.utf8ByteSize ≤ budget
  · refine ⟨s.toList.length, le_refl _, by simp [truncated, fits], ?_⟩
    rw [List.take_length, String.utf8Len_toList]
    exact lastBoundaryWithin_size s fits
  · obtain ⟨j, bound, offset⟩ :=
      Utf8.isCharBoundary_iff.mp (isCharBoundary_boundaryBelow s budget)
    refine ⟨j, bound, ?_, offset ▸ lastBoundaryWithin_boundaryBelow s budget⟩
    rw [truncated, if_neg fits, ← offset, slice_take, String.toList_ofList]

-- a budget of two bytes ends inside the two bytes of `é`, so only `a` is kept
example : truncated "aéb" 2 = "a" := by decide

/-- The first characters up to the last boundary within the budget are the longest prefix that
fits it: every prefix that fits ends at a boundary within the budget, so at or before the cut. -/
theorem longestFitting_take {s : String} {budget j : Nat} (bound : j ≤ s.toList.length)
    (last : LastBoundaryWithin s budget (utf8Len (s.toList.take j))) :
    LongestFitting s.toList budget (s.toList.take j) := by
  obtain ⟨_, within, latest⟩ := last
  refine ⟨List.take_prefix j s.toList, within, fun p isPrefix fits => ?_⟩
  have spelled : p = s.toList.take p.length := List.prefix_iff_eq_take.mp isPrefix
  have shorter : p.length ≤ s.toList.length := isPrefix.length_le
  have boundary : Utf8.isCharBoundary s (utf8Len p) = true :=
    Utf8.isCharBoundary_iff.mpr ⟨p.length, shorter, by rw [← spelled]⟩
  have before : p.length ≤ j := by
    rw [← Utf8.utf8Len_take_le_iff shorter bound, ← spelled]
    exact latest _ boundary fits
  exact List.prefix_take_iff.mpr ⟨isPrefix, before⟩

/-- The bytes of the first `j` characters are the first bytes of the text. -/
theorem toByteArray_take (s : String) (j : Nat) :
    (String.ofList (s.toList.take j)).toByteArray =
      s.toByteArray.extract 0 (utf8Len (s.toList.take j)) := by
  have whole : s = String.ofList (s.toList.take j) ++ String.ofList (s.toList.drop j) := by
    rw [← String.ofList_append, List.take_append_drop, String.ofList_toList]
  have size : utf8Len (s.toList.take j) = (String.ofList (s.toList.take j)).toByteArray.size := by
    rw [String.size_toByteArray, ← String.utf8Len_toList, String.toList_ofList]
  have bytes := congrArg String.toByteArray whole
  rw [String.toByteArray_append] at bytes
  rw [bytes, ByteArray.extract_append_eq_left size]

/-! ## Trailing white space -/

/-- `kept` is `t` without its trailing white space. -/
def TrimmedEnd (t kept : List Char) : Prop :=
  ∃ spaces, t = kept ++ spaces ∧ (∀ c ∈ spaces, isUnicodeSpace c = true) ∧
    ∀ nonempty : kept ≠ [], isUnicodeSpace (kept.getLast nonempty) = false

theorem trimmedEnd_rdropWhile (t : List Char) : TrimmedEnd t (t.rdropWhile isUnicodeSpace) := by
  refine ⟨t.rtakeWhile isUnicodeSpace, List.rdropWhile_append_rtakeWhile.symm, ?_, ?_⟩
  · intro c member
    rw [List.rtakeWhile, List.mem_reverse] at member
    exact List.mem_takeWhile_imp member
  · intro nonempty
    simpa using List.rdropWhile_last_not isUnicodeSpace t nonempty

theorem TrimmedEnd.utf8Len_le {t kept : List Char} (trimmed : TrimmedEnd t kept) :
    utf8Len kept ≤ utf8Len t := by
  obtain ⟨spaces, split, _⟩ := trimmed
  rw [split, String.utf8Len_append]
  omega

/-! ## The statement shown -/

namespace Query

/-- What is shown: the truncation without its trailing white space, then `...` when the
statement did not fit. -/
theorem display_eq (q : Query) :
    q.display = String.ofList ((truncated q.sql shownBytes).toList.rdropWhile isUnicodeSpace) ++
      (if q.sql.utf8ByteSize > shownBytes then "..." else "") := rfl

example : Query.display ⟨"SELECT 1  ", []⟩ = "SELECT 1" := by decide

/-- The kept prefix with its ellipsis fits in the budget and three more bytes. -/
theorem display_utf8ByteSize_le (q : Query) : q.display.utf8ByteSize ≤ shownBytes + 3 := by
  obtain ⟨j, _, kept, last⟩ := truncated_toList q.sql shownBytes
  have trimmed := (trimmedEnd_rdropWhile ((truncated q.sql shownBytes).toList)).utf8Len_le
  have within := last.2.1
  have dots : "...".utf8ByteSize = 3 := rfl
  rw [kept] at trimmed
  rw [display_eq, String.utf8ByteSize_append, ← String.utf8Len_toList, String.toList_ofList, kept]
  split
  · rw [dots]
    omega
  · rw [String.utf8ByteSize_empty]
    omega

end Query

/-! ## Failures of the executor -/

namespace Executor

theorem failure_eq (q : Query) (message : String) :
    failure q message = ⟨[.fault (.executor q.display)], .executorError message⟩ := rfl

theorem execute_received (e : Executor) (q : Query) :
    (e.execute q).2.received = e.received ++ [q] := by
  rw [execute_snd, run_eq]

theorem fetch_received (e : Executor) (q : Query) :
    (e.fetch q).2.received = e.received ++ [q] := by
  rw [fetch_snd, run_eq]

/-- Executing fails only with a failure of the statement it received. -/
theorem execute_error {e : Executor} {q : Query} {f : Failure} (failed : (e.execute q).1 = .error f) :
    ∃ message, f = failure q message := by
  rw [execute, run_eq] at failed
  dsimp only at failed
  cases folded : Execution.collect .empty (e.script.headD []) with
  | ok result =>
    rw [folded] at failed
    cases failed
  | error message =>
    rw [folded] at failed
    cases failed
    exact ⟨message, rfl⟩

/-- Every failure among the fetched items is a failure of the statement received. -/
theorem fetch_error {e : Executor} {q : Query} {f : Failure} (member : .error f ∈ (e.fetch q).1) :
    ∃ message, f = failure q message := by
  rw [fetch, run_eq] at member
  obtain ⟨item, _, produced⟩ := List.mem_filterMap.mp member
  cases item with
  | failure message =>
    cases produced
    exact ⟨message, rfl⟩
  | row r => cases produced
  | keys r => cases produced
  | affected count lastId => cases produced

end Executor

/-- A statement shown in a failure is the longest prefix of its text within 497 bytes, which ends
at the last character boundary within them and is made of its first bytes, without trailing white
space, followed by `...` exactly when the text is longer; what is shown takes at most 500 bytes.
Executing or fetching a statement through the store keeps it as the statement sent, and every
failure either of them gives shows that statement so, over the database's message. -/
theorem failing_statement_shown_truncated (q : Query) :
    (∃ t kept, LongestFitting q.sql.toList shownBytes t ∧
        LastBoundaryWithin q.sql shownBytes (utf8Len t) ∧
        (String.ofList t).toByteArray = q.sql.toByteArray.extract 0 (utf8Len t) ∧
        TrimmedEnd t kept ∧
        q.display = String.ofList kept ++ (if q.sql.utf8ByteSize > shownBytes then "..." else "")) ∧
      q.display.utf8ByteSize ≤ 500 ∧
      ∀ s : StoreState,
        (((Store.execute q).run.run s).2.executor.received = s.executor.received ++ [q] ∧
          ∀ f, ((Store.execute q).run.run s).1 = .error f →
            ∃ message, f = ⟨[.fault (.executor q.display)], .executorError message⟩) ∧
        (((Store.fetch q).run.run s).2.executor.received = s.executor.received ++ [q] ∧
          ∀ rows f, ((Store.fetch q).run.run s).1 = .ok rows → .error f ∈ rows →
            ∃ message, f = ⟨[.fault (.executor q.display)], .executorError message⟩) := by
  obtain ⟨j, bound, kept, last⟩ := truncated_toList q.sql shownBytes
  refine ⟨⟨q.sql.toList.take j, _, longestFitting_take bound last, last, toByteArray_take q.sql j,
      trimmedEnd_rdropWhile _, by rw [Query.display_eq, kept]⟩, q.display_utf8ByteSize_le,
    fun s => ⟨⟨?_, fun f failed => ?_⟩, ⟨?_, fun rows f fetched member => ?_⟩⟩⟩
  · rw [Store.run_execute]
    exact Executor.execute_received s.executor q
  · rw [Store.run_execute] at failed
    exact Executor.execute_error failed
  · rw [Store.run_fetch]
    exact Executor.fetch_received s.executor q
  · rw [Store.run_fetch] at fetched
    cases fetched
    exact Executor.fetch_error member

end RelMap
