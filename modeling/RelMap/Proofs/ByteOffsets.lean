import RelMap.Text.Utf8
import Mathlib.Data.String.Basic

/-!
# Character offsets and boundaries

The offsets `Utf8.indexed` gives the characters of a list climb by each character's byte length,
so the offset of the `k`-th character is the byte length of the first `k` characters. Two facts
follow that the byte loops of the writer rely on: the slice between the byte lengths of two
prefixes of a text is the run of characters between them, and the character boundaries of a text
are exactly the byte lengths of its prefixes.
-/

namespace RelMap.Utf8

set_option autoImplicit false

open String (utf8Len)

theorem indexed_append (a b : List Char) (start : Nat) :
    indexed (a ++ b) start = indexed a start ++ indexed b (start + utf8Len a) := by
  induction a generalizing start with
  | nil => rfl
  | cons c a ih =>
    have shifted : start + c.utf8Size + utf8Len a = start + utf8Len (c :: a) := by
      rw [String.utf8Len_cons]
      omega
    simp only [List.cons_append, indexed, ih, shifted]

/-- Every offset of `indexed l start` lies at or after `start` and before the end of `l`. -/
theorem offset_bounds {l : List Char} {start : Nat} {entry : Nat × Char}
    (member : entry ∈ indexed l start) : start ≤ entry.1 ∧ entry.1 < start + utf8Len l := by
  induction l generalizing start with
  | nil => simp [indexed] at member
  | cons c l ih =>
    have positive := Char.utf8Size_pos c
    simp only [indexed, List.mem_cons] at member
    rcases member with rfl | later
    · simp only [String.utf8Len_cons]
      omega
    · have bounds := ih later
      simp only [String.utf8Len_cons]
      omega

theorem filterMap_within_inside {l : List Char} {start first last : Nat} (low : first ≤ start)
    (high : start + utf8Len l ≤ last) : (indexed l start).filterMap (within first last) = l := by
  induction l generalizing start with
  | nil => rfl
  | cons c l ih =>
    have positive := Char.utf8Size_pos c
    rw [String.utf8Len_cons] at high
    have inside : first ≤ start ∧ start < last := ⟨low, by omega⟩
    simp only [indexed, List.filterMap_cons, within, if_pos inside]
    rw [ih (by omega) (by omega)]

theorem filterMap_within_outside {l : List Char} {start first last : Nat}
    (outside : start + utf8Len l ≤ first ∨ last ≤ start) :
    (indexed l start).filterMap (within first last) = [] := by
  rw [List.filterMap_eq_nil_iff]
  intro entry member
  have bounds := offset_bounds member
  have away : ¬(first ≤ entry.1 ∧ entry.1 < last) := by omega
  simp only [within, if_neg away]

/-- The slice between the byte lengths of `before` and of `before ++ middle` is `middle`. -/
theorem slice_of_split {s : String} {before middle after : List Char}
    (split : s.toList = before ++ middle ++ after) :
    slice s (utf8Len before) (utf8Len before + utf8Len middle) = String.ofList middle := by
  rw [slice, charIndices, split, indexed_append, indexed_append, List.filterMap_append,
    List.filterMap_append, filterMap_within_outside (by omega), filterMap_within_inside (by omega)
      (by omega), filterMap_within_outside (by rw [String.utf8Len_append]; omega)]
  simp

theorem map_fst_indexed (l : List Char) (start : Nat) :
    (indexed l start).map Prod.fst =
      (List.range l.length).map fun k => start + utf8Len (l.take k) := by
  induction l generalizing start with
  | nil => rfl
  | cons c l ih =>
    rw [indexed, List.map_cons, ih, List.length_cons, List.range_succ_eq_map, List.map_cons,
      List.map_map]
    congr 1
    apply List.map_congr_left
    intro k _
    simp only [Function.comp_apply, List.take_succ_cons, String.utf8Len_cons]
    omega

/-- The character boundaries of a text are the byte lengths of its prefixes. -/
theorem isCharBoundary_iff {s : String} {offset : Nat} :
    isCharBoundary s offset = true ↔
      ∃ k ≤ s.toList.length, utf8Len (s.toList.take k) = offset := by
  have entries : ((charIndices s).any fun entry => entry.1 == offset) = true ↔
      ∃ k < s.toList.length, utf8Len (s.toList.take k) = offset := by
    rw [List.any_eq_true]
    constructor
    · rintro ⟨entry, member, same⟩
      have listed : entry.1 ∈ (charIndices s).map Prod.fst := List.mem_map_of_mem member
      rw [charIndices, map_fst_indexed] at listed
      obtain ⟨k, bound, offsetIs⟩ := List.mem_map.mp listed
      exact ⟨k, List.mem_range.mp bound, by rw [← beq_iff_eq.mp same, ← offsetIs, Nat.zero_add]⟩
    · rintro ⟨k, bound, offsetIs⟩
      have listed : offset ∈ (charIndices s).map Prod.fst := by
        rw [charIndices, map_fst_indexed]
        exact List.mem_map.mpr ⟨k, List.mem_range.mpr bound, by simpa using offsetIs⟩
      obtain ⟨entry, member, same⟩ := List.mem_map.mp listed
      exact ⟨entry, member, by simp [same]⟩
  have whole : utf8Len (s.toList.take s.toList.length) = s.utf8ByteSize := by
    rw [List.take_length, String.utf8Len_toList]
  rw [isCharBoundary, Bool.or_eq_true, entries, beq_iff_eq]
  constructor
  · rintro (atEnd | ⟨k, bound, offsetIs⟩)
    · exact ⟨s.toList.length, le_refl _, by rw [whole, atEnd]⟩
    · exact ⟨k, le_of_lt bound, offsetIs⟩
  · rintro ⟨k, bound, offsetIs⟩
    rcases Nat.lt_or_eq_of_le bound with shorter | atEnd
    · exact .inr ⟨k, shorter, offsetIs⟩
    · exact .inl (by rw [← offsetIs, atEnd, whole])

/-- The byte lengths of prefixes grow strictly with the number of characters. -/
theorem utf8Len_take_lt {l : List Char} {j k : Nat} (lt : j < k) (bound : k ≤ l.length) :
    utf8Len (l.take j) < utf8Len (l.take k) := by
  have split : l.take k = l.take j ++ (l.drop j).take (k - j) := by
    rw [← List.take_add, Nat.add_sub_cancel' (le_of_lt lt)]
  have nonempty : (l.drop j).take (k - j) ≠ [] := by
    simp only [ne_eq, List.take_eq_nil_iff, List.drop_eq_nil_iff]
    omega
  have positive : 0 < utf8Len ((l.drop j).take (k - j)) := by
    rw [Nat.pos_iff_ne_zero, ne_eq, String.utf8Len_eq_zero]
    exact nonempty
  rw [split, String.utf8Len_append]
  omega

theorem utf8Len_take_le_iff {l : List Char} {j k : Nat} (boundJ : j ≤ l.length)
    (boundK : k ≤ l.length) : utf8Len (l.take j) ≤ utf8Len (l.take k) ↔ j ≤ k := by
  constructor
  · intro le
    by_contra more
    have := utf8Len_take_lt (Nat.lt_of_not_le more) boundJ
    omega
  · intro le
    rcases Nat.lt_or_eq_of_le le with lt | rfl
    · exact le_of_lt (utf8Len_take_lt lt boundK)
    · exact le_refl _

end RelMap.Utf8
