import RelMap.Sql.Statement
import RelMap.Proofs.ByteOffsets
import RelMap.Proofs.SqlLexer

/-!
# Quoted identifiers

The writer escapes a text by walking its characters with their byte offsets and copying the
slices between the occurrences it replaces. The walk copies every character once and in order,
and puts the replacement exactly where each occurrence stood, whatever number of bytes the
characters around it take (`escape_eq_replaced`). A quoted identifier is therefore its name
between quotes with each inner quote doubled, and the lexer reads it back as a single quoted
lexeme that ends at the closing quote and denotes the name: no name can close the lexeme early,
and two names never give the same text.
-/

namespace RelMap.Sql

set_option autoImplicit false

open String (utf8Len)

/-- The text of the characters with every occurrence of `search` replaced by `replacement`. -/
def replaced (chars : List Char) (search : Char) (replacement : String) : String :=
  String.join (chars.map fun c => if c = search then replacement else String.singleton c)

section Replaced

variable (search : Char) (replacement : String)

@[simp] theorem replaced_nil : replaced [] search replacement = "" := rfl

theorem replaced_append (a b : List Char) :
    replaced (a ++ b) search replacement =
      replaced a search replacement ++ replaced b search replacement := by
  simp [replaced, String.join_append]

theorem replaced_of_not_mem {chars : List Char} (absent : search ∉ chars) :
    replaced chars search replacement = String.ofList chars := by
  induction chars with
  | nil => rfl
  | cons c chars ih =>
    have other : c ≠ search := fun same => absent (by simp [same])
    have rest := ih fun member => absent (List.mem_cons_of_mem c member)
    rw [← List.singleton_append, replaced_append, rest, String.ofList_append]
    simp [replaced, other]

theorem replaced_self : replaced [search] search replacement = replacement := by
  simp [replaced]

end Replaced

/-- The escaping walk over the characters after `done`, started after a prefix `a` of `done` that
it has written out and with no occurrence in the rest `b` of `done`: it ends with some prefix
written out, after which no occurrence is left. -/
theorem foldl_escapeStep {s : String} {search : Char} {replacement : String} :
    ∀ (rest done a b : List Char), s.toList = done ++ rest → done = a ++ b → search ∉ b →
      ∃ a' b', s.toList = a' ++ b' ∧ search ∉ b' ∧
        (Utf8.indexed rest (utf8Len done)).foldl (escapeStep s search replacement)
            (replaced a search replacement, utf8Len a) =
          (replaced a' search replacement, utf8Len a')
  | [], done, a, b, whole, split, clean => ⟨a, b, by simp [whole, split], clean, rfl⟩
  | c :: rest, done, a, b, whole, split, clean => by
    have sizes : utf8Len done + c.utf8Size = utf8Len (done ++ [c]) := by simp
    have wholeAfter : s.toList = (done ++ [c]) ++ rest := by simp [whole]
    rw [Utf8.indexed, List.foldl_cons, sizes]
    by_cases found : c = search
    · -- the occurrence flushes the slice of `b` and the replacement: all of `done ++ [c]` is out
      have slice : Utf8.slice s (utf8Len a) (utf8Len done) = String.ofList b := by
        rw [split, String.utf8Len_append]
        have pieces : s.toList = a ++ b ++ c :: rest := by simp [whole, split]
        exact Utf8.slice_of_split pieces
      have step : escapeStep s search replacement (replaced a search replacement, utf8Len a)
          (utf8Len done, c) = (replaced (done ++ [c]) search replacement, utf8Len (done ++ [c])) := by
        rw [escapeStep, if_pos (by simp [found]), ← sizes]
        dsimp only
        rw [slice, split, replaced_append, replaced_append,
          replaced_of_not_mem search replacement clean, found, replaced_self]
      rw [step]
      exact foldl_escapeStep rest (done ++ [c]) (done ++ [c]) [] wholeAfter (by simp)
        List.not_mem_nil
    · -- any other character stays in the pending slice
      have step : escapeStep s search replacement (replaced a search replacement, utf8Len a)
          (utf8Len done, c) = (replaced a search replacement, utf8Len a) := by
        rw [escapeStep, if_neg (by simp [found])]
      rw [step]
      exact foldl_escapeStep rest (done ++ [c]) a (b ++ [c]) wholeAfter (by simp [split])
        (by simp [clean, Ne.symm found])

/-- The writer's escaping walk replaces every occurrence of `search` and copies every other
character. -/
theorem escape_eq_replaced (s : String) (search : Char) (replacement : String) :
    escape s search replacement = replaced s.toList search replacement := by
  obtain ⟨a, b, whole, clean, walked⟩ :=
    @foldl_escapeStep s search replacement s.toList [] [] [] rfl rfl List.not_mem_nil
  have rest : Utf8.slice s (utf8Len a) s.utf8ByteSize = String.ofList b := by
    rw [← String.utf8Len_toList, whole, String.utf8Len_append]
    have pieces : s.toList = a ++ b ++ [] := by simp [whole]
    exact Utf8.slice_of_split pieces
  have started : Utf8.charIndices s = Utf8.indexed s.toList 0 := rfl
  rw [escape, started]
  simp only [replaced_nil, String.utf8Len_nil] at walked
  rw [walked]
  dsimp only
  rw [rest, whole, replaced_append, replaced_of_not_mem search replacement clean]

theorem replaced_quote_toList (chars : List Char) :
    (replaced chars '"' "\"\"").toList = doubleQuotes chars := by
  simp only [replaced, String.toList_join, List.flatMap_map, doubleQuotes]
  congr 1
  funext c
  split <;> simp

theorem quote_toList (name : String) :
    (quote name).toList = '"' :: (doubleQuotes name.toList ++ ['"']) := by
  simp [quote, escape_eq_replaced, replaced_quote_toList]

/-- Escaping replaces exactly the searched character; a quoted identifier is its name between
quotes with inner quotes doubled, which the lexer reads as one quoted lexeme denoting the name
and ending at the closing quote, before any text that does not begin with a quote; so no two
names are quoted alike. -/
theorem identifier_quoting_reads_back (name : String) :
    (∀ (search : Char) (replacement : String),
        escape name search replacement = replaced name.toList search replacement) ∧
      (quote name).toList = '"' :: (doubleQuotes name.toList ++ ['"']) ∧
      ReadsAs (quote name).toList [.quoted name] (FollowedBy fun c => c != '"') ∧
      ∀ other, quote name = quote other → name = other := by
  have reads (s : String) : ReadsAs (quote s).toList [.quoted s] (FollowedBy fun c => c != '"') := by
    rw [quote_toList]
    simpa using readsAs_quoted s.toList
  refine ⟨escape_eq_replaced name, quote_toList name, reads name, fun other same => ?_⟩
  -- alone, each quoted text reads as the one lexeme of its name
  have alone (s : String) : lex (quote s).toList = some [.quoted s] := by
    simpa using reads s [] (by simp [FollowedBy])
  have lexemes := alone name
  rw [same, alone other] at lexemes
  simpa using lexemes.symm

end RelMap.Sql
