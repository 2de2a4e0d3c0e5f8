import Mathlib

/-!
# Reading SQL text into lexemes

The lexer a database applies to statement text, for the lexemes the compiler writes: quoted
identifiers (a doubled quote inside stands for one quote, a single quote ends the name), words
(keywords and function names), numbers, placeholders (`?`, or `$` and digits) and symbols.
Layout characters separate lexemes and are dropped; each lexeme is the longest that fits.

`ReadsAs cs ls next` says that the characters `cs` read as the lexemes `ls` whatever text allowed
by `next` follows them. Quoted names, words, numbers and numbered placeholders read as themselves
when what follows cannot extend them; the other symbols read as themselves before anything.
Readings compose, so the reading of a statement is put together from the readings of its pieces.
-/

namespace RelMap.Sql

set_option autoImplicit false

/-- A lexeme of SQL text. -/
inductive Lexeme where
  /-- A quoted identifier, by the name it denotes. -/
  | quoted (name : String)
  | word (text : String)
  | number (digits : String)
  | placeholder (marker : String)
  | symbol (text : String)
  deriving DecidableEq, Repr

/-- Characters that begin a word. -/
def isWordStart (c : Char) : Bool := c.isAlpha || c == '_'

/-- Characters of a word. -/
def isWordChar (c : Char) : Bool := c.isAlphanum || c == '_'

/-- Layout between lexemes. -/
def isLayout (c : Char) : Bool := c == ' ' || c == '\n' || c == '\t' || c == '\r'

/-- The symbols of one character. -/
def singleSymbols : List Char := ['(', ')', '[', ']', ',', '.', '=', '<', '>', '*']

/-- The name of a quoted identifier after its opening quote, and the text after its closing
quote: two quotes in a row stand for one quote of the name, a single quote ends it. -/
def readQuoted : List Char → Option (List Char × List Char)
  | [] => none
  | '"' :: '"' :: rest => (readQuoted rest).map fun (name, after) => ('"' :: name, after)
  | '"' :: rest => some ([], rest)
  | c :: rest => (readQuoted rest).map fun (name, after) => (c :: name, after)

/-- A symbol starting with `c`, two characters long where it can be. -/
def readSymbol : Char → List Char → Option (Lexeme × List Char)
  | '|', '|' :: rest => some (.symbol "||", rest)
  | '!', '=' :: rest => some (.symbol "!=", rest)
  | '<', '=' :: rest => some (.symbol "<=", rest)
  | '<', '>' :: rest => some (.symbol "<>", rest)
  | '>', '=' :: rest => some (.symbol ">=", rest)
  | c, rest => if c ∈ singleSymbols then some (.symbol (String.singleton c), rest) else none

/-- The lexeme starting with the character `c` followed by `rest`, and the text after it. -/
def readLexeme (c : Char) (rest : List Char) : Option (Lexeme × List Char) :=
  if c = '"' then (readQuoted rest).map fun (name, after) => (.quoted (String.ofList name), after)
  else if isWordStart c then
    some (.word (String.ofList (c :: rest.takeWhile isWordChar)), rest.dropWhile isWordChar)
  else if c.isDigit then
    some (.number (String.ofList (c :: rest.takeWhile Char.isDigit)), rest.dropWhile Char.isDigit)
  else if c = '?' then some (.placeholder "?", rest)
  else if c = '$' then
    match rest.takeWhile Char.isDigit with
    | [] => none
    | digits => some (.placeholder (String.ofList ('$' :: digits)), rest.dropWhile Char.isDigit)
  else readSymbol c rest

theorem readQuoted_shorter {cs name after : List Char}
    (read : readQuoted cs = some (name, after)) : after.length < cs.length := by
  fun_induction readQuoted cs generalizing name after with
  | case1 => cases read
  | case2 rest ih =>
    obtain ⟨⟨name', after'⟩, found, same⟩ := Option.map_eq_some_iff.mp read
    cases same
    have := ih found
    simp only [List.length_cons]
    omega
  | case3 rest =>
    cases read
    simp
  | case4 c rest _ _ ih =>
    obtain ⟨⟨name', after'⟩, found, same⟩ := Option.map_eq_some_iff.mp read
    cases same
    have := ih found
    simp only [List.length_cons]
    omega

theorem readLexeme_shorter {c : Char} {rest after : List Char} {l : Lexeme}
    (read : readLexeme c rest = some (l, after)) : after.length ≤ rest.length := by
  have dropped (p : Char → Bool) : (rest.dropWhile p).length ≤ rest.length :=
    (List.dropWhile_suffix p).length_le
  unfold readLexeme at read
  split_ifs at read
  · obtain ⟨⟨name, after'⟩, found, same⟩ := Option.map_eq_some_iff.mp read
    cases same
    exact le_of_lt (readQuoted_shorter found)
  · cases read
    exact dropped _
  · cases read
    exact dropped _
  · cases read
    exact le_refl _
  · split at read
    · cases read
    · cases read
      exact dropped _
  · unfold readSymbol at read
    split at read <;> (try split at read) <;> cases read <;> simp

/-- The lexemes of a text, or none when some character starts no lexeme. -/
def lex : List Char → Option (List Lexeme)
  | [] => some []
  | c :: rest =>
      if isLayout c then lex rest
      else
        match _found : readLexeme c rest with
        | some (l, after) => (l :: ·) <$> lex after
        | none => none
termination_by cs => cs.length
decreasing_by
  · simp
  · have := readLexeme_shorter _found
    simp only [List.length_cons]
    omega

@[simp] theorem lex_nil : lex [] = some [] := by
  rw [lex]

theorem lex_layout {c : Char} (layout : isLayout c = true) (rest : List Char) :
    lex (c :: rest) = lex rest := by
  rw [lex, if_pos layout]

theorem lex_of_readLexeme {c : Char} {rest after : List Char} {l : Lexeme}
    (visible : isLayout c = false) (read : readLexeme c rest = some (l, after)) :
    lex (c :: rest) = (l :: ·) <$> lex after := by
  rw [lex, if_neg (by simp [visible])]
  split
  · rename_i l' after' found
    rw [read] at found
    cases found
    rfl
  · rename_i missing
    rw [read] at missing
    cases missing

/-! ## Readings of pieces of text -/

/-- The text that follows is empty or begins with a character that `ok` accepts. -/
def FollowedBy (ok : Char → Bool) (rest : List Char) : Prop := ∀ c ∈ rest.head?, ok c = true

/-- The characters `cs` read as the lexemes `ls` before every text that `next` allows. -/
def ReadsAs (cs : List Char) (ls : List Lexeme) (next : List Char → Prop) : Prop :=
  ∀ rest, next rest → lex (cs ++ rest) = (ls ++ ·) <$> lex rest

theorem followedBy_cons {ok : Char → Bool} {c : Char} (accepted : ok c = true) (rest : List Char) :
    FollowedBy ok (c :: rest) := by
  intro x head
  cases head
  exact accepted

theorem FollowedBy.takeWhile {p : Char → Bool} {rest : List Char}
    (stops : FollowedBy (fun x => !p x) rest) : rest.takeWhile p = [] ∧ rest.dropWhile p = rest := by
  cases rest with
  | nil => exact ⟨rfl, rfl⟩
  | cons c rest =>
    have refused : p c = false := by simpa using stops c rfl
    simp [refused]

theorem ReadsAs.nil (next : List Char → Prop) : ReadsAs [] [] next := by
  intro rest _
  simp

/-- Readings compose when the second piece begins with text that the first one may be followed
by. -/
theorem ReadsAs.append {a b : List Char} {la lb : List Lexeme} {P Q : List Char → Prop}
    (first : ReadsAs a la P) (second : ReadsAs b lb Q) (bridge : ∀ rest, Q rest → P (b ++ rest)) :
    ReadsAs (a ++ b) (la ++ lb) Q := by
  intro rest follows
  rw [List.append_assoc, first _ (bridge rest follows), second rest follows]
  cases lex rest <;> simp

theorem ReadsAs.mono {cs : List Char} {ls : List Lexeme} {P Q : List Char → Prop}
    (reads : ReadsAs cs ls P) (weaker : ∀ rest, Q rest → P rest) : ReadsAs cs ls Q :=
  fun rest follows => reads rest (weaker rest follows)

theorem readsAs_layout {c : Char} (layout : isLayout c = true) : ReadsAs [c] [] fun _ => True := by
  intro rest _
  rw [List.singleton_append, lex_layout layout]
  cases lex rest <;> rfl

theorem readsAs_lexeme {c : Char} {cs : List Char} {l : Lexeme} {next : List Char → Prop}
    (visible : isLayout c = false)
    (read : ∀ rest, next rest → readLexeme c (cs ++ rest) = some (l, rest)) :
    ReadsAs (c :: cs) [l] next := by
  intro rest follows
  rw [List.cons_append, lex_of_readLexeme visible (read rest follows)]
  rfl

/-! ## Quoted identifiers -/

/-- The characters of a name as written between quotes: each quote doubled. -/
def doubleQuotes (name : List Char) : List Char :=
  name.flatMap fun c => if c = '"' then ['"', '"'] else [c]

/-- Reading after an opening quote gives back the name whose quotes were doubled, and stops right
after the closing quote, provided no quote follows it. -/
theorem readQuoted_doubleQuotes (name rest : List Char) (next : rest.head? ≠ some '"') :
    readQuoted (doubleQuotes name ++ '"' :: rest) = some (name, rest) := by
  induction name with
  | nil =>
    cases rest with
    | nil => rfl
    | cons c rest =>
      have other : c ≠ '"' := fun same => next (by rw [same]; rfl)
      simp [doubleQuotes, readQuoted, other]
  | cons c name ih =>
    by_cases quote : c = '"'
    · subst quote
      simp only [doubleQuotes, List.flatMap_cons, if_pos, List.cons_append,
        List.nil_append] at ih ⊢
      rw [readQuoted, ih]
      rfl
    · have read : readQuoted (c :: (doubleQuotes name ++ '"' :: rest)) =
          (readQuoted (doubleQuotes name ++ '"' :: rest)).map fun (n, after) => (c :: n, after) := by
        rw [readQuoted.eq_def]
        split <;> simp_all
      simp only [doubleQuotes, List.flatMap_cons, if_neg quote, List.cons_append,
        List.nil_append] at read ih ⊢
      rw [read, ih]
      rfl

theorem readsAs_quoted (name : List Char) :
    ReadsAs ('"' :: (doubleQuotes name ++ ['"'])) [.quoted (String.ofList name)]
      (FollowedBy fun c => c != '"') := by
  apply readsAs_lexeme (by decide)
  intro rest follows
  have next : rest.head? ≠ some '"' := by
    intro head
    simpa using follows '"' head
  rw [readLexeme, if_pos rfl, List.append_assoc, List.singleton_append,
    readQuoted_doubleQuotes name rest next]
  rfl

/-! ## Words, numbers and placeholders -/

theorem takeWhile_append_of_all {p : Char → Bool} :
    ∀ {cs rest : List Char}, (∀ x ∈ cs, p x = true) → FollowedBy (fun x => !p x) rest →
      (cs ++ rest).takeWhile p = cs ∧ (cs ++ rest).dropWhile p = rest
  | [], rest, _, stops => by simpa using stops.takeWhile
  | c :: cs, rest, all, stops => by
    have head : p c = true := all c (by simp)
    obtain ⟨kept, dropped⟩ :=
      @takeWhile_append_of_all p cs rest (fun x mem => all x (List.mem_cons_of_mem c mem)) stops
    simp [head, kept, dropped]

theorem Char.isAlpha_of_isDigit {c : Char} (digit : c.isDigit = true) : c.isAlpha = false := by
  simp only [Char.isAlpha, Char.isUpper, Char.isLower, Char.isDigit, Bool.and_eq_true,
    decide_eq_true_eq, Bool.or_eq_false_iff, Bool.and_eq_false_iff, decide_eq_false_iff_not,
    UInt32.le_iff_toNat_le] at digit ⊢
  have : '0'.val.toNat = 48 := rfl
  have : '9'.val.toNat = 57 := rfl
  have : 'A'.val.toNat = 65 := rfl
  have : 'a'.val.toNat = 97 := rfl
  omega

theorem isLayout_of_isWordChar {c : Char} (word : isWordChar c = true) : isLayout c = false := by
  revert word
  unfold isWordChar isLayout
  by_cases space : c = ' ' <;> by_cases newline : c = '\n' <;> by_cases tab : c = '\t' <;>
    by_cases ret : c = '\r' <;> simp_all

theorem readsAs_word {c : Char} {cs : List Char} (start : isWordStart c = true)
    (chars : ∀ x ∈ cs, isWordChar x = true) :
    ReadsAs (c :: cs) [.word (String.ofList (c :: cs))] (FollowedBy fun x => !isWordChar x) := by
  have word : isWordChar c = true := by
    simp only [isWordStart, isWordChar, Bool.or_eq_true] at start ⊢
    exact start.imp_left fun alpha => by simp [Char.isAlphanum, alpha]
  apply readsAs_lexeme (isLayout_of_isWordChar word)
  intro rest follows
  have notQuote : c ≠ '"' := fun same => by simp [same, isWordStart] at start
  obtain ⟨kept, dropped⟩ := takeWhile_append_of_all chars follows
  rw [readLexeme, if_neg notQuote, if_pos start, kept, dropped]

theorem readsAs_number {c : Char} {cs : List Char} (digit : c.isDigit = true)
    (digits : ∀ x ∈ cs, x.isDigit = true) :
    ReadsAs (c :: cs) [.number (String.ofList (c :: cs))] (FollowedBy fun x => !x.isDigit) := by
  have notStart : isWordStart c = false := by
    simp only [isWordStart, Bool.or_eq_false_iff, beq_eq_false_iff_ne]
    exact ⟨Char.isAlpha_of_isDigit digit, fun same => by simp [same] at digit⟩
  have word : isWordChar c = true := by
    simp [isWordChar, Char.isAlphanum, digit]
  apply readsAs_lexeme (isLayout_of_isWordChar word)
  intro rest follows
  have notQuote : c ≠ '"' := fun same => by simp [same] at digit
  obtain ⟨kept, dropped⟩ := takeWhile_append_of_all digits follows
  rw [readLexeme, if_neg notQuote, if_neg (by simp [notStart]), if_pos digit, kept, dropped]

theorem readsAs_question : ReadsAs ['?'] [.placeholder "?"] fun _ => True := by
  apply readsAs_lexeme (by decide)
  intro rest _
  rfl

theorem readsAs_dollar {digits : List Char} (nonempty : digits ≠ [])
    (decimal : ∀ x ∈ digits, x.isDigit = true) :
    ReadsAs ('$' :: digits) [.placeholder (String.ofList ('$' :: digits))]
      (FollowedBy fun x => !x.isDigit) := by
  apply readsAs_lexeme (by decide)
  intro rest follows
  obtain ⟨kept, dropped⟩ := takeWhile_append_of_all decimal follows
  obtain ⟨d, more, rfl⟩ := List.exists_cons_of_ne_nil nonempty
  rw [readLexeme]
  simp only [kept, dropped]
  rfl

/-! ## Text after which no lexeme goes on -/

/-- Characters that end the lexeme before them and begin none that goes on after them: layout,
and the symbols that never begin a longer one. -/
def closes (c : Char) : Bool :=
  isLayout c || c == '(' || c == ')' || c == '[' || c == ']' || c == ',' || c == '.'

theorem closes_of_isWordChar {c : Char} (word : isWordChar c = true) : closes c = false := by
  simp only [closes, isLayout_of_isWordChar word, Bool.false_or, Bool.or_eq_false_iff,
    beq_eq_false_iff_ne]
  refine ⟨⟨⟨⟨⟨?_, ?_⟩, ?_⟩, ?_⟩, ?_⟩, ?_⟩ <;> rintro rfl <;> simp [isWordChar] at word

theorem all_of_dropWhile_eq_nil {p : Char → Bool} :
    ∀ {cs : List Char}, cs.dropWhile p = [] → ∀ x ∈ cs, p x = true
  | [], _ => by simp
  | c :: cs, dropped => by
    by_cases head : p c = true
    · rw [List.dropWhile_cons_of_pos head] at dropped
      intro x mem
      rcases List.mem_cons.mp mem with rfl | mem
      · exact head
      · exact all_of_dropWhile_eq_nil dropped x mem
    · rw [List.dropWhile_cons_of_neg head] at dropped
      cases dropped

theorem takeWhile_append_of_stop {p : Char → Bool} :
    ∀ {cs : List Char}, cs.dropWhile p ≠ [] → ∀ more : List Char,
      (cs ++ more).takeWhile p = cs.takeWhile p ∧ (cs ++ more).dropWhile p = cs.dropWhile p ++ more
  | [], stops, _ => absurd rfl stops
  | c :: cs, stops, more => by
    by_cases head : p c = true
    · rw [List.dropWhile_cons_of_pos head] at stops
      obtain ⟨kept, dropped⟩ := takeWhile_append_of_stop stops more
      simp [head, kept, dropped]
    · simp [head]

theorem readQuoted_suffix {cs name after : List Char} (read : readQuoted cs = some (name, after)) :
    after <:+ cs := by
  fun_induction readQuoted cs generalizing name after with
  | case1 => cases read
  | case2 rest ih =>
    obtain ⟨⟨name', after'⟩, found, same⟩ := Option.map_eq_some_iff.mp read
    cases same
    exact ((ih found).trans (List.suffix_cons _ _)).trans (List.suffix_cons _ _)
  | case3 rest =>
    cases read
    exact List.suffix_cons _ _
  | case4 c rest _ _ ih =>
    obtain ⟨⟨name', after'⟩, found, same⟩ := Option.map_eq_some_iff.mp read
    cases same
    exact (ih found).trans (List.suffix_cons _ _)

theorem readQuoted_append {cs name after : List Char} (read : readQuoted cs = some (name, after))
    (inside : after ≠ []) (more : List Char) :
    readQuoted (cs ++ more) = some (name, after ++ more) := by
  fun_induction readQuoted cs generalizing name after with
  | case1 => cases read
  | case2 rest ih =>
    obtain ⟨⟨name', after'⟩, found, same⟩ := Option.map_eq_some_iff.mp read
    cases same
    rw [List.cons_append, List.cons_append, readQuoted, ih found inside]
    rfl
  | case3 rest notQuote =>
    cases read
    obtain ⟨a, rest, rfl⟩ := List.exists_cons_of_ne_nil inside
    have other : a ≠ '"' := fun same => notQuote rest (by rw [same])
    simp [readQuoted, other]
  | case4 c rest notQuote _ ih =>
    obtain ⟨⟨name', after'⟩, found, same⟩ := Option.map_eq_some_iff.mp read
    cases same
    rw [List.cons_append, readQuoted.eq_def]
    split <;> simp_all

theorem readQuoted_last {cs name : List Char} (read : readQuoted cs = some (name, [])) :
    cs.getLast? = some '"' := by
  fun_induction readQuoted cs generalizing name with
  | case1 => cases read
  | case2 rest ih =>
    obtain ⟨⟨name', after'⟩, found, same⟩ := Option.map_eq_some_iff.mp read
    cases same
    simp [List.getLast?_cons, ih found]
  | case3 rest =>
    cases read
    rfl
  | case4 c rest _ _ ih =>
    obtain ⟨⟨name', after'⟩, found, same⟩ := Option.map_eq_some_iff.mp read
    cases same
    simp [List.getLast?_cons, ih found]

theorem readSymbol_suffix {c : Char} {rest after : List Char} {l : Lexeme}
    (read : readSymbol c rest = some (l, after)) : after <:+ rest := by
  unfold readSymbol at read
  split at read
  all_goals first
    | (cases read; exact List.suffix_cons _ _)
    | (split_ifs at read; cases read; exact List.suffix_refl _)

theorem readSymbol_append {c : Char} {rest after : List Char} {l : Lexeme}
    (read : readSymbol c rest = some (l, after)) (inside : rest ≠ []) (more : List Char) :
    readSymbol c (rest ++ more) = some (l, after ++ more) := by
  obtain ⟨d, rest, rfl⟩ := List.exists_cons_of_ne_nil inside
  unfold readSymbol at read ⊢
  split at read <;> split <;> simp_all

theorem readLexeme_suffix {c : Char} {rest after : List Char} {l : Lexeme}
    (read : readLexeme c rest = some (l, after)) : after <:+ rest := by
  unfold readLexeme at read
  split_ifs at read
  · obtain ⟨⟨name, after'⟩, found, same⟩ := Option.map_eq_some_iff.mp read
    cases same
    exact readQuoted_suffix found
  · cases read
    exact List.dropWhile_suffix _
  · cases read
    exact List.dropWhile_suffix _
  · cases read
    exact List.suffix_refl _
  · split at read
    · cases read
    · cases read
      exact List.dropWhile_suffix _
  · exact readSymbol_suffix read

theorem readLexeme_append {c : Char} {rest after : List Char} {l : Lexeme}
    (read : readLexeme c rest = some (l, after)) (inside : after ≠ []) (more : List Char) :
    readLexeme c (rest ++ more) = some (l, after ++ more) := by
  unfold readLexeme at read ⊢
  split_ifs at read ⊢
  · obtain ⟨⟨name, after'⟩, found, same⟩ := Option.map_eq_some_iff.mp read
    cases same
    rw [readQuoted_append found inside more]
    rfl
  · cases read
    obtain ⟨kept, dropped⟩ := takeWhile_append_of_stop inside more
    rw [kept, dropped]
  · cases read
    obtain ⟨kept, dropped⟩ := takeWhile_append_of_stop inside more
    rw [kept, dropped]
  · cases read
    rfl
  · split at read
    · cases read
    · rename_i nonempty
      simp only [Option.some.injEq, Prod.mk.injEq] at read
      obtain ⟨rfl, rfl⟩ := read
      obtain ⟨kept, dropped⟩ := takeWhile_append_of_stop inside more
      rw [kept, dropped]
      split <;> simp_all
  · exact readSymbol_append read (by rintro rfl; simp_all [readSymbol]) more

/-- When the last character of a lexeme closes it, the lexeme is the same whatever follows. -/
theorem readLexeme_closes {c : Char} {rest : List Char} {l : Lexeme}
    (read : readLexeme c rest = some (l, [])) (ends : ∀ d ∈ (c :: rest).getLast?, closes d = true)
    (more : List Char) : readLexeme c (rest ++ more) = some (l, more) := by
  -- every lexeme but a closing symbol ends in a character that does not close it
  have open_ : (∀ x ∈ c :: rest, closes x = false) → False := fun quiet => by
    have nonempty : (c :: rest).getLast? ≠ none := by simp
    obtain ⟨d, last⟩ := Option.ne_none_iff_exists'.mp nonempty
    have := ends d last
    rw [quiet d (List.mem_of_getLast? last)] at this
    cases this
  unfold readLexeme at read ⊢
  split_ifs at read ⊢ with quote word digit question dollar
  · obtain ⟨⟨name, after⟩, found, same⟩ := Option.map_eq_some_iff.mp read
    cases same
    have last := readQuoted_last found
    have := ends '"' (by simp [List.getLast?_cons, last])
    simp [closes, isLayout] at this
  · simp only [Option.some.injEq, Prod.mk.injEq] at read
    refine absurd (fun x mem => closes_of_isWordChar ?_) open_
    rcases List.mem_cons.mp mem with rfl | mem
    · simp only [isWordStart, isWordChar, Bool.or_eq_true] at word ⊢
      exact word.imp_left fun alpha => by simp [Char.isAlphanum, alpha]
    · exact all_of_dropWhile_eq_nil read.2 x mem
  · simp only [Option.some.injEq, Prod.mk.injEq] at read
    refine absurd (fun x mem => closes_of_isWordChar ?_) open_
    rcases List.mem_cons.mp mem with rfl | mem
    · simp [isWordChar, Char.isAlphanum, digit]
    · simp [isWordChar, Char.isAlphanum, all_of_dropWhile_eq_nil read.2 x mem]
  · cases read
    exact absurd (by simp [question, closes, isLayout]) open_
  · split at read
    · cases read
    · simp only [Option.some.injEq, Prod.mk.injEq] at read
      refine absurd (fun x mem => ?_) open_
      rcases List.mem_cons.mp mem with rfl | mem
      · simp [dollar, closes, isLayout]
      · exact closes_of_isWordChar (by
          simp [isWordChar, Char.isAlphanum, all_of_dropWhile_eq_nil read.2 x mem])
  · unfold readSymbol at read ⊢
    split at read
    any_goals (cases read; exact absurd (by simp [closes, isLayout]) open_)
    -- what is left is a symbol of one character, closing by assumption
    split_ifs at read with single
    cases read
    have closing := ends c (by simp)
    simp only [singleSymbols, List.mem_cons, List.not_mem_nil, or_false] at single
    rcases single with rfl | rfl | rfl | rfl | rfl | rfl | rfl | rfl | rfl | rfl <;>
      first
        | rfl
        | simp [closes, isLayout] at closing

/-- A text whose last character closes every lexeme reads as its lexemes whatever follows. -/
theorem readsAs_closed {cs : List Char} {ls : List Lexeme} (read : lex cs = some ls)
    (ends : ∀ d ∈ cs.getLast?, closes d = true) : ReadsAs cs ls fun _ => True := by
  fun_induction lex cs generalizing ls with
  | case1 =>
    cases read
    exact ReadsAs.nil _
  | case2 c rest layout ih =>
    intro more _
    have tail : ∀ d ∈ rest.getLast?, closes d = true := fun d last =>
      ends d (by simp [List.getLast?_cons, Option.mem_def.mp last])
    rw [List.cons_append, lex_layout layout, ih read tail more trivial]
  | case3 c rest notLayout l after found ih =>
    obtain ⟨ls', lexed, rfl⟩ := Option.map_eq_some_iff.mp read
    intro more _
    have visible : isLayout c = false := by simpa using notLayout
    by_cases inside : after = []
    · subst inside
      rw [lex_nil] at lexed
      cases lexed
      rw [List.cons_append, lex_of_readLexeme visible (readLexeme_closes found ends more)]
      cases lex more <;> rfl
    · have suffix := readLexeme_suffix found
      have tail : ∀ d ∈ after.getLast?, closes d = true := fun d last => by
        obtain ⟨front, rfl⟩ := suffix
        exact ends d (by simp [List.getLast?_cons, List.getLast?_append, Option.mem_def.mp last])
      rw [List.cons_append, lex_of_readLexeme visible (readLexeme_append found inside more),
        ih lexed tail more trivial]
      cases lex more <;> rfl
  | case4 => cases read

end RelMap.Sql
