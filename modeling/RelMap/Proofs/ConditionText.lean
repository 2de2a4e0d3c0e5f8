import Mathlib
import RelMap.Proofs.ConditionGrammar
import RelMap.Proofs.IdentifierQuoting
import RelMap.Proofs.ParameterOrder
import RelMap.Proofs.FunctionAllowList
import RelMap.Proofs.ReferencePaths

/-!
# Compiled conditions read back with their shape

The text the compiler writes for a condition, lexed and read with the grammar of conditions, gives
back a tree of the condition's shape. Each comparison, `BETWEEN`, `IS NULL`, `AND`, `OR` and `NOT`
of the condition is one operator of the tree, whose operands are read from the texts of its
operands. A function call is a call of the same function on the arguments' trees, an element
access a subscript, and a concatenation one `||` between the trees of its operands, where the `||`
written inside its right operand group to the left. A literal is a placeholder, numbered in the
order of the tree. A column, a reference, a child of a virtual column and a property path are read
as a path: a column, a correlated subselect on another path, or an element of a path. Function
names are plain identifiers: words that are not keywords of the grammar.

The proof follows the compiler: each piece of text it writes reads as the lexemes of the matching
piece of the tree, the readings compose, and `readCondition_print` reads the tree back.
-/

namespace RelMap

set_option autoImplicit false

open Sql Resolve

namespace Sql

/-! ## Readings of pieces of text -/

/-- Text that may follow a complete expression: nothing, or a character that extends neither a
word, a number nor a quoted name. -/
def Apart (rest : List Char) : Prop := FollowedBy (fun c => !isWordChar c && c != '"') rest

theorem followedBy_append {ok : Char → Bool} {cs : List Char} {c : Char} (head : cs.head? = some c)
    (accepted : ok c = true) (rest : List Char) : FollowedBy ok (cs ++ rest) := by
  cases cs with
  | nil => cases head
  | cons d tail =>
    cases head
    exact followedBy_cons accepted _

theorem Apart.followedBy {ok : Char → Bool}
    (implied : ∀ c, (!isWordChar c && c != '"') = true → ok c = true) {rest : List Char}
    (apart : Apart rest) : FollowedBy ok rest :=
  fun c head => implied c (apart c head)

theorem Apart.unquoted {rest : List Char} (apart : Apart rest) :
    FollowedBy (fun c => c != '"') rest :=
  apart.followedBy fun c ok => by simp_all

theorem Apart.unworded {rest : List Char} (apart : Apart rest) :
    FollowedBy (fun c => !isWordChar c) rest :=
  apart.followedBy fun c ok => by simp_all

theorem ReadsAs.cast {cs cs' : List Char} {ls ls' : List Lexeme} {P : List Char → Prop}
    (reads : ReadsAs cs ls P) (chars : cs = cs') (lexemes : ls = ls') : ReadsAs cs' ls' P := by
  subst chars lexemes
  exact reads

theorem readsAs_quote (name : String) :
    ReadsAs (quote name).toList [.quoted name] (FollowedBy fun c => c != '"') := by
  rw [quote_toList]
  simpa using readsAs_quoted name.toList

theorem readsAs_marker (style : Placeholders) (n : Nat) :
    ReadsAs (style.marker n).toList [.placeholder (style.marker n)] Apart := by
  cases style with
  | anonymous =>
    simp only [Placeholders.marker]
    exact (readsAs_question.mono fun _ _ => trivial).cast (by decide) rfl
  | numbered =>
    have spelled : ("$" ++ toString n).toList = '$' :: Nat.toDigits 10 n := by simp [Nat.repr]
    have named : String.ofList ('$' :: Nat.toDigits 10 n) = "$" ++ toString n := by
      rw [← spelled, String.ofList_toList]
    have reads := readsAs_dollar (Nat.toDigits_ne_nil (n := n) (b := 10)) fun c mem =>
      Nat.isDigit_of_mem_toDigits (b := 10) (by decide) (by decide) mem
    rw [named, ← spelled] at reads
    refine reads.mono fun rest apart => apart.followedBy fun c ok => ?_
    simp [isWordChar, Char.isAlphanum] at ok
    simp [ok.1.1.2]

theorem readsAs_subscript (k : Nat) :
    ReadsAs ("[" ++ toString k ++ "]").toList [.symbol "[", .number (toString k), .symbol "]"]
      fun _ => True := by
  have spelled : ("[" ++ toString k ++ "]").toList = '[' :: (Nat.toDigits 10 k ++ [']']) := by
    simp [Nat.repr]
  have named : String.ofList (Nat.toDigits 10 k) = toString k := by
    simp [Nat.repr]
  obtain ⟨d, ds, digits⟩ := List.exists_cons_of_ne_nil (Nat.toDigits_ne_nil (n := k) (b := 10))
  have decimal : ∀ c ∈ d :: ds, c.isDigit = true := fun c mem =>
    Nat.isDigit_of_mem_toDigits (b := 10) (by decide) (by decide) (digits ▸ mem)
  have number := readsAs_number (decimal d (by simp)) fun c mem =>
    decimal c (List.mem_cons_of_mem d mem)
  rw [← digits, named] at number
  have opening : ReadsAs ['['] [.symbol "["] fun _ => True :=
    readsAs_closed (by cbv) (by simp [closes, isLayout])
  have closing : ReadsAs [']'] [.symbol "]"] fun _ => True :=
    readsAs_closed (by cbv) (by simp [closes, isLayout])
  rw [spelled]
  exact (opening.append (number.append closing fun rest _ => followedBy_cons (by decide) rest)
    fun _ _ => trivial).cast rfl rfl

theorem readsAs_fixed_close : ReadsAs ")".toList [.symbol ")"] fun _ => True :=
  readsAs_closed (by cbv) (by simp [closes, isLayout])

theorem readsAs_fixed_open : ReadsAs "(".toList [.symbol "("] fun _ => True :=
  readsAs_closed (by cbv) (by simp [closes, isLayout])

theorem tokens_append : ∀ t u : Text, tokens (t ++ u) = tokens t ++ tokens u
  | [], u => by simp [tokens]
  | .text s :: rest, u => by simp [tokens, tokens_append rest u]
  | .param v :: rest, u => by simp [tokens, tokens_append rest u]
  | .fragment body :: rest, u => by simp [tokens, tokens_append rest u]

/-- Statement text, its placeholders numbered on from `next`, reads as `ls` before every text
that `P` allows. -/
def TextReads (style : Placeholders) (next : Nat) (t : Text) (ls : List Lexeme)
    (P : List Char → Prop) : Prop :=
  ReadsAs (numberedFrom style next (tokens t)).toList ls P

namespace TextReads

variable {style : Placeholders} {next : Nat}

theorem nil (P : List Char → Prop) : TextReads style next [] [] P := by
  simpa [TextReads, tokens, numberedFrom] using ReadsAs.nil P

/-- The readings of two texts compose, the second numbering its placeholders after the first's. -/
theorem append {t u : Text} {lt lu : List Lexeme} {P Q : List Char → Prop}
    (first : TextReads style next t lt P)
    (second : TextReads style (next + (params t).length) u lu Q)
    (bridge : ∀ rest, Q rest →
      P ((numberedFrom style (next + (params t).length) (tokens u)).toList ++ rest)) :
    TextReads style next (t ++ u) (lt ++ lu) Q := by
  unfold TextReads
  rw [tokens_append, numberedFrom_append, String.toList_append]
  exact ReadsAs.append first second bridge

/-- `append` with the numbering of the second text given by an equation. -/
theorem append_at {t u : Text} {lt lu : List Lexeme} {P Q : List Char → Prop} {k : Nat}
    (first : TextReads style next t lt P) (second : TextReads style k u lu Q)
    (numbered : next + (params t).length = k)
    (bridge : ∀ rest, Q rest → P ((numberedFrom style k (tokens u)).toList ++ rest)) :
    TextReads style next (t ++ u) (lt ++ lu) Q := by
  subst numbered
  exact first.append second bridge

theorem lit {s : String} {ls : List Lexeme} {P : List Char → Prop} (reads : ReadsAs s.toList ls P) :
    TextReads style next (Sql.lit s) ls P := by
  simpa [TextReads, Sql.lit, tokens, numberedFrom] using reads

theorem cast {t : Text} {ls ls' : List Lexeme} {P : List Char → Prop}
    (reads : TextReads style next t ls P) (lexemes : ls = ls') : TextReads style next t ls' P :=
  lexemes ▸ reads

theorem mono {t : Text} {ls : List Lexeme} {P Q : List Char → Prop}
    (reads : TextReads style next t ls P) (weaker : ∀ rest, Q rest → P rest) :
    TextReads style next t ls Q :=
  ReadsAs.mono reads weaker

/-- The text before a literal piece is apart from what follows when the piece begins with a
character that extends no word, number or quoted name. -/
theorem apart_lit {s : String} {c : Char} (head : s.toList.head? = some c)
    (ok : (!isWordChar c && c != '"') = true) (k : Nat) (rest : List Char) :
    Apart ((numberedFrom style k (tokens (Sql.lit s))).toList ++ rest) := by
  simpa [Sql.lit, tokens, numberedFrom, Apart] using followedBy_append head ok rest

/-- Two readings separated by a literal piece that begins apart from the first: the pattern of
every infix operator the compiler writes. -/
theorem separated {t u : Text} {s : String} {c : Char} {lt ls lu : List Lexeme}
    {Q : List Char → Prop} {k : Nat} (first : TextReads style next t lt Apart)
    (separator : ReadsAs s.toList ls fun _ => True) (head : s.toList.head? = some c)
    (ok : (!isWordChar c && c != '"') = true) (second : TextReads style k u lu Q)
    (numbered : next + (params t).length = k) :
    TextReads style next (t ++ Sql.lit s ++ u) (lt ++ ls ++ lu) Q :=
  (first.append (lit separator) fun rest _ => apart_lit head ok _ rest).append_at second
    (by simpa using numbered) fun _ _ => trivial

/-- A reading between an opening text and a literal piece that begins with a closing
parenthesis: the pattern of every parenthesis the compiler writes. -/
theorem enclose {s t : Text} {e : String} {ls lt le : List Lexeme} {P : List Char → Prop}
    {k : Nat} (opening : TextReads style next s ls fun _ => True)
    (inner : TextReads style k t lt Apart) (numbered : next + (params s).length = k)
    (closing : ReadsAs e.toList le fun _ => True) (head : e.toList.head? = some ')') :
    TextReads style next (s ++ t ++ Sql.lit e) (ls ++ lt ++ le) P :=
  (opening.append_at inner numbered fun _ _ => trivial).append
    ((lit closing).mono fun _ _ => trivial) fun rest _ => apart_lit head (by decide) _ rest

/-- Two readings in parentheses on either side of a connective word, as AND and OR are
written. -/
theorem junction {t u : Text} {middle word : String} {lt lu : List Lexeme} {k : Nat}
    (connective : ReadsAs middle.toList [.symbol ")", .word word, .symbol "("] fun _ => True)
    (head : middle.toList.head? = some ')')
    (left : TextReads style next t lt Apart) (right : TextReads style k u lu Apart)
    (numbered : next + (params t).length = k) :
    TextReads style next (Sql.lit "(" ++ t ++ Sql.lit middle ++ u ++ Sql.lit ")")
      (paren lt ++ .word word :: paren lu) Apart := by
  have first : TextReads style next (Sql.lit "(" ++ t ++ Sql.lit middle)
      ([.symbol "("] ++ lt ++ [.symbol ")", .word word, .symbol "("]) fun _ => True :=
    enclose (lit readsAs_fixed_open) left (by simp) connective head
  exact (enclose first right (by simpa using numbered) readsAs_fixed_close rfl).cast
    (by simp [paren])

theorem param (v : Value) : TextReads style next [.param v] [.placeholder (style.marker next)] Apart := by
  simpa [TextReads, tokens, numberedFrom] using readsAs_marker style next

end TextReads

end Sql

/-! ## Paths -/

namespace Sql.SqlExpr

/-- The trees a path of columns is read as: a column, a correlated subselect reading a column of
the row whose key equals another path, or an element of a path. -/
inductive IsPath : SqlExpr → Prop
  | column {names : List String} : names ≠ [] → IsPath (.column names)
  | subselect {selected table key : List String} {tableAlias : Option String}
      {argument : SqlExpr} : selected ≠ [] → table ≠ [] → key ≠ [] → IsPath argument →
      IsPath (.subselect (.column selected) table tableAlias
        (.compare .equal (.column key) argument))
  | subscript {base : SqlExpr} (position : String) : IsPath base → IsPath (.subscript base position)

namespace IsPath

variable {e : SqlExpr}

theorem bare (path : e.IsPath) : e.bare = true := by
  cases path <;> rfl

theorem level_le (path : e.IsPath) : e.level ≤ 1 := by
  cases path <;> simp [level]

theorem printable (path : e.IsPath) : e.printable = true := by
  induction path with
  | column named => simpa [SqlExpr.printable] using named
  | @subselect selected table key tableAlias argument named placed keyed path ih =>
    have low := path.level_le
    have keyLevel : (SqlExpr.column key).level = 0 := rfl
    simp [SqlExpr.printable, named, placed, keyed, ih, keyLevel]
    omega
  | subscript position base ih => simpa [SqlExpr.printable] using ih

end IsPath

end Sql.SqlExpr

namespace TableRef

/-- The names a column of the table is written with. -/
def columnNames (qualify : Bool) (r : TableRef) (name : String) : List String :=
  (if qualify && !r.qualifier.isEmpty then
    (if r.qualifierSchema.isEmpty then [] else [r.qualifierSchema]) ++ [r.qualifier]
  else []) ++ [name]

/-- The names the table is written with. -/
def names (r : TableRef) : List String :=
  (if r.schemaName.isEmpty then [] else [r.schemaName]) ++ [r.name]

/-- The alias the table is declared with. -/
def declaredAlias (r : TableRef) : Option String :=
  if r.aliasName.isEmpty then none else some r.aliasName

theorem columnNames_ne_nil (qualify : Bool) (r : TableRef) (name : String) :
    r.columnNames qualify name ≠ [] := by
  simp [columnNames]

theorem names_ne_nil (r : TableRef) : r.names ≠ [] := by
  simp [names]

end TableRef

namespace Sql

theorem readsAs_dot : ReadsAs ['.'] [.symbol "."] fun _ => True :=
  readsAs_closed (by cbv) (by simp [closes, isLayout])

theorem readsAs_quote_dotted (name : String) :
    ReadsAs (quote name).toList (dotted [name]) (FollowedBy fun c => c != '"') :=
  readsAs_quote name

/-- A quoted name and a dot before dotted names read as the longer dotted names. -/
theorem readsAs_dotted_cons (n : String) {cs : List Char} {names : List String}
    {P : List Char → Prop} (reads : ReadsAs cs (dotted names) P) (named : names ≠ []) :
    ReadsAs ((quote n).toList ++ '.' :: cs) (dotted (n :: names)) P := by
  obtain ⟨m, names, rfl⟩ := List.exists_cons_of_ne_nil named
  have dotThen := readsAs_dot.append reads fun _ _ => trivial
  exact ((readsAs_quote n).append dotThen fun rest _ => followedBy_cons (by decide) _).cast rfl
    (by simp [dotted, dotsTail])

end Sql

theorem TableRef.readsAs_column (qualify : Bool) (r : TableRef) (name : String) :
    ReadsAs (r.column qualify name).toList (dotted (r.columnNames qualify name))
      (FollowedBy fun c => c != '"') := by
  unfold TableRef.column TableRef.columnNames
  split_ifs with qualified schema
  · exact (readsAs_dotted_cons r.qualifier (readsAs_quote_dotted name) (by simp)).cast
      (by simp) (by simp)
  · exact (readsAs_dotted_cons r.qualifierSchema
      (readsAs_dotted_cons r.qualifier (readsAs_quote_dotted name) (by simp)) (by simp)).cast
      (by simp) (by simp)
  · exact (readsAs_quote name).cast (by simp) (by simp [dotted, dotsTail])

theorem TableRef.readsAs_text (r : TableRef) :
    ReadsAs r.text.toList (dotted r.names ++ (r.declaredAlias.map Lexeme.quoted).toList)
      (FollowedBy fun c => c != '"') := by
  have named : ReadsAs ((if r.schemaName.isEmpty then "" else quote r.schemaName ++ ".") ++
      quote r.name).toList (dotted r.names) (FollowedBy fun c => c != '"') := by
    unfold TableRef.names
    split_ifs
    · exact (readsAs_quote r.name).cast (by simp) (by simp [dotted, dotsTail])
    · exact (readsAs_dotted_cons r.schemaName (readsAs_quote_dotted r.name) (by simp)).cast
        (by simp) (by simp)
  unfold TableRef.text TableRef.declaredAlias
  by_cases unaliased : r.aliasName.isEmpty
  · rw [if_pos unaliased, if_pos unaliased]
    exact named.cast (by simp) (by simp)
  · rw [if_neg unaliased, if_neg unaliased]
    have aliased := (readsAs_layout (c := ' ') (by decide)).append (readsAs_quote r.aliasName)
      fun _ _ => trivial
    exact (named.append aliased fun rest _ => followedBy_cons (by decide) _).cast (by simp) rfl

namespace PathExpr

/-- The tree a path expression is read as. -/
def tree : PathExpr → SqlExpr
  | .column r name => .column (r.columnNames true name)
  | .subselect target selected key argument =>
      .subselect (.column (target.columnNames true selected)) target.names target.declaredAlias
        (.compare .equal (.column (target.columnNames true key)) argument.tree)

theorem isPath_tree : ∀ e : PathExpr, e.tree.IsPath
  | .column r name => .column (r.columnNames_ne_nil true name)
  | .subselect target selected key argument =>
    .subselect (target.columnNames_ne_nil true selected) target.names_ne_nil
      (target.columnNames_ne_nil true key) (isPath_tree argument)

theorem readsAs_text : ∀ e : PathExpr,
    ReadsAs e.text.toList e.tree.print (FollowedBy fun c => c != '"')
  | .column r name => r.readsAs_column true name
  | .subselect target selected key argument => by
    have opening : ReadsAs "(SELECT ".toList [.symbol "(", .word "SELECT"] fun _ => True :=
      readsAs_closed (by cbv) (by simp [closes, isLayout])
    have source : ReadsAs " FROM ".toList [.word "FROM"] fun _ => True :=
      readsAs_closed (by cbv) (by simp [closes, isLayout])
    have filter : ReadsAs " WHERE ".toList [.word "WHERE"] fun _ => True :=
      readsAs_closed (by cbv) (by simp [closes, isLayout])
    have equal : ReadsAs " = ".toList [.symbol "="] fun _ => True :=
      readsAs_closed (by cbv) (by simp [closes, isLayout])
    -- the pieces in the order the text writes them, each bridge on the first character after it
    have reads := (((((((opening.append (target.readsAs_column true selected) fun _ _ => trivial).append
      source fun rest _ => followedBy_append rfl (by decide) rest).append
      target.readsAs_text fun _ _ => trivial).append
      filter fun rest _ => followedBy_append rfl (by decide) rest).append
      (target.readsAs_column true key) fun _ _ => trivial).append
      equal fun rest _ => followedBy_append rfl (by decide) rest).append
      (readsAs_text argument) fun _ _ => trivial).append
      readsAs_fixed_close fun rest _ => followedBy_append rfl (by decide) rest
    exact (reads.mono fun _ _ => trivial).cast (by simp [PathExpr.text])
      (by simp [tree, SqlExpr.print, paren, opLexemes])

end PathExpr

theorem ColumnPath.text_reads {qualify : Bool} {p : ColumnPath} {s : String}
    (written : p.text qualify = .ok s) :
    ∃ e : SqlExpr, e.IsPath ∧ ReadsAs s.toList e.print (FollowedBy fun c => c != '"') := by
  unfold ColumnPath.text at written
  split at written
  · cases written
  · split at written
    · cases written
      exact ⟨_, .column (TableRef.columnNames_ne_nil _ _ _), TableRef.readsAs_column _ _ _⟩
    · rename_i e _
      cases written
      exact ⟨e.tree, e.isPath_tree, e.readsAs_text⟩

namespace Compiler

variable (style : Placeholders) (c : Compiler)

/-- The text of a column path reads as a path, and binds nothing. -/
def PathText (next : Nat) (t : Text) : Prop :=
  params t = [] ∧ ∃ e : SqlExpr, e.IsPath ∧ TextReads style next t e.print Apart

theorem pathText_reads (p : ColumnPath) (next : Nat) :
    (c.pathText p).Ensures (PathText style next) := by
  rw [pathText]
  refine (Ensures.lift fun s written => written).bind fun s written => Ensures.pure ?_
  obtain ⟨e, path, reads⟩ := ColumnPath.text_reads written
  exact ⟨params_lit s, e, path, TextReads.lit (reads.mono fun _ apart => apart.unquoted)⟩

theorem columnProperty_reads (path : String) (next : Nat) :
    (c.columnProperty path).Ensures (PathText style next) := by
  rw [columnProperty]
  exact (Ensures.true _).bind fun p _ => c.pathText_reads style p next

end Compiler

/-! ## The shapes of compiled nodes and conditions -/

namespace Sql.SqlExpr

/-- `l || r` as read: the `||` written inside `r` group to the left after `l`. -/
def joinConcat (l : SqlExpr) : SqlExpr → SqlExpr
  | .concat a b => .concat (joinConcat l a) b
  | r => .concat l r

theorem print_joinConcat (l r : SqlExpr) :
    (l.joinConcat r).print = l.print ++ .symbol "||" :: r.print := by
  fun_induction joinConcat l r with
  | case1 a b ih => simp [print, ih]
  | case2 r _ => rfl

theorem level_eq_two {e : SqlExpr} (two : e.level = 2) : ∃ a b, e = .concat a b := by
  cases e <;> simp_all [level]

theorem joinConcat_printable {l r : SqlExpr} (left : l.printable = true) (leftLevel : l.level ≤ 2)
    (right : r.printable = true) (rightLevel : r.level ≤ 2) :
    (l.joinConcat r).printable = true ∧ (l.joinConcat r).level = 2 := by
  fun_induction joinConcat l r with
  | case1 a b ih =>
    simp only [printable, Bool.and_eq_true, decide_eq_true_eq] at right
    obtain ⟨⟨⟨inner, last⟩, innerLevel⟩, lastLevel⟩ := right
    obtain ⟨joined, joinedLevel⟩ := ih inner innerLevel
    refine ⟨?_, rfl⟩
    simp [printable, joined, joinedLevel, last, lastLevel]
  | case2 r notConcat =>
    have tight : r.level ≤ 1 := by
      by_contra loose
      have two : r.level = 2 := by omega
      obtain ⟨a, b, rfl⟩ := level_eq_two two
      exact notConcat a b rfl
    refine ⟨?_, rfl⟩
    simp [printable, left, leftLevel, right, tight]

theorem joinConcat_bare (l r : SqlExpr) : (l.joinConcat r).bare = false := by
  fun_induction joinConcat l r <;> rfl

end Sql.SqlExpr

namespace Sql

mutual

/-- The tree read from the text of a compiled node: of the node's shape, its placeholders numbered
on from `next` in the order of the tree. -/
inductive Shaped (style : Placeholders) : Nat → Node → SqlExpr → Prop
  | property {next : Nat} {path : String} {e : SqlExpr} :
      e.IsPath → Shaped style next (.property path) e
  | reference {next : Nat} {base : Node} {column : String} {e : SqlExpr} :
      e.IsPath → Shaped style next (.reference base column) e
  | child {next : Nat} {base : Node} {name : String} {e : SqlExpr} :
      e.IsPath → Shaped style next (.child base name) e
  | literal {next : Nat} {d : Datum} {m : Mapper} :
      Shaped style next (.literal d m) (.placeholder (style.marker next))
  | call {next : Nat} {name : String} {args : List Node} {decode : Option Mapper}
      {trees : List SqlExpr} :
      ArgsShaped style next args trees → Shaped style next (.call name args decode) (.call name trees)
  | concat {next : Nat} {l r : Node} {tl tr : SqlExpr} :
      Shaped style next l tl → Shaped style (next + l.bindings.length) r tr →
      Shaped style next (.concat l r) (tl.joinConcat tr)
  | index {next : Nat} {base : Node} {i : Nat} {tb : SqlExpr} :
      Shaped style next base tb →
      Shaped style next (.index base i) (.subscript tb (toString (i + 1)))

/-- The trees read from the arguments of a call, their placeholders numbered on from `next`. -/
inductive ArgsShaped (style : Placeholders) : Nat → List Node → List SqlExpr → Prop
  | nil {next : Nat} : ArgsShaped style next [] []
  | cons {next : Nat} {a : Node} {rest : List Node} {t : SqlExpr} {trees : List SqlExpr} :
      Shaped style next a t → ArgsShaped style (next + a.bindings.length) rest trees →
      ArgsShaped style next (a :: rest) (t :: trees)

end

/-- The tree read from the text of a compiled condition: one operator for each operator of the
condition, with the trees of its operands, placeholders numbered on from `next`. -/
inductive CondShaped (style : Placeholders) : Nat → Condition → SqlExpr → Prop
  | compare {next : Nat} {op : Comparison} {l r : Node} {tl tr : SqlExpr} :
      Shaped style next l tl → Shaped style (next + l.bindings.length) r tr →
      CondShaped style next (.compare op l r) (.compare op tl tr)
  | between {next : Nat} {v low high : Node} {tv tlow thigh : SqlExpr} :
      Shaped style next v tv → Shaped style (next + v.bindings.length) low tlow →
      Shaped style (next + v.bindings.length + low.bindings.length) high thigh →
      CondShaped style next (.between v low high) (.between tv tlow thigh)
  | isNull {next : Nat} {n : Node} {t : SqlExpr} :
      Shaped style next n t → CondShaped style next (.isNull n) (.isNull t)
  | and {next : Nat} {l r : Condition} {tl tr : SqlExpr} :
      CondShaped style next l tl → CondShaped style (next + l.bindings.length) r tr →
      CondShaped style next (.and l r) (.and tl tr)
  | or {next : Nat} {l r : Condition} {tl tr : SqlExpr} :
      CondShaped style next l tl → CondShaped style (next + l.bindings.length) r tr →
      CondShaped style next (.or l r) (.or tl tr)
  | not {next : Nat} {inner : Condition} {t : SqlExpr} :
      CondShaped style next inner t → CondShaped style next (.not inner) (.not t)
  | raw {next : Nat} {n : Node} {t : SqlExpr} :
      Shaped style next n t → CondShaped style next (.raw n) t

end Sql

/-! ## Property paths and function names -/

namespace Node

/-- Whether the node is a property path: a property, and the references, children and elements
reached from one. -/
def isPath : Node → Bool
  | .property _ => true
  | .reference base _ | .child base _ | .index base _ => base.isPath
  | _ => false

theorem functions_of_isPath : ∀ {n : Node}, n.isPath = true → n.functions = []
  | .property _, _ => rfl
  | .reference base _, named | .child base _, named | .index base _, named => by
    rw [Node.functions]
    exact functions_of_isPath (n := base) named
  | .literal _ _, named | .call _ _ _, named | .concat _ _, named => by
    simp [isPath] at named

end Node

theorem walk_isPath (catalog : Catalog) (path : String) (node : Node) (position : PathPosition)
    (chars : List Char) (named : node.isPath = true) :
    (PathWalk.walk catalog path node position chars).Ensures fun parsed => parsed.isPath = true := by
  -- each step wraps the node read so far in a reference, a child or an element access
  fun_induction PathWalk.walk catalog path node position chars with
  | case1 => exact Ensures.pure named
  | case2 | case4 | case6 | case7 | case9 | case10 => exact Ensures.fault _ _
  | case3 node position rest name _ ih =>
    exact (Ensures.true _).bind fun column _ => ih column (by simp [Node.isPath, named])
  | case5 node position rest name _ ih =>
    exact (Ensures.true _).bind fun child _ => ih child (by simp [Node.isPath, named])
  | case8 node position rest digits nonempty after tail index small ih =>
    exact (Ensures.true _).bind fun element _ => ih element (by simp [Node.isPath, named])

theorem parsePath_isPath (catalog : Catalog) (table : Table) (path : String) :
    (parsePath catalog table path).Ensures fun parsed => parsed.isPath = true := by
  rw [parsePath]
  split
  · exact Ensures.fault _ _
  · split
    · exact Ensures.fault _ _
    · exact walk_isPath _ _ _ _ _ rfl

namespace Sql

/-- A plain identifier: a word that is not a keyword of the grammar. -/
def isIdentifier (name : String) : Bool :=
  match name.toList with
  | c :: cs => isWordStart c && cs.all isWordChar && !(Lexeme.word name).isKeyword
  | [] => false

theorem isIdentifier_not_keyword {name : String} (plain : isIdentifier name = true) :
    (Lexeme.word name).isKeyword = false := by
  unfold isIdentifier at plain
  split at plain
  · simp only [Bool.and_eq_true, Bool.not_eq_eq_eq_not, Bool.not_true] at plain
    exact plain.2
  · cases plain

theorem readsAs_call_open {name : String} (plain : isIdentifier name = true) :
    ReadsAs (name ++ "(").toList [.word name, .symbol "("] fun _ => True := by
  unfold isIdentifier at plain
  split at plain
  · rename_i c cs spelled
    simp only [Bool.and_eq_true, List.all_eq_true] at plain
    have word := readsAs_word plain.1.1 plain.1.2
    rw [← spelled, String.ofList_toList] at word
    have opening : ReadsAs ['('] [.symbol "("] fun _ => True :=
      readsAs_closed (by cbv) (by simp [closes, isLayout])
    exact (word.append opening fun rest _ => followedBy_cons (by decide) rest).cast
      (by simp [spelled]) rfl
  · cases plain

namespace Shaped

variable {style : Placeholders}

theorem bare {next : Nat} {n : Node} {e : SqlExpr} (shaped : Shaped style next n e) :
    e.bare = n.isSubscriptable := by
  cases shaped with
  | property path | reference path | child path => simp [path.bare, Node.isSubscriptable]
  | literal | call _ => rfl
  | concat _ _ => simp [SqlExpr.joinConcat_bare, Node.isSubscriptable]
  | index _ => rfl

/-- A property path is read as a path. -/
theorem isPath : ∀ {n : Node} {next : Nat} {e : SqlExpr}, n.isPath = true →
    Shaped style next n e → e.IsPath
  | .property _, _, _, _, .property path => path
  | .reference _ _, _, _, _, .reference path => path
  | .child _ _, _, _, _, .child path => path
  | .index base _, _, _, named, .index shaped => .subscript _ (isPath (n := base) named shaped)
  | .literal _ _, _, _, named, _ | .call _ _ _, _, _, named, _ | .concat _ _, _, _, named, _ => by
    simp [Node.isPath] at named

end Shaped

end Sql

/-! ## Compiled nodes read back -/

theorem SqlExpr.printableArgs_iff : ∀ trees : List SqlExpr,
    SqlExpr.printableArgs trees = true ↔ ∀ e ∈ trees, e.printable = true
  | [] => by simp [SqlExpr.printableArgs]
  | e :: rest => by simp [SqlExpr.printableArgs, printableArgs_iff rest]

theorem readsAs_operator (op : Comparison) :
    ReadsAs op.text.toList (opLexemes op) fun _ => True := by
  cases op <;> exact readsAs_closed (by cbv) (by simp [Comparison.text, closes, isLayout])

theorem operator_head (op : Comparison) : op.text.toList.head? = some ' ' := by
  cases op <;> rfl

/-- The one piece a condition ends with that is not closed: the word NULL goes on with any
letter. -/
theorem readsAs_isNull : ReadsAs " IS NULL".toList [.word "IS", .word "NULL"] Apart := by
  have is : ReadsAs " IS ".toList [.word "IS"] fun _ => True :=
    readsAs_closed (by cbv) (by simp [closes, isLayout])
  have null := @readsAs_word 'N' ['U', 'L', 'L'] (by simp [isWordStart]) (by simp [isWordChar])
  exact ((is.append null fun _ _ => trivial).mono fun _ apart => apart.unworded).cast
    (by simp) (by simp)

namespace Compiler

variable (style : Placeholders) (c : Compiler)

/-- What the compiled text of a node reads as: a printable tree of the node's shape, binding no
looser than `||`, its placeholders numbered on from `next`. -/
def NodeReads (next : Nat) (n : Node) (t : Text) : Prop :=
  ∃ e, Shaped style next n e ∧ e.printable = true ∧ e.level ≤ 2 ∧
    TextReads style next t e.print Apart

/-- What the compiled text of the arguments of a call reads as. -/
def ArgsRead (next : Nat) (args : List Node) (t : Text) : Prop :=
  ∃ trees, ArgsShaped style next args trees ∧ (∀ e ∈ trees, e.printable = true) ∧
    TextReads style next t (SqlExpr.printArgs trees) Apart

theorem noParams {property : String → Resolve Text}
    (paths : ∀ path next, (property path).Ensures (PathText style next)) (path : String) :
    (property path).Ensures fun t => params t = [] :=
  (paths path 0).mono fun _ written => written.1

section Nodes

variable (property : String → Resolve Text)
  (paths : ∀ path next, (property path).Ensures (PathText style next))

include paths

mutual

/-- The text of a node reads back as a tree of its shape, by recursion on the node. -/
theorem nodeWith_reads : ∀ n : Node, (∀ name ∈ n.functions, isIdentifier name = true) →
    ∀ next, (c.nodeWith property n).Ensures (NodeReads style next n)
  | .property path, _, next => by
    rw [nodeWith]
    exact (paths path next).mono fun t ⟨_, e, isPath, reads⟩ =>
      ⟨e, .property isPath, isPath.printable, isPath.level_le.trans (by omega), reads⟩
  | .reference base name, _, next => by
    rw [nodeWith]
    exact (Ensures.true _).bind fun p _ => (c.pathText_reads style p next).mono
      fun t ⟨_, e, isPath, reads⟩ =>
        ⟨e, .reference isPath, isPath.printable, isPath.level_le.trans (by omega), reads⟩
  | .child base name, _, next => by
    rw [nodeWith]
    exact (Ensures.true _).bind fun p _ => (c.pathText_reads style p next).mono
      fun t ⟨_, e, isPath, reads⟩ =>
        ⟨e, .child isPath, isPath.printable, isPath.level_le.trans (by omega), reads⟩
  | .literal d m, _, next => by
    rw [nodeWith]
    exact (Ensures.true _).bind fun v _ =>
      Ensures.pure ⟨_, .literal, rfl, by simp [SqlExpr.level], TextReads.param v⟩
  | .call name args decode, plain, next => by
    rw [nodeWith]
    split
    · exact Ensures.fault _ _
    · have named : isIdentifier name = true := plain name (by simp [Node.functions])
      refine (argsWith_reads args (fun f mem => plain f (by simp [Node.functions, mem])) next).bind
        fun written ⟨trees, shaped, printable, reads⟩ => Ensures.pure ?_
      refine ⟨.call name trees, .call shaped, ?_, by simp [SqlExpr.level], ?_⟩
      · simp [SqlExpr.printable, isIdentifier_not_keyword named,
          (SqlExpr.printableArgs_iff trees).mpr printable]
      · exact (TextReads.enclose (TextReads.lit (readsAs_call_open named)) reads (by simp)
          readsAs_fixed_close rfl).cast (by simp [SqlExpr.print, paren])
  | .concat l r, plain, next => by
    rw [nodeWith]
    have plainLeft : ∀ f ∈ l.functions, isIdentifier f = true :=
      fun f mem => plain f (by simp [Node.functions, mem])
    have plainRight : ∀ f ∈ r.functions, isIdentifier f = true :=
      fun f mem => plain f (by simp [Node.functions, mem])
    refine ((nodeWith_reads l plainLeft next).and
      (c.nodeWith_binds property (noParams style paths) l)).bind
        fun left ⟨⟨tl, leftShaped, leftPrintable, leftLevel, leftReads⟩, leftBinds⟩ => ?_
    refine (nodeWith_reads r plainRight (next + l.bindings.length)).bind
      fun right ⟨tr, rightShaped, rightPrintable, rightLevel, rightReads⟩ => Ensures.pure ?_
    obtain ⟨joined, joinedLevel⟩ :=
      SqlExpr.joinConcat_printable leftPrintable leftLevel rightPrintable rightLevel
    refine ⟨tl.joinConcat tr, .concat leftShaped rightShaped, joined, joinedLevel.le, ?_⟩
    have bar : ReadsAs " || ".toList [.symbol "||"] fun _ => True :=
      readsAs_closed (by cbv) (by simp [closes, isLayout])
    exact (leftReads.separated bar rfl (by decide) rightReads
      (by rw [leftBinds.length_eq])).cast
      (by simp [SqlExpr.print_joinConcat])
  | .index base i, plain, next => by
    rw [nodeWith]
    split
    · exact Ensures.fault _ _
    · refine (nodeWith_reads base plain next).bind
        fun written ⟨tb, shaped, printable, _, reads⟩ => Ensures.pure ?_
      refine ⟨.subscript tb (toString (i + 1)), .index shaped,
        by simpa [SqlExpr.printable] using printable, by simp [SqlExpr.level], ?_⟩
      have element : TextReads style (next + (params written).length)
          (lit ("[" ++ toString (i + 1) ++ "]"))
          [.symbol "[", .number (toString (i + 1)), .symbol "]"] fun _ => True :=
        TextReads.lit (readsAs_subscript (i + 1))
      by_cases subscriptable : base.isSubscriptable
      · rw [if_pos subscriptable]
        exact ((reads.append element fun rest _ => TextReads.apart_lit (c := '[') (by simp)
          (by decide) _ rest).mono fun _ _ => trivial).cast
          (by simp [SqlExpr.print, shaped.bare, subscriptable])
      · rw [if_neg subscriptable]
        have enclosed : TextReads style next (lit "(" ++ written ++ lit ")")
            ([.symbol "("] ++ tb.print ++ [.symbol ")"]) fun _ => True :=
          TextReads.enclose (TextReads.lit readsAs_fixed_open) reads (by simp) readsAs_fixed_close
            rfl
        exact ((enclosed.append_at element (by simp) fun _ _ => trivial).mono
          fun _ _ => trivial).cast (by simp [SqlExpr.print, shaped.bare, subscriptable, paren])

/-- The text of call arguments reads back as their trees, by recursion on the arguments. -/
theorem argsWith_reads : ∀ args : List Node,
    (∀ name ∈ Node.argFunctions args, isIdentifier name = true) →
    ∀ next, (c.argsWith property args).Ensures (ArgsRead style next args)
  | [], _, next => by
    rw [argsWith]
    exact Ensures.pure ⟨[], .nil, by simp, by simpa [SqlExpr.printArgs] using TextReads.nil Apart⟩
  | [a], plain, next => by
    rw [argsWith]
    exact (nodeWith_reads a (fun f mem => plain f (by simp [Node.argFunctions, mem])) next).mono
      fun t ⟨e, shaped, printable, _, reads⟩ =>
        ⟨[e], .cons shaped .nil, by simpa using printable, reads⟩
  | a :: b :: rest, plain, next => by
    rw [argsWith]
    · have plainFirst : ∀ f ∈ a.functions, isIdentifier f = true :=
        fun f mem => plain f (by simp [Node.argFunctions, mem])
      have plainOthers : ∀ f ∈ Node.argFunctions (b :: rest), isIdentifier f = true :=
        fun f mem => plain f (by simp only [Node.argFunctions] at mem ⊢; simp [mem])
      refine ((nodeWith_reads a plainFirst next).and
        (c.nodeWith_binds property (noParams style paths) a)).bind
          fun first ⟨⟨ta, firstShaped, firstPrintable, _, firstReads⟩, firstBinds⟩ => ?_
      refine (argsWith_reads (b :: rest) plainOthers (next + a.bindings.length)).bind
        fun others ⟨trees, othersShaped, othersPrintable, othersReads⟩ => Ensures.pure ?_
      obtain ⟨tb, more, rfl⟩ : ∃ tb more, trees = tb :: more := by
        cases othersShaped with
        | cons _ _ => exact ⟨_, _, rfl⟩
      refine ⟨ta :: tb :: more, .cons firstShaped othersShaped, ?_, ?_⟩
      · intro e mem
        rcases List.mem_cons.mp mem with rfl | mem
        · exact firstPrintable
        · exact othersPrintable e mem
      · have comma : ReadsAs ", ".toList [.symbol ","] fun _ => True :=
          readsAs_closed (by cbv) (by simp [closes, isLayout])
        exact (firstReads.separated comma rfl (by decide) othersReads
          (by rw [firstBinds.length_eq])).cast (by simp [SqlExpr.printArgs])
    · exact List.cons_ne_nil b rest

end

end Nodes

/-- The text of a node reads back as a tree of its shape. A property that is not a column name is
written as the path it parses to, which binds nothing. -/
theorem node_reads (n : Node) (plain : ∀ name ∈ n.functions, isIdentifier name = true)
    (next : Nat) : (c.node n).Ensures (NodeReads style next n) := by
  rw [node]
  refine nodeWith_reads style c _ (fun path next => ?_) n plain next
  split
  · exact c.columnProperty_reads style path next
  · refine ((parsePath_isPath c.catalog c.table path).and
      (parsePath_binds_nothing c.catalog c.table path)).bind fun parsed facts => ?_
    obtain ⟨named, noLiteral⟩ := facts
    have written := (nodeWith_reads style c c.columnProperty (c.columnProperty_reads style) parsed
      (by simp [Node.functions_of_isPath named]) next).and
      (c.nodeWith_binds c.columnProperty c.columnProperty_binds_nothing parsed)
    refine written.mono fun t facts => ?_
    obtain ⟨⟨e, shaped, _, _, reads⟩, binds⟩ := facts
    exact ⟨by simpa [noLiteral] using binds, e, shaped.isPath named, reads⟩

/-- What the compiled text of a condition reads as: a printable tree of the condition's shape,
its placeholders numbered on from `next`. -/
def CondReads (next : Nat) (w : Condition) (t : Text) : Prop :=
  ∃ e, CondShaped style next w e ∧ e.printable = true ∧ TextReads style next t e.print Apart

/-- The text of a condition reads back as a tree of its shape, by induction on the condition: the
parentheses written around the operands of AND, OR and NOT keep each operand's tree whole. -/
theorem condition_reads (w : Condition) (plain : ∀ name ∈ w.functions, isIdentifier name = true)
    (next : Nat) : (c.condition w).Ensures (CondReads style next w) := by
  induction w generalizing next with
  | compare op l r =>
    rw [condition]
    refine ((c.node_reads style l (fun f mem => plain f (by simp [Condition.functions, mem]))
      next).and (c.node_binds l)).bind fun left facts => ?_
    obtain ⟨⟨tl, leftShaped, leftPrintable, leftLevel, leftReads⟩, leftBinds⟩ := facts
    refine (c.node_reads style r (fun f mem => plain f (by simp [Condition.functions, mem]))
      (next + l.bindings.length)).bind fun right facts => Ensures.pure ?_
    obtain ⟨tr, rightShaped, rightPrintable, rightLevel, rightReads⟩ := facts
    refine ⟨.compare op tl tr, .compare leftShaped rightShaped,
      by simp [SqlExpr.printable, leftPrintable, rightPrintable, leftLevel, rightLevel], ?_⟩
    exact (leftReads.separated (readsAs_operator op) (operator_head op) (by decide) rightReads
      (by rw [leftBinds.length_eq])).cast (by simp [SqlExpr.print])
  | between v low high =>
    rw [condition]
    refine ((c.node_reads style v (fun f mem => plain f (by simp [Condition.functions, mem]))
      next).and (c.node_binds v)).bind fun value facts => ?_
    obtain ⟨⟨tv, valueShaped, valuePrintable, valueLevel, valueReads⟩, valueBinds⟩ := facts
    refine ((c.node_reads style low (fun f mem => plain f (by simp [Condition.functions, mem]))
      (next + v.bindings.length)).and (c.node_binds low)).bind fun lower facts => ?_
    obtain ⟨⟨tlow, lowShaped, lowPrintable, lowLevel, lowReads⟩, lowBinds⟩ := facts
    refine (c.node_reads style high (fun f mem => plain f (by simp [Condition.functions, mem]))
      (next + v.bindings.length + low.bindings.length)).bind fun upper facts => Ensures.pure ?_
    obtain ⟨thigh, highShaped, highPrintable, highLevel, highReads⟩ := facts
    refine ⟨.between tv tlow thigh, .between valueShaped lowShaped highShaped, by
      simp [SqlExpr.printable, valuePrintable, lowPrintable, highPrintable, valueLevel, lowLevel,
        highLevel], ?_⟩
    have between : ReadsAs " BETWEEN ".toList [.word "BETWEEN"] fun _ => True :=
      readsAs_closed (by cbv) (by simp [closes, isLayout])
    have conjunction : ReadsAs " AND ".toList [.word "AND"] fun _ => True :=
      readsAs_closed (by cbv) (by simp [closes, isLayout])
    have bounded := valueReads.separated between rfl (by decide) lowReads
      (by rw [valueBinds.length_eq])
    exact (bounded.separated conjunction rfl (by decide) highReads
      (by simp [valueBinds.length_eq, lowBinds.length_eq, Nat.add_assoc])).cast
      (by simp [SqlExpr.print])
  | isNull n =>
    rw [condition]
    refine (c.node_reads style n plain next).bind fun written facts => Ensures.pure ?_
    obtain ⟨t, shaped, printable, level, reads⟩ := facts
    refine ⟨.isNull t, .isNull shaped, by simp [SqlExpr.printable, printable, level], ?_⟩
    exact (reads.append (TextReads.lit readsAs_isNull)
      fun rest _ => TextReads.apart_lit rfl (by decide) _ rest).cast (by simp [SqlExpr.print])
  | and l r left right =>
    rw [condition]
    refine ((left (fun f mem => plain f (by simp [Condition.functions, mem])) next).and
      (c.condition_binds l)).bind fun written facts => ?_
    obtain ⟨⟨tl, leftShaped, leftPrintable, leftReads⟩, binds⟩ := facts
    refine (right (fun f mem => plain f (by simp [Condition.functions, mem]))
      (next + l.bindings.length)).bind fun others facts => Ensures.pure ?_
    obtain ⟨tr, rightShaped, rightPrintable, rightReads⟩ := facts
    refine ⟨.and tl tr, .and leftShaped rightShaped,
      by simp [SqlExpr.printable, leftPrintable, rightPrintable], ?_⟩
    have middle : ReadsAs ") AND (".toList [.symbol ")", .word "AND", .symbol "("] fun _ => True :=
      readsAs_closed (by cbv) (by simp [closes, isLayout])
    exact TextReads.junction middle rfl leftReads rightReads (by rw [binds.length_eq])
  | or l r left right =>
    rw [condition]
    refine ((left (fun f mem => plain f (by simp [Condition.functions, mem])) next).and
      (c.condition_binds l)).bind fun written facts => ?_
    obtain ⟨⟨tl, leftShaped, leftPrintable, leftReads⟩, binds⟩ := facts
    refine (right (fun f mem => plain f (by simp [Condition.functions, mem]))
      (next + l.bindings.length)).bind fun others facts => Ensures.pure ?_
    obtain ⟨tr, rightShaped, rightPrintable, rightReads⟩ := facts
    refine ⟨.or tl tr, .or leftShaped rightShaped,
      by simp [SqlExpr.printable, leftPrintable, rightPrintable], ?_⟩
    have middle : ReadsAs ") OR (".toList [.symbol ")", .word "OR", .symbol "("] fun _ => True :=
      readsAs_closed (by cbv) (by simp [closes, isLayout])
    exact TextReads.junction middle rfl leftReads rightReads (by rw [binds.length_eq])
  | not inner ih =>
    rw [condition]
    refine (ih plain next).bind fun written facts => Ensures.pure ?_
    obtain ⟨t, shaped, printable, reads⟩ := facts
    refine ⟨.not t, .not shaped, by simp [SqlExpr.printable, printable], ?_⟩
    have negation : ReadsAs "NOT (".toList [.word "NOT", .symbol "("] fun _ => True :=
      readsAs_closed (by cbv) (by simp [closes, isLayout])
    exact (TextReads.enclose (TextReads.lit negation) reads (by simp) readsAs_fixed_close
      rfl).cast (by simp [SqlExpr.print, paren])
  | raw n =>
    rw [condition]
    refine (c.node_reads style n plain next).mono fun t facts => ?_
    obtain ⟨e, shaped, printable, _, reads⟩ := facts
    exact ⟨e, .raw shaped, printable, reads⟩

end Compiler

/-! ## Compiled conditions are unambiguous -/

/-- Compiled conditions are unambiguous. The statement text of a condition whose functions are
named by plain identifiers parses, under the grammar of conditions, into the tree of the
condition's shape: one operator for each operator of the condition, whose operands are the trees
of its children (consecutive `||` grouped to the left), its placeholders numbered from one in the
order of the condition. -/
theorem compiled_conditions_read_back (style : Placeholders) (c : Compiler) (w : Condition)
    (plain : ∀ name ∈ w.functions, isIdentifier name = true) :
    (c.condition w).Ensures fun t =>
      ∃ e, parseCondition (render style t).sql = some e ∧ CondShaped style 1 w e := by
  refine (c.condition_reads style w plain 1).mono
    fun t ⟨e, shaped, printable, reads⟩ => ⟨e, ?_, shaped⟩
  -- the whole text reads as the printed tree, with nothing after it
  have lexed : lex (render style t).sql.toList = some e.print := by
    simpa [render_eq_numbered] using reads [] fun _ head => by simp at head
  rw [parseCondition, lexed, Option.bind_some, SqlExpr.readCondition_print printable]

namespace ConditionSamples

/-- The books of the sample library. -/
def booksCompiler : Compiler := { catalog := PathSamples.library, table := PathSamples.books }

/-- A lowered author matched with LIKE, beside a test on an element of a concatenation. -/
def loweredMatch : Condition :=
  .and (.compare .like (.call "lower" [.property "author"] none)
      (.literal (.string "a%") (.primitive .string)))
    (.not (.isNull (.index (.concat (.property "id") (.literal .null (.primitive .string))) 0)))

theorem lowered_match_reads_back :
    (∀ name ∈ loweredMatch.functions, isIdentifier name = true) ∧
      (booksCompiler.condition loweredMatch).Ensures fun t =>
        ∃ e, parseCondition (render .numbered t).sql = some e ∧
          CondShaped .numbered 1 loweredMatch e :=
  have plain : ∀ name ∈ loweredMatch.functions, isIdentifier name = true := by
    decide +kernel
  ⟨plain, compiled_conditions_read_back .numbered booksCompiler loweredMatch plain⟩

end ConditionSamples

end RelMap
