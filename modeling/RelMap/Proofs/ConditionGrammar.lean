import RelMap.Proofs.SqlLexer
import RelMap.Expr.Node

/-!
# The expression grammar of conditions

Conditions are read with the usual precedence of SQL expressions: a subscript binds tightest,
then `||`, then a comparison, `LIKE`, `BETWEEN` or `IS NULL`, then `NOT`, `AND` and `OR`;
parentheses group, and `||`, `AND` and `OR` group to the left. Keywords are words compared
without regard to case. A primary expression is a column, its quoted names joined by dots, a
placeholder, a function call, a parenthesized expression or a subselect.

The reader is one recursive descent over the lexemes, a function for each level, each calling the
level below on the same lexemes or any level on fewer of them; every reading that succeeds takes
at least one lexeme, which the type of its result records.
-/

namespace RelMap.Sql

set_option autoImplicit false

/-- An expression read from condition text. -/
inductive SqlExpr where
  /-- Quoted names joined by dots. -/
  | column (names : List String)
  | placeholder (marker : String)
  | call (name : String) (args : List SqlExpr)
  /-- `(SELECT selected FROM table tableAlias WHERE condition)`. -/
  | subselect (selected : SqlExpr) (table : List String) (tableAlias : Option String)
      (condition : SqlExpr)
  | subscript (base : SqlExpr) (position : String)
  | concat (left right : SqlExpr)
  | compare (op : Comparison) (left right : SqlExpr)
  | between (value low high : SqlExpr)
  | isNull (operand : SqlExpr)
  | not (operand : SqlExpr)
  | and (left right : SqlExpr)
  | or (left right : SqlExpr)
  deriving Inhabited, Repr

/-! ## Lexemes the grammar tells apart -/

/-- The keywords of the grammar. -/
def keywords : List String :=
  ["AND", "OR", "NOT", "BETWEEN", "LIKE", "IS", "NULL", "SELECT", "FROM", "WHERE"]

namespace Lexeme

/-- Whether the lexeme is the keyword `kw`, in any case. -/
def isKw (kw : String) : Lexeme → Bool
  | .word w => w.toList.map Char.toUpper == kw.toList
  | _ => false

def isKeyword (l : Lexeme) : Bool := keywords.any l.isKw

/-- The comparison a symbol writes. -/
def comparison? : Lexeme → Option Comparison
  | .symbol "=" => some .equal
  | .symbol "!=" => some .notEqual
  | .symbol "<>" => some .notEqual
  | .symbol "<" => some .less
  | .symbol ">" => some .greater
  | .symbol "<=" => some .lessEqual
  | .symbol ">=" => some .greaterEqual
  | _ => none

/-- Whether the lexeme begins the operator of a predicate. -/
def startsPredicate (l : Lexeme) : Bool :=
  l.comparison?.isSome || l.isKw "LIKE" || l.isKw "NOT" || l.isKw "BETWEEN" || l.isKw "IS"

end Lexeme

/-! ## Pieces read without recursion -/

/-- The names after the first name of a column: each a dot and a quoted name. -/
def dottedRest : List Lexeme → List String × List Lexeme
  | .symbol "." :: .quoted n :: rest => ((n :: (dottedRest rest).1), (dottedRest rest).2)
  | rest => ([], rest)

theorem dottedRest_length (ts : List Lexeme) : (dottedRest ts).2.length ≤ ts.length := by
  fun_induction dottedRest ts with
  | case1 n rest ih =>
    simp only [List.length_cons]
    omega
  | case2 rest _ => exact le_refl _

/-- The table of a `FROM` clause, its names joined by dots, and its alias if one follows. -/
def fromClause : List Lexeme → Option ((List String × Option String) × List Lexeme)
  | .quoted t :: rest =>
      match (dottedRest rest).2 with
      | .quoted a :: after => some ((t :: (dottedRest rest).1, some a), after)
      | after => some ((t :: (dottedRest rest).1, none), after)
  | _ => none

theorem fromClause_length {ts after : List Lexeme} {table : List String × Option String}
    (read : fromClause ts = some (table, after)) : after.length < ts.length := by
  unfold fromClause at read
  split at read
  · rename_i t rest
    have shorter := dottedRest_length rest
    split at read
    · rename_i a more found
      cases read
      rw [found] at shorter
      simp only [List.length_cons] at shorter ⊢
      omega
    · cases read
      simp only [List.length_cons]
      omega
  · cases read

/-- The subscripts after a subscripted expression, each `[digits]`. -/
def postRest (e : SqlExpr) : List Lexeme → SqlExpr × List Lexeme
  | .symbol "[" :: .number k :: .symbol "]" :: rest => postRest (.subscript e k) rest
  | rest => (e, rest)

theorem postRest_length (e : SqlExpr) (ts : List Lexeme) : (postRest e ts).2.length ≤ ts.length := by
  fun_induction postRest e ts with
  | case1 e k rest ih =>
    simp only [List.length_cons]
    omega
  | case2 e rest _ => exact le_refl _

/-- The lexemes after the keyword `kw`, if they begin with it. -/
def afterKw (kw : String) : List Lexeme → Option (List Lexeme)
  | l :: rest => if l.isKw kw then some rest else none
  | [] => none

theorem afterKw_length {kw : String} {ts rest : List Lexeme} (found : afterKw kw ts = some rest) :
    rest.length < ts.length := by
  cases ts with
  | nil => cases found
  | cons l more =>
    simp only [afterKw, Option.ite_none_right_eq_some, Option.some.injEq] at found
    rw [← found.2]
    simp

/-! ## The reader -/

/-- A reading of the front of `ts`: what was read and the lexemes after it, fewer than `ts`. -/
abbrev Reading (α : Type) (ts : List Lexeme) :=
  Option (α × {rest : List Lexeme // rest.length < ts.length})

namespace Reading

variable {α : Type} {ts : List Lexeme}

/-- What was read and the lexemes after it. -/
def out (r : Reading α ts) : Option (α × List Lexeme) := r.map fun read => (read.1, read.2.1)

/-- The reading followed by the lexeme `l`, which it takes too. -/
def expect (l : Lexeme) : Reading α ts → Reading α ts
  | some (a, ⟨l' :: rest, shorter⟩) =>
      if l' = l then some (a, ⟨rest, by simp only [List.length_cons] at shorter; omega⟩) else none
  | _ => none

/-- The reading with `f` applied to what was read. -/
def map {β : Type} (f : α → β) : Reading α ts → Reading β ts
  | some (a, rest) => some (f a, rest)
  | none => none

/-- The reading as one of a longer list of lexemes. -/
def widen {ts' : List Lexeme} : Reading α ts → ts.length ≤ ts'.length → Reading α ts'
  | some (a, ⟨rest, shorter⟩), longer => some (a, ⟨rest, by omega⟩)
  | none, _ => none

end Reading

mutual

/-- A column, placeholder, call, subselect or parenthesized expression. -/
def primary (ts : List Lexeme) : Reading SqlExpr ts :=
  match ts with
  | .quoted n :: rest =>
      some (.column (n :: (dottedRest rest).1), ⟨(dottedRest rest).2, by
        have := dottedRest_length rest
        simp only [List.length_cons]
        omega⟩)
  | .placeholder m :: rest => some (.placeholder m, ⟨rest, by simp⟩)
  | .word f :: .symbol "(" :: rest =>
      if (Lexeme.word f).isKeyword then none
      else
        match args rest with
        | some (as, after) => some (.call f as, ⟨after.1, by
            have := after.2
            simp only [List.length_cons]
            omega⟩)
        | none => none
  | .symbol "(" :: l :: rest =>
      if l.isKw "SELECT" then
        ((subselect rest).expect (.symbol ")")).widen (by simp only [List.length_cons]; omega)
      else ((orExpr (l :: rest)).expect (.symbol ")")).widen (by simp)
  | _ => none
termination_by (ts.length, 0)

/-- A primary expression and its subscripts. -/
def subscripted (ts : List Lexeme) : Reading SqlExpr ts :=
  match primary ts with
  | some (e, after) => some ((postRest e after.1).1, ⟨(postRest e after.1).2, by
      have := postRest_length e after.1
      have := after.2
      omega⟩)
  | none => none
termination_by (ts.length, 1)

/-- Further operands of `||`, grouped to the left onto `acc`. -/
def concatRest (acc : SqlExpr) (ts : List Lexeme) :
    SqlExpr × {rest : List Lexeme // rest.length ≤ ts.length} :=
  match ts with
  | .symbol "||" :: more =>
      match subscripted more with
      | some (e, after) =>
          let next := concatRest (.concat acc e) after.1
          (next.1, ⟨next.2.1, by
            have := next.2.2
            have := after.2
            simp only [List.length_cons]
            omega⟩)
      | none => (acc, ⟨.symbol "||" :: more, le_refl _⟩)
  | rest => (acc, ⟨rest, le_refl _⟩)
termination_by (ts.length, 2)

def concatExpr (ts : List Lexeme) : Reading SqlExpr ts :=
  match subscripted ts with
  | some (e, after) =>
      let next := concatRest e after.1
      some (next.1, ⟨next.2.1, by
        have := next.2.2
        have := after.2
        omega⟩)
  | none => none
termination_by (ts.length, 2)

/-- An operand and, if one follows, the operator of a predicate with its other operands. -/
def predicate (ts : List Lexeme) : Reading SqlExpr ts :=
  match concatExpr ts with
  | some (l, ⟨op :: rest, shorter⟩) =>
      match op.comparison? with
      | some c => (Reading.map (SqlExpr.compare c l) (concatExpr rest)).widen
          (by simp only [List.length_cons] at shorter; omega)
      | none =>
        if op.isKw "LIKE" then
          (Reading.map (SqlExpr.compare .like l) (concatExpr rest)).widen
            (by simp only [List.length_cons] at shorter; omega)
        else if op.isKw "NOT" then
          match found : afterKw "LIKE" rest with
          | some rest2 =>
              (Reading.map (SqlExpr.compare .notLike l) (concatExpr rest2)).widen (by
                have := afterKw_length found
                simp only [List.length_cons] at shorter
                omega)
          | none => some (l, ⟨op :: rest, shorter⟩)
        else if op.isKw "BETWEEN" then
          match concatExpr rest with
          | some (low, after) =>
              match found : afterKw "AND" after.1 with
              | some rest2 =>
                  (Reading.map (SqlExpr.between l low) (concatExpr rest2)).widen (by
                    have := afterKw_length found
                    have := after.2
                    simp only [List.length_cons] at shorter
                    omega)
              | none => none
          | none => none
        else if op.isKw "IS" then
          match found : afterKw "NULL" rest with
          | some rest2 => some (.isNull l, ⟨rest2, by
              have := afterKw_length found
              simp only [List.length_cons] at shorter
              omega⟩)
          | none => some (l, ⟨op :: rest, shorter⟩)
        else some (l, ⟨op :: rest, shorter⟩)
  | some (l, ⟨[], shorter⟩) => some (l, ⟨[], shorter⟩)
  | none => none
termination_by (ts.length, 3)
decreasing_by
  all_goals first
    | (apply Prod.Lex.right; decide)
    | (apply Prod.Lex.left
       (try have := afterKw_length found)
       (try have := after.2)
       (try simp only [List.length_cons] at *)
       omega)

def notExpr (ts : List Lexeme) : Reading SqlExpr ts :=
  match ts with
  | l :: rest =>
      if l.isKw "NOT" then
        (Reading.map SqlExpr.not (notExpr rest)).widen (by simp)
      else predicate (l :: rest)
  | [] => none
termination_by (ts.length, 4)

/-- Further operands of `AND`, grouped to the left onto `acc`. -/
def andRest (acc : SqlExpr) (ts : List Lexeme) :
    SqlExpr × {rest : List Lexeme // rest.length ≤ ts.length} :=
  match ts with
  | l :: more =>
      if l.isKw "AND" then
        match notExpr more with
        | some (e, after) =>
            let next := andRest (.and acc e) after.1
            (next.1, ⟨next.2.1, by
              have := next.2.2
              have := after.2
              simp only [List.length_cons]
              omega⟩)
        | none => (acc, ⟨l :: more, le_refl _⟩)
      else (acc, ⟨l :: more, le_refl _⟩)
  | [] => (acc, ⟨[], le_refl _⟩)
termination_by (ts.length, 5)

def andExpr (ts : List Lexeme) : Reading SqlExpr ts :=
  match notExpr ts with
  | some (e, after) =>
      let next := andRest e after.1
      some (next.1, ⟨next.2.1, by
        have := next.2.2
        have := after.2
        omega⟩)
  | none => none
termination_by (ts.length, 5)

/-- Further operands of `OR`, grouped to the left onto `acc`. -/
def orRest (acc : SqlExpr) (ts : List Lexeme) :
    SqlExpr × {rest : List Lexeme // rest.length ≤ ts.length} :=
  match ts with
  | l :: more =>
      if l.isKw "OR" then
        match andExpr more with
        | some (e, after) =>
            let next := orRest (.or acc e) after.1
            (next.1, ⟨next.2.1, by
              have := next.2.2
              have := after.2
              simp only [List.length_cons]
              omega⟩)
        | none => (acc, ⟨l :: more, le_refl _⟩)
      else (acc, ⟨l :: more, le_refl _⟩)
  | [] => (acc, ⟨[], le_refl _⟩)
termination_by (ts.length, 6)

def orExpr (ts : List Lexeme) : Reading SqlExpr ts :=
  match andExpr ts with
  | some (e, after) =>
      let next := orRest e after.1
      some (next.1, ⟨next.2.1, by
        have := next.2.2
        have := after.2
        omega⟩)
  | none => none
termination_by (ts.length, 6)

/-- The arguments of a call after its opening parenthesis, up to the closing one. -/
def args (ts : List Lexeme) : Reading (List SqlExpr) ts :=
  match ts with
  | .symbol ")" :: rest => some ([], ⟨rest, by simp⟩)
  | items =>
    match orExpr items with
    | some (a, ⟨.symbol "," :: rest, shorter⟩) =>
        match args rest with
        | some (as, after) => some (a :: as, ⟨after.1, by
            have := after.2
            simp only [List.length_cons] at shorter
            omega⟩)
        | none => none
    | some (a, ⟨.symbol ")" :: rest, shorter⟩) =>
        some ([a], ⟨rest, by simp only [List.length_cons] at shorter; omega⟩)
    | _ => none
termination_by (ts.length, 7)
decreasing_by
  all_goals first
    | (apply Prod.Lex.right; decide)
    | (apply Prod.Lex.left; simp only [List.length_cons] at *; omega)

/-- A subselect after `(SELECT`, up to its `WHERE` condition. -/
def subselect (ts : List Lexeme) : Reading SqlExpr ts :=
  match orExpr ts with
  | some (selected, ⟨f :: rest, shorter⟩) =>
      if f.isKw "FROM" then
        match found : fromClause rest with
        | some ((table, tableAlias), w :: rest2) =>
            if w.isKw "WHERE" then
              (Reading.map (SqlExpr.subselect selected table tableAlias) (orExpr rest2)).widen (by
                  have := fromClause_length found
                  simp only [List.length_cons] at shorter this ⊢
                  omega)
            else none
        | _ => none
      else none
  | _ => none
termination_by (ts.length, 7)
decreasing_by
  all_goals first
    | (apply Prod.Lex.right; decide)
    | (apply Prod.Lex.left; have := fromClause_length found; simp only [List.length_cons] at *; omega)

end

/-- The lexemes of a whole condition, read by the loosest level up to their end. -/
def readCondition (ts : List Lexeme) : Option SqlExpr :=
  match orExpr ts with
  | some (e, ⟨[], _⟩) => some e
  | _ => none

/-- Condition text read with the grammar: lexed, then read up to its end. -/
def parseCondition (sql : String) : Option SqlExpr := (lex sql.toList).bind readCondition

/-! ## Printing -/

/-- Quoted names joined by dots, after a first one. -/
def dotsTail : List String → List Lexeme
  | [] => []
  | n :: rest => .symbol "." :: .quoted n :: dotsTail rest

/-- Quoted names joined by dots. -/
def dotted : List String → List Lexeme
  | [] => []
  | n :: rest => .quoted n :: dotsTail rest

/-- The lexemes of a comparison operator. -/
def opLexemes : Comparison → List Lexeme
  | .equal => [.symbol "="]
  | .notEqual => [.symbol "!="]
  | .less => [.symbol "<"]
  | .greater => [.symbol ">"]
  | .lessEqual => [.symbol "<="]
  | .greaterEqual => [.symbol ">="]
  | .like => [.word "LIKE"]
  | .notLike => [.word "NOT", .word "LIKE"]

/-- Lexemes in parentheses. -/
def paren (ls : List Lexeme) : List Lexeme := .symbol "(" :: (ls ++ [.symbol ")"])

namespace SqlExpr

/-- The level of the reader that reads the expression: how loosely it binds. -/
def level : SqlExpr → Nat
  | .column _ | .placeholder _ | .call _ _ | .subselect _ _ _ _ => 0
  | .subscript _ _ => 1
  | .concat _ _ => 2
  | .compare _ _ _ | .between _ _ _ | .isNull _ => 3
  | .not _ => 4
  | .and _ _ => 5
  | .or _ _ => 6

/-- Whether the expression is written without parentheses as the base of a subscript. -/
def bare : SqlExpr → Bool
  | .column _ | .subselect _ _ _ _ | .subscript _ _ => true
  | _ => false

mutual

/-- The lexemes of an expression, with the parentheses the compiler writes: around both operands
of `AND` and `OR`, around the operand of `NOT`, and around a subscripted base that is not a column,
a subselect or a subscript. -/
def print : SqlExpr → List Lexeme
  | .column names => dotted names
  | .placeholder m => [.placeholder m]
  | .call f as => .word f :: paren (printArgs as)
  | .subselect s table tableAlias condition =>
      paren (.word "SELECT" :: (print s ++ .word "FROM" :: (dotted table ++
        (tableAlias.map Lexeme.quoted).toList ++ .word "WHERE" :: print condition)))
  | .subscript b k =>
      (if b.bare then print b else paren (print b)) ++ [.symbol "[", .number k, .symbol "]"]
  | .concat l r => print l ++ .symbol "||" :: print r
  | .compare op l r => print l ++ opLexemes op ++ print r
  | .between v low high => print v ++ .word "BETWEEN" :: (print low ++ .word "AND" :: print high)
  | .isNull operand => print operand ++ [.word "IS", .word "NULL"]
  | .not operand => .word "NOT" :: paren (print operand)
  | .and l r => paren (print l) ++ .word "AND" :: paren (print r)
  | .or l r => paren (print l) ++ .word "OR" :: paren (print r)

/-- Arguments separated by commas. -/
def printArgs : List SqlExpr → List Lexeme
  | [] => []
  | [a] => print a
  | a :: rest => print a ++ .symbol "," :: printArgs rest

end

mutual

/-- Whether the expression prints as itself: columns have a name, called functions are not
keywords, and the operands of `||` and of predicates bind tighter than the operator, the right
operand of `||` strictly so. -/
def printable : SqlExpr → Bool
  | .column names => !names.isEmpty
  | .placeholder _ => true
  | .call f as => !(Lexeme.word f).isKeyword && printableArgs as
  | .subselect s table _ condition => s.printable && !table.isEmpty && condition.printable
  | .subscript b _ => b.printable
  | .concat l r => l.printable && r.printable && l.level ≤ 2 && r.level ≤ 1
  | .compare _ l r => l.printable && r.printable && l.level ≤ 2 && r.level ≤ 2
  | .between v low high =>
      v.printable && low.printable && high.printable && v.level ≤ 2 && low.level ≤ 2 &&
        high.level ≤ 2
  | .isNull operand => operand.printable && operand.level ≤ 2
  | .not operand => operand.printable
  | .and l r | .or l r => l.printable && r.printable

def printableArgs : List SqlExpr → Bool
  | [] => true
  | a :: rest => a.printable && printableArgs rest

end

end SqlExpr

/-! ## The reader step by step -/

namespace Reading

variable {α β : Type} {ts : List Lexeme}

theorem out_eq_some {r : Reading α ts} {a : α} {rest : List Lexeme} :
    r.out = some (a, rest) ↔ ∃ shorter, r = some (a, ⟨rest, shorter⟩) := by
  rcases r with _ | ⟨a', rest', shorter'⟩
  · simp [out]
  · constructor
    · intro read
      simp only [out, Option.map_some, Option.some.injEq, Prod.mk.injEq] at read
      obtain ⟨rfl, rfl⟩ := read
      exact ⟨shorter', rfl⟩
    · rintro ⟨_, same⟩
      cases same
      rfl

@[simp] theorem out_map (f : α → β) (r : Reading α ts) :
    (Reading.map f r).out = r.out.map fun read => (f read.1, read.2) := by
  rcases r with _ | ⟨a, rest⟩ <;> rfl

@[simp] theorem out_widen {ts' : List Lexeme} (r : Reading α ts) (longer : ts.length ≤ ts'.length) :
    (r.widen longer).out = r.out := by
  rcases r with _ | ⟨a, rest, shorter⟩ <;> rfl

theorem out_expect {r : Reading α ts} {a : α} {l : Lexeme} {rest : List Lexeme}
    (read : r.out = some (a, l :: rest)) : (r.expect l).out = some (a, rest) := by
  obtain ⟨shorter, rfl⟩ := out_eq_some.mp read
  simp [expect, out]

end Reading

/-- A result of one of the loops, without the bound on the lexemes after it. -/
def outOf {P : List Lexeme → Prop} (read : SqlExpr × {rest : List Lexeme // P rest}) :
    SqlExpr × List Lexeme :=
  (read.1, read.2.1)

theorem dottedRest_dotsTail (names : List String) {after : List Lexeme}
    (stops : ∀ l ∈ after.head?, l ≠ .symbol ".") : dottedRest (dotsTail names ++ after) = (names, after) := by
  induction names with
  | nil =>
    cases after with
    | nil => rfl
    | cons l more =>
      have other : l ≠ .symbol "." := stops l rfl
      rw [dotsTail, List.nil_append, dottedRest.eq_def]
      split
      · rename_i n rest same
        cases same
        exact absurd rfl other
      · rfl
  | cons n names ih =>
    rw [dotsTail, List.cons_append, List.cons_append, dottedRest, ih]

theorem postRest_stop (e : SqlExpr) {rest : List Lexeme} (stops : ∀ l ∈ rest.head?, l ≠ .symbol "[") :
    postRest e rest = (e, rest) := by
  rw [postRest.eq_def]
  split
  · rename_i k more
    exact absurd rfl (stops _ rfl)
  · rfl

theorem primary_quoted (n : String) (rest : List Lexeme) :
    (primary (.quoted n :: rest)).out = some (.column (n :: (dottedRest rest).1), (dottedRest rest).2) := by
  rw [primary]
  rfl

theorem primary_placeholder (m : String) (rest : List Lexeme) :
    (primary (.placeholder m :: rest)).out = some (.placeholder m, rest) := by
  rw [primary]
  rfl

theorem primary_call {f : String} {rest after : List Lexeme} {as : List SqlExpr}
    (plain : (Lexeme.word f).isKeyword = false) (read : (args rest).out = some (as, after)) :
    (primary (.word f :: .symbol "(" :: rest)).out = some (.call f as, after) := by
  obtain ⟨shorter, found⟩ := Reading.out_eq_some.mp read
  rw [primary, if_neg (by simp [plain]), found]
  rfl

theorem primary_subselect {rest after : List Lexeme} {e : SqlExpr}
    (read : (subselect rest).out = some (e, .symbol ")" :: after)) :
    (primary (.symbol "(" :: .word "SELECT" :: rest)).out = some (e, after) := by
  rw [primary, if_pos (by decide)]
  simp only [Reading.out_widen]
  exact Reading.out_expect read

theorem primary_paren {l : Lexeme} {rest after : List Lexeme} {e : SqlExpr}
    (notSelect : l.isKw "SELECT" = false)
    (read : (orExpr (l :: rest)).out = some (e, .symbol ")" :: after)) :
    (primary (.symbol "(" :: l :: rest)).out = some (e, after) := by
  rw [primary, if_neg (by simp [notSelect])]
  simp only [Reading.out_widen]
  exact Reading.out_expect read

theorem subscripted_out (ts : List Lexeme) :
    (subscripted ts).out = (primary ts).out.map fun read => postRest read.1 read.2 := by
  rw [subscripted]
  split <;> simp_all [Reading.out]

theorem concatExpr_out (ts : List Lexeme) :
    (concatExpr ts).out = (subscripted ts).out.map fun read => outOf (concatRest read.1 read.2) := by
  rw [concatExpr]
  split <;> simp_all [Reading.out, outOf]

theorem concatRest_concat (acc : SqlExpr) {more after : List Lexeme} {e : SqlExpr}
    (read : (subscripted more).out = some (e, after)) :
    outOf (concatRest acc (.symbol "||" :: more)) = outOf (concatRest (.concat acc e) after) := by
  obtain ⟨shorter, found⟩ := Reading.out_eq_some.mp read
  rw [concatRest, found]
  rfl

theorem concatRest_stop (acc : SqlExpr) {rest : List Lexeme}
    (stops : ∀ l ∈ rest.head?, l ≠ .symbol "||") : outOf (concatRest acc rest) = (acc, rest) := by
  rw [concatRest.eq_def]
  split
  · exact absurd rfl (stops _ rfl)
  · rfl

theorem predicate_compare (op : Comparison) {ts more after : List Lexeme} {l r : SqlExpr}
    (left : (concatExpr ts).out = some (l, opLexemes op ++ more))
    (right : (concatExpr more).out = some (r, after)) :
    (predicate ts).out = some (.compare op l r, after) := by
  obtain ⟨shorter, found⟩ := Reading.out_eq_some.mp left
  rw [predicate, found]
  cases op <;> simp [opLexemes, Lexeme.comparison?, Lexeme.isKw, afterKw, right]

theorem predicate_between {ts more rest after : List Lexeme} {v low high : SqlExpr}
    (value : (concatExpr ts).out = some (v, .word "BETWEEN" :: more))
    (lower : (concatExpr more).out = some (low, .word "AND" :: rest))
    (upper : (concatExpr rest).out = some (high, after)) :
    (predicate ts).out = some (.between v low high, after) := by
  obtain ⟨shorter, found⟩ := Reading.out_eq_some.mp value
  obtain ⟨shorter', found'⟩ := Reading.out_eq_some.mp lower
  rw [predicate, found]
  simp [Lexeme.comparison?, Lexeme.isKw, afterKw, found', upper]

theorem predicate_isNull {ts after : List Lexeme} {v : SqlExpr}
    (value : (concatExpr ts).out = some (v, .word "IS" :: .word "NULL" :: after)) :
    (predicate ts).out = some (.isNull v, after) := by
  obtain ⟨shorter, found⟩ := Reading.out_eq_some.mp value
  rw [predicate, found]
  simp [Lexeme.comparison?, Lexeme.isKw, afterKw, Reading.out]

theorem predicate_stop {ts rest : List Lexeme} {e : SqlExpr}
    (read : (concatExpr ts).out = some (e, rest)) (stops : ∀ l ∈ rest.head?, l.startsPredicate = false) :
    (predicate ts).out = some (e, rest) := by
  obtain ⟨shorter, found⟩ := Reading.out_eq_some.mp read
  rw [predicate, found]
  cases rest with
  | nil => rfl
  | cons op more =>
    have quiet := stops op rfl
    simp only [Lexeme.startsPredicate, Bool.or_eq_false_iff, Option.isSome_eq_false_iff,
      Option.isNone_iff_eq_none] at quiet
    obtain ⟨⟨⟨⟨noComparison, noLike⟩, noNot⟩, noBetween⟩, noIs⟩ := quiet
    simp [noComparison, noLike, noNot, noBetween, noIs, Reading.out]

theorem notExpr_not {rest after : List Lexeme} {e : SqlExpr}
    (read : (notExpr rest).out = some (e, after)) :
    (notExpr (.word "NOT" :: rest)).out = some (.not e, after) := by
  rw [notExpr, if_pos (by decide)]
  simp [read]

theorem notExpr_of_predicate {l : Lexeme} {rest : List Lexeme} (notNot : l.isKw "NOT" = false) :
    (notExpr (l :: rest)).out = (predicate (l :: rest)).out := by
  rw [notExpr, if_neg (by simp [notNot])]

theorem andExpr_out (ts : List Lexeme) :
    (andExpr ts).out = (notExpr ts).out.map fun read => outOf (andRest read.1 read.2) := by
  rw [andExpr]
  split <;> simp_all [Reading.out, outOf]

theorem andRest_and (acc : SqlExpr) {more after : List Lexeme} {e : SqlExpr}
    (read : (notExpr more).out = some (e, after)) :
    outOf (andRest acc (.word "AND" :: more)) = outOf (andRest (.and acc e) after) := by
  obtain ⟨shorter, found⟩ := Reading.out_eq_some.mp read
  rw [andRest, if_pos (by decide), found]
  rfl

theorem andRest_stop (acc : SqlExpr) {rest : List Lexeme}
    (stops : ∀ l ∈ rest.head?, l.isKw "AND" = false) : outOf (andRest acc rest) = (acc, rest) := by
  cases rest with
  | nil => rw [andRest]; rfl
  | cons l more =>
    rw [andRest, if_neg (by simp [stops l rfl])]
    rfl

theorem orExpr_out (ts : List Lexeme) :
    (orExpr ts).out = (andExpr ts).out.map fun read => outOf (orRest read.1 read.2) := by
  rw [orExpr]
  split <;> simp_all [Reading.out, outOf]

theorem orRest_or (acc : SqlExpr) {more after : List Lexeme} {e : SqlExpr}
    (read : (andExpr more).out = some (e, after)) :
    outOf (orRest acc (.word "OR" :: more)) = outOf (orRest (.or acc e) after) := by
  obtain ⟨shorter, found⟩ := Reading.out_eq_some.mp read
  rw [orRest, if_pos (by decide), found]
  rfl

theorem orRest_stop (acc : SqlExpr) {rest : List Lexeme}
    (stops : ∀ l ∈ rest.head?, l.isKw "OR" = false) : outOf (orRest acc rest) = (acc, rest) := by
  cases rest with
  | nil => rw [orRest]; rfl
  | cons l more =>
    rw [orRest, if_neg (by simp [stops l rfl])]
    rfl

theorem args_close (rest : List Lexeme) : (args (.symbol ")" :: rest)).out = some ([], rest) := by
  rw [args]
  rfl

theorem args_last {ts after : List Lexeme} {a : SqlExpr} (open_ : ts.head? ≠ some (.symbol ")"))
    (read : (orExpr ts).out = some (a, .symbol ")" :: after)) :
    (args ts).out = some ([a], after) := by
  obtain ⟨shorter, found⟩ := Reading.out_eq_some.mp read
  rw [args.eq_def]
  split
  · exact absurd rfl open_
  · rw [found]
    rfl

theorem args_cons {ts more after : List Lexeme} {a : SqlExpr} {as : List SqlExpr}
    (open_ : ts.head? ≠ some (.symbol ")"))
    (read : (orExpr ts).out = some (a, .symbol "," :: more)) (others : (args more).out = some (as, after)) :
    (args ts).out = some (a :: as, after) := by
  obtain ⟨shorter, found⟩ := Reading.out_eq_some.mp read
  obtain ⟨shorter', found'⟩ := Reading.out_eq_some.mp others
  rw [args.eq_def]
  split
  · exact absurd rfl open_
  · rw [found]
    simp only
    rw [found']
    rfl

theorem fromClause_dotted {names : List String} (named : names ≠ []) (tableAlias : Option String)
    (more : List Lexeme) :
    fromClause (dotted names ++ ((tableAlias.map Lexeme.quoted).toList ++ .word "WHERE" :: more)) =
      some ((names, tableAlias), .word "WHERE" :: more) := by
  obtain ⟨n, names, rfl⟩ := List.exists_cons_of_ne_nil named
  have stops : ∀ l ∈ ((tableAlias.map Lexeme.quoted).toList ++ .word "WHERE" :: more).head?,
      l ≠ .symbol "." := by
    cases tableAlias <;> simp
  rw [dotted, List.cons_append, fromClause, dottedRest_dotsTail names stops]
  cases tableAlias <;> rfl

theorem subselect_read {ts more rest after : List Lexeme} {s condition : SqlExpr}
    {table : List String} {tableAlias : Option String}
    (selected : (orExpr ts).out = some (s, .word "FROM" :: more))
    (source : fromClause more = some ((table, tableAlias), .word "WHERE" :: rest))
    (condition_ : (orExpr rest).out = some (condition, after)) :
    (subselect ts).out = some (.subselect s table tableAlias condition, after) := by
  obtain ⟨shorter, found⟩ := Reading.out_eq_some.mp selected
  rw [subselect, found]
  simp only [if_pos (show (Lexeme.word "FROM").isKw "FROM" = true by decide)]
  split
  · rename_i table' tableAlias' w rest' found'
    rw [source] at found'
    cases found'
    simp [if_pos (show (Lexeme.word "WHERE").isKw "WHERE" = true by decide), condition_]
  · rename_i missing
    exact absurd source (missing _ _ _ _)

/-! ## Where an expression ends -/

/-- Whether the lexeme would continue an expression read at level `k`. -/
def Lexeme.continues (k : Nat) (l : Lexeme) : Bool :=
  l == .symbol "." || (1 ≤ k && l == .symbol "[") || (2 ≤ k && l == .symbol "||") ||
    (3 ≤ k && l.startsPredicate) || (5 ≤ k && l.isKw "AND") || (6 ≤ k && l.isKw "OR")

/-- The lexemes after an expression read at level `k` do not continue it. -/
def Stops (k : Nat) (rest : List Lexeme) : Prop := ∀ l ∈ rest.head?, l.continues k = false

namespace Stops

variable {k j : Nat} {rest : List Lexeme}

@[simp] theorem nil (k : Nat) : Stops k [] := by
  intro l found
  cases found

theorem cons {l : Lexeme} (quiet : l.continues k = false) (more : List Lexeme) :
    Stops k (l :: more) := by
  intro l' found
  cases found
  exact quiet

theorem mono (le : k ≤ j) (stops : Stops j rest) : Stops k rest := by
  intro l found
  have quiet := stops l found
  simp only [Lexeme.continues, Bool.or_eq_false_iff, Bool.and_eq_false_iff,
    decide_eq_false_iff_not] at quiet ⊢
  grind

theorem noDot (stops : Stops k rest) : ∀ l ∈ rest.head?, l ≠ .symbol "." := by
  intro l found same
  have quiet := stops l found
  simp [Lexeme.continues, same] at quiet

theorem noBracket (stops : Stops 1 rest) : ∀ l ∈ rest.head?, l ≠ .symbol "[" := by
  intro l found same
  have quiet := stops l found
  simp [Lexeme.continues, same] at quiet

theorem noConcat (stops : Stops 2 rest) : ∀ l ∈ rest.head?, l ≠ .symbol "||" := by
  intro l found same
  have quiet := stops l found
  simp [Lexeme.continues, same] at quiet

theorem noPredicate (stops : Stops 3 rest) : ∀ l ∈ rest.head?, l.startsPredicate = false := by
  intro l found
  have quiet := stops l found
  simp only [Lexeme.continues, Bool.or_eq_false_iff] at quiet
  simpa using quiet.1.1.2

theorem noAnd (stops : Stops 5 rest) : ∀ l ∈ rest.head?, l.isKw "AND" = false := by
  intro l found
  have quiet := stops l found
  simp only [Lexeme.continues, Bool.or_eq_false_iff] at quiet
  simpa using quiet.1.2

theorem noOr (stops : Stops 6 rest) : ∀ l ∈ rest.head?, l.isKw "OR" = false := by
  intro l found
  have quiet := stops l found
  simp only [Lexeme.continues, Bool.or_eq_false_iff] at quiet
  simpa using quiet.2

end Stops

/-- The reader of level `k`. -/
def parseAt : Nat → List Lexeme → Option (SqlExpr × List Lexeme)
  | 0, ts => (primary ts).out
  | 1, ts => (subscripted ts).out
  | 2, ts => (concatExpr ts).out
  | 3, ts => (predicate ts).out
  | 4, ts => (notExpr ts).out
  | 5, ts => (andExpr ts).out
  | _ + 6, ts => (orExpr ts).out

/-- What one level reads, the next level reads too when the lexemes after it do not continue it
there, and, into the level of `NOT`, when it does not begin with `NOT`. -/
theorem parseAt_succ {k : Nat} {ts rest : List Lexeme} {e : SqlExpr}
    (read : parseAt k ts = some (e, rest)) (stops : Stops (k + 1) rest)
    (notNot : k = 3 → ∀ l ∈ ts.head?, l.isKw "NOT" = false) :
    parseAt (k + 1) ts = some (e, rest) := by
  match k, read with
  | 0, read =>
    simp only [parseAt] at read ⊢
    rw [subscripted_out, read]
    simp [postRest_stop e stops.noBracket]
  | 1, read =>
    simp only [parseAt] at read ⊢
    rw [concatExpr_out, read]
    simp [concatRest_stop e stops.noConcat]
  | 2, read => exact predicate_stop read stops.noPredicate
  | 3, read =>
    simp only [parseAt] at read ⊢
    obtain ⟨shorter, _⟩ := Reading.out_eq_some.mp read
    obtain ⟨l, more, rfl⟩ : ∃ l more, ts = l :: more := by
      cases ts with
      | nil => simp at shorter
      | cons l more => exact ⟨l, more, rfl⟩
    rw [notExpr_of_predicate (notNot rfl l rfl), read]
  | 4, read =>
    simp only [parseAt] at read ⊢
    rw [andExpr_out, read]
    simp [andRest_stop e stops.noAnd]
  | 5, read =>
    simp only [parseAt] at read ⊢
    rw [orExpr_out, read]
    simp [orRest_stop e stops.noOr]
  | _ + 6, read => exact read

theorem parseAt_mono {j k : Nat} {ts rest : List Lexeme} {e : SqlExpr}
    (read : parseAt j ts = some (e, rest)) (le : j ≤ k) (stops : Stops k rest)
    (notNot : j ≤ 3 → ∀ l ∈ ts.head?, l.isKw "NOT" = false) :
    parseAt k ts = some (e, rest) := by
  induction k, le using Nat.le_induction with
  | base => exact read
  | succ k le ih =>
    refine parseAt_succ (ih (stops.mono (by omega))) stops ?_
    rintro rfl
    exact notNot le

/-! ## Printed expressions read back -/

theorem paren_append (ls rest : List Lexeme) :
    paren ls ++ rest = .symbol "(" :: (ls ++ .symbol ")" :: rest) := by
  simp [paren]

theorem Lexeme.isKw_of_isKeyword {w kw : String} (plain : (Lexeme.word w).isKeyword = false)
    (reserved : kw ∈ keywords) : (Lexeme.word w).isKw kw = false := by
  simp only [Lexeme.isKeyword, List.any_eq_false] at plain
  simpa using plain kw reserved

namespace SqlExpr

theorem level_le_six (e : SqlExpr) : e.level ≤ 6 := by
  cases e <;> simp [level]

theorem level_of_bare {e : SqlExpr} (bare : e.bare = true) : e.level ≤ 1 := by
  cases e <;> simp_all [SqlExpr.bare, level]

/-- The first lexeme of the printed expression is not a closing parenthesis nor `SELECT`, and is
`NOT` only in front of a negation. -/
def StartsWell (e : SqlExpr) : Prop :=
  ∃ l tail, e.print = l :: tail ∧ l ≠ .symbol ")" ∧ l.isKw "SELECT" = false ∧
    (e.level ≤ 3 → l.isKw "NOT" = false)

namespace StartsWell

variable {e : SqlExpr}

theorem of_left {l : SqlExpr} (starts : l.StartsWell) (more : List Lexeme)
    (printed : e.print = l.print ++ more) (level : e.level ≤ 3 → l.level ≤ 3) : e.StartsWell := by
  obtain ⟨first, tail, printedLeft, close, notSelect, notNot⟩ := starts
  exact ⟨first, tail ++ more, by rw [printed, printedLeft, List.cons_append], close, notSelect,
    fun low => notNot (level low)⟩

theorem of_paren (tail : List Lexeme) (printed : e.print = .symbol "(" :: tail) : e.StartsWell :=
  ⟨.symbol "(", tail, printed, by simp, rfl, fun _ => rfl⟩

theorem not_close (starts : e.StartsWell) (rest : List Lexeme) :
    (e.print ++ rest).head? ≠ some (.symbol ")") := by
  obtain ⟨first, tail, printed, close, _, _⟩ := starts
  simpa [printed] using close

theorem not_not (starts : e.StartsWell) (low : e.level ≤ 3) (rest : List Lexeme) :
    ∀ l ∈ (e.print ++ rest).head?, l.isKw "NOT" = false := by
  obtain ⟨first, tail, printed, _, _, notNot⟩ := starts
  intro l found
  simp only [printed, List.cons_append, List.head?_cons, Option.mem_def, Option.some.injEq] at found
  subst found
  exact notNot low

end StartsWell

/-- What reading the printed lexemes of `e` gives when lexemes that do not continue it follow:
`e` itself, at its own level and at every looser one; and below the level of `||`, the loops
over subscripts and over `||` go on from `e`. -/
structure ReadsBack (e : SqlExpr) : Prop where
  starts : e.StartsWell
  subscripts : e.level ≤ 1 → ∀ rest, Stops 0 rest →
    (subscripted (e.print ++ rest)).out = some (postRest e rest)
  concats : e.level ≤ 2 → ∀ rest, Stops 1 rest →
    (concatExpr (e.print ++ rest)).out = some (outOf (concatRest e rest))
  reads : ∀ k, e.level ≤ k → ∀ rest, Stops k rest → parseAt k (e.print ++ rest) = some (e, rest)

namespace ReadsBack

variable {e : SqlExpr}

/-- The reading at the expression's own level gives the readings at the looser ones. -/
theorem reads_of_native (starts : e.StartsWell)
    (native : ∀ rest, Stops e.level rest → parseAt e.level (e.print ++ rest) = some (e, rest)) :
    ∀ k, e.level ≤ k → ∀ rest, Stops k rest → parseAt k (e.print ++ rest) = some (e, rest) :=
  fun _ le rest stops =>
    parseAt_mono (native rest (stops.mono le)) le stops fun low => starts.not_not low rest

theorem of_loose (starts : e.StartsWell) (loose : 3 ≤ e.level)
    (native : ∀ rest, Stops e.level rest → parseAt e.level (e.print ++ rest) = some (e, rest)) :
    ReadsBack e where
  starts := starts
  subscripts := fun low => absurd low (by omega)
  concats := fun low => absurd low (by omega)
  reads := reads_of_native starts native

theorem of_concats (starts : e.StartsWell) (level : e.level = 2)
    (concats : ∀ rest, Stops 1 rest →
      (concatExpr (e.print ++ rest)).out = some (outOf (concatRest e rest))) :
    ReadsBack e where
  starts := starts
  subscripts := fun low => absurd low (by omega)
  concats := fun _ => concats
  reads := reads_of_native starts fun rest stops => by
    rw [level] at stops ⊢
    rw [parseAt, concats rest (stops.mono (by omega)), concatRest_stop e stops.noConcat]

theorem concats_of_subscripts
    (subscripts : ∀ rest, Stops 0 rest → (subscripted (e.print ++ rest)).out = some (postRest e rest))
    (rest : List Lexeme) (stops : Stops 1 rest) :
    (concatExpr (e.print ++ rest)).out = some (outOf (concatRest e rest)) := by
  rw [concatExpr_out, subscripts rest (stops.mono (by omega)), postRest_stop e stops.noBracket]
  rfl

theorem of_subscripts (starts : e.StartsWell) (level : e.level = 1)
    (subscripts : ∀ rest, Stops 0 rest →
      (subscripted (e.print ++ rest)).out = some (postRest e rest)) :
    ReadsBack e where
  starts := starts
  subscripts := fun _ => subscripts
  concats := fun _ => concats_of_subscripts subscripts
  reads := reads_of_native starts fun rest stops => by
    rw [level] at stops ⊢
    rw [parseAt, subscripts rest (stops.mono (by omega)), postRest_stop e stops.noBracket]

theorem of_primary (starts : e.StartsWell) (level : e.level = 0)
    (read : ∀ rest, Stops 0 rest → (primary (e.print ++ rest)).out = some (e, rest)) :
    ReadsBack e :=
  have subscripts : ∀ rest, Stops 0 rest →
      (subscripted (e.print ++ rest)).out = some (postRest e rest) := fun rest stops => by
    rw [subscripted_out, read rest stops]
    rfl
  { starts := starts
    subscripts := fun _ => subscripts
    concats := fun _ => concats_of_subscripts subscripts
    reads := reads_of_native starts fun rest stops => by
      rw [level] at stops ⊢
      exact read rest stops }

/-- In parentheses, an expression is read back at every level. -/
theorem paren (back : ReadsBack e) {k : Nat} {rest : List Lexeme} (stops : Stops k rest) :
    parseAt k (Sql.paren e.print ++ rest) = some (e, rest) := by
  obtain ⟨first, tail, printed, _, notSelect, _⟩ := back.starts
  have inner : parseAt 0 (Sql.paren e.print ++ rest) = some (e, rest) := by
    have read := back.reads 6 e.level_le_six (.symbol ")" :: rest) (Stops.cons (by decide) rest)
    rw [printed, List.cons_append] at read
    rw [paren_append, printed, List.cons_append]
    exact primary_paren notSelect read
  refine parseAt_mono inner (Nat.zero_le k) stops fun _ l found => ?_
  simp only [paren_append, List.head?_cons, Option.mem_def, Option.some.injEq] at found
  subst found
  rfl

/-! ### One lemma for each kind of expression -/

theorem column {names : List String} (named : names ≠ []) : ReadsBack (.column names) := by
  obtain ⟨n, names, rfl⟩ := List.exists_cons_of_ne_nil named
  refine of_primary ⟨.quoted n, dotsTail names, rfl, by simp, rfl, fun _ => rfl⟩ rfl ?_
  intro rest stops
  simp only [print, dotted, List.cons_append]
  rw [primary_quoted, dottedRest_dotsTail names stops.noDot]

theorem placeholder (m : String) : ReadsBack (.placeholder m) :=
  of_primary ⟨.placeholder m, [], rfl, by simp, rfl, fun _ => rfl⟩ rfl
    fun rest _ => primary_placeholder m rest

theorem args_printArgs : ∀ {as : List SqlExpr}, (∀ a ∈ as, ReadsBack a) → ∀ rest,
    (args (printArgs as ++ .symbol ")" :: rest)).out = some (as, rest)
  | [], _, rest => args_close rest
  | [a], back, rest => by
    have first := back a (by simp)
    exact args_last (first.starts.not_close _)
      (first.reads 6 a.level_le_six _ (Stops.cons (by decide) rest))
  | a :: b :: more, back, rest => by
    have first := back a (by simp)
    rw [show printArgs (a :: b :: more) ++ .symbol ")" :: rest =
      a.print ++ .symbol "," :: (printArgs (b :: more) ++ .symbol ")" :: rest) by simp [printArgs]]
    exact args_cons (first.starts.not_close _)
      (first.reads 6 a.level_le_six _ (Stops.cons (by decide) _))
      (args_printArgs (fun x mem => back x (List.mem_cons_of_mem a mem)) rest)

theorem call {f : String} {as : List SqlExpr} (plain : (Lexeme.word f).isKeyword = false)
    (back : ∀ a ∈ as, ReadsBack a) : ReadsBack (.call f as) := by
  refine of_primary ⟨.word f, _, rfl, by simp, Lexeme.isKw_of_isKeyword plain (by decide),
    fun _ => Lexeme.isKw_of_isKeyword plain (by decide)⟩ rfl ?_
  intro rest _
  rw [show (SqlExpr.call f as).print ++ rest =
    .word f :: .symbol "(" :: (printArgs as ++ .symbol ")" :: rest) by simp [print, Sql.paren]]
  exact primary_call plain (args_printArgs back rest)

theorem subselect {s condition : SqlExpr} {table : List String} {tableAlias : Option String}
    (named : table ≠ []) (selected : ReadsBack s) (filter : ReadsBack condition) :
    ReadsBack (.subselect s table tableAlias condition) := by
  refine of_primary (StartsWell.of_paren _ rfl) rfl ?_
  intro rest _
  rw [show (SqlExpr.subselect s table tableAlias condition).print ++ rest =
    .symbol "(" :: .word "SELECT" :: (s.print ++ .word "FROM" :: (dotted table ++
      ((tableAlias.map Lexeme.quoted).toList ++ .word "WHERE" ::
        (condition.print ++ .symbol ")" :: rest)))) by simp [print, Sql.paren]]
  exact primary_subselect (subselect_read
    (selected.reads 6 s.level_le_six _ (Stops.cons (by decide) _))
    (fromClause_dotted named tableAlias _)
    (filter.reads 6 condition.level_le_six _ (Stops.cons (by decide) rest)))

theorem subscript {b : SqlExpr} (k : String) (base : ReadsBack b) : ReadsBack (.subscript b k) := by
  have written (rest : List Lexeme) : (SqlExpr.subscript b k).print ++ rest =
      (if b.bare then b.print else Sql.paren b.print) ++
        .symbol "[" :: .number k :: .symbol "]" :: rest := by
    simp [print]
  have bracket (rest : List Lexeme) : Stops 0 (.symbol "[" :: .number k :: .symbol "]" :: rest) :=
    Stops.cons (by decide) _
  by_cases bare : b.bare
  · refine of_subscripts (base.starts.of_left [.symbol "[", .number k, .symbol "]"]
      (by simp [print, bare]) fun _ => (level_of_bare bare).trans (by omega)) rfl ?_
    intro rest _
    rw [written, if_pos bare, base.subscripts (level_of_bare bare) _ (bracket rest), postRest]
  · refine of_subscripts (StartsWell.of_paren
      (b.print ++ [.symbol ")", .symbol "[", .number k, .symbol "]"])
      (by simp [print, bare, Sql.paren])) rfl ?_
    intro rest _
    have read := base.paren (bracket rest)
    rw [parseAt] at read
    rw [written, if_neg bare, subscripted_out, read, Option.map_some, postRest]

theorem concat {l r : SqlExpr} (left : ReadsBack l) (right : ReadsBack r)
    (leftLevel : l.level ≤ 2) (rightLevel : r.level ≤ 1) : ReadsBack (.concat l r) := by
  refine of_concats (left.starts.of_left _ rfl fun _ => by omega) rfl ?_
  intro rest stops
  have rightRead : (subscripted (r.print ++ rest)).out = some (r, rest) := by
    rw [right.subscripts rightLevel rest (stops.mono (by omega)), postRest_stop r stops.noBracket]
  rw [show (SqlExpr.concat l r).print ++ rest = l.print ++ .symbol "||" :: (r.print ++ rest) by
    simp [print]]
  rw [left.concats leftLevel _ (Stops.cons (by decide) _), concatRest_concat l rightRead]

theorem stops_opLexemes (op : Comparison) (rest : List Lexeme) : Stops 2 (opLexemes op ++ rest) := by
  cases op <;> exact Stops.cons (by decide) _

theorem compare (op : Comparison) {l r : SqlExpr} (left : ReadsBack l) (right : ReadsBack r)
    (leftLevel : l.level ≤ 2) (rightLevel : r.level ≤ 2) : ReadsBack (.compare op l r) := by
  refine of_loose (left.starts.of_left (opLexemes op ++ r.print) (by simp [print])
    fun _ => by omega) (by simp [level]) ?_
  intro rest stops
  simp only [level] at stops ⊢
  rw [show (SqlExpr.compare op l r).print ++ rest = l.print ++ (opLexemes op ++ (r.print ++ rest)) by
    simp [print]]
  exact predicate_compare op (left.reads 2 leftLevel _ (stops_opLexemes op _))
    (right.reads 2 rightLevel rest (stops.mono (by omega)))

theorem between {v low high : SqlExpr} (value : ReadsBack v) (lower : ReadsBack low)
    (upper : ReadsBack high) (valueLevel : v.level ≤ 2) (lowLevel : low.level ≤ 2)
    (highLevel : high.level ≤ 2) : ReadsBack (.between v low high) := by
  refine of_loose (value.starts.of_left _ rfl fun _ => by omega) (by simp [level]) ?_
  intro rest stops
  simp only [level] at stops ⊢
  rw [show (SqlExpr.between v low high).print ++ rest =
    v.print ++ .word "BETWEEN" :: (low.print ++ .word "AND" :: (high.print ++ rest)) by
      simp [print]]
  exact predicate_between (value.reads 2 valueLevel _ (Stops.cons (by decide) _))
    (lower.reads 2 lowLevel _ (Stops.cons (by decide) _))
    (upper.reads 2 highLevel rest (stops.mono (by omega)))

theorem isNull {o : SqlExpr} (operand : ReadsBack o) (operandLevel : o.level ≤ 2) :
    ReadsBack (.isNull o) := by
  refine of_loose (operand.starts.of_left _ rfl fun _ => by omega) (by simp [level]) ?_
  intro rest _
  rw [show (SqlExpr.isNull o).print ++ rest = o.print ++ .word "IS" :: .word "NULL" :: rest by
    simp [print]]
  exact predicate_isNull (operand.reads 2 operandLevel _ (Stops.cons (by decide) _))

theorem not {o : SqlExpr} (operand : ReadsBack o) : ReadsBack (.not o) := by
  refine of_loose ⟨.word "NOT", Sql.paren o.print, rfl, by simp, by decide,
    fun low => absurd low (by simp [level])⟩ (by simp [level]) ?_
  intro rest stops
  exact notExpr_not (operand.paren stops)

theorem and {l r : SqlExpr} (left : ReadsBack l) (right : ReadsBack r) : ReadsBack (.and l r) := by
  refine of_loose (StartsWell.of_paren (l.print ++ .symbol ")" :: .word "AND" ::
    Sql.paren r.print) (by simp [print, Sql.paren])) (by simp [level]) ?_
  intro rest stops
  simp only [level] at stops ⊢
  rw [show (SqlExpr.and l r).print ++ rest =
    Sql.paren l.print ++ .word "AND" :: (Sql.paren r.print ++ rest) by simp [print]]
  have first := left.paren (k := 4)
    (Stops.cons (show (Lexeme.word "AND").continues 4 = false by decide) (Sql.paren r.print ++ rest))
  have second := right.paren (k := 4) (stops.mono (by omega))
  simp only [parseAt] at first second ⊢
  rw [andExpr_out, first, Option.map_some, andRest_and l second, andRest_stop _ stops.noAnd]

theorem or {l r : SqlExpr} (left : ReadsBack l) (right : ReadsBack r) : ReadsBack (.or l r) := by
  refine of_loose (StartsWell.of_paren (l.print ++ .symbol ")" :: .word "OR" ::
    Sql.paren r.print) (by simp [print, Sql.paren])) (by simp [level]) ?_
  intro rest stops
  simp only [level] at stops ⊢
  rw [show (SqlExpr.or l r).print ++ rest =
    Sql.paren l.print ++ .word "OR" :: (Sql.paren r.print ++ rest) by simp [print]]
  have first := left.paren (k := 5)
    (Stops.cons (show (Lexeme.word "OR").continues 5 = false by decide) (Sql.paren r.print ++ rest))
  have second := right.paren (k := 5) (stops.mono (by omega))
  simp only [parseAt] at first second ⊢
  rw [orExpr_out, first, Option.map_some, orRest_or l second, orRest_stop _ stops.noOr]

end ReadsBack

mutual

/-- Every printable expression is read back from its lexemes, by recursion on the expression. -/
theorem readsBack : ∀ e : SqlExpr, e.printable → ReadsBack e
  | .column names, ok => ReadsBack.column (by simpa [printable] using ok)
  | .placeholder m, _ => ReadsBack.placeholder m
  | .call f as, ok => by
    simp only [printable, Bool.and_eq_true, Bool.not_eq_eq_eq_not, Bool.not_true] at ok
    exact ReadsBack.call ok.1 (readsBackArgs as ok.2)
  | .subselect s table _ condition, ok => by
    simp only [printable, Bool.and_eq_true, Bool.not_eq_eq_eq_not, Bool.not_true,
      List.isEmpty_eq_false_iff] at ok
    exact ReadsBack.subselect ok.1.2 (readsBack s ok.1.1) (readsBack condition ok.2)
  | .subscript b k, ok => ReadsBack.subscript k (readsBack b (by simpa [printable] using ok))
  | .concat l r, ok => by
    simp only [printable, Bool.and_eq_true, decide_eq_true_eq] at ok
    exact ReadsBack.concat (readsBack l ok.1.1.1) (readsBack r ok.1.1.2) ok.1.2 ok.2
  | .compare op l r, ok => by
    simp only [printable, Bool.and_eq_true, decide_eq_true_eq] at ok
    exact ReadsBack.compare op (readsBack l ok.1.1.1) (readsBack r ok.1.1.2) ok.1.2 ok.2
  | .between v low high, ok => by
    simp only [printable, Bool.and_eq_true, decide_eq_true_eq] at ok
    exact ReadsBack.between (readsBack v ok.1.1.1.1.1) (readsBack low ok.1.1.1.1.2)
      (readsBack high ok.1.1.1.2) ok.1.1.2 ok.1.2 ok.2
  | .isNull o, ok => by
    simp only [printable, Bool.and_eq_true, decide_eq_true_eq] at ok
    exact ReadsBack.isNull (readsBack o ok.1) ok.2
  | .not o, ok => ReadsBack.not (readsBack o (by simpa [printable] using ok))
  | .and l r, ok => by
    simp only [printable, Bool.and_eq_true] at ok
    exact ReadsBack.and (readsBack l ok.1) (readsBack r ok.2)
  | .or l r, ok => by
    simp only [printable, Bool.and_eq_true] at ok
    exact ReadsBack.or (readsBack l ok.1) (readsBack r ok.2)

theorem readsBackArgs : ∀ as : List SqlExpr, printableArgs as → ∀ a ∈ as, ReadsBack a
  | [], _ => by simp
  | a :: rest, ok => by
    simp only [printableArgs, Bool.and_eq_true] at ok
    have first := readsBack a ok.1
    have others := readsBackArgs rest ok.2
    intro x mem
    rcases List.mem_cons.mp mem with same | mem
    · exact same ▸ first
    · exact others x mem

end

/-- The reader of conditions gives back every printable expression from its lexemes, whatever
follows them without continuing them. -/
theorem orExpr_print {e : SqlExpr} (ok : e.printable) {rest : List Lexeme} (stops : Stops 6 rest) :
    (orExpr (e.print ++ rest)).out = some (e, rest) :=
  (readsBack e ok).reads 6 e.level_le_six rest stops

theorem readCondition_print {e : SqlExpr} (ok : e.printable) : readCondition e.print = some e := by
  have read := orExpr_print ok (Stops.nil 6)
  rw [List.append_nil] at read
  obtain ⟨_, found⟩ := Reading.out_eq_some.mp read
  rw [readCondition, found]

/-- No two printable expressions print alike. -/
theorem print_injective {e₁ e₂ : SqlExpr} (ok₁ : e₁.printable) (ok₂ : e₂.printable)
    (same : e₁.print = e₂.print) : e₁ = e₂ := by
  have back := readCondition_print ok₁
  rw [same, readCondition_print ok₂] at back
  exact (Option.some.inj back).symm

end SqlExpr

end RelMap.Sql
