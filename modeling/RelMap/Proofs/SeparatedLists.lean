import Mathlib
import RelMap.Sql.Compile
import RelMap.Proofs.PlaceholderNumbering

/-!
# Lists written with separators

The writer writes a list item after item, and puts the separator between an item and the next
exactly when the item wrote something. `joinAfterWritten` states that rule on the written texts.
`separatedBy_joins_written_items` says the writer follows it after any text already written,
each item numbering its placeholders on from those before it. When every item writes something,
the list is the separator's intercalation of the items.

Quoted identifiers and placeholders always write something, so an `INSERT` lists its columns,
its placeholders and the columns it asks back separated by commas (`insert_sql`).
-/

namespace RelMap

set_option autoImplicit false

namespace Sql

/-- Written texts in order, with the separator after each non-empty one that has a successor. -/
def joinAfterWritten (sep : String) : List String → String
  | [] => ""
  | [w] => w
  | w :: w' :: ws => w ++ (if w = "" then "" else sep) ++ joinAfterWritten sep (w' :: ws)

theorem joinAfterWritten_cons (sep w : String) (ws : List String) :
    joinAfterWritten sep (w :: ws) =
      w ++ ((if ws = [] ∨ w = "" then "" else sep) ++ joinAfterWritten sep ws) := by
  cases ws with
  | nil => simp [joinAfterWritten]
  | cons w' ws => by_cases blank : w = "" <;> simp [joinAfterWritten, blank, String.append_assoc]

/-- When every text is non-empty, the separator stands between every two of them. -/
theorem joinAfterWritten_eq_intercalate (sep : String) :
    ∀ ws : List String, (∀ w ∈ ws, w ≠ "") → joinAfterWritten sep ws = sep.intercalate ws
  | [], _ => by simp [joinAfterWritten]
  | [w], _ => by simp [joinAfterWritten]
  | w :: w' :: ws, written => by
    have first : w ≠ "" := written w (by simp)
    have rest := joinAfterWritten_eq_intercalate sep (w' :: ws)
      fun v member => written v (List.mem_cons_of_mem w member)
    rw [joinAfterWritten, if_neg first, rest, String.intercalate_cons_cons]

/-! ## The writer on pieces -/

theorem marker_ne_empty (style : Placeholders) (n : Nat) : style.marker n ≠ "" := by
  cases style <;> simp [Placeholders.marker, String.append_eq_empty_iff]

theorem quote_ne_empty (name : String) : quote name ≠ "" := by
  simp [quote, String.append_eq_empty_iff]

/-- Writing two texts one after the other: the second numbers its placeholders on from the
first's. -/
theorem writeFrom_append (style : Placeholders) : ∀ (counter : Nat) (t u : Text),
    writeFrom style counter (t ++ u) =
      ((writeFrom style counter t).1 ++ (writeFrom style (writeFrom style counter t).2.2 u).1,
        (writeFrom style counter t).2.1 ++ (writeFrom style (writeFrom style counter t).2.2 u).2.1,
        (writeFrom style (writeFrom style counter t).2.2 u).2.2)
  | counter, [], u => by simp [writeFrom]
  | counter, .text s :: rest, u => by
    simp [writeFrom, writeFrom_append style counter rest u, String.append_assoc]
  | counter, .param v :: rest, u => by
    simp [writeFrom, writeFrom_append style (counter + 1) rest u, String.append_assoc]
  | counter, .fragment body :: rest, u => by
    simp [writeFrom, writeFrom_append style _ rest u, String.append_assoc]

theorem writeFrom_lit (style : Placeholders) (counter : Nat) (s : String) :
    writeFrom style counter (lit s) = (s, [], counter) := by
  simp [lit, writeFrom]

theorem writeFrom_lit_append (style : Placeholders) (counter : Nat) (s : String)
    (t : Text) :
    writeFrom style counter (lit s ++ t) =
      (s ++ (writeFrom style counter t).1, (writeFrom style counter t).2.1,
        (writeFrom style counter t).2.2) := by
  simp [lit, writeFrom]

/-- A text writes nothing exactly when it is blank, whatever the placeholders before it. -/
theorem writeFrom_eq_empty_iff (style : Placeholders) : ∀ (counter : Nat) (t : Text),
    (writeFrom style counter t).1 = "" ↔ isBlank t = true
  | _, [] => by simp [writeFrom, isBlank]
  | counter, .text s :: rest => by
    simp [writeFrom, isBlank, String.append_eq_empty_iff, String.isEmpty_iff,
      writeFrom_eq_empty_iff style counter rest]
  | counter, .param v :: rest => by
    simp [writeFrom, isBlank, String.append_eq_empty_iff, marker_ne_empty]
  | counter, .fragment body :: rest => by
    simp [writeFrom, isBlank, String.append_eq_empty_iff, writeFrom_eq_empty_iff style counter body,
      writeFrom_eq_empty_iff style _ rest]

/-- What each item writes, each numbering its placeholders on from the items before it. -/
def writtenItems (style : Placeholders) : Nat → List Text → List String
  | _, [] => []
  | counter, t :: rest =>
      (writeFrom style counter t).1 :: writtenItems style (writeFrom style counter t).2.2 rest

theorem writtenItems_eq_nil_iff (style : Placeholders) (counter : Nat) (items : List Text) :
    writtenItems style counter items = [] ↔ items = [] := by
  cases items <;> simp [writtenItems]

/-- Literal items write their texts, whatever the placeholders before them. -/
theorem writtenItems_lits (style : Placeholders) (counter : Nat) {α : Type} (xs : List α)
    (g : α → String) : writtenItems style counter (xs.map fun x => lit (g x)) = xs.map g := by
  induction xs with
  | nil => rfl
  | cons x xs ih => simp [writtenItems, writeFrom_lit, ih]

/-- Placeholder items write the markers of the next numbers, one each. -/
theorem writtenItems_params (style : Placeholders) (counter : Nat) {α : Type} (xs : List α)
    (h : α → Value) :
    writtenItems style counter (xs.map fun x => [Piece.param (h x)]) =
      (List.range' (counter + 1) xs.length).map style.marker := by
  induction xs generalizing counter with
  | nil => rfl
  | cons x xs ih => simp [writtenItems, writeFrom, ih, List.range'_succ]

/-! ## Separated lists -/

/-- The items after `previous`: each after the separator unless the text before it wrote nothing;
the separator before the first item follows `previous`. -/
theorem writeFrom_separatedBy_go (style : Placeholders) (sep : String) :
    ∀ (counter : Nat) (previous : Text) (items : List Text),
      (writeFrom style counter (separatedBy.go sep previous items)).1 =
        (if items = [] ∨ isBlank previous then "" else sep) ++
          joinAfterWritten sep (writtenItems style counter items)
  | _, _, [] => by simp [separatedBy.go, writeFrom, writtenItems, joinAfterWritten]
  | counter, previous, item :: rest => by
    -- the item writes the same with or without the separator before it, which binds nothing
    have separated : writeFrom style counter (if isBlank previous then item else lit sep ++ item) =
        ((if isBlank previous then "" else sep) ++ (writeFrom style counter item).1,
          (writeFrom style counter item).2.1, (writeFrom style counter item).2.2) := by
      cases isBlank previous <;> simp [writeFrom_lit_append]
    have blank : (writeFrom style counter item).1 = "" ↔ isBlank item = true :=
      writeFrom_eq_empty_iff style counter item
    rw [separatedBy.go, writeFrom_append, separated,
      writeFrom_separatedBy_go style sep _ item rest, writtenItems, joinAfterWritten_cons]
    simp [blank, writtenItems_eq_nil_iff, String.append_assoc]

/-- A separated list writes its items' texts joined by `joinAfterWritten`. -/
theorem writeFrom_separatedBy (style : Placeholders) (sep : String) (counter : Nat)
    (items : List Text) :
    (writeFrom style counter (separatedBy sep items)).1 =
      joinAfterWritten sep (writtenItems style counter items) := by
  cases items with
  | nil => simp [separatedBy, writeFrom, writtenItems, joinAfterWritten]
  | cons first rest =>
    have blank : (writeFrom style counter first).1 = "" ↔ isBlank first = true :=
      writeFrom_eq_empty_iff style counter first
    rw [separatedBy, writeFrom_append, writeFrom_separatedBy_go, writtenItems,
      joinAfterWritten_cons]
    simp [blank, writtenItems_eq_nil_iff]

/-- After any text already written, a separated list of the values' texts appends each value's
text in order, numbered on from the text before, with the separator between a text and the next
exactly when the text is not empty; when every text is non-empty, the list appended is their
intercalation by the separator. -/
theorem separatedBy_joins_written_items (style : Placeholders) (sep : String) (counter : Nat)
    (buffer : Text) {α : Type} (values : List α) (f : α → Text) :
    (writeFrom style counter (buffer ++ separatedBy sep (values.map f))).1 =
        (writeFrom style counter buffer).1 ++
          joinAfterWritten sep
            (writtenItems style (writeFrom style counter buffer).2.2 (values.map f)) ∧
      ((∀ w ∈ writtenItems style (writeFrom style counter buffer).2.2 (values.map f), w ≠ "") →
        (writeFrom style counter (buffer ++ separatedBy sep (values.map f))).1 =
          (writeFrom style counter buffer).1 ++
            sep.intercalate
              (writtenItems style (writeFrom style counter buffer).2.2 (values.map f))) := by
  have appended := writeFrom_append style counter buffer (separatedBy sep (values.map f))
  rw [writeFrom_separatedBy] at appended
  refine ⟨congrArg Prod.fst appended, fun written => ?_⟩
  rw [appended, joinAfterWritten_eq_intercalate sep _ written]

/-- The column list of an `INSERT` into `counters` of the fields `id` and `label`. -/
theorem insert_columns_listed :
    (∀ w ∈ writtenItems .numbered 0 (["id", "label"].map fun name => lit (quote name)), w ≠ "") ∧
      (writeFrom .numbered 0 (lit "INSERT INTO \"counters\" (" ++
          separatedBy ", " (["id", "label"].map fun name => lit (quote name)))).1 =
        "INSERT INTO \"counters\" (\"id\", \"label\"" := by
  have written :
      ∀ w ∈ writtenItems .numbered 0 (["id", "label"].map fun name => lit (quote name)), w ≠ "" := by
    rw [writtenItems_lits]
    simp [quote_ne_empty]
  refine ⟨written, ?_⟩
  rw [(separatedBy_joins_written_items .numbered ", " 0 (lit "INSERT INTO \"counters\" (")
    ["id", "label"] (fun name => lit (quote name))).2 (by simpa [writeFrom_lit] using written)]
  cbv

/-- A list of non-empty literal texts is their intercalation, and binds nothing. -/
theorem writeFrom_separatedBy_lits (style : Placeholders) (sep : String) (counter : Nat)
    {α : Type} (xs : List α) (g : α → String) (nonempty : ∀ x ∈ xs, g x ≠ "") :
    writeFrom style counter (separatedBy sep (xs.map fun x => lit (g x))) =
      (sep.intercalate (xs.map g), [], counter) := by
  have text := writeFrom_separatedBy style sep counter (xs.map fun x => lit (g x))
  rw [writtenItems_lits, joinAfterWritten_eq_intercalate sep _ (by simpa using nonempty)] at text
  have unbound : params (separatedBy sep (xs.map fun x => lit (g x))) = [] := by simp
  refine Prod.ext text (Prod.ext ?_ ?_) <;> simp [writeFrom_eq, unbound]

/-- A list of placeholders binds the values in order. -/
theorem params_separatedBy_params (sep : String) {α : Type} (xs : List α) (h : α → Value) :
    params (separatedBy sep (xs.map fun x => [Piece.param (h x)])) = xs.map h := by
  induction xs with
  | nil => simp
  | cons x xs ih => simpa using ih

/-- A list of placeholders writes the markers of the next numbers, separated, and binds the
values in order. -/
theorem writeFrom_separatedBy_params (style : Placeholders) (sep : String) (counter : Nat)
    {α : Type} (xs : List α) (h : α → Value) :
    writeFrom style counter (separatedBy sep (xs.map fun x => [Piece.param (h x)])) =
      (sep.intercalate ((List.range' (counter + 1) xs.length).map style.marker), xs.map h,
        counter + xs.length) := by
  have markers : ∀ w ∈ (List.range' (counter + 1) xs.length).map style.marker, w ≠ "" := by
    intro w member
    obtain ⟨n, -, rfl⟩ := List.mem_map.1 member
    exact marker_ne_empty style n
  have text := writeFrom_separatedBy style sep counter (xs.map fun x => [Piece.param (h x)])
  rw [writtenItems_params, joinAfterWritten_eq_intercalate sep _ markers] at text
  refine Prod.ext text (Prod.ext ?_ ?_)
  · rw [writeFrom_eq]
    exact params_separatedBy_params sep xs h
  · rw [writeFrom_eq]
    simp only [params_separatedBy_params, List.length_map]

/-- An `INSERT` names its table, then lists the fields' quoted names and their placeholders,
numbered from one, or asks for the default values when there is no field, then lists the quoted
names of the columns it asks back, each list separated by commas. -/
theorem insert_sql (style : Placeholders) (t : Table) (row : EncodedRow) :
    (render style (Compiler.insert t row)).sql =
      "INSERT INTO " ++ t.ref.text ++
        (if row.fields.isEmpty then " DEFAULT VALUES"
          else " (" ++ ", ".intercalate (row.fields.map fun f => quote f.1) ++ ") VALUES\n(" ++
            ", ".intercalate ((List.range' 1 row.fields.length).map style.marker) ++ ")") ++
        (if row.omitted.isEmpty then ""
          else "\nRETURNING " ++ ", ".intercalate (row.omitted.map fun c => quote c.name)) ++
        ";" := by
  have names := writeFrom_separatedBy_lits style ", " 0 row.fields (fun f => quote f.1)
    fun f _ => quote_ne_empty f.1
  have markers := writeFrom_separatedBy_params style ", " 0 row.fields Prod.snd
  have returned (counter : Nat) := writeFrom_separatedBy_lits style ", " counter row.omitted
    (fun c => quote c.name) fun c _ => quote_ne_empty c.name
  simp only [render, Compiler.insert]
  by_cases noFields : row.fields.isEmpty <;> by_cases noOmitted : row.omitted.isEmpty <;>
    simp [noFields, noOmitted, writeFrom_append, writeFrom_lit, names, markers, returned, writeFrom,
      String.append_assoc]

end Sql

end RelMap
