import RelMap.Sql.Statement

/-!
# Placeholder numbering across fragments

The writer numbers placeholders with the counter of its context. A fragment is written on a copy
of the context, and the copy's counter is carried back when the fragment ends. Opening every
fragment in place gives the statement's tokens. `render_eq_numbered` says that the written text
numbers the placeholders of the tokens `1, 2, ...` from left to right, with no restart at a
fragment, and that the bound values are the placeholders' values in the same order.
-/

namespace RelMap

set_option autoImplicit false

namespace Sql

/-- Statement text with its fragments opened: text, and placeholders with their values. -/
inductive Token where
  | text (s : String)
  | placeholder (v : Value)

def Token.value? : Token → Option Value
  | .text _ => none
  | .placeholder v => some v

@[simp] theorem Token.value?_text (s : String) : (Token.text s).value? = none := rfl

@[simp] theorem Token.value?_placeholder (v : Value) : (Token.placeholder v).value? = some v :=
  rfl

/-- The tokens of pieces, each fragment's in its place. -/
def tokens : Text → List Token
  | [] => []
  | .text s :: rest => .text s :: tokens rest
  | .param v :: rest => .placeholder v :: tokens rest
  | .fragment body :: rest => tokens body ++ tokens rest

/-- The values the placeholders bind, from left to right. -/
def params (t : Text) : List Value := (tokens t).filterMap Token.value?

/-- Tokens written with their placeholders numbered on from `next`. -/
def numberedFrom (style : Placeholders) : Nat → List Token → String
  | _, [] => ""
  | next, .text s :: rest => s ++ numberedFrom style next rest
  | next, .placeholder _ :: rest => style.marker next ++ numberedFrom style (next + 1) rest

theorem numberedFrom_append (style : Placeholders) (next : Nat) (first second : List Token) :
    numberedFrom style next (first ++ second) =
      numberedFrom style next first ++
        numberedFrom style (next + (first.filterMap Token.value?).length) second := by
  induction first generalizing next with
  | nil => simp [numberedFrom]
  | cons token rest ih =>
    cases token with
    | text s => simp [numberedFrom, ih, String.append_assoc, List.filterMap_cons]
    | placeholder v => simp [numberedFrom, ih, String.append_assoc, Nat.add_assoc, Nat.add_comm 1]

/-- Writing from a context that has written `counter` placeholders numbers the next ones from
`counter + 1`, and leaves the counter past the last of them. -/
theorem writeFrom_eq (style : Placeholders) : ∀ (counter : Nat) (t : Text),
    writeFrom style counter t =
      (numberedFrom style (counter + 1) (tokens t), params t, counter + (params t).length)
  | counter, [] => by simp [writeFrom, tokens, params, numberedFrom]
  | counter, .text s :: rest => by
    rw [writeFrom, writeFrom_eq style counter rest]
    simp [tokens, params, numberedFrom, List.filterMap_cons]
  | counter, .param v :: rest => by
    rw [writeFrom, writeFrom_eq style (counter + 1) rest]
    simp [tokens, params, numberedFrom]
    omega
  | counter, .fragment body :: rest => by
    -- the counter carried back from the body is where the rest starts numbering
    rw [writeFrom, writeFrom_eq style counter body]
    dsimp only
    rw [writeFrom_eq style _ rest]
    have shift : counter + (params body).length + 1 = counter + 1 + (params body).length := by
      omega
    rw [shift]
    simp [tokens, params, numberedFrom_append, Nat.add_assoc]

theorem render_eq_numbered (style : Placeholders) (t : Text) :
    render style t = ⟨numberedFrom style 1 (tokens t), params t⟩ := by
  simp [render, writeFrom_eq]

example :
    render .numbered [.param .null, .fragment [.text " AND ", .param .null], .text ";"] =
      ⟨"$1 AND $2;", [.null, .null]⟩ := by
  cbv

/-! ## The values of the writer's combinators -/

@[simp] theorem params_nil : params [] = [] := by simp [params, tokens]

@[simp] theorem params_lit (s : String) : params (lit s) = [] := by
  simp [params, tokens, lit, List.filterMap_cons]

@[simp] theorem params_cons_text (s : String) (rest : Text) :
    params (.text s :: rest) = params rest := by
  simp [params, tokens, List.filterMap_cons]

@[simp] theorem params_cons_param (v : Value) (rest : Text) :
    params (.param v :: rest) = v :: params rest := by
  simp [params, tokens]

@[simp] theorem params_cons_fragment (body rest : Text) :
    params (.fragment body :: rest) = params body ++ params rest := by
  simp [params, tokens]

@[simp] theorem params_append (first second : Text) :
    params (first ++ second) = params first ++ params second := by
  induction first with
  | nil => simp
  | cons piece rest ih =>
    cases piece with
    | text s => simpa using ih
    | param v => simpa using ih
    | fragment body => simp [ih]

theorem params_separatedBy_go (sep : String) (previous : Text) (items : List Text) :
    params (separatedBy.go sep previous items) = (items.map params).flatten := by
  induction items generalizing previous with
  | nil => simp [separatedBy.go]
  | cons item rest ih =>
    rw [separatedBy.go, params_append, ih]
    split <;> simp

/-- A separator binds nothing: the items' values, in order. -/
@[simp] theorem params_separatedBy (sep : String) (items : List Text) :
    params (separatedBy sep items) = (items.map params).flatten := by
  cases items with
  | nil => simp [separatedBy]
  | cons first rest => simp [separatedBy, params_separatedBy_go]

end Sql

end RelMap
