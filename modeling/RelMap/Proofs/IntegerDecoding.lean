import RelMap.Proofs.MapperRoundTrip
import Mathlib.Data.Rat.Cast.Lemmas
import Mathlib.Tactic.FieldSimp
import Mathlib.Tactic.Linarith

/-!
# Reading integers back from native values

An integer type reads a native value by its number. Every integer value, of any width and either
signedness, is widened to its exact number and narrowed to the type, which succeeds exactly when
the number lies in the type's range `intRange`. A decimal is read the same way when its value is
an integer. A decimal with a fraction, any other kind of value and every typed NULL are refused.

The range is exactly the set of numbers the type's data hold, so narrowing gives back the datum
of the number and loses nothing; reading the value written for a datum gives the datum. `bool`
reads an integer as whether it is nonzero.
-/

namespace RelMap

set_option autoImplicit false

/-! ## Decimals with an integer value -/

namespace Decimal

theorem toRat_eq (x : Decimal) :
    x.toRat =
      (if x.negative then -1 else 1) * ((x.mantissa : Rat) / ((10 ^ x.scale : Nat) : Rat)) := by
  unfold toRat
  split <;> simp

theorem toRat_of_dvd {x : Decimal} (divides : 10 ^ x.scale ∣ x.mantissa) :
    x.toRat = x.truncate := by
  obtain ⟨k, hk⟩ := divides
  have positive : 0 < 10 ^ x.scale := Nat.pow_pos (by decide)
  have whole : x.mantissa / 10 ^ x.scale = k := by
    rw [hk]
    exact Nat.mul_div_cancel_left k positive
  have ratio : (x.mantissa : Rat) / ((10 ^ x.scale : Nat) : Rat) = k := by
    have : ((10 ^ x.scale : Nat) : Rat) ≠ 0 := by exact_mod_cast positive.ne'
    rw [hk, Nat.cast_mul]
    field_simp
  unfold toRat truncate
  rw [Nat.pow_eq, whole, ratio]
  split <;> simp

/-- The value of an integral decimal is its truncation. -/
theorem toRat_eq_truncate {x : Decimal} (integral : x.isInteger = true) : x.toRat = x.truncate :=
  toRat_of_dvd (Nat.dvd_of_mod_eq_zero (by simpa [isInteger] using integral))

/-- A decimal is integral exactly when its value is an integer. -/
theorem isInteger_iff (x : Decimal) : x.isInteger = true ↔ ∃ n : Int, x.toRat = n := by
  constructor
  · intro integral
    exact ⟨x.truncate, toRat_eq_truncate integral⟩
  · rintro ⟨n, valued⟩
    have positive : ((10 ^ x.scale : Nat) : Rat) ≠ 0 := by
      exact_mod_cast (Nat.pow_pos (by decide : 0 < 10)).ne'
    -- the mantissa is the value times `10 ^ scale`, up to the sign
    have scaled : ((x.mantissa : Int) : Rat) =
        (((if x.negative then -n else n) * ((10 ^ x.scale : Nat) : Int) : Int) : Rat) := by
      rw [toRat_eq] at valued
      push_cast
      cases sign : x.negative <;>
        simp only [sign, if_true, Bool.false_eq_true, if_false] at valued ⊢ <;>
        field_simp at valued <;> push_cast at valued <;> linarith
    have divides : ((10 ^ x.scale : Nat) : Int) ∣ (x.mantissa : Int) :=
      ⟨_, by rw [Int.cast_inj.mp scaled, Int.mul_comm]⟩
    simpa [isInteger, Nat.dvd_iff_mod_eq_zero] using Int.natCast_dvd_natCast.mp divides

end Decimal

/-- The number a datum of an integer type holds. -/
def Datum.integer? (d : Datum) : Option Int := d.toValue?.bind Value.integer?

/-! ## Each integer type -/

namespace Primitive

variable {p : Primitive} {lo hi : Int}

theorem decode_integer (bounds : p.intRange = some (lo, hi)) {v : Value} {n : Int}
    (integer : v.integer? = some n) :
    p.decode v =
      if lo ≤ n ∧ n ≤ hi then .ok (p.intDatum n) else Outcome.fail (.outOfRange n p.name) := by
  unfold decode
  rw [bounds]
  simp only [decodeInteger, integer]

theorem decode_decimal (bounds : p.intRange = some (lo, hi)) (x : Decimal) :
    p.decode (.decimal (some x)) =
      if x.isInteger then
        (if lo ≤ x.truncate ∧ x.truncate ≤ hi then .ok (p.intDatum x.truncate)
          else Outcome.fail (.outOfRange x.truncate p.name))
      else .error ⟨[.notInteger], .decimalFit x.toText p.name⟩ := by
  unfold decode
  rw [bounds]
  rfl

theorem decode_refuses (bounds : p.intRange = some (lo, hi)) {v : Value}
    (noInteger : v.integer? = none) (noDecimal : ∀ x, v ≠ .decimal (some x)) :
    p.decode v = p.refuse v := by
  unfold decode
  rw [bounds]
  -- the remaining match on `v` is closed by `noDecimal`
  simp only [decodeInteger, noInteger]

/-- Each number of the range is held by the datum `intDatum` makes of it. -/
theorem intDatum_holds (bounds : p.intRange = some (lo, hi)) {n : Int} (low : lo ≤ n)
    (high : n ≤ hi) : (p.intDatum n).type? = some p.type ∧ (p.intDatum n).integer? = some n := by
  cases p <;> simp only [intRange, reduceCtorEq, Option.some.injEq, Prod.mk.injEq] at bounds
  all_goals obtain ⟨rfl, rfl⟩ := bounds
  all_goals refine ⟨rfl, ?_⟩
  all_goals simp only [intDatum, Datum.integer?, Datum.toValue?, Option.bind_some,
    Value.integer?, Option.some.injEq]
  case i8 => exact Int8.toInt_ofInt_of_le (by omega) (by omega)
  case i16 => exact Int16.toInt_ofInt_of_le (by omega) (by omega)
  case i32 => exact Int32.toInt_ofInt_of_le (by omega) (by omega)
  case i64 => exact Int64.toInt_ofInt_of_le (by omega) (by omega)
  -- an unsigned number is its own `toNat`, below the word's size
  case u8 => rw [UInt8.toNat_ofNat_of_lt' (by simp [UInt8.size]; omega)]; omega
  case u16 => rw [UInt16.toNat_ofNat_of_lt' (by simp [UInt16.size]; omega)]; omega
  case u32 => rw [UInt32.toNat_ofNat_of_lt' (by simp [UInt32.size]; omega)]; omega
  case u64 => rw [UInt64.toNat_ofNat_of_lt' (by simp [UInt64.size]; omega)]; omega

/-- Every datum of an integer type holds a number of the type's range. -/
theorem holds_in_range (bounds : p.intRange = some (lo, hi)) {d : Datum}
    (typed : d.type? = some p.type) : ∃ n, d.integer? = some n ∧ lo ≤ n ∧ n ≤ hi := by
  cases p <;> simp only [intRange, reduceCtorEq, Option.some.injEq, Prod.mk.injEq] at bounds
  all_goals obtain ⟨rfl, rfl⟩ := bounds
  all_goals cases d <;> simp [Datum.type?, type] at typed
  all_goals simp only [Datum.integer?, Datum.toValue?, Option.bind_some, Value.integer?,
    Option.some.injEq, exists_eq_left']
  case i8.i8 n | i16.i16 n | i32.i32 n | i64.i64 n =>
    exact ⟨n.le_toInt, by have := n.toInt_lt; omega⟩
  case u8.u8 n | u16.u16 n | u32.u32 n | u64.u64 n =>
    exact ⟨by omega, by have := n.toNat_lt; omega⟩

/-- `bool` reads an integer value of any width as whether its number is nonzero. -/
theorem decode_bool_of_integer {v : Value} {n : Int} (integer : v.integer? = some n) :
    Primitive.bool.decode v = .ok (.bool (n != 0)) := by
  -- only the eight integer widths have a number; each reads its own payload
  cases v
  case int8 payload | int16 payload | int32 payload | int64 payload | uint8 payload
    | uint16 payload | uint32 payload | uint64 payload =>
    cases payload with
    | none => simp [Value.integer?] at integer
    | some k =>
      simp only [Value.integer?, Option.some.injEq] at integer
      subst integer
      rfl
  all_goals simp [Value.integer?] at integer

/-- What reading the integer type `p` of range `lo ..= hi` does with every native value. -/
structure ReadsIntegers (p : Primitive) (lo hi : Int) : Prop where
  /-- The range holds the number of every datum of the type... -/
  typed_in_range : ∀ d : Datum, d.type? = some p.type → ∃ n, d.integer? = some n ∧ lo ≤ n ∧ n ≤ hi
  /-- ...and each of its numbers is held by the datum `intDatum` makes of it. -/
  range_held : ∀ n, lo ≤ n → n ≤ hi →
    (p.intDatum n).type? = some p.type ∧ (p.intDatum n).integer? = some n
  /-- An integer value of any width reads as its number exactly when that number is in range. -/
  integer : ∀ (v : Value) n d, v.integer? = some n →
    (p.decode v = .ok d ↔ lo ≤ n ∧ n ≤ hi ∧ d = p.intDatum n)
  /-- A decimal reads as its value exactly when that value is an integer in range. -/
  decimal : ∀ x d, p.decode (.decimal (some x)) = .ok d ↔
    ∃ n : Int, x.toRat = n ∧ lo ≤ n ∧ n ≤ hi ∧ d = p.intDatum n
  /-- Any other value, every typed NULL included, is refused. -/
  refuses : ∀ v : Value, v.integer? = none → (∀ x, v ≠ .decimal (some x)) →
    ∃ e, p.decode v = .error e
  /-- The value written for a datum of the type reads back as that datum. -/
  round_trip : ∀ d : Datum, d.type? = some p.type → ∃ v, p.encode d = .ok v ∧ p.decode v = .ok d

/-- Narrowing a number to the type succeeds exactly in range, with the datum of the number. -/
theorem narrow_eq_ok_iff {n : Int} {d : Datum} :
    (if lo ≤ n ∧ n ≤ hi then .ok (p.intDatum n) else Outcome.fail (.outOfRange n p.name)) =
        .ok d ↔ lo ≤ n ∧ n ≤ hi ∧ d = p.intDatum n := by
  by_cases range : lo ≤ n ∧ n ≤ hi
  · simp [range, eq_comm]
  · rw [if_neg range]
    exact ⟨fun failed => by simp [Outcome.fail] at failed,
      fun ⟨low, high, _⟩ => absurd ⟨low, high⟩ range⟩

theorem decode_integer_eq_ok_iff (bounds : p.intRange = some (lo, hi)) {v : Value} {n : Int}
    (integer : v.integer? = some n) (d : Datum) :
    p.decode v = .ok d ↔ lo ≤ n ∧ n ≤ hi ∧ d = p.intDatum n := by
  rw [decode_integer bounds integer]
  exact narrow_eq_ok_iff

theorem decode_decimal_eq_ok_iff (bounds : p.intRange = some (lo, hi)) (x : Decimal) (d : Datum) :
    p.decode (.decimal (some x)) = .ok d ↔
      ∃ n : Int, x.toRat = n ∧ lo ≤ n ∧ n ≤ hi ∧ d = p.intDatum n := by
  rw [decode_decimal bounds]
  by_cases integral : x.isInteger = true
  · -- an integral decimal is narrowed as its truncation, which is its value
    have valued := Decimal.toRat_eq_truncate integral
    rw [if_pos integral, narrow_eq_ok_iff]
    constructor
    · rintro ⟨low, high, rfl⟩
      exact ⟨x.truncate, valued, low, high, rfl⟩
    · rintro ⟨n, value, low, high, rfl⟩
      have truncated : x.truncate = n := by exact_mod_cast valued.symm.trans value
      exact ⟨truncated ▸ low, truncated ▸ high, by rw [truncated]⟩
  · rw [if_neg integral]
    refine ⟨fun failed => (nomatch failed), fun ⟨n, value, _⟩ => ?_⟩
    exact absurd ((Decimal.isInteger_iff x).mpr ⟨n, value⟩) integral

end Primitive

/-- Reading an integer type widens every integer value, of any width, to its exact number and
narrows it with a range check against the type's range, which is exactly the set of numbers the
type's data hold; an integral decimal is read by its value the same way, and every other value,
typed NULLs included, is refused. The value written for a datum reads back as the datum. `bool`
reads an integer as whether it is nonzero. -/
theorem integer_reading_widens_exactly {p : Primitive} {lo hi : Int}
    (bounds : p.intRange = some (lo, hi)) :
    p.ReadsIntegers lo hi ∧
      ∀ (v : Value) n, v.integer? = some n → Primitive.bool.decode v = .ok (.bool (n != 0)) := by
  refine ⟨⟨fun _ typed => Primitive.holds_in_range bounds typed,
    fun _ low high => Primitive.intDatum_holds bounds low high,
    fun _ _ d integer => Primitive.decode_integer_eq_ok_iff bounds integer d,
    Primitive.decode_decimal_eq_ok_iff bounds,
    fun _ noInteger noDecimal => ⟨_, Primitive.decode_refuses bounds noInteger noDecimal⟩,
    fun d typed => ?_⟩, fun _ _ integer => Primitive.decode_bool_of_integer integer⟩
  obtain ⟨v, encoded, -, -, decoded⟩ := p.round_trip typed
  exact ⟨v, encoded, decoded⟩

theorem u64_reads_integers :
    Primitive.u64.intRange = some (0, 2 ^ 64 - 1) ∧
      (Primitive.u64.ReadsIntegers 0 (2 ^ 64 - 1) ∧
        ∀ (v : Value) n, v.integer? = some n → Primitive.bool.decode v = .ok (.bool (n != 0))) :=
  ⟨rfl, integer_reading_widens_exactly rfl⟩

end RelMap
