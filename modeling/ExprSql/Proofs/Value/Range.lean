import ExprSql.Proofs.Numeric.Binary
import ExprSql.Proofs.Numeric.Sized
import ExprSql.Value.Cast

/-!
The range test of checked casts from floating point. Its bounds are floats: the greatest integers of
64 bits are rounded up to a power of two, and one more than that is rounded down to it again.
-/
namespace ExprSql

theorem Binary.within_ranked {w : FloatKind} {x low limit : Binary w} {r a b : Int}
    (ranked : x.rank? = some r) (least : low.rank? = some a) (stop : limit.rank? = some b) :
    x.within low limit = true ↔ a ≤ r ∧ r < b := by
  simp [within, compare?, ranked, least, stop, compare_lt_iff_lt, Ordering.isGE_iff_ne_lt]

namespace Value

open Binary

variable {k : IntKind} {x : Binary .f64} {r n : Int}

/-- Both bounds are where they belong, also where the greatest integer itself is rounded up. -/
theorem bounds_ranked (k : IntKind) :
    (ofInt .f64 k.min).rank? = some (k.min * FloatKind.one .f64) ∧
      ((ofInt .f64 k.max).add (ofInt .f64 1)).rank? = some ((k.max + 1) * FloatKind.one .f64) := by
  cases k <;> decide +kernel

theorem inRange_ranked (ranked : x.rank? = some r) : inRange k x = true ↔
    k.min * FloatKind.one .f64 ≤ r ∧ r < (k.max + 1) * FloatKind.one .f64 := by
  obtain ⟨least, limit⟩ := bounds_ranked k
  exact within_ranked ranked least limit

theorem inRange_unranked (unranked : x.rank? = none) : inRange k x = false := by
  simp [inRange, within, compare?, unranked]

theorem inRange_infinity (negative : Bool) : inRange k (.infinity negative) = false := by
  have room := FloatKind.integers_bounded .f64
  have least : -(2 ^ 64) ≤ k.min := by cases k <;> decide
  have greatest : k.max + 1 ≤ 2 ^ 64 := by cases k <;> decide
  have low : -(FloatKind.largest .f64 : Int) ≤ k.min * FloatKind.one .f64 := by
    have scaled := Int.mul_le_mul_of_nonneg_right least (Int.natCast_nonneg (FloatKind.one .f64))
    omega
  have high : (k.max + 1) * FloatKind.one .f64 ≤ (FloatKind.largest .f64 : Int) := by
    have scaled := Int.mul_le_mul_of_nonneg_right greatest (Int.natCast_nonneg (FloatKind.one .f64))
    omega
  rw [Bool.eq_false_iff, ne_eq, inRange_ranked rfl]
  generalize FloatKind.largest .f64 = largest at low high ⊢
  cases negative <;> simp only [signed] <;> omega

theorem inRange_whole (ranked : x.rank? = some (n * FloatKind.one .f64)) :
    inRange k x = true ↔ k.Holds n := by
  have positive : (0 : Int) < FloatKind.one .f64 := by exact_mod_cast FloatKind.one_pos .f64
  rw [inRange_ranked ranked, Int.mul_le_mul_right positive, Int.mul_lt_mul_right positive,
    Int.lt_add_one_iff]
  rfl

section
variable (negative : Bool) {units : Nat} (held : FloatKind.Holds .f64 units)

theorem signed_mul (a b : Nat) : signed negative (a * b) = signed negative a * b := by
  cases negative <;> simp [signed]

theorem rank_truncate : (Binary.finite negative units held).truncate.rank?
      = some (signed negative (units / FloatKind.one .f64) * FloatKind.one .f64) := by
  rw [truncate_finite, rank?, signed_mul]

theorem trunc_truncate : (Binary.finite negative units held).truncate.trunc?
      = some (signed negative (units / FloatKind.one .f64)) := by
  rw [truncate_finite, trunc?, Nat.mul_div_cancel _ (FloatKind.one_pos .f64)]

end

theorem toSized_real (k : IntKind) (x : Binary .f64) : (Source.real x).toSized k true
    = (x.trunc?.bind (Sized.fit? k)).elim (.error .overflow) .ok := by
  cases x with
  | nan =>
    have outside : inRange k (truncate nan) = false := inRange_unranked rfl
    simp [Source.toSized, outside, trunc?]
  | infinity negative =>
    have outside : inRange k (truncate (infinity negative)) = false := inRange_infinity negative
    simp [Source.toSized, outside, trunc?]
  | finite negative units held =>
    have range := inRange_whole (k := k) (rank_truncate negative held)
    have part := trunc_truncate negative held
    rw [trunc?, Option.bind_some]
    generalize signed negative (units / FloatKind.one .f64) = n at range part ⊢
    by_cases holds : k.Holds n
    · simp [Source.toSized, range.2 holds, part, Sized.fit_of_holds holds,
        Sized.wrap_of_holds holds]
    · have outside := mt range.1 holds
      simp [Source.toSized, outside, Sized.fit_outside holds]

end Value
end ExprSql
