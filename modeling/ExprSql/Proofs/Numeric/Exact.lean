import ExprSql.Proofs.Numeric.Sized
import ExprSql.Value.Operators

namespace ExprSql

namespace IntKind

theorem min_signed {k : IntKind} (signed : k.signed = true) : k.min = -(k.max + 1) := by
  cases k with
  | i8 | i16 | i32 | i64 => rfl
  | _ => cases signed

theorem min_unsigned {k : IntKind} (unsigned : k.signed = false) : k.min = 0 := by
  cases k with
  | u8 | u16 | u32 | u64 => rfl
  | _ => cases unsigned

theorem max_pos (k : IntKind) : 0 < k.max := by cases k <;> decide

variable {k : IntKind} {a b : Int}

/-- Negating the least number is all that takes a quotient out of its kind. -/
theorem tdiv_holds_iff (dividend : k.Holds a) (divisor : k.Holds b) :
    k.Holds (a.tdiv b) ↔ ¬ (k.signed = true ∧ a = k.min ∧ b = -1) := by
  have positive := k.max_pos
  have size := Int.natAbs_tdiv a b
  unfold Holds at *
  by_cases signed : k.signed = true
  · rw [min_signed signed] at *
    by_cases unit : b.natAbs ≤ 1
    · have units : b = -1 ∨ b = 0 ∨ b = 1 := by omega
      rcases units with rfl | rfl | rfl
      · rw [Int.tdiv_neg, Int.tdiv_one]
        simp only [signed, true_and, and_true]
        omega
      · rw [Int.tdiv_zero]
        omega
      · rw [Int.tdiv_one]
        omega
    · have halved : a.natAbs / b.natAbs ≤ a.natAbs / 2 :=
        Nat.div_le_div_left (by omega) (by decide)
      change _ = a.natAbs / b.natAbs at size
      omega
  · rw [min_unsigned (by simpa using signed)] at *
    have natural := Int.tdiv_nonneg dividend.1 divisor.1
    have smaller : a.natAbs / b.natAbs ≤ a.natAbs := Nat.div_le_self _ _
    change _ = a.natAbs / b.natAbs at size
    omega

theorem tmod_holds (dividend : k.Holds a) : k.Holds (a.tmod b) := by
  have size : (a.tmod b).natAbs ≤ a.natAbs := by
    rw [Int.natAbs_tmod]
    exact Nat.mod_le _ _
  unfold Holds at *
  have positive := k.max_pos
  rcases Int.le_total 0 a with natural | negative
  · have := Int.tmod_nonneg b natural
    have least : k.min ≤ 0 := by cases k <;> decide
    omega
  · have opposite : 0 ≤ -(a.tmod b) := by
      rw [← Int.neg_tmod]
      exact Int.tmod_nonneg b (Int.neg_nonneg_of_nonpos negative)
    omega

end IntKind

namespace Sized

variable {k : IntKind} {n : Int}

theorem bits_ofBits (k : IntKind) (b : BitVec k.width) : (ofBits k b).bits = b := by
  apply BitVec.eq_of_toNat_eq
  have low : (ofBits k b).val % 2 ^ k.width = (b.toNat : Int) % 2 ^ k.width :=
    wrap_congruent k b.toNat
  have within : (b.toNat : Int) % 2 ^ k.width = b.toNat :=
    Int.emod_eq_of_lt (Int.natCast_nonneg _) (by exact_mod_cast b.isLt)
  rw [bits, BitVec.toNat_ofInt]
  push_cast
  rw [low, within, Int.toNat_natCast]

theorem settle_holds (holds : k.Holds n) : settle true n = .ok (⟨n, holds⟩ : Sized k) := by
  simp [settle, fit_of_holds holds]

theorem settle_outside (outside : ¬ k.Holds n) :
    (settle true n : Except Fault (Sized k)) = .error .overflow := by
  simp [settle, fit_outside outside]

end Sized

end ExprSql
