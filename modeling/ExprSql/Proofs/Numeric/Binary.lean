import Mathlib.Data.Nat.Log
import Mathlib.Tactic.Ring
import ExprSql.Numeric.Binary

namespace ExprSql

theorem halfEven_mul {n den : Nat} (positive : 0 < den) : halfEven (n * den) den = n := by
  rw [halfEven, Nat.mul_div_cancel n positive, Nat.mul_mod_left, if_pos (by omega)]

theorem log2_scaled (u k : Nat) : (u * 2 ^ k).log2 ≤ u.log2 + k := by
  by_cases zero : u = 0
  · simp [zero]
  · have positive := Nat.two_pow_pos k
    rw [← Nat.lt_succ_iff, Nat.log2_lt (Nat.mul_ne_zero zero positive.ne'), Nat.succ_eq_add_one,
      Nat.add_right_comm, Nat.pow_add]
    exact Nat.mul_lt_mul_of_pos_right Nat.lt_log2_self positive

theorem dvd_scaled {u d e k : Nat} (divides : 2 ^ d ∣ u) (bounded : e ≤ d + k) :
    2 ^ e ∣ u * 2 ^ k := by
  refine Nat.dvd_trans (Nat.pow_dvd_pow 2 bounded) ?_
  rw [Nat.pow_add]
  exact Nat.mul_dvd_mul_right divides _

namespace FloatKind

theorem one_power (w : FloatKind) : ∃ k, w.one = 2 ^ k := by
  cases w with
  | f32 => exact ⟨149, rfl⟩
  | f64 => exact ⟨1074, rfl⟩

theorem one_pos (w : FloatKind) : 0 < w.one := by
  obtain ⟨k, power⟩ := w.one_power
  rw [power]
  exact Nat.two_pow_pos k

theorem integers_bounded (w : FloatKind) : 2 ^ 64 * w.one ≤ w.largest := by
  have exponents : ∃ k, w.one = 2 ^ k ∧ 64 + k ≤ 2 ^ w.exponentBits - 3 := by
    cases w with
    | f32 => exact ⟨149, rfl, by decide⟩
    | f64 => exact ⟨1074, rfl, by decide⟩
  obtain ⟨k, power, small⟩ := exponents
  have digits : 1 < 2 ^ w.precision := by cases w <;> decide
  rw [power, ← Nat.pow_add, largest]
  exact Nat.le_trans (Nat.pow_le_pow_right Nat.two_pos small)
    (Nat.le_mul_of_pos_left _ (Nat.sub_pos_of_lt digits))

theorem excess_mono (w : FloatKind) {u v : Nat} (le : u ≤ v) : w.excess u ≤ w.excess v := by
  have size : u.log2 ≤ v.log2 := by
    rw [Nat.log2_eq_log_two, Nat.log2_eq_log_two]
    exact Nat.log_mono_right le
  simp only [excess]
  omega

theorem holds_whole {w : FloatKind} {u : Nat} (held : w.Holds u) :
    w.Holds (u / w.one * w.one) := by
  obtain ⟨bounded, divides⟩ := held
  have below : u / w.one * w.one ≤ u := Nat.div_mul_le_self u w.one
  refine ⟨Nat.le_trans below bounded, ?_⟩
  rw [← Nat.dvd_iff_mod_eq_zero] at divides ⊢
  refine Nat.dvd_trans (Nat.pow_dvd_pow 2 (w.excess_mono below)) ?_
  obtain ⟨k, power⟩ := w.one_power
  rw [power]
  -- the step of the kind divides one, or one divides the step and nothing is cut off
  rcases Nat.le_total (w.excess u) k with finer | coarser
  · exact Nat.dvd_trans (Nat.pow_dvd_pow 2 finer) (Nat.dvd_mul_left _ _)
  · rw [Nat.div_mul_cancel (Nat.dvd_trans (Nat.pow_dvd_pow 2 coarser) divides)]
    exact divides

theorem one_widened : one .f64 = 2 ^ 925 * one .f32 := by
  rw [one, one, ← Nat.pow_add]

theorem excess_widened (u : Nat) : excess .f64 (u * 2 ^ 925) ≤ excess .f32 u + 925 := by
  have size := log2_scaled u 925
  simp only [excess, precision]
  omega

theorem holds_widened {u : Nat} (held : Holds .f32 u) : Holds .f64 (u * 2 ^ 925) := by
  obtain ⟨bounded, divides⟩ := held
  constructor
  · have wider : largest .f32 * 2 ^ 925 ≤ largest .f64 := by
      have exponents : 2 ^ exponentBits .f32 - 3 + 925 ≤ 2 ^ exponentBits .f64 - 3 := by decide
      rw [largest, largest, Nat.mul_assoc, ← Nat.pow_add]
      exact Nat.mul_le_mul (by decide) (Nat.pow_le_pow_right Nat.two_pos exponents)
    exact Nat.le_trans (Nat.mul_le_mul_right _ bounded) wider
  · rw [← Nat.dvd_iff_mod_eq_zero] at divides ⊢
    exact dvd_scaled divides (excess_widened u)

end FloatKind

namespace Binary

variable {v w : FloatKind} {s : Bool} {u m den : Nat}

theorem nearestUnits_exact (held : w.Holds u) (positive : 0 < den) :
    nearestUnits w (u * den) den = u := by
  obtain ⟨q, split⟩ : 2 ^ w.excess u ∣ u := Nat.dvd_of_mod_eq_zero held.2
  have step : 0 < 2 ^ w.excess u := Nat.two_pow_pos _
  rw [nearestUnits, Nat.mul_div_cancel u positive]
  generalize 2 ^ w.excess u = p at split step
  subst split
  have regrouped : p * q * den = q * (den * p) := by ring
  rw [regrouped, halfEven_mul (Nat.mul_pos positive step), Nat.mul_comm]

theorem ofBinary_finite {held : v.Holds u} (kept : w.Holds m) (same : u * w.one = m * v.one) :
    ofBinary w (finite s u held) = finite s m kept := by
  simp only [ofBinary, ofRatio, ofUnits, same, nearestUnits_exact kept v.one_pos, dif_pos kept]

theorem ofBinary_self (x : Binary w) : ofBinary w x = x := by
  cases x with
  | finite s u held => exact ofBinary_finite held rfl
  | _ => rfl

theorem ofBinary_widened {held : FloatKind.Holds .f32 u} :
    ofBinary .f64 (finite s u held) = finite s (u * 2 ^ 925) (FloatKind.holds_widened held) :=
  ofBinary_finite _ (by rw [FloatKind.one_widened, Nat.mul_assoc])

theorem trunc_ofBinary (x : Binary w) : (ofBinary .f64 x).trunc? = x.trunc? := by
  cases w with
  | f64 => rw [ofBinary_self]
  | f32 =>
    cases x with
    | finite s u held =>
      rw [ofBinary_widened, trunc?, trunc?, FloatKind.one_widened, Nat.mul_comm u,
        Nat.mul_div_mul_left _ _ (Nat.two_pow_pos 925)]
    | _ => rfl

theorem truncate_finite {held : w.Holds u} : (finite s u held).truncate
    = finite s (u / w.one * w.one) (FloatKind.holds_whole held) := by
  rw [truncate, ofUnits, dif_pos]

theorem ofBinary_ofBinary (x : Binary w) : ofBinary w (ofBinary .f64 x) = x := by
  cases w with
  | f64 => rw [ofBinary_self, ofBinary_self]
  | f32 =>
    cases x with
    | finite s u held =>
      rw [ofBinary_widened]
      exact ofBinary_finite held (by rw [FloatKind.one_widened, Nat.mul_assoc])
    | _ => rfl

end Binary
end ExprSql
