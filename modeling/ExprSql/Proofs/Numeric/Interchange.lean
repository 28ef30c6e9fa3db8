import Mathlib
import ExprSql.Proofs.Numeric.Binary

/-!
The interchange format of binary floating point: a sign, a biased exponent and a fraction. What the
bits of a number denote by their place value is its whole count of units over the units of one.
-/
namespace ExprSql

def towardZero (q : ℚ) : Int := if 0 ≤ q then ⌊q⌋ else ⌈q⌉

theorem towardZero_neg {q : ℚ} (positive : 0 ≤ q) : towardZero (-q) = -⌊q⌋ := by
  unfold towardZero
  split
  · have zero : q = 0 := by linarith
    simp [zero]
  · exact Int.ceil_neg

namespace FloatKind

def bias (w : FloatKind) : Nat := 2 ^ (w.exponentBits - 1) - 1

/-- The number with this sign, exponent and fraction. The largest exponent is kept for the
infinities and for what is no number; the least one is that of the numbers without a hidden bit. -/
def placed? (w : FloatKind) (negative : Bool) (exponent fraction : Nat) : Option ℚ :=
  let sign : ℚ := if negative then -1 else 1
  let part : ℚ := fraction / 2 ^ (w.precision - 1)
  if exponent = 2 ^ w.exponentBits - 1 then none
  else if exponent = 0 then some (sign * part * (2 : ℚ) ^ ((1 : Int) - w.bias))
  else some (sign * (1 + part) * (2 : ℚ) ^ ((exponent : Int) - w.bias))

/-- The number that interchange bits denote. -/
def denoted? (w : FloatKind) (bits : Nat) : Option ℚ :=
  let hidden := 2 ^ (w.precision - 1)
  w.placed? (bits.testBit (w.width - 1)) (bits / hidden % 2 ^ w.exponentBits) (bits % hidden)

variable {w : FloatKind} {u : Nat}

theorem one_placed (w : FloatKind) : w.one = 2 ^ (w.precision - 1) * 2 ^ (w.bias - 1) := by
  rw [← Nat.pow_add]
  cases w with
  | f32 =>
    have places : precision .f32 - 1 + (bias .f32 - 1) = 149 := by decide
    rw [places, one]
  | f64 =>
    have places : precision .f64 - 1 + (bias .f64 - 1) = 1074 := by decide
    rw [places, one]

theorem scale (w : FloatKind) (e : Nat) :
    (2 : ℚ) ^ (((e + 1 : Nat) : Int) - w.bias) = 2 ^ e / 2 ^ (w.bias - 1) := by
  have positive : 1 ≤ w.bias := by cases w <;> decide
  have shifted : ((e + 1 : Nat) : Int) - w.bias = (e : Int) - (w.bias - 1 : Nat) := by omega
  rw [shifted, zpow_sub₀ two_ne_zero, zpow_natCast, zpow_natCast]

theorem significand_fills (large : 2 ^ (w.precision - 1) ≤ u) :
    2 ^ (w.precision - 1) ≤ u / 2 ^ w.excess u ∧ u / 2 ^ w.excess u < 2 ^ w.precision := by
  have digits : 0 < w.precision := by cases w <;> decide
  have nonzero : u ≠ 0 := Nat.ne_of_gt (Nat.lt_of_lt_of_le (Nat.two_pow_pos _) large)
  have long : w.precision - 1 ≤ u.log2 := (Nat.le_log2 nonzero).2 large
  have least : 2 ^ (w.precision - 1 + w.excess u) ≤ u := by
    rw [← Nat.le_log2 nonzero, excess]
    omega
  have greatest : u < 2 ^ (w.precision + w.excess u) := by
    rw [← Nat.log2_lt nonzero, excess]
    omega
  rw [Nat.pow_add] at least greatest
  exact ⟨(Nat.le_div_iff_mul_le (Nat.two_pow_pos _)).2 least,
    (Nat.div_lt_iff_lt_mul (Nat.two_pow_pos _)).2 greatest⟩

theorem excess_bounded (held : w.Holds u) : w.excess u + 1 < 2 ^ w.exponentBits - 1 := by
  have size : w.largest < 2 ^ (w.precision + (2 ^ w.exponentBits - 3)) := by
    rw [Nat.pow_add]
    exact Nat.mul_lt_mul_of_pos_right (Nat.sub_lt (Nat.two_pow_pos _) Nat.one_pos)
      (Nat.two_pow_pos _)
  have wide : 3 < 2 ^ w.exponentBits := by cases w <;> decide
  by_cases zero : u = 0
  · have digits : 0 < w.precision := by cases w <;> decide
    rw [excess, zero, Nat.log2_zero]
    omega
  · have bounded := (Nat.log2_lt zero).2 (Nat.lt_of_le_of_lt held.1 size)
    rw [excess]
    omega

end FloatKind

namespace Binary

variable {w : FloatKind} {s : Bool} {u : Nat}

theorem denoted_encode (s : Bool) {exponent fraction : Nat} (small : exponent < 2 ^ w.exponentBits)
    (low : fraction < 2 ^ (w.precision - 1)) :
    w.denoted? (toBits.encode (w := w) s exponent fraction) = w.placed? s exponent fraction := by
  have fields : let bits := toBits.encode (w := w) s exponent fraction
      bits % 2 ^ (w.precision - 1) = fraction ∧
        bits / 2 ^ (w.precision - 1) % 2 ^ w.exponentBits = exponent ∧
        bits.testBit (w.width - 1) = s := by
    simp only [toBits.encode, Nat.testBit_eq_decide_div_mod_eq]
    cases w <;> cases s <;>
      simp [FloatKind.exponentBits, FloatKind.precision, FloatKind.width] at small low ⊢ <;> omega
  obtain ⟨isFraction, isExponent, isSign⟩ := fields
  simp only [FloatKind.denoted?, isFraction, isExponent, isSign]

def rational? : Binary w → Option ℚ
  | .finite s u _ => some ((signed s u : ℚ) / w.one)
  | _ => none

theorem cast_signed (s : Bool) (u : Nat) :
    ((signed s u : Int) : ℚ) = (if s then -1 else 1) * u := by
  cases s <;> simp [signed]

theorem placed_small (s : Bool) (u : Nat) : w.placed? s 0 u = some ((signed s u : ℚ) / w.one) := by
  have special : (0 : Nat) ≠ 2 ^ w.exponentBits - 1 := by cases w <;> decide
  have scaled : (2 : ℚ) ^ ((1 : Int) - w.bias) = 1 / 2 ^ (w.bias - 1) := by
    simpa using w.scale 0
  simp only [FloatKind.placed?, if_neg special, if_true, scaled, cast_signed, w.one_placed]
  push_cast
  rw [Option.some.injEq]
  field_simp

theorem placed_large (s : Bool) {m e : Nat} (finite : e + 1 < 2 ^ w.exponentBits - 1)
    (filled : 2 ^ (w.precision - 1) ≤ m) :
    w.placed? s (e + 1) (m - 2 ^ (w.precision - 1))
      = some ((signed s (m * 2 ^ e) : ℚ) / w.one) := by
  simp only [FloatKind.placed?, if_neg (Nat.ne_of_lt finite), if_neg (Nat.succ_ne_zero e), w.scale,
    cast_signed, w.one_placed]
  push_cast [filled]
  rw [Option.some.injEq]
  field_simp
  ring

theorem denoted_toBits (x : Binary w) : w.denoted? x.toBits = x.rational? := by
  have special : 2 ^ w.exponentBits - 1 < 2 ^ w.exponentBits :=
    Nat.sub_lt (Nat.two_pow_pos _) Nat.one_pos
  cases x with
  | nan =>
    have encoded : toBits (nan (w := w))
        = toBits.encode (w := w) false (2 ^ w.exponentBits - 1) (2 ^ (w.precision - 2)) := by
      simp [toBits, toBits.encode]
    rw [encoded, denoted_encode false special (by cases w <;> decide), FloatKind.placed?, if_pos rfl]
    rfl
  | infinity s =>
    rw [toBits, denoted_encode s special (Nat.two_pow_pos _), FloatKind.placed?, if_pos rfl]
    rfl
  | finite s u held =>
    have finite := FloatKind.excess_bounded held
    rw [rational?, toBits]
    by_cases small : u < 2 ^ (w.precision - 1)
    · simp only [if_pos small]
      rw [denoted_encode s (Nat.two_pow_pos _) small, placed_small]
    · obtain ⟨least, greatest⟩ := FloatKind.significand_fills (Nat.le_of_not_lt small)
      have whole : u / 2 ^ w.excess u * 2 ^ w.excess u = u :=
        Nat.div_mul_cancel (Nat.dvd_of_mod_eq_zero held.2)
      have digits : 2 ^ w.precision = 2 * 2 ^ (w.precision - 1) := by cases w <;> rfl
      simp only [if_neg small, significand]
      rw [denoted_encode s (by omega) (by omega), placed_large s finite least, whole]

theorem towardZero_signed (s : Bool) (u one : Nat) :
    towardZero ((signed s u : ℚ) / one) = signed s (u / one) := by
  have floor : ⌊(u : ℚ) / one⌋ = ((u / one : Nat) : Int) := by
    exact_mod_cast Rat.floor_natCast_div_natCast u one
  have positive : (0 : ℚ) ≤ u / one := by positivity
  rw [cast_signed]
  cases s with
  | false =>
    simp only [Bool.false_eq_true, if_false, one_mul]
    rw [towardZero, if_pos positive, floor]
    rfl
  | true =>
    simp only [if_true, neg_one_mul, neg_div]
    rw [towardZero_neg positive, floor]
    rfl

theorem trunc_eq_denoted (x : Binary w) : x.trunc? = (w.denoted? x.toBits).map towardZero := by
  rw [denoted_toBits]
  cases x with
  | finite s u held => rw [trunc?, rational?, Option.map_some, towardZero_signed]
  | _ => rfl

end Binary
end ExprSql
