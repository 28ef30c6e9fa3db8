import ExprSql.Proofs.Numeric.Exact

/-!
Shifts of integers of a kind. The count is its residue modulo the width, however it was cut on the
way. A shift to the left multiplies by a power of two and keeps the low bits, one to the right
divides by it and rounds down.
-/
namespace ExprSql.Sized

variable {k : IntKind}

theorem width_power (k : IntKind) : ∃ j, k.width = 2 ^ j ∧ j ≤ 32 := by
  cases k with
  | i8 | u8 => exact ⟨3, rfl, by decide⟩
  | i16 | u16 => exact ⟨4, rfl, by decide⟩
  | i32 | u32 => exact ⟨5, rfl, by decide⟩
  | i64 | u64 => exact ⟨6, rfl, by decide⟩

theorem shiftCount_eq (k : IntKind) (n : Int) : (shiftCount k n : Int) = n % k.width := by
  have low : (wrap .u32 n).val = n % 2 ^ 32 := rfl
  have natural : 0 ≤ n % 2 ^ 32 := Int.emod_nonneg n (by decide)
  obtain ⟨j, width, short⟩ := width_power k
  have divides : (2 : Int) ^ j ∣ 2 ^ 32 := pow_dvd_pow 2 short
  rw [shiftCount, low, width, Nat.and_two_pow_sub_one_eq_mod, Int.natCast_mod,
    Int.toNat_of_nonneg natural]
  push_cast
  exact Int.emod_emod_of_dvd n divides

theorem toNat_bits (a : Sized k) : (a.bits.toNat : Int) = a.val % 2 ^ k.width := by
  have natural : 0 ≤ a.val % 2 ^ k.width := Int.emod_nonneg _ (by positivity)
  rw [bits, BitVec.toNat_ofInt]
  exact Int.toNat_of_nonneg natural

theorem bits_congruent (a : Sized k) : (a.bits.toNat : Int) ≡ a.val [ZMOD 2 ^ k.width] := by
  rw [toNat_bits]
  exact Int.mod_modEq _ _

theorem reduce_val (a : Sized k) : reduce k a.val = a.val :=
  congrArg Subtype.val (wrap_of_holds a.property)

theorem toInt_bits (signed : k.signed = true) (a : Sized k) : a.bits.toInt = a.val := by
  have kept := reduce_val a
  rw [reduce, if_pos signed] at kept
  rw [bits, BitVec.toInt_ofInt]
  exact kept

theorem toNat_bits_unsigned (unsigned : k.signed = false) (a : Sized k) :
    (a.bits.toNat : Int) = a.val := by
  have kept := reduce_val a
  rw [reduce, if_neg (by simp [unsigned])] at kept
  rw [toNat_bits, kept]

theorem val_ofBits_signed (signed : k.signed = true) (b : BitVec k.width) :
    (ofBits k b).val = b.toInt := by
  rw [BitVec.toInt_eq_toNat_bmod]
  change reduce k b.toNat = _
  rw [reduce, if_pos signed]

theorem val_ofBits_unsigned (unsigned : k.signed = false) (b : BitVec k.width) :
    (ofBits k b).val = b.toNat := by
  change reduce k b.toNat = _
  rw [reduce, if_neg (by simp [unsigned])]
  exact Int.emod_eq_of_lt (Int.natCast_nonneg _) (by exact_mod_cast b.isLt)

variable (a : Sized k) (n : Int)

theorem shiftLeft_congruent :
    (a.shiftLeft n).val ≡ a.val * 2 ^ (n % k.width).toNat [ZMOD 2 ^ k.width] := by
  rw [← shiftCount_eq, Int.toNat_natCast, shiftLeft]
  generalize shiftCount k n = c
  have shifted : ((a.bits <<< c).toNat : Int) ≡ a.bits.toNat * 2 ^ c [ZMOD 2 ^ k.width] := by
    rw [BitVec.toNat_shiftLeft, Nat.shiftLeft_eq]
    push_cast
    exact Int.mod_modEq _ _
  calc (ofBits k (a.bits <<< c)).val
      ≡ (a.bits <<< c).toNat [ZMOD 2 ^ k.width] := wrap_congruent k _
    _ ≡ a.bits.toNat * 2 ^ c [ZMOD 2 ^ k.width] := shifted
    _ ≡ a.val * 2 ^ c [ZMOD 2 ^ k.width] := (bits_congruent a).mul_right _

theorem shiftRight_floor :
    (a.shiftRight n).val = ⌊(a.val : ℚ) / 2 ^ (n % k.width).toNat⌋ := by
  rw [← shiftCount_eq, Int.toNat_natCast, shiftRight]
  generalize shiftCount k n = c
  have floor : ⌊(a.val : ℚ) / 2 ^ c⌋ = a.val / 2 ^ c := by
    exact_mod_cast Rat.floor_intCast_div_natCast a.val (2 ^ c)
  rw [floor]
  cases signed : k.signed with
  | true =>
    rw [if_pos rfl, val_ofBits_signed signed, BitVec.toInt_sshiftRight, toInt_bits signed,
      Int.shiftRight_eq_div_pow]
    rfl
  | false =>
    rw [if_neg (by simp), val_ofBits_unsigned signed, BitVec.toNat_ushiftRight,
      Nat.shiftRight_eq_div_pow, Int.natCast_ediv, toNat_bits_unsigned signed]
    rfl

end ExprSql.Sized
