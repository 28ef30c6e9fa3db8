import Mathlib
import ExprSql.Numeric.Sized

namespace ExprSql.Sized

variable {k : IntKind} {n : Int}

theorem wrap_of_holds (holds : k.Holds n) : wrap k n = ⟨n, holds⟩ := by
  apply Subtype.ext
  change reduce k n = n
  cases k <;> simp [IntKind.Holds, IntKind.min, IntKind.max, IntKind.signed, IntKind.width,
    reduce, Int.bmod_def] at holds ⊢ <;> omega

theorem fit_of_holds (holds : k.Holds n) : fit? k n = some ⟨n, holds⟩ := by
  simp [fit?, holds]

theorem fit_outside (outside : ¬ k.Holds n) : fit? k n = none := by
  simp [fit?, outside]

theorem fit_val {m : Sized k} (fits : fit? k n = some m) : m.val = n := by
  by_cases holds : k.Holds n
  · rw [fit_of_holds holds] at fits
    cases fits
    rfl
  · rw [fit_outside holds] at fits
    cases fits

theorem holds_of_fit {m : Sized k} (fits : fit? k n = some m) : k.Holds n :=
  fit_val fits ▸ m.property

theorem wrap_of_fit {m : Sized k} (fits : fit? k n = some m) : wrap k n = m := by
  rw [wrap_of_holds (holds_of_fit fits)]
  exact Subtype.ext (fit_val fits).symm

theorem wrap_congruent (k : IntKind) (n : Int) : (wrap k n).val ≡ n [ZMOD 2 ^ k.width] := by
  unfold Int.ModEq
  change reduce k n % 2 ^ k.width = n % 2 ^ k.width
  unfold reduce
  split
  · exact Int.bmod_emod
  · exact Int.emod_emod_of_dvd n (dvd_refl _)

end ExprSql.Sized
