import ExprSql.Proofs.Numeric.Interchange
import ExprSql.Proofs.Value.Cast
import ExprSql.Proofs.Value.Range

namespace ExprSql.Value

variable {v : Value} {t : DataType} {k : NumericKind} {i : IntKind} {x : Binary .f64} {n : Int}

theorem narrow_real (integral : k.integer? = some i) (whole : x.trunc? = some n) :
    (Source.real x).narrow true k = (Source.whole n).narrow true k := by
  have sized (j : IntKind) :
      (Source.real x).toSized j true = (Source.whole n).toSized j true := by
    rw [toSized_real, whole]
    rfl
  cases k with
  | int j => simp only [Source.narrow, sized]
  | float w => cases integral
  | char => simp only [Source.narrow, sized]

theorem narrow_endless (integral : k.integer? = some i) (endless : x.trunc? = none) :
    (Source.real x).narrow true k = .error .overflow := by
  have refused (j : IntKind) : (Source.real x).toSized j true = .error .overflow := by
    rw [toSized_real, endless]
    rfl
  cases k with
  | int j => simp only [Source.narrow, refused, Except.map]
  | float w => cases integral
  | char => simp only [Source.narrow, refused, bind, Except.bind]

theorem cast_float {w : FloatKind} (x : Binary w) (target : t.countedIn? = some k) :
    (Value.float w x).cast true t
      = ((Source.real (Binary.ofBinary .f64 x)).narrow true k).map t.named :=
  cast_counted target rfl

/-- The value that the bits of a number denote is truncated exactly, or the cast overflows. -/
theorem truncating_casts {w : FloatKind} (x : Binary w) (target : t.countedIn? = some k)
    (integral : k.integer? = some i) :
    (∀ q, w.denoted? x.toBits = some q → k.Admits (towardZero q) →
      ∃ v, (Value.float w x).cast true t = .ok v ∧ Counts t v (towardZero q)) ∧
    ((∀ q, w.denoted? x.toBits = some q → ¬ k.Admits (towardZero q)) →
      (Value.float w x).cast true t = .error .overflow) := by
  have part := x.trunc_ofBinary.trans x.trunc_eq_denoted
  rw [cast_float x target]
  cases denoted : w.denoted? x.toBits with
  | none =>
    rw [denoted] at part
    constructor
    · intro q same
      cases same
    · intro _
      rw [narrow_endless integral part]
      rfl
  | some q =>
    rw [denoted] at part
    rw [narrow_real integral part]
    constructor
    · intro q' same admitted
      cases same
      obtain ⟨u, narrowed, counts⟩ := narrow_admitted integral admitted
      refine ⟨t.named u, ?_, counts_named target counts⟩
      rw [narrowed]
      rfl
    · intro refused
      rw [narrow_refused integral (refused q rfl)]
      rfl

/-- A fraction past minus one has room among the unsigned bytes, the first float past the unsigned
64-bit integers has none there. -/
theorem ends_truncated :
    let x : Binary .f32 := .ofRatio .f32 true 3 4
    let t : DataType := .nullable (.enumeration "Level" (.int .u8))
    let y : Binary .f64 := .ofInt .f64 (2 ^ 64)
    t.countedIn? = some (.int .u8) ∧ NumericKind.integer? (.int .u8) = some .u8 ∧
      FloatKind.denoted? .f32 x.toBits = some (-3 / 4) ∧
      NumericKind.Admits (.int .u8) (towardZero (-3 / 4)) ∧
      (∃ v, (Value.float .f32 x).cast true t = .ok v ∧ Counts t v 0) ∧
      FloatKind.denoted? .f64 y.toBits = some (2 ^ 64) ∧
      ¬ NumericKind.Admits (.int .u64) (towardZero (2 ^ 64)) ∧
      (Value.float .f64 y).cast true (.int .u64) = .error .overflow := by
  intro x t y
  have small : FloatKind.denoted? .f32 x.toBits = some (-3 / 4) := by decide +kernel
  have large : FloatKind.denoted? .f64 y.toBits = some (2 ^ 64) := by decide +kernel
  have zero : towardZero (-3 / 4) = 0 := by norm_num [towardZero]
  have admitted : NumericKind.Admits (.int .u8) (towardZero (-3 / 4)) := by
    rw [zero]
    exact ⟨⟨.u8, rfl, by decide⟩, by simp⟩
  have refused : ¬ NumericKind.Admits (.int .u64) (towardZero (2 ^ 64)) := by
    have whole : towardZero (2 ^ 64) = 2 ^ 64 := by norm_num [towardZero]
    rw [whole]
    rintro ⟨⟨i, same, holds⟩, -⟩
    cases same
    exact absurd holds (by decide)
  have cast := (truncating_casts (t := t) (k := .int .u8) x rfl rfl).1 _ small admitted
  have overflow := (truncating_casts (t := .int .u64) (k := .int .u64) y rfl rfl).2 (by
    intro q same
    cases large.symm.trans same
    exact refused)
  exact ⟨rfl, rfl, small, admitted, zero ▸ cast, large, refused, overflow⟩

end ExprSql.Value
