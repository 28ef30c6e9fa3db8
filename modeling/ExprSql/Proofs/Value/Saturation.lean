import ExprSql.Proofs.Value.Cast
import ExprSql.Proofs.Value.Range

/-!
Casts with and without a check. 2 ^ 63 in floating point is the first past the signed 64-bit
integers, and on its way to the unsigned ones it is still brought back to the largest signed one.
-/
namespace ExprSql

namespace Binary

variable {w : FloatKind} {negative : Bool} {units : Nat} {held : w.Holds units}

theorem past_positive {bound : Nat} {h : w.Holds bound} :
    ((finite negative units held).compare? (finite false bound h) == some .gt) = true ↔
      negative = false ∧ bound < units := by
  cases negative with
  | false => simp [compare?, rank?, signed, compare_gt_iff_gt]
  | true =>
    simp only [compare?, rank?, signed, beq_iff_eq, Option.some.injEq, compare_gt_iff_gt]
    simp

/-- The number 2 ^ 63. The largest signed 64-bit integer, one less, is rounded to it. -/
@[irreducible]
def pivot : Binary .f64 := ofInt .f64 (2 ^ 63)

theorem pivot_rounded : ofInt .f64 (IntKind.max .i64) = pivot ∧
    ∃ held, pivot = .finite false (2 ^ 63 * FloatKind.one .f64) held :=
  ⟨by decide +kernel, by decide +kernel, by decide +kernel⟩

theorem trunc_pivot : pivot.trunc? = some (2 ^ 63) := by
  obtain ⟨-, held, same⟩ := pivot_rounded
  rw [same, trunc?, Nat.mul_div_cancel _ (FloatKind.one_pos .f64)]
  rfl

end Binary

namespace Value

open Binary

variable {x : Binary .f64} {n : Int}

theorem saturated_finite (negative : Bool) (units : Nat) (held : FloatKind.Holds .f64 units) :
    saturated (.finite negative units held) =
      let n := signed negative (units / FloatKind.one .f64)
      if negative = false ∧ 2 ^ 63 * FloatKind.one .f64 < units then clamp .u64 n
      else clamp .i64 n := by
  obtain ⟨limit, h, same⟩ := pivot_rounded
  simp only [saturated, limit, same, past_positive, trunc?, Option.getD_some]

theorem saturated_pivot : saturated pivot = IntKind.max .i64 := by
  obtain ⟨-, held, same⟩ := pivot_rounded
  rw [same, saturated_finite, if_neg fun past => absurd past.2 (Nat.lt_irrefl _),
    Nat.mul_div_cancel _ (FloatKind.one_pos .f64)]
  rfl

theorem clamp_of_holds {k : IntKind} (holds : k.Holds n) : clamp k n = n := by
  obtain ⟨lower, upper⟩ := holds
  rw [clamp, Int.min_eq_right upper, Int.max_eq_right lower]

theorem saturated_exact (whole : x.trunc? = some n) (lower : IntKind.min .i64 ≤ n)
    (upper : n ≤ IntKind.max .u64) (off : x ≠ pivot) : saturated x = n := by
  cases x with
  | nan => cases whole
  | infinity negative => cases whole
  | finite negative units held =>
    have apart : negative = false → units ≠ 2 ^ 63 * FloatKind.one .f64 := by
      intro sign count
      obtain ⟨-, pivotHeld, same⟩ := pivot_rounded
      rw [same, ne_eq, finite.injEq] at off
      exact off ⟨sign, count⟩
    have positive := FloatKind.one_pos .f64
    have part : signed negative (units / FloatKind.one .f64) = n := Option.some.inj whole
    rw [saturated_finite]
    simp only [part]
    -- the size of the unit plays no part from here on
    generalize FloatKind.one .f64 = one at apart positive part
    cases negative with
    | true =>
      have below : n ≤ 0 := part ▸ Int.neg_nonpos_of_nonneg (Int.natCast_nonneg _)
      rw [if_neg (by simp)]
      exact clamp_of_holds ⟨lower, Int.le_trans below (by decide)⟩
    | false =>
      have natural : ((units / one : Nat) : Int) = n := part
      split
      · exact clamp_of_holds ⟨natural ▸ Int.natCast_nonneg _, upper⟩
      · rename_i within
        have small : units / one < 2 ^ 63 := by
          rw [Nat.div_lt_iff_lt_mul positive]
          have := apart rfl
          have := mt (And.intro rfl) within
          omega
        have fits : n ≤ 2 ^ 63 - 1 := by omega
        exact clamp_of_holds ⟨lower, fits⟩

variable {v w : Value} {t : DataType} {k : NumericKind} {i : IntKind} {s : Source}

theorem range_within (holds : i.Holds n) : IntKind.min .i64 ≤ n ∧ n ≤ IntKind.max .u64 := by
  obtain ⟨lower, upper⟩ := holds
  have least : IntKind.min .i64 ≤ i.min := by cases i <;> decide
  have greatest : i.max ≤ IntKind.max .u64 := by cases i <;> decide
  exact ⟨Int.le_trans least lower, Int.le_trans upper greatest⟩

theorem unsigned_of_pivot (holds : i.Holds (2 ^ 63)) : i = .u64 := by
  cases i with
  | u64 => rfl
  | _ => exact absurd holds (by decide)

theorem toSized_agrees {m : Sized i} (done : s.toSized i true = .ok m)
    (off : ¬ (s = .real pivot ∧ i = .u64)) : s.toSized i false = .ok m := by
  cases s with
  | whole n =>
    cases fits : Sized.fit? i n with
    | none => simp [Source.toSized, fits] at done
    | some found =>
      simp only [Source.toSized, fits, if_true, Option.elim_some] at done
      rw [← done]
      simp [Source.toSized, Sized.wrap_of_fit fits]
  | real x =>
    cases fits : x.trunc?.bind (Sized.fit? i) with
    | none => simp [toSized_real, fits] at done
    | some found =>
      simp only [toSized_real, fits, Option.elim_some] at done
      obtain ⟨n, whole, fit⟩ := Option.bind_eq_some_iff.mp fits
      have holds := Sized.holds_of_fit fit
      have apart : x ≠ pivot := by
        intro same
        rw [same] at whole off
        have large : 2 ^ 63 = n := Option.some.inj (trunc_pivot.symm.trans whole)
        exact off ⟨rfl, unsigned_of_pivot (large ▸ holds)⟩
      have exact := saturated_exact whole (range_within holds).1 (range_within holds).2 apart
      rw [← done]
      simp [Source.toSized, exact, Sized.wrap_of_fit fit]

theorem narrow_agrees (done : s.narrow true k = .ok v)
    (off : ¬ (s = .real pivot ∧ k = .int .u64)) : s.narrow false k = .ok v := by
  cases k with
  | int i =>
    cases sized : s.toSized i true with
    | error e => simp [Source.narrow, sized, Except.map] at done
    | ok m =>
      have same := toSized_agrees sized fun both => off ⟨both.1, by rw [both.2]⟩
      rw [← done]
      simp [Source.narrow, sized, same]
  | float w => exact done
  | char =>
    cases sized : s.toSized .u16 true with
    | error e => simp [Source.narrow, sized, bind, Except.bind] at done
    | ok m =>
      have same := toSized_agrees sized fun both => absurd both.2 (by decide)
      cases found : unitChar? m.val with
      | none => simp [Source.narrow, sized, found, bind, Except.bind] at done
      | some c =>
        rw [← done]
        simp [Source.narrow, sized, same, found, bind, Except.bind]

theorem toNumeric_agrees (done : v.toNumeric k true = .ok w)
    (off : ¬ (v.source? = some (.real pivot) ∧ k = .int .u64)) : v.toNumeric k false = .ok w := by
  unfold toNumeric at done ⊢
  split at done
  · exact done
  · split at done
    · rename_i s found
      exact narrow_agrees done fun both => off ⟨by rw [found, both.1], both.2⟩
    · cases done

theorem cast_uncounted (free : v.isNull = true ∨ t.countedIn? = none) :
    v.cast true t = v.cast false t := by
  induction t with
  | nullable inner ih =>
    simp only [cast]
    rw [ih free]
  | numeric k =>
    have absent : v.isNull = true := free.resolve_right (by simp [DataType.countedIn?])
    simp [cast, absent]
  | enumeration name k =>
    have absent : v.isNull = true := free.resolve_right (by simp [DataType.countedIn?])
    simp [cast, absent]
  | _ => rfl

/-- The number 2 ^ 63, held in floating point, on its way to the unsigned 64-bit integers. -/
def AtPivot (v : Value) (t : DataType) : Prop :=
  v.source? = some (.real pivot) ∧ t.countedIn? = some (.int .u64)

theorem cast_agrees (done : v.cast true t = .ok w) (off : ¬ AtPivot v t) :
    v.cast false t = .ok w := by
  by_cases free : v.isNull = true ∨ t.countedIn? = none
  · rw [← cast_uncounted free]
    exact done
  · rw [not_or, Bool.not_eq_true] at free
    obtain ⟨k, target⟩ := Option.ne_none_iff_exists'.mp free.2
    rw [cast_counted target free.1] at done ⊢
    cases counted : v.toNumeric k true with
    | error e =>
      rw [counted] at done
      cases done
    | ok u =>
      rw [toNumeric_agrees counted fun both => off ⟨both.1, by rw [target, both.2]⟩]
      rw [counted] at done
      exact done

theorem cast_at_pivot (meets : AtPivot v t) :
    v.cast true t = .ok (t.named (.int .u64 ⟨2 ^ 63, by decide⟩)) ∧
      v.cast false t = .ok (t.named (.int .u64 ⟨2 ^ 63 - 1, by decide⟩)) := by
  obtain ⟨source, target⟩ := meets
  have present : v.isNull = false := by
    cases v with
    | null => cases source
    | _ => rfl
  have counted (checked : Bool) : v.toNumeric (.int .u64) checked
      = (Source.real pivot).narrow checked (.int .u64) := by
    unfold toNumeric
    split
    · cases source
    · rw [source]
  have fits := Sized.fit_of_holds (k := .u64) (n := 2 ^ 63) (by decide)
  have wraps := Sized.wrap_of_holds (k := .u64) (n := IntKind.max .i64) (by decide)
  constructor
  · rw [cast_counted target present, counted]
    simp only [Source.narrow, toSized_real, trunc_pivot, Option.bind_some, fits]
    rfl
  · rw [cast_counted target present, counted]
    simp only [Source.narrow, Source.toSized, saturated_pivot, wraps]
    rfl

theorem checked_casts_agree (done : v.cast true t = .ok w) :
    (¬ AtPivot v t → v.cast false t = .ok w) ∧
    (AtPivot v t → w = t.named (.int .u64 ⟨2 ^ 63, by decide⟩) ∧
      v.cast false t = .ok (t.named (.int .u64 ⟨2 ^ 63 - 1, by decide⟩))) := by
  refine ⟨cast_agrees done, fun meets => ?_⟩
  obtain ⟨checked, unchecked⟩ := cast_at_pivot meets
  exact ⟨Except.ok.inj (done.symm.trans checked), unchecked⟩

theorem fraction_casts_agree :
    let v : Value := .float .f64 (Binary.ofRatio .f64 true 7 2)
    let t : DataType := .nullable (.enumeration "Level" (.int .i8))
    let w : Value := .enumeration "Level" (.int .i8 ⟨-3, by decide⟩)
    v.cast true t = .ok w ∧ ¬ AtPivot v t ∧ v.cast false t = .ok w := by
  intro v t w
  have trunc : (Binary.ofBinary .f64 (Binary.ofRatio .f64 true 7 2)).trunc? = some (-3) := by
    decide +kernel
  have fits := Sized.fit_of_holds (k := .i8) (n := -3) (by decide)
  have done : v.cast true t = .ok w := by
    rw [cast_counted (k := .int .i8) rfl rfl]
    simp only [v, toNumeric, source?, Source.narrow, toSized_real, trunc, Option.bind_some, fits]
    rfl
  have off : ¬ AtPivot v t := fun meets => absurd meets.2 (by decide)
  exact ⟨done, off, (checked_casts_agree done).1 off⟩

theorem pivot_casts_differ :
    let v : Value := .float .f64 (Binary.ofInt .f64 (2 ^ 63))
    let w : Value := .int .u64 ⟨2 ^ 63, by decide⟩
    v.cast true (.int .u64) = .ok w ∧ v.cast false (.int .u64) ≠ .ok w := by
  intro v w
  have widened : Binary.ofBinary .f64 (Binary.ofInt .f64 (2 ^ 63)) = pivot := by decide +kernel
  have meets : AtPivot v (.int .u64) := ⟨by simp only [v, source?, widened], rfl⟩
  obtain ⟨checked, unchecked⟩ := cast_at_pivot meets
  refine ⟨checked, fun same => ?_⟩
  have equal := Except.ok.inj (unchecked.symm.trans same)
  simp [w, DataType.named] at equal

end Value

end ExprSql
