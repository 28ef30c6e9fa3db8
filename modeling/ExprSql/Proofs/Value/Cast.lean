import ExprSql.Proofs.Numeric.Sized
import ExprSql.Value.Cast

/-!
Casts of whole numbers. A checked cast gives the number itself or overflows; an unchecked one gives
the number of the target's kind with the same low bits.
-/
namespace ExprSql

namespace DataType

/-- The numeric kind that values of the type are counted in, through enumerations and nullable
types. -/
def countedIn? : DataType → Option NumericKind
  | .numeric k | .enumeration _ k => some k
  | .nullable inner => inner.countedIn?
  | _ => none

def named : DataType → Value → Value
  | .enumeration name _, v => .enumeration name v
  | .nullable inner, v => inner.named v
  | _, v => v

end DataType

/-- Units of sixteen bits that stand for no character of their own. -/
def Surrogate (n : Int) : Prop := 0xD800 ≤ n ∧ n ≤ 0xDFFF

instance (n : Int) : Decidable (Surrogate n) := inferInstanceAs (Decidable (_ ∧ _))

/-- An integral kind has a value for the number. -/
def NumericKind.Admits (k : NumericKind) (n : Int) : Prop :=
  (∃ i, k.integer? = some i ∧ i.Holds n) ∧ (k = .char → ¬ Surrogate n)

namespace Value

variable {v w : Value} {t : DataType} {k : NumericKind} {i : IntKind} {n : Int} {checked : Bool}

inductive Counts : DataType → Value → Int → Prop
  | int {i : IntKind} (m : Sized i) : Counts (.int i) (.int i m) m.val
  | char (c : Char) : Counts (.numeric .char) (.char c) c.toNat
  | enumeration {name : String} {k : NumericKind} {v : Value} {n : Int}
      (backing : Counts (.numeric k) v n) :
      Counts (.enumeration name k) (.enumeration name v) n
  | nullable {t : DataType} {v : Value} {n : Int} (present : Counts t v n) :
      Counts (.nullable t) v n

theorem counts_named (target : t.countedIn? = some k) (counts : Counts (.numeric k) v n) :
    Counts t (t.named v) n := by
  fun_induction DataType.countedIn? t with
  | case1 k' => cases target; exact counts
  | case2 name k' => cases target; exact .enumeration counts
  | case3 inner ih => exact .nullable (ih target)
  | case4 => cases target

theorem cast_counted (target : t.countedIn? = some k) (present : v.isNull = false) :
    v.cast checked t = (v.toNumeric k checked).map t.named := by
  fun_induction DataType.countedIn? t with
  | case1 k' =>
    cases target
    simp only [cast, present]
    cases v.toNumeric k checked <;> rfl
  | case2 name k' =>
    cases target
    simp only [cast, present]
    rfl
  | case3 inner ih =>
    simp only [cast, present]
    exact ih target
  | case4 => cases target

theorem source_of_integer (whole : v.integer? = some n) : v.source? = some (.whole n) := by
  fun_induction integer? v with
  | case1 k m => cases whole; rfl
  | case2 c => cases whole; rfl
  | case3 name backing ih => exact ih whole
  | case4 => cases whole

theorem toNumeric_of_integer (whole : v.integer? = some n) :
    v.toNumeric k checked = (Source.whole n).narrow checked k := by
  unfold toNumeric
  split
  · cases whole
  · rw [source_of_integer whole]

theorem cast_of_integer (whole : v.integer? = some n) (target : t.countedIn? = some k) :
    v.cast checked t = ((Source.whole n).narrow checked k).map t.named := by
  have present : v.isNull = false := by
    cases v with
    | null => cases whole
    | _ => rfl
  rw [cast_counted target present, toNumeric_of_integer whole]

section
variable {u : Sized .u16}

theorem unitChar_scalar (scalar : ¬ Surrogate u.val) :
    ∃ c, unitChar? u.val = some c ∧ (c.toNat : Int) = u.val := by
  obtain ⟨lower, upper⟩ : 0 ≤ u.val ∧ u.val ≤ 65535 := u.property
  have valid : u.val.toNat.isValidChar := by
    unfold Nat.isValidChar
    unfold Surrogate at scalar
    omega
  refine ⟨Char.ofNatAux u.val.toNat valid, by simp [unitChar?, valid], ?_⟩
  exact Int.toNat_of_nonneg lower

theorem unitChar_surrogate (surrogate : Surrogate u.val) : unitChar? u.val = none := by
  have invalid : ¬ u.val.toNat.isValidChar := by
    unfold Nat.isValidChar
    unfold Surrogate at surrogate
    omega
  simp [unitChar?, invalid]

end

section
variable (integral : k.integer? = some i)
include integral

theorem narrow_admitted (admitted : k.Admits n) :
    ∃ v, (Source.whole n).narrow true k = .ok v ∧ Counts (.numeric k) v n := by
  obtain ⟨⟨j, same, holds⟩, scalar⟩ := admitted
  obtain rfl : i = j := Option.some.inj (integral.symm.trans same)
  cases k with
  | int i' =>
    cases integral
    refine ⟨.int i ⟨n, holds⟩, ?_, .int ⟨n, holds⟩⟩
    simp [Source.narrow, Source.toSized, Sized.fit_of_holds holds, Except.map]
  | float w => cases integral
  | char =>
    cases integral
    obtain ⟨c, found, same⟩ := unitChar_scalar (u := ⟨n, holds⟩) (scalar rfl)
    have counts : Counts (.numeric .char) (.char c) n := by
      change (c.toNat : Int) = n at same
      exact same ▸ .char c
    refine ⟨.char c, ?_, counts⟩
    simp [Source.narrow, Source.toSized, Sized.fit_of_holds holds, found, bind, Except.bind]

theorem narrow_refused (refused : ¬ k.Admits n) :
    (Source.whole n).narrow true k = .error .overflow := by
  by_cases holds : i.Holds n
  · have isChar : k = .char ∧ Surrogate n := by
      by_contra other
      exact refused ⟨⟨i, integral, holds⟩, fun char surrogate => other ⟨char, surrogate⟩⟩
    obtain ⟨rfl, surrogate⟩ := isChar
    cases integral
    have none := unitChar_surrogate (u := ⟨n, holds⟩) surrogate
    simp [Source.narrow, Source.toSized, Sized.fit_of_holds holds, none, bind, Except.bind]
  · cases k with
    | int i' =>
      cases integral
      simp [Source.narrow, Source.toSized, Sized.fit_outside holds, Except.map]
    | float w => cases integral
    | char =>
      cases integral
      simp [Source.narrow, Source.toSized, Sized.fit_outside holds, bind, Except.bind]

theorem narrow_unchecked (n : Int) :
    ∃ v m, (Source.whole n).narrow false k = .ok v ∧ Counts (.numeric k) v m ∧
      if k = .char ∧ Surrogate (n % 2 ^ i.width) then m = 0xFFFD else m ≡ n [ZMOD 2 ^ i.width] := by
  cases k with
  | int i' =>
    cases integral
    refine ⟨.int i (Sized.wrap i n), _, rfl, .int _, ?_⟩
    simpa using Sized.wrap_congruent i n
  | float w => cases integral
  | char =>
    cases integral
    have low : (Sized.wrap .u16 n).val = n % 2 ^ IntKind.width .u16 := rfl
    by_cases surrogate : Surrogate (n % 2 ^ IntKind.width .u16)
    · have none := unitChar_surrogate (u := Sized.wrap .u16 n) (low ▸ surrogate)
      refine ⟨.char '\uFFFD', _, ?_, .char _, ?_⟩
      · simp [Source.narrow, Source.toSized, none, bind, Except.bind]
      · rw [if_pos ⟨rfl, surrogate⟩]
        rfl
    · obtain ⟨c, found, same⟩ := unitChar_scalar (u := Sized.wrap .u16 n) (low ▸ surrogate)
      refine ⟨.char c, _, ?_, .char c, ?_⟩
      · simp [Source.narrow, Source.toSized, found, bind, Except.bind]
      · rw [if_neg fun both => surrogate both.2, same]
        exact Sized.wrap_congruent .u16 n

end

theorem integral_casts (source : v.integer? = some n) (target : t.countedIn? = some k)
    (integral : k.integer? = some i) :
    ((∃ w, v.cast true t = .ok w) ↔ k.Admits n) ∧
    (∀ w, v.cast true t = .ok w → Counts t w n) ∧
    (¬ k.Admits n → v.cast true t = .error .overflow) ∧
    ∃ w m, v.cast false t = .ok w ∧ Counts t w m ∧
      if k = .char ∧ Surrogate (n % 2 ^ i.width) then m = 0xFFFD else m ≡ n [ZMOD 2 ^ i.width] := by
  have overflow (refused : ¬ k.Admits n) : v.cast true t = .error .overflow := by
    rw [cast_of_integer source target, narrow_refused integral refused]
    rfl
  have admitted_of_ok {w : Value} (done : v.cast true t = .ok w) : k.Admits n := by
    by_contra refused
    cases (overflow refused).symm.trans done
  have exact (admitted : k.Admits n) : ∃ w, v.cast true t = .ok w ∧ Counts t w n := by
    obtain ⟨u, narrowed, counts⟩ := narrow_admitted integral admitted
    refine ⟨t.named u, ?_, counts_named target counts⟩
    rw [cast_of_integer source target, narrowed]
    rfl
  refine ⟨⟨fun ⟨w, done⟩ => admitted_of_ok done, fun admitted => ?_⟩, ?_, overflow, ?_⟩
  · obtain ⟨w, done, -⟩ := exact admitted
    exact ⟨w, done⟩
  · intro w done
    obtain ⟨w', done', counts⟩ := exact (admitted_of_ok done)
    cases done.symm.trans done'
    exact counts
  · obtain ⟨u, m, narrowed, counts, low⟩ := narrow_unchecked integral n
    refine ⟨t.named u, m, ?_, counts_named target counts, low⟩
    rw [cast_of_integer source target, narrowed]
    rfl

/-- The low bits of -10240 are those of a surrogate. -/
theorem negative_balance_as_unit :
    let v : Value := .enumeration "Balance" (.int .i64 ⟨-10240, by decide⟩)
    let t : DataType := .nullable (.enumeration "Unit" .char)
    v.integer? = some (-10240) ∧ t.countedIn? = some .char ∧
      NumericKind.char.integer? = some .u16 ∧ v.cast true t = .error .overflow ∧
      ∃ w, v.cast false t = .ok w ∧ Counts t w 0xFFFD := by
  intro v t
  have casts := integral_casts (v := v) (t := t) rfl rfl rfl
  have refused : ¬ NumericKind.char.Admits (-10240) := by
    rintro ⟨⟨i, same, holds⟩, -⟩
    cases same
    exact absurd holds (by decide)
  obtain ⟨-, -, overflow, w, m, done, counts, low⟩ := casts
  rw [if_pos (by decide)] at low
  exact ⟨rfl, rfl, rfl, overflow refused, w, done, low ▸ counts⟩

end Value
end ExprSql
