import ExprSql.Proofs.Value.Recast
import ExprSql.Proofs.Value.Saturation
import ExprSql.Proofs.Value.Whole

/-!
Checked arithmetic on whole numbers at nodes typed as enumerations. The operator is checked in the
kind it computes in; the cast of its result to the kind of the enumeration is not.
-/
namespace ExprSql

namespace NumericKind

variable {k : NumericKind} {i : IntKind}

/-- The kind in which the opposite of a whole number is counted. An unsigned 64-bit integer has no
wider kind to be negated in. -/
def opposite? (k : NumericKind) : Option IntKind :=
  match k.promoteUnary with
  | .int .u64 => none
  | .int .u32 => some .i64
  | .int i => some i
  | _ => none

theorem promoteUnary_whole (integral : k.isInteger = true) : ∃ i, k.promoteUnary = .int i := by
  rcases k with i | w | _
  · cases i <;> exact ⟨_, rfl⟩
  · cases integral
  · exact ⟨_, rfl⟩

theorem promoteUnary_widens (promoted : k.promoteUnary = .int i) :
    i.min ≤ k.least ∧ k.greatest ≤ i.max := by
  rcases k with x | w | _
  · cases x <;> cases promoted <;> decide
  · cases promoted
  · cases promoted
    decide

/-- What is left of a whole number in a kind that need not have room for it: its low bits, or the
replacement character where these are a surrogate. -/
def Keeps (k : NumericKind) (n m : Int) : Prop :=
  ∀ i, k.integer? = some i →
    if k = .char ∧ Surrogate (n % 2 ^ i.width) then m = 0xFFFD else m ≡ n [ZMOD 2 ^ i.width]

end NumericKind

namespace Value

variable {l r v w : Value} {j k e : NumericKind} {i : IntKind} {a b n m : Int} {t : DataType}
  {name : String} {op : BinaryOp}

theorem admits_of_narrow {checked : Bool} (integral : e.integer? = some i)
    (done : (Source.whole n).narrow checked e = .ok w) (counts : Counts (.numeric e) w m) :
    e.Admits m := by
  cases counts with
  | int x => exact ⟨⟨_, rfl, x.property⟩, by simp⟩
  | char c =>
    refine ⟨⟨.u16, rfl, Int.natCast_nonneg _, Int.ofNat_le.2 (narrow_char done)⟩, fun _ => ?_⟩
    have valid : c.toNat < 0xD800 ∨ 0xDFFF < c.toNat ∧ c.toNat < 0x110000 := c.valid
    unfold Surrogate
    omega

theorem rewrap_enumeration (target : t.underlying = .enumeration name e)
    (present : v.isNull = false) :
    v.rewrap t = ((v.toNumeric e false).map (.enumeration name)).mapError
      fun error => .expression (.cast error) := by
  have enumeration : t.isEnumeration = true := by simp [DataType.isEnumeration, target]
  rw [rewrap, present, enumeration, cast_enumeration target present]
  rfl

structure Enumerates (name : String) (e : NumericKind) (i : IntKind) (symbol : String) (n : Int)
    (answer : Except Failure Value) : Prop where
  overflows : answer = .error (.invocation s!"operator {symbol}" .overflow) ↔ ¬ i.Holds n
  exact : i.Holds n → e.Admits n →
    ∃ w, answer = .ok (.enumeration name w) ∧ Counts (.numeric e) w n
  wraps : i.Holds n → ¬ e.Admits n →
    ∃ w m, answer = .ok (.enumeration name w) ∧ Counts (.numeric e) w m ∧ e.Keeps n m ∧ m ≠ n

def enumerate (symbol : String) (operands : List Value) (i : IntKind) (n : Int) (t : DataType) :
    Except Failure Value :=
  (((Sized.settle true n).map (Value.int i)).mapError (·.failure symbol operands)).bind (·.rewrap t)

theorem enumerate_enumerates (target : t.underlying = .enumeration name e)
    (integral : e.isInteger = true) (symbol : String) (operands : List Value) (i : IntKind)
    (n : Int) : Enumerates name e i symbol n (enumerate symbol operands i n t) := by
  obtain ⟨x, counted⟩ : ∃ x, e.integer? = some x := by
    cases e <;> first | exact ⟨_, rfl⟩ | cases integral
  have overflowed (outside : ¬ i.Holds n) :
      enumerate symbol operands i n t = .error (.invocation s!"operator {symbol}" .overflow) := by
    rw [enumerate, Sized.settle_outside outside]
    rfl
  have delivered {w : Value} (holds : i.Holds n)
      (narrowed : (Source.whole n).narrow false e = .ok w) :
      enumerate symbol operands i n t = .ok (.enumeration name w) := by
    have number : (Value.int i ⟨n, holds⟩).toNumeric e false = .ok w := narrowed
    rw [enumerate, Sized.settle_holds holds]
    change (Value.int i ⟨n, holds⟩).rewrap t = _
    rw [rewrap_enumeration target rfl, number]
    rfl
  obtain ⟨w, m, narrowed, counts, low⟩ := narrow_unchecked counted n
  refine ⟨⟨?_, overflowed⟩, ?_, ?_⟩
  · intro failed holds
    cases failed.symm.trans (delivered holds narrowed)
  · intro holds admitted
    obtain ⟨u, checked, same⟩ := narrow_admitted counted admitted
    exact ⟨u, delivered holds (narrow_agrees checked (by simp)), same⟩
  · intro holds refused
    refine ⟨w, m, delivered holds narrowed, counts, ?_, ?_⟩
    · intro i' same
      obtain rfl : x = i' := Option.some.inj (counted.symm.trans same)
      exact low
    · rintro rfl
      exact refused (admits_of_narrow counted narrowed counts)

theorem combine_enumerate {f : Int → Int → Int} (left : Stands l j a) (right : Stands r k b)
    (promoted : j.promote k = some (.int i)) (checked : op.exactly? = some (true, f))
    (notString : t.isString = false) :
    combine op l r t = enumerate op.symbol [l, r] i (f a b) t := by
  obtain ⟨x, y, widened, rfl, rfl⟩ := widenPair_stands left right promoted
  rw [combine_apart (joins_stands left right notString),
    result_stands left right (BinaryOp.integral_of_exact checked), arithmetic, widened]
  simp only [Sized.calculate_exact x y checked]
  rfl

theorem widen_stands (stands : Stands v k n) (promoted : k.promoteUnary = .int i) :
    ∃ x : Sized i, v.widen? = some (.int i x) ∧ x.val = n := by
  obtain ⟨-, least, greatest⟩ := stands_integral stands
  have widens := NumericKind.promoteUnary_widens promoted
  have holds : i.Holds n := ⟨by omega, by omega⟩
  have counts := stands_operand stands
  refine ⟨⟨n, holds⟩, ?_, rfl⟩
  have widened := widenInt_holds counts holds
  have kind := (counts_kind counts).1
  have notDecimal := (counts_kind counts).2
  unfold widen?
  split
  · simp_all [isDecimal]
  · simp [kind, promoted, widened]

theorem negate_stands (stands : Stands v k n) (opposite : k.opposite? = some i) :
    v.negate true = (Sized.settle true (-n)).map (Value.int i) := by
  obtain ⟨x, promoted⟩ := NumericKind.promoteUnary_whole (stands_integral stands).1
  obtain ⟨u, widened, rfl⟩ := widen_stands stands promoted
  unfold negate
  rw [widened]
  rw [NumericKind.opposite?, promoted] at opposite
  cases x with
  | u64 => cases opposite
  | u32 =>
    cases opposite
    have range : 0 ≤ u.val ∧ u.val ≤ 4294967295 := u.property
    have holds : IntKind.i64.Holds (-u.val) := by
      change -9223372036854775808 ≤ -u.val ∧ -u.val ≤ 9223372036854775807
      omega
    rw [Sized.settle_holds holds]
    simp only [Sized.wrap_of_holds holds]
    rfl
  | _ =>
    cases opposite
    rfl

theorem negate_unsigned (stands : Stands v k n) (none : k.opposite? = none) :
    k = .int .u64 ∧ v.negate true = .error .undefined := by
  obtain ⟨x, promoted⟩ := NumericKind.promoteUnary_whole (stands_integral stands).1
  obtain ⟨u, widened, -⟩ := widen_stands stands promoted
  rw [NumericKind.opposite?, promoted] at none
  cases x with
  | u64 => exact ⟨NumericKind.promoteUnary_unsigned rfl promoted, by rw [negate, widened]⟩
  | _ => cases none

/-- A checked operator at a node typed as an enumeration overflows where the kind it computes in has
no room for the exact result, and only there: it delivers the exact result where the kind of the
enumeration has room for it too, and what this kind keeps of it elsewhere. -/
theorem checked_enumerations (target : t.underlying = .enumeration name e)
    (integral : e.isInteger = true) :
    (∀ l r j k a b common op f, Stands l j a → Stands r k b → j.promote k = some common →
      op.exactly? = some (true, f) →
      ∃ i, common = .int i ∧ Enumerates name e i op.symbol (f a b) (combine op l r t)) ∧
    ∀ v k a, Stands v k a →
      (∀ i, k.opposite? = some i → Enumerates name e i "-" (-a) (apply (.negate true) v t)) ∧
      (k.opposite? = none → k = .int .u64 ∧ apply (.negate true) v t =
        .error (.expression (.undefinedOperator "-" [v.kindName]))) := by
  constructor
  · intro l r j k a b common op f left right promoted checked
    obtain ⟨i, rfl⟩ :=
      NumericKind.promote_whole (stands_integral left).1 (stands_integral right).1 promoted
    have notString : t.isString = false := by
      cases t <;> first | rfl | cases target
    refine ⟨i, rfl, ?_⟩
    rw [combine_enumerate left right promoted checked notString]
    exact enumerate_enumerates target integral _ _ _ _
  · intro v k a stands
    have present := (stands_present stands).1
    constructor
    · intro i opposite
      have negated : apply (.negate true) v t = enumerate "-" [v] i (-a) t := by
        rw [apply_eq present, unaryResult, negate_stands stands opposite]
        rfl
      rw [negated]
      exact enumerate_enumerates target integral _ _ _ _
    · intro none
      obtain ⟨unsigned, undefined⟩ := negate_unsigned stands none
      refine ⟨unsigned, ?_⟩
      rw [apply_eq present, unaryResult, undefined]
      rfl

theorem opposite_as_level :
    let v : Value := .int .u32 ⟨128, by decide⟩
    let t : DataType := .nullable (.enumeration "Level" (.int .i8))
    t.underlying = .enumeration "Level" (.int .i8) ∧ (NumericKind.int .i8).isInteger = true ∧
      Stands v (.int .u32) 128 ∧ (NumericKind.int .u32).opposite? = some .i64 ∧
      ∃ w, apply (.negate true) v t = .ok (.enumeration "Level" w) ∧
        Counts (.int .i8) w (-128) := by
  intro v t
  have stands : Stands v (.int .u32) 128 := .number (.int ⟨128, by decide⟩)
  have target : t.underlying = .enumeration "Level" (.int .i8) := rfl
  have checked := checked_enumerations target rfl
  have admitted : (NumericKind.int .i8).Admits (-128) := ⟨⟨.i8, rfl, by decide⟩, by simp⟩
  exact ⟨target, rfl, stands, rfl,
    ((checked.2 v _ 128 stands).1 .i64 rfl).exact (by decide) admitted⟩

/-- Two hundred and one hundred are three hundred, which eight bits do not hold: no overflow is
reported, and what is left is 44. -/
theorem sum_of_flags_wraps :
    let flags (n : Int) (holds : IntKind.u8.Holds n) : Value :=
      .enumeration "Flags" (.int .u8 ⟨n, holds⟩)
    let t : DataType := .enumeration "Flags" (.int .u8)
    Stands (flags 200 (by decide)) (.int .u8) 200 ∧ Stands (flags 100 (by decide)) (.int .u8) 100 ∧
      (NumericKind.int .u8).promote (.int .u8) = some (.int .i32) ∧ ¬ IntKind.u8.Holds (200 + 100) ∧
      combine (.add true) (flags 200 (by decide)) (flags 100 (by decide)) t =
        .ok (flags 44 (by decide)) := by
  intro flags t
  have stands (n : Int) (holds : IntKind.u8.Holds n) : Stands (flags n holds) (.int .u8) n :=
    .enumeration (.int ⟨n, holds⟩)
  exact ⟨stands _ _, stands _ _, rfl, by decide, rfl⟩

end Value
end ExprSql
