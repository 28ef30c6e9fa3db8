import ExprSql.Proofs.Numeric.Exact
import ExprSql.Proofs.Value.Cast
import ExprSql.Proofs.Value.Plain

/-!
Operators on whole numbers. Two operands whose kinds have a common one keep their numbers in it, and
the operators give their exact results there, brought back to the kind or refused.
-/
namespace ExprSql

namespace NumericKind

def least : NumericKind → Int
  | .int i => i.min
  | _ => 0

def greatest : NumericKind → Int
  | .int i => i.max
  | .char => 0x10FFFF
  | .float _ => 0

variable {j k common : NumericKind} {i : IntKind}

theorem promote_none_iff : j.promote k = none ↔
    j = .int .u64 ∧ k.isSigned = true ∨ j.isSigned = true ∧ k = .int .u64 := by
  rcases j with x | x | _ <;> rcases k with y | y | _ <;> try cases x
  all_goals try cases y
  all_goals decide

theorem promoteUnary_unsigned (unsigned : i.signed = false) (promoted : k.promoteUnary = .int i) :
    k = .int i := by
  rcases k with x | w | _
  · cases x <;> cases promoted <;> first | rfl | cases unsigned
  · cases promoted
  · cases promoted
    cases unsigned

theorem promote_whole (left : j.isInteger = true) (right : k.isInteger = true)
    (found : j.promote k = some common) : ∃ i, common = .int i := by
  rcases j with x | x | _ <;> rcases k with y | y | _ <;> try cases left
  all_goals try cases right
  all_goals try cases x
  all_goals try cases y
  all_goals cases found
  all_goals exact ⟨_, rfl⟩

theorem promote_widens (found : j.promote k = some (.int i)) :
    i.min ≤ j.least ∧ j.greatest ≤ i.max := by
  rcases j with x | x | _ <;> rcases k with y | y | _ <;> try cases x
  all_goals try cases y
  all_goals cases found
  all_goals decide

end NumericKind

namespace BinaryOp

def exactly? : BinaryOp → Option (Bool × (Int → Int → Int))
  | .add checked => some (checked, fun a b => a + b)
  | .subtract checked => some (checked, fun a b => a - b)
  | .multiply checked => some (checked, fun a b => a * b)
  | _ => none

def part? : BinaryOp → Option (Int → Int → Int)
  | .divide => some Int.tdiv
  | .modulo => some Int.tmod
  | _ => none

def onBits? (width : Nat) : BinaryOp → Option (BitVec width → BitVec width → BitVec width)
  | .bitwise .and => some (· &&& ·)
  | .bitwise .or => some (· ||| ·)
  | .bitwise .xor => some (· ^^^ ·)
  | _ => none

def isIntegral : BinaryOp → Bool
  | .add _ | .subtract _ | .multiply _ | .divide | .modulo => true
  | .bitwise .and | .bitwise .or | .bitwise .xor => true
  | _ => false

variable {op : BinaryOp}

theorem integral_of_exact {checked : Bool} {f : Int → Int → Int}
    (exact : op.exactly? = some (checked, f)) : op.isIntegral = true := by
  cases op <;> cases exact <;> rfl

theorem integral_of_part {f : Int → Int → Int} (divided : op.part? = some f) :
    op.isIntegral = true := by
  cases op <;> cases divided <;> rfl

theorem integral_of_bits {width : Nat} {f : BitVec width → BitVec width → BitVec width}
    (bitwise : op.onBits? width = some f) : op.isIntegral = true := by
  unfold onBits? at bitwise
  split at bitwise <;> cases bitwise <;> rfl

end BinaryOp

/-- How a kind computes with two numbers, given what each operator answers. -/
structure IntKind.Computes (i : IntKind) (a b : Int)
    (answer : BinaryOp → Except Failure Value) : Prop where
  wraps (op : BinaryOp) (f : Int → Int → Int) (unchecked : op.exactly? = some (false, f)) :
    ∃ m : Sized i, answer op = .ok (.int i m) ∧ m.val ≡ f a b [ZMOD 2 ^ i.width]
  checks (op : BinaryOp) (f : Int → Int → Int) (checked : op.exactly? = some (true, f)) :
    (answer op = .error (.invocation s!"operator {op.symbol}" .overflow) ↔ ¬ i.Holds (f a b)) ∧
    (i.Holds (f a b) → ∃ m : Sized i, answer op = .ok (.int i m) ∧ m.val = f a b)
  divides (op : BinaryOp) (f : Int → Int → Int) (divided : op.part? = some f) :
    (answer op = .error (.invocation s!"operator {op.symbol}" (.failed .divideByZero)) ↔ b = 0) ∧
    (answer op = .error (.invocation s!"operator {op.symbol}" .overflow) ↔
      i.signed = true ∧ a = i.min ∧ b = -1) ∧
    (b ≠ 0 → ¬ (i.signed = true ∧ a = i.min ∧ b = -1) →
      ∃ m : Sized i, answer op = .ok (.int i m) ∧ m.val = f a b)
  bits (op : BinaryOp) (f : BitVec i.width → BitVec i.width → BitVec i.width)
    (bitwise : op.onBits? i.width = some f) :
    ∃ m : Sized i, answer op = .ok (.int i m) ∧
      m.bits = f (BitVec.ofInt i.width a) (BitVec.ofInt i.width b)

namespace Sized

variable {k : IntKind} {op : BinaryOp} {f : Int → Int → Int} (a b : Sized k)

theorem calculate_exact {checked : Bool} (exact : op.exactly? = some (checked, f)) :
    calculate op a b = settle checked (f a.val b.val) := by
  cases op <;> cases exact <;> rfl

theorem calculate_zero (divided : op.part? = some f) (zero : b.val = 0) :
    calculate op a b = .error .divideByZero := by
  cases op <;> cases divided <;> simp [calculate, zero]

theorem calculate_least (divided : op.part? = some f) (signed : k.signed = true)
    (dividend : a.val = k.min) (divisor : b.val = -1) :
    calculate op a b = .error .overflow := by
  have outside : ¬ k.Holds (a.val.tdiv b.val) := by
    rw [IntKind.tdiv_holds_iff a.property b.property]
    exact not_not_intro ⟨signed, dividend, divisor⟩
  have nonzero : b.val ≠ 0 := by omega
  cases op <;> cases divided
  · simp only [calculate, if_neg nonzero, settle_outside outside]
  · simp only [calculate, if_neg nonzero, if_pos (And.intro dividend divisor)]

theorem calculate_part (divided : op.part? = some f) (nonzero : b.val ≠ 0)
    (within : ¬ (k.signed = true ∧ a.val = k.min ∧ b.val = -1)) :
    ∃ m : Sized k, calculate op a b = .ok m ∧ m.val = f a.val b.val := by
  cases op <;> cases divided
  · have holds := (IntKind.tdiv_holds_iff a.property b.property).2 within
    exact ⟨⟨_, holds⟩, by simp [calculate, nonzero, settle_holds holds], rfl⟩
  · have holds := IntKind.tmod_holds (b := b.val) a.property
    have apart : ¬ (a.val = k.min ∧ b.val = -1) := by
      rintro ⟨dividend, divisor⟩
      have signed : k.signed = true := by
        by_contra unsigned
        have natural := b.property.1
        rw [IntKind.min_unsigned (by simpa using unsigned)] at natural
        omega
      exact within ⟨signed, dividend, divisor⟩
    exact ⟨⟨_, holds⟩, by simp [calculate, nonzero, apart, settle_holds holds], rfl⟩

theorem calculate_bits {g : BitVec k.width → BitVec k.width → BitVec k.width}
    (bitwise : op.onBits? k.width = some g) :
    ∃ m : Sized k, calculate op a b = .ok m ∧ m.bits = g a.bits b.bits := by
  unfold BinaryOp.onBits? at bitwise
  split at bitwise <;> cases bitwise
  · exact ⟨a.and b, rfl, bits_ofBits k _⟩
  · exact ⟨a.or b, rfl, bits_ofBits k _⟩
  · exact ⟨a.xor b, rfl, bits_ofBits k _⟩

end Sized

namespace Value

variable {l r v : Value} {j k common : NumericKind} {i : IntKind} {a b n : Int} {t : DataType}
  {op : BinaryOp}

/-- An operand of the kind that stands for the number: an integer, a character, or an enumeration
of one of these. -/
inductive Stands : Value → NumericKind → Int → Prop
  | number {v : Value} {k : NumericKind} {n : Int} (counts : Counts (.numeric k) v n) :
      Stands v k n
  | enumeration {name : String} {v : Value} {k : NumericKind} {n : Int}
      (backing : Counts (.numeric k) v n) : Stands (.enumeration name v) k n

theorem counts_integral (counts : Counts (.numeric k) v n) :
    k.isInteger = true ∧ k.least ≤ n ∧ n ≤ k.greatest := by
  cases counts with
  | int m => exact ⟨rfl, m.property⟩
  | char c =>
    have below : c.toNat ≤ 0x10FFFF := by
      have := c.valid
      unfold UInt32.isValidChar Nat.isValidChar at this
      change c.val.toNat ≤ _
      omega
    exact ⟨rfl, Int.natCast_nonneg _, Int.ofNat_le.2 below⟩

theorem stands_integral (stands : Stands v k n) :
    k.isInteger = true ∧ k.least ≤ n ∧ n ≤ k.greatest := by
  cases stands with
  | number counts => exact counts_integral counts
  | enumeration backing => exact counts_integral backing

theorem stands_operand (stands : Stands v k n) : Counts (.numeric k) v.operand n := by
  cases stands with
  | number counts => cases counts <;> constructor
  | enumeration backing => exact backing

theorem counts_kind (counts : Counts (.numeric k) v n) :
    v.numericKind? = some k ∧ v.isDecimal = false := by
  cases counts <;> exact ⟨rfl, rfl⟩

theorem widenInt_holds (counts : Counts (.numeric k) v n) (holds : i.Holds n) :
    v.widenInt? i = some ⟨n, holds⟩ := by
  have whole : v.source? = some (.whole n) := by cases counts <;> rfl
  simp [widenInt?, whole, Source.toSized, Sized.wrap_of_holds holds, Except.toOption]

theorem widenPair_stands (left : Stands l j a) (right : Stands r k b)
    (found : j.promote k = some (.int i)) :
    ∃ x y : Sized i, widenPair? l r = some (.int i x y) ∧ x.val = a ∧ y.val = b := by
  obtain ⟨-, leftLeast, leftGreatest⟩ := stands_integral left
  obtain ⟨-, rightLeast, rightGreatest⟩ := stands_integral right
  have leftWidens := NumericKind.promote_widens found
  have rightWidens := NumericKind.promote_widens (NumericKind.promote_comm j k ▸ found)
  have leftHolds : i.Holds a := ⟨by omega, by omega⟩
  have rightHolds : i.Holds b := ⟨by omega, by omega⟩
  have leftCounts := stands_operand left
  have rightCounts := stands_operand right
  refine ⟨⟨a, leftHolds⟩, ⟨b, rightHolds⟩, ?_, rfl, rfl⟩
  simp [widenPair?, counts_kind leftCounts, counts_kind rightCounts, found,
    widenInt_holds leftCounts leftHolds, widenInt_holds rightCounts rightHolds]

theorem widenPair_apart (left : Stands l j a) (right : Stands r k b)
    (apart : j.promote k = none) : widenPair? l r = none := by
  simp [widenPair?, counts_kind (stands_operand left), counts_kind (stands_operand right), apart]

theorem stands_present (stands : Stands v k n) :
    v.isNull = false ∧ v.isString = false ∧ v.isTruth = false := by
  cases stands with
  | number counts => cases counts <;> exact ⟨rfl, rfl, rfl⟩
  | enumeration backing => exact ⟨rfl, rfl, rfl⟩

theorem result_stands (left : Stands l j a) (right : Stands r k b)
    (integral : op.isIntegral = true) : result op l r = arithmetic op l r := by
  obtain ⟨leftPresent, -, leftTruth⟩ := stands_present left
  obtain ⟨rightPresent, -, rightTruth⟩ := stands_present right
  have notCompare : op.isComparison = false := by
    cases op <;> first | rfl | cases integral
  have calculated : calculate op l r = arithmetic op l r := by
    unfold calculate
    rw [leftPresent, rightPresent]
    unfold BinaryOp.isIntegral at integral
    split at integral <;> first | rfl | cases integral
  rw [result_untrue notCompare (by rw [leftTruth, rightTruth]; rfl), calculated]

theorem joins_stands (left : Stands l j a) (right : Stands r k b) (notString : t.isString = false) :
    joins op l r t = false :=
  joins_untyped notString (stands_present left).2.1 (stands_present right).2.1

theorem combine_stands (left : Stands l j a) (right : Stands r k b)
    (integral : op.isIntegral = true) (notString : t.isString = false)
    (notEnumeration : t.isEnumeration = false) :
    combine op l r t = (arithmetic op l r).mapError (·.failure op.symbol [l, r]) := by
  rw [combine_apart (joins_stands left right notString), result_stands left right integral]
  simp only [rewrap_plain notEnumeration]
  cases arithmetic op l r <;> rfl

theorem combine_computed (left : Stands l j a) (right : Stands r k b)
    (notString : t.isString = false) (notEnumeration : t.isEnumeration = false)
    {x y m : Sized i} (widened : widenPair? l r = some (.int i x y))
    (integral : op.isIntegral = true) (done : x.calculate op y = .ok m) :
    combine op l r t = .ok (.int i m) := by
  rw [combine_stands left right integral notString notEnumeration, arithmetic, widened]
  simp [done, Except.map, Except.mapError]

theorem combine_refused (left : Stands l j a) (right : Stands r k b)
    (notString : t.isString = false) (notEnumeration : t.isEnumeration = false)
    {x y : Sized i} {fault : Fault} (widened : widenPair? l r = some (.int i x y))
    (integral : op.isIntegral = true) (failed : x.calculate op y = .error fault) :
    combine op l r t = .error (fault.failure op.symbol [l, r]) := by
  rw [combine_stands left right integral notString notEnumeration, arithmetic, widened]
  simp [failed, Except.map, Except.mapError]

theorem combine_undefined (left : Stands l j a) (right : Stands r k b)
    (notString : t.isString = false) (notEnumeration : t.isEnumeration = false)
    (apart : j.promote k = none) (integral : op.isIntegral = true) :
    combine op l r t =
      .error (.expression (.undefinedOperator op.symbol [l.kindName, r.kindName])) := by
  rw [combine_stands left right integral notString notEnumeration, arithmetic,
    widenPair_apart left right apart]
  rfl

theorem combine_computes (left : Stands l j a) (right : Stands r k b)
    (notString : t.isString = false) (notEnumeration : t.isEnumeration = false)
    {x y : Sized i} (widened : widenPair? l r = some (.int i x y)) :
    i.Computes x.val y.val fun op => combine op l r t where
  wraps op f unchecked := by
    have done : x.calculate op y = .ok (Sized.wrap i (f x.val y.val)) :=
      Sized.calculate_exact x y unchecked
    exact ⟨_, combine_computed left right notString notEnumeration widened
      (BinaryOp.integral_of_exact unchecked) done, Sized.wrap_congruent i _⟩
  checks op f checked := by
    have settled := Sized.calculate_exact x y checked
    have integral := BinaryOp.integral_of_exact checked
    have refused (outside : ¬ i.Holds (f x.val y.val)) :=
      combine_refused left right notString notEnumeration widened integral
        (settled.trans (Sized.settle_outside outside))
    have computed (holds : i.Holds (f x.val y.val)) :=
      combine_computed left right notString notEnumeration widened integral
        (settled.trans (Sized.settle_holds holds))
    refine ⟨⟨?_, refused⟩, fun holds => ⟨_, computed holds, rfl⟩⟩
    intro overflowed holds
    cases overflowed.symm.trans (computed holds)
  divides op f divided := by
    have integral := BinaryOp.integral_of_part divided
    have byZero (zero : y.val = 0) :=
      combine_refused left right notString notEnumeration widened integral
        (Sized.calculate_zero x y divided zero)
    have overflow (least : i.signed = true ∧ x.val = i.min ∧ y.val = -1) :=
      combine_refused left right notString notEnumeration widened integral
        (Sized.calculate_least x y divided least.1 least.2.1 least.2.2)
    have computed (nonzero : y.val ≠ 0)
        (within : ¬ (i.signed = true ∧ x.val = i.min ∧ y.val = -1)) :
        ∃ m : Sized i, combine op l r t = .ok (.int i m) ∧ m.val = f x.val y.val := by
      obtain ⟨m, done, exact⟩ := Sized.calculate_part x y divided nonzero within
      exact ⟨m, combine_computed left right notString notEnumeration widened integral done, exact⟩
    refine ⟨⟨?_, byZero⟩, ⟨?_, overflow⟩, computed⟩
    · intro failed
      by_contra nonzero
      by_cases least : i.signed = true ∧ x.val = i.min ∧ y.val = -1
      · cases failed.symm.trans (overflow least)
      · obtain ⟨m, done, -⟩ := computed nonzero least
        cases failed.symm.trans done
    · intro failed
      by_contra within
      by_cases zero : y.val = 0
      · cases failed.symm.trans (byZero zero)
      · obtain ⟨m, done, -⟩ := computed zero within
        cases failed.symm.trans done
  bits op f bitwise := by
    obtain ⟨m, done, bits⟩ := Sized.calculate_bits x y bitwise
    exact ⟨m, combine_computed left right notString notEnumeration widened
      (BinaryOp.integral_of_bits bitwise) done, bits⟩

/-- Integer operators compute exactly in the common kind of their operands. -/
theorem integer_operators_exact (left : Stands l j a) (right : Stands r k b)
    (notString : t.isString = false) (notEnumeration : t.isEnumeration = false) :
    (∀ common, j.promote k = some common → ∃ i, common = .int i ∧
      (∃ x y : Sized i, widenPair? l r = some (.int i x y) ∧ x.val = a ∧ y.val = b) ∧
      i.Computes a b fun op => combine op l r t) ∧
    (j.promote k = none ↔
      j = .int .u64 ∧ k.isSigned = true ∨ j.isSigned = true ∧ k = .int .u64) ∧
    (j.promote k = none → ∀ op : BinaryOp, op.isIntegral = true →
      combine op l r t =
        .error (.expression (.undefinedOperator op.symbol [l.kindName, r.kindName]))) := by
  refine ⟨?_, NumericKind.promote_none_iff, ?_⟩
  · intro common found
    obtain ⟨i, rfl⟩ :=
      NumericKind.promote_whole (stands_integral left).1 (stands_integral right).1 found
    obtain ⟨x, y, widened, rfl, rfl⟩ := widenPair_stands left right found
    exact ⟨i, rfl, ⟨x, y, widened, rfl, rfl⟩,
      combine_computes left right notString notEnumeration widened⟩
  · intro apart op integral
    exact combine_undefined left right notString notEnumeration apart integral

theorem least_under_sign :
    let l : Value := .int .i64 ⟨-2 ^ 63, by decide⟩
    let r : Value := .enumeration "Sign" (.int .i8 ⟨-1, by decide⟩)
    let t : DataType := .nullable .string
    Stands l (.int .i64) (-2 ^ 63) ∧ Stands r (.int .i8) (-1) ∧ t.isString = false ∧
      t.isEnumeration = false ∧
      combine .divide l r t = .error (.invocation "operator /" .overflow) ∧
      ∃ m : Sized .i64, combine (.add false) l r t = .ok (.int .i64 m) ∧ m.val = 2 ^ 63 - 1 := by
  intro l r t
  have left : Stands l (.int .i64) (-2 ^ 63) := .number (.int ⟨-2 ^ 63, by decide⟩)
  have right : Stands r (.int .i8) (-1) := .enumeration (.int ⟨-1, by decide⟩)
  obtain ⟨promoted, -, -⟩ := integer_operators_exact (t := t) left right rfl rfl
  obtain ⟨i, same, -, computes⟩ := promoted (.int .i64) rfl
  cases same
  have overflow := (computes.divides .divide Int.tdiv rfl).2.1.2 ⟨rfl, rfl, rfl⟩
  obtain ⟨m, done, low⟩ := computes.wraps (.add false) _ rfl
  have exact : m.val = 2 ^ 63 - 1 := by
    have range := m.property
    simp only [IntKind.Holds, IntKind.min, IntKind.max, IntKind.signed, IntKind.width] at range
    simp only [Int.ModEq, IntKind.width] at low
    omega
  exact ⟨left, right, rfl, rfl, overflow, m, done, exact⟩

end Value
end ExprSql
