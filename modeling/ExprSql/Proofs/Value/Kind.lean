import ExprSql.Proofs.Value.Enumerated
import ExprSql.Proofs.Value.StaticType

namespace ExprSql

namespace Value

/-- What is left of a value without its magnitude or contents. -/
inductive Kind where
  | null | bool | string | decimal | array | list | record
  | numeric (k : NumericKind)
  | enumeration (backing : Kind)
  deriving DecidableEq, Repr

def kind : Value → Kind
  | .null => .null
  | .bool _ => .bool
  | .char _ => .numeric .char
  | .int k _ => .numeric (.int k)
  | .float k _ => .numeric (.float k)
  | .decimal _ => .decimal
  | .string _ => .string
  | .enumeration _ backing => .enumeration backing.kind
  | .array _ => .array
  | .list _ => .list
  | .record .. => .record

namespace Kind

def operand : Kind → Kind
  | .enumeration backing => backing
  | k => k

def numeric? : Kind → Option NumericKind
  | .numeric k => some k
  | _ => none

def isWhole : Kind → Bool
  | .numeric k => k.isInteger
  | .enumeration backing => backing.isWhole
  | _ => false

def isNumber : Kind → Bool
  | .numeric _ | .decimal => true
  | .enumeration backing => backing.isNumber
  | _ => false

/-- The type in which numbers of the two kinds meet. Beside a decimal a null counts as zero, which
takes an enumeration over it. -/
def common? (l r : Kind) : Option DataType :=
  if l.operand = .decimal ∨ r.operand = .decimal then
    if (l.operand = .null ∨ l.operand.isNumber) ∧
        (r.operand = .null ∨ r.operand.isNumber) then some .decimal
    else none
  else do
    let j ← l.operand.numeric?
    let k ← r.operand.numeric?
    (j.promote k).map .numeric

end Kind

variable {l r v : Value} {t : DataType} {op : BinaryOp} {k : NumericKind}

theorem kind_operand (v : Value) : v.operand.kind = v.kind.operand := by cases v <;> rfl

theorem kind_numeric (v : Value) : v.numericKind? = v.kind.numeric? := by cases v <;> rfl

theorem kind_decimal (v : Value) : v.isDecimal = true ↔ v.kind = .decimal := by
  cases v <;> simp [isDecimal, kind]

theorem kind_null (v : Value) : v.isNull = true ↔ v.kind = .null := by
  cases v <;> simp [isNull, kind]

theorem kind_present (v : Value) : v.isNull = false ↔ v.kind ≠ .null := by
  rw [← Bool.not_eq_true, Ne, kind_null]

theorem kind_string (v : Value) : v.isString = true ↔ v.kind = .string := by
  cases v <;> simp [isString, kind]

theorem kind_truth (v : Value) : v.isTruth = true ↔ v.kind = .null ∨ v.kind = .bool := by
  cases v <;> simp [isTruth, isNull, bool?, kind]

theorem kind_whole (v : Value) : v.integer?.isSome = v.kind.isWhole := by
  fun_induction integer? v with
  | case1 => rfl
  | case2 => rfl
  | case3 name backing ih => exact ih
  | case4 v notInt notChar notEnumeration =>
    cases v with
    | int k n => exact (notInt k n rfl).elim
    | char c => exact (notChar c rfl).elim
    | enumeration name backing => exact (notEnumeration name backing rfl).elim
    | _ => rfl

theorem source_number (number : v.numericKind? = some k) : ∃ source, v.source? = some source := by
  cases v with
  | int | float | char => exact ⟨_, rfl⟩
  | _ => cases number

theorem widenInt_number (i : IntKind) (number : v.numericKind? = some k) :
    ∃ n, v.widenInt? i = some n := by
  obtain ⟨source, found⟩ := source_number number
  cases source <;> exact ⟨_, by rw [widenInt?, found]; rfl⟩

theorem widenFloat_number (w : FloatKind) (number : v.numericKind? = some k) :
    ∃ x, v.widenFloat? w = some x := by
  obtain ⟨source, found⟩ := source_number number
  exact ⟨_, by rw [widenFloat?, found]; rfl⟩

theorem promote_counted (j k : NumericKind) : j.promote k ≠ some .char := by
  simp only [NumericKind.promote]
  split_ifs <;> simp

section
variable [Decimal.FromBinary]

def fitsDecimal : Value → Bool
  | .float _ x => (Decimal.FromBinary.fromBinary? x).isSome
  | .enumeration _ backing => backing.fitsDecimal
  | _ => true

/-- A decimal stands beside a number that has no decimal form. -/
def beyondDecimal (l r : Value) : Bool :=
  (l.operand.isDecimal || r.operand.isDecimal) &&
    !(l.operand.fitsDecimal && r.operand.fitsDecimal)

theorem toDecimal_some (v : Value) :
    v.toDecimal.toOption.isSome = (v.kind.isNumber && v.fitsDecimal) := by
  fun_induction toDecimal v with
  | case1 d => rfl
  | case2 k x =>
    simp only [kind, Kind.isNumber, fitsDecimal, Bool.true_and]
    cases Decimal.FromBinary.fromBinary? x <;> rfl
  | case3 => rfl
  | case4 => rfl
  | case5 name backing ih => exact ih
  | case6 v notDecimal notFloat notInt notChar notEnumeration =>
    cases v with
    | decimal d => exact (notDecimal d rfl).elim
    | float k x => exact (notFloat k x rfl).elim
    | int k n => exact (notInt k n rfl).elim
    | char c => exact (notChar c rfl).elim
    | enumeration name backing => exact (notEnumeration name backing rfl).elim
    | _ => rfl

theorem widenDecimal_some (v : Value) : v.widenDecimal?.isSome = true ↔
    (v.kind = .null ∨ v.kind.isNumber = true) ∧ v.fitsDecimal = true := by
  by_cases null : v.kind = .null
  · have := (kind_null v).2 null
    cases v <;> cases this
    simp [widenDecimal?, cast, isNull, kind, fitsDecimal, DataType.default]
  · have present : v.isNull = false := Bool.eq_false_iff.2 (mt (kind_null v).1 null)
    have found := toDecimal_some v
    simp only [null, false_or, ← Bool.and_eq_true, ← found]
    unfold widenDecimal?
    simp only [cast, present, Bool.false_eq_true, if_false]
    cases v.toDecimal <;> rfl

theorem widenPair_numbers (apart : (l.operand.isDecimal || r.operand.isDecimal) = false) :
    (widenPair? l r).map Pair.type = (do
      let j ← l.operand.numericKind?
      let k ← r.operand.numericKind?
      (j.promote k).map .numeric) := by
  unfold widenPair?
  simp only [apart, Bool.false_eq_true, if_false]
  cases left : l.operand.numericKind? with
  | none => rfl
  | some j =>
    cases right : r.operand.numericKind? with
    | none => rfl
    | some k =>
      simp only [Option.bind_eq_bind, Option.bind_some]
      cases promoted : j.promote k with
      | none => rfl
      | some common =>
        cases common with
        | int i =>
          obtain ⟨a, leftWidened⟩ := widenInt_number i left
          obtain ⟨b, rightWidened⟩ := widenInt_number i right
          simp only [leftWidened, rightWidened]
          rfl
        | float w =>
          obtain ⟨a, leftWidened⟩ := widenFloat_number w left
          obtain ⟨b, rightWidened⟩ := widenFloat_number w right
          simp only [leftWidened, rightWidened]
          rfl
        | char => exact absurd promoted (promote_counted j k)

theorem widenPair_decimals (decimal : (l.operand.isDecimal || r.operand.isDecimal) = true) :
    (widenPair? l r).map Pair.type =
      if l.operand.widenDecimal?.isSome ∧ r.operand.widenDecimal?.isSome then some .decimal
      else none := by
  unfold widenPair?
  simp only [decimal, if_true]
  cases l.operand.widenDecimal? <;> cases r.operand.widenDecimal? <;> rfl

theorem widenPair_common (l r : Value) : (widenPair? l r).map Pair.type =
    if beyondDecimal l r then none else l.kind.common? r.kind := by
  have decimals : (l.operand.isDecimal || r.operand.isDecimal) = true ↔
      l.kind.operand = .decimal ∨ r.kind.operand = .decimal := by
    rw [Bool.or_eq_true, kind_decimal, kind_decimal, kind_operand, kind_operand]
  by_cases decimal : (l.operand.isDecimal || r.operand.isDecimal) = true
  · rw [widenPair_decimals decimal]
    simp only [widenDecimal_some, kind_operand, beyondDecimal, decimal, Bool.true_and, Kind.common?,
      if_pos (decimals.1 decimal)]
    cases l.operand.fitsDecimal <;> cases r.operand.fitsDecimal <;> simp
  · rw [widenPair_numbers (by simpa using decimal)]
    simp only [beyondDecimal, Bool.eq_false_iff.2 decimal, Bool.false_and, Bool.false_eq_true,
      if_false, Kind.common?, if_neg (mt decimals.2 decimal), kind_numeric, kind_operand]

theorem widenPair_none : widenPair? l r = none ↔
    beyondDecimal l r = true ∨ l.kind.common? r.kind = none := by
  rw [← Option.map_eq_none_iff, widenPair_common]
  cases beyondDecimal l r <;> simp

theorem unfit_number (unfit : v.fitsDecimal = false) : v.kind.isNumber = true := by
  fun_induction fitsDecimal v with
  | case1 => rfl
  | case2 name backing ih => exact ih unfit
  | case3 => cases unfit

theorem decimal_number (decimal : v.isDecimal = true) :
    v.kind.isNumber = true ∧ v.fitsDecimal = true := by
  cases v with
  | decimal d => exact ⟨rfl, rfl⟩
  | _ => cases decimal

theorem numbers_of_beyond (beyond : beyondDecimal l r = true) :
    l.kind.operand.isNumber = true ∧ r.kind.operand.isNumber = true := by
  simp only [beyondDecimal, Bool.and_eq_true, Bool.or_eq_true, Bool.not_eq_true',
    Bool.and_eq_false_iff] at beyond
  rw [← kind_operand, ← kind_operand]
  obtain ⟨left | right, unfit⟩ := beyond
  · obtain ⟨number, fits⟩ := decimal_number left
    simp only [fits, Bool.true_eq_false, false_or] at unfit
    exact ⟨number, unfit_number unfit⟩
  · obtain ⟨number, fits⟩ := decimal_number right
    simp only [fits, Bool.true_eq_false, or_false] at unfit
    exact ⟨unfit_number unfit, number⟩

theorem present_of_beyond (beyond : beyondDecimal l r = true) :
    l.kind ≠ .null ∧ r.kind ≠ .null := by
  obtain ⟨left, right⟩ := numbers_of_beyond beyond
  constructor
  · intro null
    rw [null] at left
    cases left
  · intro null
    rw [null] at right
    cases right

theorem common_of_beyond (beyond : beyondDecimal l r = true) :
    l.kind.common? r.kind = some .decimal := by
  have numbers := numbers_of_beyond beyond
  have decimal : l.kind.operand = .decimal ∨ r.kind.operand = .decimal := by
    simp only [beyondDecimal, Bool.and_eq_true, Bool.or_eq_true, kind_decimal,
      kind_operand] at beyond
    exact beyond.1
  simp only [Kind.common?, if_pos decimal, numbers, or_true, and_self, if_true]

end

end Value
end ExprSql
