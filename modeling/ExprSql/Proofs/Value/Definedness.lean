import ExprSql.Proofs.Value.Comparison
import ExprSql.Proofs.Value.Kind

namespace ExprSql

namespace BinaryOp

def computesOn (op : BinaryOp) (l r : Value.Kind) : Prop :=
  match op with
  | .compare c => c.isEquality = true ∨ l.common? r ≠ none
  | .bitwise .shiftLeft | .bitwise .shiftRight =>
      l.operand.numeric?.any NumericKind.isInteger = true ∧ r.operand.isWhole = true
  | .bitwise _ => ∃ k, l.common? r = some (.int k)
  | .andAlso | .orElse | .coalesce | .index => False
  | _ => l.common? r ≠ none

/-- Whether the kinds of the operands allow the operator, at a node of type `t`. -/
def definedOn (op : BinaryOp) (t : DataType) (l r : Value.Kind) : Prop :=
  l = .null ∨ r = .null ∨
    (op.isAdd = true ∧ (t.isString = true ∨ l = .string ∨ r = .string)) ∨
    ((Value.connective? op).isSome = true ∧ l = .bool ∧ r = .bool) ∨ op.computesOn l r

def isNumeric : BinaryOp → Bool
  | .compare c => !c.isEquality
  | op => op.isArithmetic

end BinaryOp

inductive BinaryOp.Fails (op : BinaryOp) (overZero : Prop) : Fault → Prop
  | overflow : Fails op overZero .overflow
  | divideByZero (divides : op = .divide ∨ op = .modulo) (zero : overZero) :
    Fails op overZero .divideByZero
  | undefined (apart : op.isArithmetic = false) : Fails op overZero .undefined

section
variable {op : BinaryOp} {fault : Fault}

theorem BinaryOp.fails_of_division {α : Type} {x : Except Fault α} {zero : Prop} [Decidable zero]
    (divides : op = .divide ∨ op = .modulo)
    (failed : (if zero then .error .divideByZero else x) = .error fault)
    (overflow : x = .error fault → fault = .overflow) : op.Fails zero fault := by
  split at failed
  · rename_i overZero
    cases failed
    exact .divideByZero divides overZero
  · exact overflow failed ▸ .overflow

theorem Sized.settle_fault {k : IntKind} {checked : Bool} {n : Int}
    (failed : (settle checked n : Except Fault (Sized k)) = .error fault) : fault = .overflow := by
  unfold settle at failed
  split at failed
  · cases fits : fit? k n <;> simp only [fits, Option.elim] at failed <;> cases failed
    rfl
  · cases failed

theorem Sized.calculate_fails {k : IntKind} {a b : Sized k}
    (failed : calculate op a b = .error fault) : op.Fails (b.val = 0) fault := by
  cases op with
  | add | subtract | multiply => exact settle_fault failed ▸ .overflow
  | divide => exact BinaryOp.fails_of_division (.inl rfl) failed settle_fault
  | modulo =>
    refine BinaryOp.fails_of_division (.inr rfl) failed fun failed => ?_
    split at failed
    · cases failed
      rfl
    · exact settle_fault failed
  | bitwise op => cases op <;> cases failed <;> exact .undefined rfl
  | _ =>
    cases failed
    exact .undefined rfl

theorem Binary.calculate_fails {w : FloatKind} {a b : Binary w}
    (failed : calculate op a b = .error fault) : op.Fails False fault := by
  cases op with
  | add | subtract | multiply | divide | modulo => cases failed
  | _ =>
    cases failed
    exact .undefined rfl

theorem Decimal.calculate_fails {a b : Decimal} (failed : calculate op a b = .error fault) :
    op.Fails (b.isZero = true) fault := by
  have overflow {r : Option Decimal}
      (failed : (r.elim (.error .overflow) .ok : Except Fault Decimal) = .error fault) :
      fault = .overflow := by
    cases r <;> cases failed
    rfl
  cases op with
  | add | subtract | multiply => exact overflow failed ▸ .overflow
  | divide => exact BinaryOp.fails_of_division (.inl rfl) failed overflow
  | modulo => exact BinaryOp.fails_of_division (.inr rfl) failed overflow
  | _ =>
    cases failed
    exact .undefined rfl

end

/-- Whether the second operand is zero, floats apart: they are divided by zero. -/
def Pair.overZero : Pair → Prop
  | .int _ _ b => b.val = 0
  | .float .. => False
  | .decimal _ b => b.isZero = true

namespace Value

variable {l r v : Value} {t : DataType} {op : BinaryOp} {fault : Fault}

theorem map_error {ε α : Type} {x : Except ε α} {f : α → Value} {e : ε}
    (failed : x.map f = .error e) : x = .error e := by
  cases x <;> cases failed
  rfl

theorem widen_int : (∃ k n, v.widen? = some (.int k n)) ↔
    v.kind.operand.numeric?.any NumericKind.isInteger = true := by
  rw [← kind_operand, ← kind_numeric]
  unfold widen?
  split
  · rename_i d decimal
    simp [decimal, numericKind?]
  · cases number : v.operand.numericKind? with
    | none => simp
    | some k =>
      by_cases integral : k.isInteger = true
      · obtain ⟨i, promoted⟩ := NumericKind.promoteUnary_whole integral
        obtain ⟨n, widened⟩ := widenInt_number i number
        simp [promoted, widened, integral]
      · cases k with
        | float w =>
          obtain ⟨x, widened⟩ := widenFloat_number w number
          simp [NumericKind.promoteUnary, widened, integral]
        | _ => exact absurd rfl integral

theorem shift_undefined {left : Bool} : shift left l r = .error .undefined ↔
    ¬ (l.kind.operand.numeric?.any NumericKind.isInteger = true ∧
      r.kind.operand.isWhole = true) := by
  rw [← widen_int, ← kind_operand, ← kind_whole]
  unfold shift
  split
  · rename_i counted widened
    simp [counted, widened]
  · rename_i apart
    simp only [true_iff]
    rintro ⟨⟨k, n, widened⟩, counted⟩
    obtain ⟨m, counted⟩ := Option.isSome_iff_exists.1 counted
    exact apart m k n counted widened

def Undefined (x : Except Failure Value) : Prop :=
  ∃ symbol kinds, x = .error (.expression (.undefinedOperator symbol kinds))

theorem numeric_unconnected (operator : op.isNumeric = true) : connective? op = none := by
  cases op with
  | bitwise | andAlso | orElse => cases operator
  | _ => rfl

theorem numeric_computes (operator : op.isNumeric = true) {j k : Kind}
    (common : j.common? k ≠ none) : op.computesOn j k := by
  cases op with
  | compare => exact .inr common
  | add | subtract | multiply | divide | modulo => exact common
  | _ => cases operator

theorem joins_kinds : joins op l r t = true ↔
    op.isAdd = true ∧ (t.isString = true ∨ l.kind = .string ∨ r.kind = .string) := by
  simp only [joins, Bool.and_eq_true, Bool.or_eq_true, kind_string, or_assoc]

section
variable [Decimal.FromBinary]

theorem arithmetic_fails {pair : Pair} (widened : widenPair? l r = some pair)
    (failed : arithmetic op l r = .error fault) : op.Fails pair.overZero fault := by
  simp only [arithmetic, widened] at failed
  cases pair with
  | int k a b => exact Sized.calculate_fails (map_error failed)
  | float w a b => exact Binary.calculate_fails (map_error failed)
  | decimal a b => exact Decimal.calculate_fails (map_error failed)

theorem bitwise_undefined {b : Bitwise} (integral : (BinaryOp.bitwise b).isIntegral = true) :
    arithmetic (.bitwise b) l r = .error .undefined ↔
      ¬ ∃ k, l.kind.common? r.kind = some (.int k) := by
  have meets : arithmetic (.bitwise b) l r = .error .undefined ↔
      ¬ ∃ k, (widenPair? l r).map Pair.type = some (.int k) := by
    unfold arithmetic
    cases widenPair? l r with
    | none => simp
    | some pair =>
      cases pair with
      | int k a c =>
        cases b with
        | and | or | xor => simp [Sized.calculate, Sized.bitwise, Except.map, Pair.type]
        | _ => cases integral
      | float w a c => simp [Binary.calculate, Except.map, Pair.type]
      | decimal a c => simp [Decimal.calculate, Except.map, Pair.type]
  rw [meets, widenPair_common]
  split
  · rename_i beyond
    simp [common_of_beyond beyond]
  · rfl

theorem numeric_undefined (operator : op.isArithmetic = true) :
    arithmetic op l r = .error .undefined ↔
      l.kind.common? r.kind = none ∨ beyondDecimal l r = true := by
  rw [or_comm, ← widenPair_none]
  constructor
  · intro undefined
    cases widened : widenPair? l r with
    | none => rfl
    | some pair =>
      cases arithmetic_fails widened undefined with
      | undefined apart => exact absurd operator (by simp [apart])
  · intro apart
    simp only [arithmetic, apart]

theorem compare_undefined {c : Comparison} : compare c l r = .error .undefined ↔
    c.isEquality = false ∧ l.isNull = false ∧ r.isNull = false ∧ widenPair? l r = none := by
  cases c with
  | equal | notEqual => simp [compare, Comparison.isEquality]
  | _ =>
    simp only [compare]
    split
    · rename_i null
      rw [Bool.or_eq_true] at null
      rcases null with null | null <;> simp [null]
    · rename_i present
      rw [Bool.or_eq_true, not_or] at present
      split <;> simp_all [Comparison.isEquality]

theorem calculate_undefined (notCompare : op.isComparison = false) :
    calculate op l r = .error .undefined ↔ l.kind ≠ .null ∧ r.kind ≠ .null ∧
      (¬ op.computesOn l.kind r.kind ∨ op.isNumeric = true ∧ beyondDecimal l r = true) := by
  unfold calculate
  split
  · rename_i null
    rw [Bool.or_eq_true, kind_null, kind_null] at null
    rcases null with null | null <;> simp [null]
  · rename_i present
    rw [Bool.or_eq_true, kind_null, kind_null, not_or] at present
    simp only [ne_eq, present, not_false_eq_true, true_and]
    cases op with
    | add | subtract | multiply | divide | modulo =>
      rw [numeric_undefined rfl]
      simp [BinaryOp.isNumeric, BinaryOp.isArithmetic, BinaryOp.arithmetic?, BinaryOp.computesOn]
    | bitwise b =>
      have notNumeric : (BinaryOp.bitwise b).isNumeric = false := rfl
      simp only [notNumeric, Bool.false_eq_true, false_and, or_false]
      cases b with
      | and | or | xor => exact bitwise_undefined rfl
      | shiftLeft | shiftRight => exact shift_undefined
    | compare c => cases notCompare
    | _ => simp [BinaryOp.computesOn]

theorem result_connected {logic : Option Bool → Option Bool → Option Bool}
    (known : connective? op = some logic) (truths : l.isTruth = true ∧ r.isTruth = true) :
    result op l r = .ok ((logic l.bool? r.bool?).elim .null .bool) := by
  unfold result
  split
  · cases known
  · simp only [known, truths, Bool.and_self, if_true]

theorem result_unconnected (notCompare : op.isComparison = false)
    (unknown : connective? op = none) : result op l r = calculate op l r := by
  unfold result
  split
  · cases notCompare
  · simp only [unknown]

theorem result_undefined : result op l r = .error .undefined ↔
    l.kind ≠ .null ∧ r.kind ≠ .null ∧
      ¬ ((connective? op).isSome = true ∧ l.kind = .bool ∧ r.kind = .bool) ∧
      (¬ op.computesOn l.kind r.kind ∨ op.isNumeric = true ∧ beyondDecimal l r = true) := by
  cases comparison : op.isComparison with
  | true =>
    cases op with
    | compare c =>
      have refused := compare_undefined (c := c) (l := l) (r := r)
      rw [widenPair_none, kind_present, kind_present] at refused
      cases equality : c.isEquality <;>
        simp [result, refused, connective?, BinaryOp.computesOn, BinaryOp.isNumeric, equality,
          or_comm]
    | _ => cases comparison
  | false =>
    have calculated := calculate_undefined (l := l) (r := r) comparison
    cases known : connective? op with
    | none => simp [result_unconnected comparison known, calculated]
    | some logic =>
      by_cases truths : l.isTruth = true ∧ r.isTruth = true
      · rw [result_connected known truths]
        rw [kind_truth, kind_truth] at truths
        constructor
        · intro undefined
          cases undefined
        · rintro ⟨left, right, untrue, -⟩
          exact absurd ⟨rfl, truths.1.resolve_left left, truths.2.resolve_left right⟩ untrue
      · rw [result_untrue comparison (by simpa using truths), calculated]
        rw [kind_truth, kind_truth] at truths
        have untrue : ¬ (l.kind = .bool ∧ r.kind = .bool) :=
          fun bools => truths ⟨.inr bools.1, .inr bools.2⟩
        simp [untrue]

theorem rewrap_defined (v : Value) (t : DataType) : ¬ Undefined (v.rewrap t) := by
  rintro ⟨symbol, kinds, undefined⟩
  unfold rewrap at undefined
  split at undefined
  · cases undefined
  · cases cast : v.cast false t <;> rw [cast] at undefined <;> cases undefined

theorem undefined_combine : Undefined (combine op l r t) ↔
    joins op l r t = false ∧ result op l r = .error .undefined := by
  rw [combine_eq]
  cases joined : joins op l r t with
  | true => simpa [Except.mapError, Except.bind] using rewrap_defined _ t
  | false =>
    cases result op l r with
    | ok v => simpa [Except.mapError, Except.bind] using rewrap_defined v t
    | error fault =>
      cases fault <;> simp [Except.mapError, Except.bind, Undefined, Fault.failure]

/-- Arithmetic, or an ordering, of a decimal and a number that has no decimal form. -/
def Unmet (op : BinaryOp) (l r : Value) (t : DataType) : Prop :=
  op.isNumeric = true ∧ joins op l r t = false ∧ beyondDecimal l r = true

theorem combine_undefined_iff (op : BinaryOp) (l r : Value) (t : DataType) :
    Undefined (combine op l r t) ↔
      ¬ op.definedOn t l.kind r.kind ∨ Unmet op l r t := by
  rw [undefined_combine, result_undefined, ← Bool.not_eq_true, BinaryOp.definedOn, Unmet,
    ← joins_kinds]
  constructor
  · rintro ⟨apart, left, right, untrue, computes | ⟨numeric, beyond⟩⟩
    · left
      tauto
    · right
      exact ⟨numeric, by simpa using apart, beyond⟩
  · rintro (undefined | ⟨numeric, apart, beyond⟩)
    · tauto
    · obtain ⟨left, right⟩ := present_of_beyond beyond
      have untrue := numeric_unconnected numeric
      simp [apart, left, right, untrue, numeric, beyond]

theorem defined_of_unmet (beyond : Unmet op l r t) : op.definedOn t l.kind r.kind := by
  obtain ⟨numeric, -, beyond⟩ := beyond
  have common : l.kind.common? r.kind ≠ none := by simp [common_of_beyond beyond]
  exact .inr (.inr (.inr (.inr (numeric_computes numeric common))))

theorem compare_defined {c : Comparison} (failed : compare c l r = .error fault) :
    fault = .undefined := by
  unfold compare at failed
  split at failed
  · cases failed
  · cases failed
  · split at failed
    · cases failed
    · split at failed <;> cases failed
      rfl

theorem calculate_overZero (failed : calculate op l r = .error .divideByZero) :
    (op = .divide ∨ op = .modulo) ∧ ∃ pair, widenPair? l r = some pair ∧ pair.overZero := by
  have shifted (left : Bool) : shift left l r ≠ .error .divideByZero := by
    unfold shift
    split <;> simp
  unfold calculate at failed
  split at failed
  · cases failed
  · split at failed
    · exact absurd failed (shifted true)
    · exact absurd failed (shifted false)
    any_goals cases failed
    cases widened : widenPair? l r with
    | none =>
      simp only [arithmetic, widened] at failed
      cases failed
    | some pair =>
      cases arithmetic_fails widened failed with
      | divideByZero divides zero => exact ⟨divides, pair, rfl, zero⟩

theorem result_overZero (failed : result op l r = .error .divideByZero) :
    (op = .divide ∨ op = .modulo) ∧ ∃ pair, widenPair? l r = some pair ∧ pair.overZero := by
  unfold result at failed
  split at failed
  · cases compare_defined failed
  · split at failed
    · split at failed
      · cases failed
      · exact calculate_overZero failed
    · exact calculate_overZero failed

theorem combine_fails {failure : Failure} (plain : t.isEnumeration = false)
    (failed : combine op l r t = .error failure) :
    Undefined (combine op l r t) ∨
      failure = .invocation s!"operator {op.symbol}" .overflow ∨
      failure = .invocation s!"operator {op.symbol}" (.failed .divideByZero) ∧
        (op = .divide ∨ op = .modulo) ∧
        ∃ pair, widenPair? l r = some pair ∧ pair.overZero := by
  rw [combine_eq] at failed
  split at failed
  · simp only [Except.mapError, Except.bind, rewrap_plain plain] at failed
    cases failed
  · rename_i apart
    cases outcome : result op l r with
    | ok v =>
      simp only [outcome, Except.mapError, Except.bind, rewrap_plain plain] at failed
      cases failed
    | error fault =>
      simp only [outcome, Except.mapError, Except.bind, Except.error.injEq] at failed
      subst failed
      cases fault with
      | undefined => exact .inl (undefined_combine.2 ⟨Bool.eq_false_iff.2 apart, outcome⟩)
      | overflow => exact .inr (.inl rfl)
      | divideByZero => exact .inr (.inr ⟨rfl, result_overZero outcome⟩)

/-- Whichever floats have a decimal form, the kinds of the operands decide whether an operator is
defined, and where it is, only an overflow or a division by zero makes it fail. The exception is a
float without that form: beside a decimal, its arithmetic and orderings are refused as undefined. -/
theorem operators_defined_by_kind {l' r' : Value} (left : l.kind = l'.kind)
    (right : r.kind = r'.kind) (op : BinaryOp) (t : DataType) :
    (¬ Unmet op l r t → ¬ Unmet op l' r' t →
      (Undefined (combine op l r t) ↔ Undefined (combine op l' r' t))) ∧
    (Unmet op l r t → Undefined (combine op l r t) ∧
      (¬ Unmet op l' r' t → ¬ Undefined (combine op l' r' t))) ∧
    (t.isEnumeration = false → ∀ failure, combine op l r t = .error failure →
      Undefined (combine op l r t) ∨
        failure = .invocation s!"operator {op.symbol}" .overflow ∨
        failure = .invocation s!"operator {op.symbol}" (.failed .divideByZero) ∧
          (op = .divide ∨ op = .modulo) ∧
          ∃ pair, widenPair? l r = some pair ∧ pair.overZero) := by
  have first := combine_undefined_iff op l r t
  have second := combine_undefined_iff op l' r' t
  rw [← left, ← right] at second
  refine ⟨fun fits fits' => ?_, fun beyond => ⟨first.2 (.inr beyond), fun fits => ?_⟩,
    fun plain failure failed => combine_fails plain failed⟩
  · rw [first, second, or_iff_left fits, or_iff_left fits']
  · rw [second, or_iff_left fits, not_not]
    exact defined_of_unmet beyond

end

theorem infinite_distance_unordered :
    let endless : Value := .float .f32 (.infinity false)
    let near : Value := .float .f32 (.ofInt .f32 3)
    let far : Value := .float .f32 (.ofInt .f32 (2 ^ 90))
    let limit : Value := .enumeration "Limit" (.decimal Decimal.zero)
    let less (v : Value) := combine (.compare .less) v limit .bool
    endless.kind = near.kind ∧ near.kind = far.kind ∧
      Unmet (.compare .less) endless limit .bool ∧
      ¬ Unmet (.compare .less) near limit .bool ∧
      ¬ Unmet (.compare .less) far limit .bool ∧
      Undefined (less endless) ∧ ¬ Undefined (less near) ∧ ¬ Undefined (less far) := by
  intro endless near far limit less
  have unmet : Unmet (.compare .less) endless limit .bool := ⟨rfl, rfl, rfl⟩
  have nearFits : beyondDecimal near limit = false := by decide +kernel
  have farFits : beyondDecimal far limit = false := by decide +kernel
  have nearHeld : ¬ Unmet (.compare .less) near limit .bool := by
    rintro ⟨-, -, beyond⟩
    exact absurd beyond (by simp [nearFits])
  have farHeld : ¬ Unmet (.compare .less) far limit .bool := by
    rintro ⟨-, -, beyond⟩
    exact absurd beyond (by simp [farFits])
  have endlessKind : endless.kind = near.kind := rfl
  have nearKind : near.kind = far.kind := rfl
  have limitKind : limit.kind = limit.kind := rfl
  obtain ⟨-, refused, -⟩ :=
    operators_defined_by_kind endlessKind limitKind (.compare .less) .bool
  obtain ⟨agree, -, -⟩ := operators_defined_by_kind nearKind limitKind (.compare .less) .bool
  have ordered := (refused unmet).2 nearHeld
  exact ⟨endlessKind, nearKind, unmet, nearHeld, farHeld, (refused unmet).1, ordered,
    mt (agree nearHeld farHeld).2 ordered⟩

/-- One added to a float is refused as undefined at a magnitude that no decimal has. -/
theorem decimal_added_to_float :
    let small : Value := .float .f64 (.ofInt .f64 1)
    let large : Value := .float .f64 (.ofInt .f64 (2 ^ 100))
    let one : Value := .decimal (.ofInt 1 (by decide))
    small.kind = large.kind ∧
      ¬ Undefined (combine (.add false) small one .decimal) ∧
      combine (.add false) large one .decimal =
        .error (.expression (.undefinedOperator "+" ["f64", "decimal"])) := by
  intro small large one
  have fits : beyondDecimal small one = false := by decide +kernel
  have unfit : beyondDecimal large one = true := by decide +kernel
  have added : ¬ Undefined (combine (.add false) small one .decimal) := by
    rw [combine_undefined_iff, not_or, not_not]
    have meet : small.kind.common? one.kind ≠ none := by decide
    refine ⟨.inr (.inr (.inr (.inr (numeric_computes rfl meet)))), ?_⟩
    rintro ⟨-, -, beyond⟩
    exact absurd beyond (by simp [fits])
  obtain ⟨left, right⟩ := present_of_beyond unfit
  have undefined : result (.add false) large one = .error .undefined :=
    result_undefined.2 ⟨left, right, by simp [connective?], .inr ⟨rfl, unfit⟩⟩
  refine ⟨by simp only [small, large, kind], added, ?_⟩
  rw [combine_apart rfl, undefined]
  rfl

end Value
end ExprSql
