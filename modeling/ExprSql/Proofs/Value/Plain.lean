import ExprSql.Proofs.Numeric.Sized
import ExprSql.Value.Operators

namespace ExprSql

def DataType.IsPlain (t : DataType) : Prop := t = .bool ∨ t = .int .i32 ∨ t = .int .i64

inductive Value.IsPlain : Value → Prop
  | bool (b : Bool) : IsPlain (.bool b)
  | int32 (n : Sized .i32) : IsPlain (.int .i32 n)
  | int64 (n : Sized .i64) : IsPlain (.int .i64 n)

abbrev Row := List (String × Value)

def BinaryOp.unchecked : BinaryOp → BinaryOp
  | .add _ => .add false
  | .subtract _ => .subtract false
  | .multiply _ => .multiply false
  | op => op

namespace DataType.IsPlain

variable {t : DataType}

theorem not_string (plain : t.IsPlain) : t.isString = false := by
  rcases plain with rfl | rfl | rfl <;> rfl

theorem not_enumeration (plain : t.IsPlain) : t.isEnumeration = false := by
  rcases plain with rfl | rfl | rfl <;> rfl

end DataType.IsPlain

theorem Value.IsPlain.type {v : Value} (plain : v.IsPlain) : v.type.IsPlain := by
  cases plain with
  | bool b => exact .inl rfl
  | int32 n => exact .inr (.inl rfl)
  | int64 n => exact .inr (.inr rfl)

namespace Sized

variable {k : IntKind}

theorem settle_unchecked {checked : Bool} {n : Int} {m : Sized k}
    (settled : settle checked n = .ok m) : settle false n = .ok m := by
  cases checked with
  | false => exact settled
  | true =>
    cases fits : fit? k n with
    | none => simp [settle, fits] at settled
    | some found =>
      simp only [settle, fits, if_true, Option.elim_some] at settled
      rw [← settled]
      simp [settle, wrap_of_fit fits]

theorem calculate_unchecked {op : BinaryOp} {a b m : Sized k} (done : calculate op a b = .ok m) :
    calculate op.unchecked a b = .ok m := by
  cases op with
  | add checked => exact settle_unchecked done
  | subtract checked => exact settle_unchecked done
  | multiply checked => exact settle_unchecked done
  | _ => exact done

end Sized

namespace Value

variable {l r v : Value}

theorem widenPair_plain (left : l.IsPlain) (right : r.IsPlain) {pair : Pair}
    (widened : widenPair? l r = some pair) :
    (∃ a b, pair = .int .i32 a b) ∨ ∃ a b, pair = .int .i64 a b := by
  cases left <;> cases right <;>
    simp [widenPair?, operand, isDecimal, numericKind?, NumericKind.promote, NumericKind.isSigned,
      IntKind.signed, Option.bind_eq_some_iff, -Subtype.exists] at widened
  all_goals
    obtain ⟨a, -, b, -, rfl⟩ := widened
    simp

theorem map_ok {ε α : Type} {x : Except ε α} {f : α → Value} (done : x.map f = .ok v) :
    ∃ a, x = .ok a ∧ f a = v := by
  cases x with
  | error e => cases done
  | ok a => exact ⟨a, rfl, Except.ok.inj done⟩

theorem bind_done {ε α : Type} {x : Except ε α} {f : α → Except ε Value}
    (done : x >>= f = .ok v) : ∃ a, x = .ok a ∧ f a = .ok v := by
  cases x with
  | error e => cases done
  | ok a => exact ⟨a, rfl, done⟩

theorem arithmetic_unchecked {op : BinaryOp} (done : arithmetic op l r = .ok v) :
    arithmetic op.unchecked l r = .ok v := by
  unfold arithmetic at done ⊢
  split at done
  · cases done
  · obtain ⟨n, calculated, rfl⟩ := map_ok done
    rw [Sized.calculate_unchecked calculated]
    rfl
  · rw [← done]
    cases op <;> rfl
  · rw [← done]
    cases op <;> rfl

theorem calculate_unchecked {op : BinaryOp} (done : calculate op l r = .ok v) :
    calculate op.unchecked l r = .ok v := by
  unfold calculate at done ⊢
  split at done
  · rename_i absent
    rw [if_pos absent]
    exact done
  · rename_i present
    rw [if_neg present]
    cases op with
    | add checked => exact arithmetic_unchecked done
    | subtract checked => exact arithmetic_unchecked done
    | multiply checked => exact arithmetic_unchecked done
    | _ => exact done

theorem mapError_ok {ε α : Type} {x : Except ε α} {f : ε → Failure} {a : α} :
    x.mapError f = .ok a ↔ x = .ok a := by
  cases x <;> simp [Except.mapError]

def joins (op : BinaryOp) (left right : Value) (t : DataType) : Bool :=
  op.isAdd && (t.isString || left.isString || right.isString)

theorem joins_untyped {t : DataType} {op : BinaryOp} (notString : t.isString = false)
    (left : l.isString = false) (right : r.isString = false) : joins op l r t = false := by
  simp [joins, notString, left, right]

section
variable [Decimal.FromBinary]

/-- What an operator gives where no strings are joined and no enumeration is made. -/
def result (op : BinaryOp) (left right : Value) : Except Fault Value :=
  match op with
  | .compare c => compare c left right
  | op =>
      match connective? op with
      | some logic =>
          if left.isTruth && right.isTruth then
            .ok ((logic left.bool? right.bool?).elim .null .bool)
          else calculate op left right
      | none => calculate op left right

theorem rewrap_plain {t : DataType} (notEnumeration : t.isEnumeration = false) (u : Value) :
    u.rewrap t = .ok u := by
  simp [rewrap, notEnumeration]

/-- A binary operator in three steps: strings are joined or the operator is applied, a fault becomes
the failure of the node, and what comes out is turned into the node's enumeration if it has one. -/
theorem combine_eq (op : BinaryOp) (l r : Value) (t : DataType) : combine op l r t =
    ((if joins op l r t then .ok (.string (l.text ++ r.text))
      else result op l r).mapError (·.failure op.symbol [l, r])).bind (·.rewrap t) := by
  cases op <;> rfl

theorem combine_apart {t : DataType} {op : BinaryOp} (apart : joins op l r t = false) :
    combine op l r t =
      ((result op l r).mapError (·.failure op.symbol [l, r])).bind (·.rewrap t) := by
  simp only [combine_eq, apart, Bool.false_eq_true, if_false]

theorem combine_eq_result {t : DataType} {op : BinaryOp} (notString : t.isString = false)
    (notEnumeration : t.isEnumeration = false) (left : l.IsPlain) (right : r.IsPlain) :
    combine op l r t = .ok v ↔ result op l r = .ok v := by
  have leftString : l.isString = false := by cases left <;> rfl
  have rightString : r.isString = false := by cases right <;> rfl
  rw [combine_apart (joins_untyped notString leftString rightString)]
  simp only [rewrap_plain notEnumeration]
  cases result op l r <;> simp [Except.mapError, Except.bind]

theorem result_untrue {op : BinaryOp} (notCompare : op.isComparison = false)
    (untrue : (l.isTruth && r.isTruth) = false) : result op l r = calculate op l r := by
  unfold result
  split
  · cases notCompare
  · simp only [untrue]
    split <;> rfl

end

theorem result_unchecked {op : BinaryOp} (done : result op l r = .ok v) :
    result op.unchecked l r = .ok v := by
  have kept (op : BinaryOp) (done : calculate op l r = .ok v) :
      calculate op.unchecked l r = .ok v := calculate_unchecked done
  cases op with
  | add checked => exact kept (.add checked) done
  | subtract checked => exact kept (.subtract checked) done
  | multiply checked => exact kept (.multiply checked) done
  | _ => exact done

theorem compare_truth {op : Comparison} (done : compare op l r = .ok v) : ∃ b, v = .bool b := by
  unfold compare at done
  split at done
  · cases done
    exact ⟨_, rfl⟩
  · cases done
    exact ⟨_, rfl⟩
  · split at done
    · cases done
      exact ⟨_, rfl⟩
    · split at done
      · cases done
        exact ⟨_, rfl⟩
      · cases done

theorem arithmetic_plain {op : BinaryOp} (left : l.IsPlain) (right : r.IsPlain)
    (done : arithmetic op l r = .ok v) : v.IsPlain := by
  unfold arithmetic at done
  cases widened : widenPair? l r with
  | none => simp [widened] at done
  | some pair =>
    rw [widened] at done
    rcases widenPair_plain left right widened with ⟨a, b, rfl⟩ | ⟨a, b, rfl⟩
    · obtain ⟨n, -, rfl⟩ := map_ok done
      exact .int32 n
    · obtain ⟨n, -, rfl⟩ := map_ok done
      exact .int64 n

theorem widen_plain (plain : v.IsPlain) :
    v.widen? = none ∨ (∃ n, v.widen? = some (.int .i32 n)) ∨
      ∃ n, v.widen? = some (.int .i64 n) := by
  cases plain with
  | bool b => exact .inl rfl
  | int32 n => exact .inr (.inl ⟨_, rfl⟩)
  | int64 n => exact .inr (.inr ⟨_, rfl⟩)

theorem shift_plain {left : Bool} (plain : l.IsPlain) (done : shift left l r = .ok v) :
    v.IsPlain := by
  unfold shift at done
  rcases widen_plain plain with none | ⟨n, found⟩ | ⟨n, found⟩
  · simp [none] at done
  · rw [found] at done
    split at done
    · rename_i same
      cases same
      cases done
      exact .int32 _
    · cases done
  · rw [found] at done
    split at done
    · rename_i same
      cases same
      cases done
      exact .int64 _
    · cases done

theorem calculate_plain {op : BinaryOp} (left : l.IsPlain) (right : r.IsPlain)
    (done : calculate op l r = .ok v) : v.IsPlain := by
  have leftPresent : l.isNull = false := by cases left <;> rfl
  have rightPresent : r.isNull = false := by cases right <;> rfl
  unfold calculate at done
  simp only [leftPresent, rightPresent, Bool.or_self] at done
  rw [if_neg (by simp)] at done
  split at done
  · exact shift_plain left done
  · exact shift_plain left done
  any_goals cases done
  exact arithmetic_plain left right done

theorem logic_plain {op : BinaryOp} {logic : Option Bool → Option Bool → Option Bool}
    (known : connective? op = some logic) (a b : Bool) : ∃ c, logic (some a) (some b) = some c := by
  unfold connective? at known
  split at known <;> cases known <;> cases a <;> cases b <;> exact ⟨_, rfl⟩

theorem result_plain {op : BinaryOp} (left : l.IsPlain) (right : r.IsPlain)
    (done : result op l r = .ok v) : v.IsPlain := by
  unfold result at done
  split at done
  · obtain ⟨b, rfl⟩ := compare_truth done
    exact .bool b
  · split at done
    · rename_i known
      split at done
      · rename_i truths
        cases left <;> cases right <;> simp [isTruth, isNull, bool?] at truths
        rename_i a b
        obtain ⟨c, found⟩ := logic_plain known a b
        simp only [bool?, found, Option.elim_some] at done
        cases done
        exact .bool c
      · exact calculate_plain left right done
    · exact calculate_plain left right done

theorem complement_plain (plain : l.IsPlain) (done : l.complement = .ok v) : v.IsPlain := by
  cases plain <;> cases done
  · exact .bool _
  · exact .int32 _
  · exact .int64 _

theorem negate_unchecked {checked : Bool} (plain : l.IsPlain) (done : l.negate checked = .ok v) :
    l.negate false = .ok v ∧ v.IsPlain := by
  unfold negate at done ⊢
  rcases widen_plain plain with none | ⟨n, found⟩ | ⟨n, found⟩
  · simp [none] at done
  · rw [found] at done ⊢
    obtain ⟨m, settled, rfl⟩ := map_ok done
    have opposite := Sized.settle_unchecked settled
    exact ⟨congrArg (Except.map (int .i32)) opposite, .int32 m⟩
  · rw [found] at done ⊢
    obtain ⟨m, settled, rfl⟩ := map_ok done
    have opposite := Sized.settle_unchecked settled
    exact ⟨congrArg (Except.map (int .i64)) opposite, .int64 m⟩

def unaryResult (op : UnaryOp) (v : Value) : Except Fault Value :=
  match op with
  | .not => v.complement
  | .negate checked => v.negate checked
  | .plus => v.widen?.elim (.error .undefined) (.ok ∘ Scalar.value)
  | .cast _ | .length => .error .undefined

theorem apply_eq {op : UnaryOp} {t : DataType} (present : l.isNull = false) : l.apply op t =
    ((unaryResult op l).mapError (·.failure op.symbol [l])).bind (·.rewrap t) := by
  unfold apply
  rw [present]
  cases op <;> rfl

theorem apply_eq_result {t : DataType} {op : UnaryOp} (notEnumeration : t.isEnumeration = false)
    (plain : l.IsPlain) : l.apply op t = .ok v ↔ unaryResult op l = .ok v := by
  have present : l.isNull = false := by cases plain <;> rfl
  rw [apply_eq present]
  simp only [rewrap_plain notEnumeration]
  cases unaryResult op l <;> simp [Except.mapError, Except.bind]

end Value
end ExprSql
