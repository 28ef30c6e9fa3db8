import ExprSql.Proofs.Value.Instance
import ExprSql.Proofs.Value.Whole

/-!
The declared type of a binary node against what its operator gives. The type is derived from the
types of the operands and the result from their values.
-/
namespace ExprSql

namespace DataType

variable {L R t : DataType}

theorem underlying_liftedIf (nullable : Bool) (t : DataType) :
    (t.liftedIf nullable).underlying = t.underlying := by
  cases nullable <;> cases t <;> rfl

theorem promoted_of_unnumbered (left : L.underlying = t) (notDecimal : t ≠ .decimal)
    (unnumbered : t.operandKind? = none) (right : R.underlying ≠ .decimal) : L.promoted R = t := by
  simp [promoted, left, notDecimal, unnumbered, right]

theorem promoted_bools (left : L.underlying = .bool) (right : R.underlying = .bool) :
    L.promoted R = .bool :=
  promoted_of_unnumbered left (by simp) rfl (by simp [right])

theorem promoted_decimal (decimal : L.underlying = .decimal ∨ R.underlying = .decimal) :
    L.promoted R = .decimal := by
  simp [promoted, decimal]

theorem promoted_numbers {j k common : NumericKind} (left : L.underlying.operandKind? = some j)
    (right : R.underlying.operandKind? = some k) (found : j.promote k = some common) :
    L.promoted R = .numeric common := by
  have notDecimal : ¬ (L.underlying = .decimal ∨ R.underlying = .decimal) := by
    rintro (same | same)
    · rw [same] at left
      cases left
    · rw [same] at right
      cases right
  simp [promoted, notDecimal, left, right, found]

end DataType

def Pair.type : Pair → DataType
  | .int k .. => .int k
  | .float w .. => .numeric (.float w)
  | .decimal .. => .decimal

namespace Pair

theorem type_scalar (pair : Pair) : pair.type.isScalar = true := by cases pair <;> rfl

theorem type_underlying (pair : Pair) : pair.type.underlying = pair.type := by cases pair <;> rfl

end Pair

theorem BinaryOp.resultType_shift {op : BinaryOp} {L R : DataType} {k : NumericKind}
    (shifts : op = .bitwise .shiftLeft ∨ op = .bitwise .shiftRight)
    (kind : L.operandKind? = some k) :
    (op.resultType L R).underlying = .numeric k.promoteUnary := by
  rcases shifts with rfl | rfl <;> simp only [resultType, kind, DataType.underlying_liftedIf]
  all_goals rfl

theorem BinaryOp.resultType_string {op : BinaryOp} {L R : DataType} (isAdd : op.isAdd = true)
    (strung : (L.isString || R.isString) = true) : op.resultType L R = .string := by
  cases op with
  | add checked => simp only [resultType, strung, if_true]
  | _ => cases isAdd

theorem BinaryOp.resultType_integral {op : BinaryOp} {L R : DataType}
    (integral : op.isIntegral = true)
    (apart : op.isAdd = true → L.isString = false ∧ R.isString = false) :
    (op.resultType L R).underlying = (L.promoted R).underlying := by
  have common := DataType.underlying_liftedIf (L.isNullable || R.isNullable) (L.promoted R)
  cases op with
  | add checked =>
    obtain ⟨left, right⟩ := apart rfl
    simp only [resultType, left, right, Bool.or_self, Bool.false_eq_true, if_false, common]
  | bitwise b =>
    cases b with
    | and | or | xor =>
      simp only [resultType]
      split
      · rename_i both
        rw [Bool.and_eq_true] at both
        have bools := DataType.promoted_bools (of_decide_eq_true both.1) (of_decide_eq_true both.2)
        rw [bools, DataType.underlying_liftedIf]
      · exact common
    | _ => cases integral
  | subtract checked | multiply checked | divide | modulo => exact common
  | _ => cases integral

namespace Value

variable {l r u v : Value} {t L R : DataType} {op : BinaryOp}

/-- An enumeration that holds a decimal is typed by a default, and computes as the decimal. -/
def isOverDecimal : Value → Bool
  | .enumeration _ backing => backing.isDecimal
  | _ => false

theorem decimal_typed (operand : v.IsOperand t) (present : v.isNull = false)
    (found : v.operand.isDecimal = true) :
    t.underlying = .decimal ∨ v.isOverDecimal = true := by
  rw [← operand.type present]
  cases v with
  | decimal d => exact .inl rfl
  | enumeration name backing => exact .inr found
  | _ => cases found

theorem widenPair_type {pair : Pair} (left : l.IsOperand L) (right : r.IsOperand R)
    (leftPresent : l.isNull = false) (rightPresent : r.isNull = false)
    (widened : widenPair? l r = some pair) :
    L.promoted R = pair.type ∨
      (l.isOverDecimal || r.isOverDecimal) = true ∧ pair.type = .decimal := by
  simp only [widenPair?] at widened
  split at widened
  · rename_i decimal
    have ofDecimal : pair.type = .decimal := by
      simp only [Option.bind_eq_bind, Option.bind_eq_some_iff] at widened
      obtain ⟨a, -, b, -, same⟩ := widened
      cases same
      rfl
    rw [Bool.or_eq_true] at decimal
    rw [Bool.or_eq_true, ofDecimal]
    rcases decimal with leftDecimal | rightDecimal
    · rcases decimal_typed left leftPresent leftDecimal with typed | overDecimal
      · exact .inl (DataType.promoted_decimal (.inl typed))
      · exact .inr ⟨.inl overDecimal, rfl⟩
    · rcases decimal_typed right rightPresent rightDecimal with typed | overDecimal
      · exact .inl (DataType.promoted_decimal (.inr typed))
      · exact .inr ⟨.inr overDecimal, rfl⟩
  · left
    simp only [Option.bind_eq_bind, Option.bind_eq_some_iff] at widened
    obtain ⟨j, leftKind, k, rightKind, widened⟩ := widened
    have promoted {common : NumericKind} (found : j.promote k = some common) :=
      DataType.promoted_numbers (left.kind leftKind) (right.kind rightKind) found
    split at widened
    · rename_i i found
      obtain ⟨a, -, b, -, same⟩ := by simpa only [Option.bind_eq_some_iff] using widened
      cases same
      exact promoted found
    · rename_i w found
      obtain ⟨a, -, b, -, same⟩ := by simpa only [Option.bind_eq_some_iff] using widened
      cases same
      exact promoted found
    · cases widened

theorem arithmetic_type (done : arithmetic op l r = .ok u) :
    ∃ pair, widenPair? l r = some pair ∧ u.type = pair.type := by
  unfold arithmetic at done
  split at done
  · cases done
  all_goals
    rename_i widened
    obtain ⟨m, -, rfl⟩ := map_ok done
    exact ⟨_, widened, rfl⟩

theorem widen_cases {scalar : Scalar} (widened : v.widen? = some scalar) :
    (v.operand.isDecimal = true ∧ scalar.value.type = .decimal) ∨
      ∃ k, v.operand.numericKind? = some k ∧ scalar.value.type = .numeric k.promoteUnary := by
  unfold widen? at widened
  split at widened
  · rename_i found
    cases widened
    exact .inl ⟨by rw [found]; rfl, rfl⟩
  · right
    split at widened
    · rename_i found
      obtain ⟨k, kind, promoted⟩ := Option.map_eq_some_iff.1 found
      obtain ⟨b, -, rfl⟩ := Option.map_eq_some_iff.1 widened
      exact ⟨k, kind, congrArg DataType.numeric promoted.symm⟩
    · rename_i found
      obtain ⟨k, kind, promoted⟩ := Option.map_eq_some_iff.1 found
      obtain ⟨b, -, rfl⟩ := Option.map_eq_some_iff.1 widened
      exact ⟨k, kind, congrArg DataType.numeric promoted.symm⟩
    · cases widened

theorem shift_type {left : Bool} (done : shift left l r = .ok u) :
    ∃ k, l.operand.numericKind? = some k ∧ u.type = .numeric k.promoteUnary := by
  unfold shift at done
  split at done
  · rename_i widened
    cases done
    rcases widen_cases widened with ⟨-, decimal⟩ | typed
    · cases decimal
    · exact typed
  · cases done

theorem calculate_cases (notCompare : op.isComparison = false)
    (done : calculate op l r = .ok u) :
    u.isNull = true ∨ l.isNull = false ∧ r.isNull = false ∧
      (((∃ left, shift left l r = .ok u) ∧
          (op = .bitwise .shiftLeft ∨ op = .bitwise .shiftRight)) ∨
        arithmetic op l r = .ok u ∧ op.isIntegral = true) := by
  unfold calculate at done
  split at done
  · cases done
    exact .inl rfl
  · rename_i present
    simp only [Bool.or_eq_true, not_or, Bool.not_eq_true] at present
    refine .inr ⟨present.1, present.2, ?_⟩
    split at done
    · exact .inl ⟨⟨true, done⟩, .inl rfl⟩
    · exact .inl ⟨⟨false, done⟩, .inr rfl⟩
    any_goals cases done
    refine .inr ⟨done, ?_⟩
    cases op with
    | bitwise b => cases b <;> first | rfl | contradiction
    | compare c => cases notCompare
    | _ => first | rfl | contradiction

theorem calculate_fits (left : l.IsOperand L) (right : r.IsOperand R)
    (notCompare : op.isComparison = false)
    (apart : op.isAdd = true → L.isString = false ∧ R.isString = false)
    (done : calculate op l r = .ok u) : u.Fits (op.resultType L R) ∨
      (l.isOverDecimal || r.isOverDecimal) = true ∧ u.type = .decimal := by
  rcases calculate_cases notCompare done with null | ⟨leftPresent, rightPresent, computed⟩
  · exact .inl (.inl null)
  rcases computed with ⟨⟨_, shifted⟩, shifts⟩ | ⟨computed, integral⟩
  · left
    obtain ⟨k, found, typed⟩ := shift_type shifted
    have kind := DataType.operandKind_underlying left.scalar ▸ left.kind found
    exact fits_of_type (by rw [typed]; rfl)
      (typed.trans (BinaryOp.resultType_shift shifts kind).symm)
  · obtain ⟨pair, widened, typed⟩ := arithmetic_type computed
    rcases widenPair_type left right leftPresent rightPresent widened with
      promoted | ⟨overDecimal, decimal⟩
    · left
      refine fits_of_type (typed ▸ pair.type_scalar) ?_
      rw [BinaryOp.resultType_integral integral apart, promoted, pair.type_underlying, typed]
    · exact .inr ⟨overDecimal, typed.trans decimal⟩

/-- A null has no type of its own: beside it a false decides `and` and a true decides `or`,
whatever the null is declared as. -/
def Decided (op : BinaryOp) (L R : DataType) (l r v : Value) : Prop :=
  (op = .bitwise .and ∧ v = .bool false ∨ op = .bitwise .or ∧ v = .bool true) ∧
  (l = .null ∧ L.isBool = false ∧ r = v ∨ r = .null ∧ R.underlying = .decimal ∧ l = v)

theorem truth_cases (truth : v.isTruth = true) : v = .null ∨ ∃ b, v = .bool b := by
  cases v with
  | null => exact .inl rfl
  | bool b => exact .inr ⟨b, rfl⟩
  | _ => cases truth

theorem truth_fits {a : Option Bool} (typed : t.underlying = .bool) :
    (a.elim .null .bool : Value).Fits t := by
  cases a with
  | none => exact .inl rfl
  | some b => exact fits_of_type rfl typed.symm

section
variable {logic : Option Bool → Option Bool → Option Bool} (known : connective? op = some logic)
include known

theorem logic_of_nulls : logic none none = none := by
  unfold connective? at known
  split at known <;> cases known <;> rfl

theorem logic_beside_null (integral : op.isIntegral = true) (b : Bool) :
    logic (some b) none = logic none (some b) ∧
      (logic none (some b) = none ∨ logic none (some b) = some b ∧
        (op = .bitwise .and ∧ b = false ∨ op = .bitwise .or ∧ b = true)) := by
  cases op with
  | bitwise operator =>
    cases operator <;> cases known <;> cases b <;> simp [Truth.and, Truth.or, Truth.xor]
  | andAlso | orElse => cases integral
  | _ => cases known

theorem connective_integral (promoted : (op.resultType L R).underlying ≠ .bool) :
    op.isIntegral = true ∧ op.isAdd = false := by
  unfold connective? at known
  split at known <;> first | exact ⟨rfl, rfl⟩ | exact absurd rfl promoted | cases known

theorem logic_fits (left : l.IsOperand L) (right : r.IsOperand R)
    (leftTruth : l.isTruth = true) (rightTruth : r.isTruth = true) :
    ((logic l.bool? r.bool?).elim .null .bool : Value).Fits (op.resultType L R) ∨
      Decided op L R l r ((logic l.bool? r.bool?).elim .null .bool) := by
  by_cases truth : (op.resultType L R).underlying = .bool
  · exact .inl (truth_fits truth)
  obtain ⟨integral, notAdd⟩ := connective_integral known truth
  have unpromoted : L.promoted R ≠ .bool := by
    intro promoted
    rw [BinaryOp.resultType_integral integral (by simp [notAdd]), promoted] at truth
    exact truth rfl
  -- the promotion of a null's type may be anything but a truth value from here on
  rcases truth_cases leftTruth with rfl | ⟨a, rfl⟩ <;>
    rcases truth_cases rightTruth with rfl | ⟨b, rfl⟩
  · simp only [bool?, logic_of_nulls known]
    exact .inl (.inl rfl)
  · have notBool : L.isBool = false := by
      by_contra isBool
      have leftBool := of_decide_eq_true (Bool.eq_true_of_not_eq_false isBool)
      exact unpromoted (DataType.promoted_bools leftBool right.bool)
    obtain ⟨-, unknown | ⟨decided, operator⟩⟩ := logic_beside_null known integral b
    · simp only [bool?, unknown]
      exact .inl (.inl rfl)
    · simp only [bool?, decided]
      refine .inr ⟨?_, .inl ⟨rfl, notBool, rfl⟩⟩
      simpa using operator
  · have decimal : R.underlying = .decimal := by
      by_contra other
      exact unpromoted (DataType.promoted_of_unnumbered left.bool (by simp) rfl other)
    obtain ⟨same, unknown | ⟨decided, operator⟩⟩ := logic_beside_null known integral a
    · simp only [bool?, same, unknown]
      exact .inl (.inl rfl)
    · simp only [bool?, same, decided]
      refine .inr ⟨?_, .inr ⟨rfl, decimal, rfl⟩⟩
      simpa using operator
  · exact absurd (DataType.promoted_bools left.bool right.bool) unpromoted

end

/-- A string typed as an optional one, where neither operand makes the sum a string. -/
def Unread (L R : DataType) (l r : Value) : Prop :=
  L.isString = false ∧ R.isString = false ∧
    (l.isString = true ∧ R.underlying = .decimal ∨ r.isString = true ∧ L.underlying ≠ .string)

theorem joins_fits (left : l.IsOperand L) (right : r.IsOperand R)
    (read : op.isAdd = true → ¬ Unread L R l r) (joined : joins op l r (op.resultType L R) = true)
    (s : String) : (Value.string s).Fits (op.resultType L R) := by
  refine fits_of_type rfl (Eq.symm ?_)
  rw [joins, Bool.and_eq_true, Bool.or_eq_true, Bool.or_eq_true] at joined
  obtain ⟨isAdd, strings⟩ := joined
  by_cases strung : (L.isString || R.isString) = true
  · rw [BinaryOp.resultType_string isAdd strung]
    rfl
  rw [Bool.or_eq_true, not_or, Bool.not_eq_true, Bool.not_eq_true] at strung
  have integral : op.isIntegral = true := by cases op <;> first | rfl | cases isAdd
  have typed (promoted : L.promoted R = .string) : (op.resultType L R).underlying = .string := by
    rw [BinaryOp.resultType_integral integral fun _ => strung, promoted]
    rfl
  have seen : ¬ (l.isString = true ∧ R.underlying = .decimal) ∧
      ¬ (r.isString = true ∧ L.underlying ≠ .string) :=
    not_or.1 fun unread => read isAdd ⟨strung.1, strung.2, unread⟩
  rcases strings with (isString | leftString) | rightString
  · rw [of_decide_eq_true isString]
    rfl
  · exact typed (DataType.promoted_of_unnumbered (left.string leftString) (by simp) rfl
      fun decimal => seen.1 ⟨leftString, decimal⟩)
  · have leftType : L.underlying = .string := by
      by_contra other
      exact seen.2 ⟨rightString, other⟩
    have notDecimal : R.underlying ≠ .decimal := by
      rw [right.string rightString]
      simp
    exact typed (DataType.promoted_of_unnumbered leftType (by simp) rfl notDecimal)

theorem result_fits (left : l.IsOperand L) (right : r.IsOperand R)
    (apart : joins op l r (op.resultType L R) = false) (done : result op l r = .ok u) :
    u.Fits (op.resultType L R) ∨ Decided op L R l r u ∨
      (l.isOverDecimal || r.isOverDecimal) = true ∧ u.type = .decimal := by
  have strings (isAdd : op.isAdd = true) : L.isString = false ∧ R.isString = false := by
    rw [← Bool.or_eq_false_iff]
    by_contra strung
    have typed := BinaryOp.resultType_string isAdd (Bool.eq_true_of_not_eq_false strung)
    simp [joins, isAdd, typed, DataType.isString] at apart
  unfold result at done
  split at done
  · obtain ⟨b, rfl⟩ := compare_truth done
    exact .inl (.inr rfl)
  · rename_i notCompare
    have notCompare : op.isComparison = false := by
      cases op <;> first | rfl | exact absurd rfl (notCompare _)
    have computed (done : calculate op l r = .ok u) : u.Fits (op.resultType L R) ∨
        Decided op L R l r u ∨ (l.isOverDecimal || r.isOverDecimal) = true ∧ u.type = .decimal :=
      (calculate_fits left right notCompare strings done).imp_right .inr
    split at done
    · rename_i known
      split at done
      · rename_i truths
        rw [Bool.and_eq_true] at truths
        cases done
        exact (logic_fits known left right truths.1 truths.2).imp_right .inl
      · exact computed done
    · exact computed done

/-- A result is null or of the node's type, unless logic has decided it beside an untyped null, or
an operand is an enumeration over a decimal and it is a decimal. -/
theorem static_types_sound (left : l.IsOperand L) (right : r.IsOperand R)
    (read : op.isAdd = true → ¬ Unread L R l r)
    (done : combine op l r (op.resultType L R) = .ok v) :
    v.Fits (op.resultType L R) ∨ Decided op L R l r v ∨
      (l.isOverDecimal || r.isOverDecimal) = true ∧ v.type = .decimal := by
  rw [combine_eq] at done
  obtain ⟨u, computed, rewrapped⟩ := bind_done done
  rw [mapError_ok] at computed
  -- what becomes an enumeration is cast to the type of the node, whatever the operator gave
  by_cases enumeration : (op.resultType L R).isEnumeration = true
  · exact .inl (rewrap_fits enumeration rewrapped)
  rw [rewrap_plain (by simpa using enumeration)] at rewrapped
  cases rewrapped
  split at computed
  · rename_i joined
    cases computed
    exact .inl (joins_fits left right read joined _)
  · rename_i apart
    exact result_fits left right (by simpa using apart) computed

theorem label_of_level :
    let l : Value := .string "at "
    let r : Value := .enumeration "Level" (.int .i8 ⟨3, by decide⟩)
    let L : DataType := .nullable .string
    let R : DataType := .enumeration "Level" (.int .i8)
    let v : Value := .string "at Level(3)"
    l.IsOperand L ∧ r.IsOperand R ∧ ¬ Unread L R l r ∧
      combine (.add true) l r ((BinaryOp.add true).resultType L R) = .ok v ∧ v.Fits L := by
  intro l r L R v
  have left : l.IsOperand L := ⟨rfl, .inr rfl⟩
  have right : r.IsOperand R := ⟨rfl, .inr rfl⟩
  have read : ¬ Unread L R l r := by
    rintro ⟨-, -, ⟨-, decimal⟩ | ⟨isString, -⟩⟩
    · cases decimal
    · cases isString
  have done : combine (.add true) l r ((BinaryOp.add true).resultType L R) = .ok v := rfl
  refine ⟨left, right, read, done, ?_⟩
  rcases static_types_sound left right (fun _ => read) done with
    fits | ⟨decided, -⟩ | ⟨decimal, -⟩
  · exact fits
  · rcases decided with ⟨operator, -⟩ | ⟨operator, -⟩ <;> cases operator
  · cases decimal

/-- A false beside an untyped null, an optional string added to a number, and an enumeration over a
decimal. -/
theorem static_types_missed :
    let missed (op : BinaryOp) (L R : DataType) (l r v : Value) : Prop :=
      l.IsOperand L ∧ r.IsOperand R ∧ combine op l r (op.resultType L R) = .ok v ∧
        ¬ v.Fits (op.resultType L R)
    missed (.bitwise .and) (.nullable (.int .i32)) .bool .null (.bool false) (.bool false) ∧
      missed (.add false) (.int .i32) (.nullable .string) (.int .i32 ⟨1, by decide⟩) (.string "a")
        (.string "1a") ∧
      missed (.add false) (.enumeration "Level" (.int .i32)) (.int .i32)
        (.enumeration "Level" (.decimal Decimal.zero)) (.int .i32 ⟨0, by decide⟩)
        (.decimal Decimal.zero) := by
  refine ⟨⟨⟨rfl, ?_⟩, ⟨rfl, ?_⟩, rfl, ?_⟩, ⟨⟨rfl, ?_⟩, ⟨rfl, ?_⟩, rfl, ?_⟩,
    ⟨rfl, ?_⟩, ⟨rfl, ?_⟩, rfl, ?_⟩ <;> decide

end Value
end ExprSql
