import ExprSql.Evaluate
import ExprSql.Proofs.Run
import ExprSql.Proofs.Value.StaticType

namespace ExprSql

open Run

namespace UnaryOp

variable {t : DataType} {k : NumericKind}

def computes : UnaryOp → Bool
  | .not | .negate _ | .plus => true
  | .cast _ | .length => false

theorem notType_number (kind : t.operandKind? = some k) :
    (notType t).underlying = .numeric k.promoteUnary := by
  simp only [notType, kind, DataType.underlying_liftedIf]
  rfl

theorem notType_other (other : t.operandKind? = none) : notType t = t := by
  simp only [notType, other]

def oppositeKind (k : NumericKind) : NumericKind :=
  if k = .int .u32 then .int .i64 else k.promoteUnary

theorem oppositeKind_other (other : k.promoteUnary ≠ .int .u32) :
    oppositeKind k = k.promoteUnary := by
  refine if_neg ?_
  rintro rfl
  exact other rfl

theorem negateType_number (kind : t.operandKind? = some k) :
    (negateType t).underlying = .numeric (oppositeKind k) := by
  unfold negateType oppositeKind
  rw [kind]
  split
  · rename_i same
    cases same
    exact DataType.underlying_liftedIf _ _
  · rename_i other same
    cases same
    rw [if_neg other, DataType.underlying_liftedIf]
    rfl
  · rename_i none
    cases none

theorem negateType_other (other : t.operandKind? = none) : negateType t = t := by
  simp only [negateType, other]

end UnaryOp

namespace Value

variable {u v w : Value} {t : DataType} {k : NumericKind} {op : UnaryOp} {checked : Bool}

theorem complement_cases (done : v.complement = .ok u) :
    (v.type = .bool ∧ u.type = .bool) ∨
      ∃ k, v.operand.numericKind? = some k ∧ u.type = .numeric k.promoteUnary := by
  unfold complement at done
  split at done
  · cases done
    exact .inl ⟨rfl, rfl⟩
  · split at done
    · rename_i widened
      cases done
      rcases widen_cases widened with ⟨-, decimal⟩ | typed
      · cases decimal
      · exact .inr typed
    · cases done

theorem negate_cases (done : v.negate checked = .ok u) :
    (v.operand.isDecimal = true ∧ u.type = .decimal) ∨
      ∃ k, v.operand.numericKind? = some k ∧ u.type = .numeric (UnaryOp.oppositeKind k) := by
  unfold negate at done
  split at done
  · cases done
  · rename_i widened
    cases done
    rcases widen_cases widened with ⟨-, decimal⟩ | ⟨k, kind, typed⟩
    · cases decimal
    · obtain rfl := NumericKind.promoteUnary_unsigned rfl (DataType.numeric.inj typed).symm
      exact .inr ⟨_, kind, rfl⟩
  · rename_i i n notU64 notU32 widened
    obtain ⟨m, -, rfl⟩ := map_ok done
    rcases widen_cases widened with ⟨-, decimal⟩ | ⟨k, kind, typed⟩
    · cases decimal
    · have other : k.promoteUnary ≠ .int .u32 := by
        intro same
        rw [same] at typed
        obtain rfl : i = .u32 := NumericKind.int.inj (DataType.numeric.inj typed)
        exact notU32 n rfl HEq.rfl
      exact .inr ⟨k, kind, by rw [UnaryOp.oppositeKind_other other]; exact typed⟩
  · rename_i widened
    cases done
    rcases widen_cases widened with ⟨-, decimal⟩ | ⟨k, kind, typed⟩
    · cases decimal
    · have other : k.promoteUnary ≠ .int .u32 := by
        intro same
        rw [same] at typed
        cases typed
      exact .inr ⟨k, kind, by rw [UnaryOp.oppositeKind_other other]; exact typed⟩
  · rename_i widened
    cases done
    rcases widen_cases widened with ⟨decimal, -⟩ | ⟨k, -, typed⟩
    · exact .inl ⟨decimal, rfl⟩
    · cases typed
  · cases done

theorem plus_widened (done : unaryResult .plus v = .ok u) :
    ∃ scalar, v.widen? = some scalar ∧ scalar.value = u := by
  unfold unaryResult at done
  cases widened : v.widen? with
  | none =>
    rw [widened] at done
    cases done
  | some scalar =>
    rw [widened] at done
    exact ⟨scalar, rfl, Except.ok.inj done⟩

theorem numeric_of_kind (kind : t.operandKind? = some k)
    (notEnumeration : t.isEnumeration = false) : t.underlying = .numeric k := by
  unfold DataType.operandKind? at kind
  unfold DataType.isEnumeration at notEnumeration
  split at kind
  · cases kind
    assumption
  · rename_i enumeration
    rw [enumeration] at notEnumeration
    cases notEnumeration
  · cases kind

/-- A plus promotes a small number that the node is still typed as. -/
def Unpromoted (op : UnaryOp) (t : DataType) (w : Value) : Prop :=
  op = .plus ∧ ∃ k, t.underlying = .numeric k ∧ k.promoteUnary ≠ k ∧
    w.type = .numeric k.promoteUnary

theorem fits_typed {s : DataType} (result : u.type = s) (scalar : s.isScalar = true)
    (same : t.underlying = s) : u.Fits t :=
  fits_of_type (by rw [result, scalar]) (result.trans same.symm)

theorem unary_fits (operand : v.IsOperand t) (computes : op.computes = true)
    (present : v.isNull = false) (notEnumeration : (op.resultType t).isEnumeration = false)
    (done : unaryResult op v = .ok u) :
    u.Fits (op.resultType t) ∨ Unpromoted op t u ∨ v.isOverDecimal = true ∧ u.type = .decimal := by
  -- a number is typed by its kind, which the operand's type gives away
  have counted {k : NumericKind} (kind : v.operand.numericKind? = some k) :
      t.operandKind? = some k := by
    rw [← DataType.operandKind_underlying operand.scalar]
    exact operand.kind kind
  have uncounted {s : DataType} (typed : t.underlying = s) (apart : s.operandKind? = none) :
      t.operandKind? = none := by
    rwa [← DataType.operandKind_underlying operand.scalar, typed]
  cases op with
  | not =>
    rcases complement_cases done with ⟨bool, result⟩ | ⟨k, kind, result⟩
    · have typed : t.underlying = .bool := (operand.type present).symm.trans bool
      refine .inl (fits_typed result rfl ?_)
      rw [UnaryOp.resultType, UnaryOp.notType_other (uncounted typed rfl), typed]
    · exact .inl (fits_typed result rfl (UnaryOp.notType_number (counted kind)))
  | negate checked =>
    rcases negate_cases done with ⟨decimal, result⟩ | ⟨k, kind, result⟩
    · rcases decimal_typed operand present decimal with typed | overDecimal
      · refine .inl (fits_typed result rfl ?_)
        rw [UnaryOp.resultType, UnaryOp.negateType_other (uncounted typed rfl), typed]
      · exact .inr (.inr ⟨overDecimal, result⟩)
    · exact .inl (fits_typed result rfl (UnaryOp.negateType_number (counted kind)))
  | plus =>
    obtain ⟨scalar, widened, rfl⟩ := plus_widened done
    rcases widen_cases widened with ⟨decimal, result⟩ | ⟨k, kind, result⟩
    · rcases decimal_typed operand present decimal with typed | overDecimal
      · exact .inl (fits_typed result rfl typed)
      · exact .inr (.inr ⟨overDecimal, result⟩)
    · have numeric := numeric_of_kind (counted kind) notEnumeration
      by_cases promoted : k.promoteUnary = k
      · exact .inl (fits_typed result rfl (numeric.trans (congrArg _ promoted.symm)))
      · exact .inr (.inl ⟨rfl, k, numeric, promoted, result⟩)
  | cast checked | length => cases computes

theorem apply_fits (operand : v.IsOperand t) (computes : op.computes = true)
    (done : v.apply op (op.resultType t) = .ok w) :
    w.Fits (op.resultType t) ∨ Unpromoted op t w ∨ v.isOverDecimal = true ∧ w.type = .decimal := by
  by_cases null : v.isNull = true
  · unfold apply at done
    rw [if_pos null] at done
    cases done
    exact .inl (.inl rfl)
  have present : v.isNull = false := by simpa using null
  rw [apply_eq present] at done
  obtain ⟨u, computed, rewrapped⟩ := bind_done done
  rw [mapError_ok] at computed
  by_cases enumeration : (op.resultType t).isEnumeration = true
  · exact .inl (rewrap_fits enumeration rewrapped)
  have notEnumeration : (op.resultType t).isEnumeration = false := by simpa using enumeration
  rw [rewrap_plain notEnumeration] at rewrapped
  cases rewrapped
  exact unary_fits operand computes present notEnumeration computed

end Value

namespace Evaluator

variable {ev : Evaluator} {levels : Nat} {operand : Expr} {op : UnaryOp} {v w : Value}
  {before mid after : Trace}

theorem gives_apply (computes : op.computes = true)
    (evaluated : Gives (ev.evalWithin levels operand) before v mid)
    (done : Gives (ev.evalWithin (levels + 1) (operand.apply op)) before w after) :
    v.apply op (op.resultType operand.type) = .ok w := by
  obtain ⟨a, u, first, applied⟩ := gives_bind.mp done
  obtain ⟨rfl, rfl⟩ : v = a ∧ mid = u := by
    simpa [Gives] using evaluated.symm.trans first
  cases op with
  | not | negate checked | plus => exact (gives_ofExcept.mp applied).1
  | cast checked | length => cases computes

/-- A node built from a complement, an opposite or a plus evaluates to null or to a value of the
node's type, wherever its operand has evaluated to one of the operand's type. A plus that promotes
a small number is the exception, and beside it the opposite of an enumeration over a decimal. -/
theorem unary_types_sound (operator : op.computes = true)
    (typed : v.IsOperand operand.type)
    (evaluated : Gives (ev.evalWithin levels operand) before v mid)
    (done : Gives (ev.evalWithin (levels + 1) (operand.apply op)) before w after) :
    w.Fits (operand.apply op).type ∨ Value.Unpromoted op operand.type w ∨
      v.isOverDecimal = true ∧ w.type = .decimal :=
  Value.apply_fits typed operator (gives_apply operator evaluated done)

theorem opposite_of_level :
    let ev : Evaluator := {}
    let v : Value := .enumeration "Level" (.int .i8 ⟨-128, by decide⟩)
    let operand : Expr := .constant v (.nullable (.enumeration "Level" (.int .i8)))
    let op : UnaryOp := .negate true
    let w : Value := .int .i32 ⟨128, by decide⟩
    op.computes = true ∧ v.IsOperand operand.type ∧ Gives (ev.evalWithin 1 operand) [] v [] ∧
      Gives (ev.evalWithin 2 (operand.apply op)) [] w [] ∧ w.Fits (operand.apply op).type := by
  intro ev v operand op w
  have typed : v.IsOperand operand.type := ⟨rfl, .inr rfl⟩
  have evaluated : Gives (ev.evalWithin 1 operand) [] v [] := rfl
  have done : Gives (ev.evalWithin 2 (operand.apply op)) [] w [] := rfl
  refine ⟨rfl, typed, evaluated, done, ?_⟩
  rcases unary_types_sound rfl typed evaluated done with fits | ⟨plus, -⟩ | ⟨-, decimal⟩
  · exact fits
  · exact absurd plus (by decide)
  · cases decimal

/-- A byte is a 32-bit integer after a plus, at a node still typed as a byte. -/
theorem plus_unannounced :
    let ev : Evaluator := {}
    let v : Value := .int .i8 ⟨5, by decide⟩
    let operand : Expr := .ofValue v
    let w : Value := .int .i32 ⟨5, by decide⟩
    v.IsOperand operand.type ∧ Gives (ev.evalWithin 1 operand) [] v [] ∧
      Gives (ev.evalWithin 2 (operand.apply .plus)) [] w [] ∧
      ¬ w.Fits (operand.apply .plus).type := by
  intro ev v operand w
  refine ⟨⟨rfl, .inr rfl⟩, rfl, rfl, ?_⟩
  decide

end Evaluator
end ExprSql
