import ExprSql.Evaluate
import ExprSql.Fragment
import ExprSql.Proofs.Value.Plain

/-!
What a fragment says of one row when its operators are those of the evaluator. Fragments that only
method calls compile to have no reading.
-/
namespace ExprSql

def Arithmetic.operator : Arithmetic → BinaryOp
  | .add => .add false
  | .subtract => .subtract false
  | .multiply => .multiply false
  | .divide => .divide
  | .modulo => .modulo

def Connective.operator : Connective → BinaryOp
  | .and => .andAlso
  | .or => .orElse

namespace Fragment

variable (row : Row)

mutual

def reading : Fragment → Option Value
  | .value v => some v
  | .column c => Value.member? row c.name
  | .comparison op left right => do
      let l ← left.reading
      let r ← right.reading
      (Value.combine (.compare op) l r .bool).toOption
  | .isNull operand negated => do
      let v ← operand.reading
      some (.bool (v.isNull != negated))
  | .logical op operands => chainReading op.operator operands
  | .arithmetic op operands => chainReading op.operator operands
  | .bitwise op operands => chainReading (.bitwise op) operands
  | .not operand | .complement operand => do
      let v ← operand.reading
      (v.apply .not .object).toOption
  | .negate operand => do
      let v ← operand.reading
      (v.apply (.negate false) .object).toOption
  | .case arms otherwise => armsReading otherwise.reading arms
  | .like .. | .inList .. | .between .. | .function .. => none

/-- A left fold of the operator that stops as soon as the value so far decides. -/
def chainReading (op : BinaryOp) : List Fragment → Option Value
  | [] => none
  | f :: fs => do
      let v ← f.reading
      restReading op v fs

def restReading (op : BinaryOp) (v : Value) : List Fragment → Option Value
  | [] => some v
  | f :: fs =>
      if Evaluator.decided op v then some v
      else do
        let w ← f.reading
        let u ← (Value.combine op v w .object).toOption
        restReading op u fs

def armsReading (otherwise : Option Value) : List (Fragment × Fragment) → Option Value
  | [] => otherwise
  | (test, result) :: arms => do
      let v ← test.reading
      match v.bool? with
      | some true => result.reading
      | some false => armsReading otherwise arms
      | none => none

end

variable {row : Row}

theorem rest_of_decided {op : BinaryOp} {v : Value} (decided : Evaluator.decided op v = true)
    (fs : List Fragment) : restReading row op v fs = some v := by
  cases fs with
  | nil => simp [restReading]
  | cons f fs => simp [restReading, decided]

theorem rest_append (op : BinaryOp) (v : Value) (fs : List Fragment) (g : Fragment) :
    restReading row op v (fs ++ [g])
      = (restReading row op v fs).bind fun w => restReading row op w [g] := by
  induction fs generalizing v with
  | nil => simp [restReading]
  | cons f fs ih =>
    by_cases decided : Evaluator.decided op v = true
    · rw [rest_of_decided decided, rest_of_decided decided, Option.bind_some,
        rest_of_decided decided]
    · simp [restReading, decided, ih, Option.bind_assoc]

theorem chain_append (op : BinaryOp) {fs : List Fragment} (some : fs ≠ []) (g : Fragment) :
    chainReading row op (fs ++ [g])
      = (chainReading row op fs).bind fun w => restReading row op w [g] := by
  cases fs with
  | nil => exact absurd rfl some
  | cons f fs => simp [chainReading, rest_append, Option.bind_assoc]

end Fragment
end ExprSql
