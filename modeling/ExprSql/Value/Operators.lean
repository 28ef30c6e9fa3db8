import ExprSql.Failure
import ExprSql.Numeric.Decimal.Quotient
import ExprSql.Numeric.Decimal.Remainder
import ExprSql.Operator

/-!
Operators on values. Operands are widened to a common kind first; enumerations take part through
their backing value. A null operand makes the result null, except in comparisons, in three-valued
logic and when strings are joined.
-/
namespace ExprSql

inductive Fault where
  | overflow
  | divideByZero
  | undefined
  deriving DecidableEq, Repr

def Fault.failure (symbol : String) (operands : List Value) : Fault → Failure
  | .overflow => .invocation s!"operator {symbol}" .overflow
  | .divideByZero => .invocation s!"operator {symbol}" (.failed .divideByZero)
  | .undefined => .expression (.undefinedOperator symbol (operands.map Value.kindName))

def Comparison.holds (op : Comparison) (order : Option Ordering) : Bool :=
  match op, order with
  | .equal, some .eq => true
  | .notEqual, o => o != some .eq
  | .less, some .lt => true
  | .lessEqual, some .lt | .lessEqual, some .eq => true
  | .greater, some .gt => true
  | .greaterEqual, some .gt | .greaterEqual, some .eq => true
  | _, _ => false

-- Three-valued logic: `none` is a truth value that is not known.
namespace Truth

def and : Option Bool → Option Bool → Option Bool
  | some false, _ | _, some false => some false
  | some true, some true => some true
  | _, _ => none

def or : Option Bool → Option Bool → Option Bool
  | some true, _ | _, some true => some true
  | some false, some false => some false
  | _, _ => none

def xor : Option Bool → Option Bool → Option Bool
  | some a, some b => some (a ^^ b)
  | _, _ => none

end Truth

inductive Scalar where
  | int (k : IntKind) (n : Sized k)
  | float (w : FloatKind) (x : Binary w)
  | decimal (d : Decimal)

def Scalar.value : Scalar → Value
  | .int k n => .int k n
  | .float w x => .float w x
  | .decimal d => .decimal d

inductive Pair where
  | int (k : IntKind) (a b : Sized k)
  | float (w : FloatKind) (a b : Binary w)
  | decimal (a b : Decimal)

namespace Value

variable [Decimal.FromBinary]

def widenInt? (k : IntKind) (v : Value) : Option (Sized k) :=
  v.source?.bind fun s => (s.toSized k false).toOption

def widenFloat? (w : FloatKind) (v : Value) : Option (Binary w) :=
  v.source?.map (·.toBinary w)

def widenDecimal? (v : Value) : Option Decimal :=
  match v.cast false .decimal with
  | .ok (.decimal d) => some d
  | _ => none

def isDecimal : Value → Bool
  | .decimal _ => true
  | _ => false

def widenPair? (left right : Value) : Option Pair :=
  let l := left.operand
  let r := right.operand
  if l.isDecimal || r.isDecimal then do
    some (.decimal (← l.widenDecimal?) (← r.widenDecimal?))
  else do
    match (← l.numericKind?).promote (← r.numericKind?) with
    | some (.int k) => some (.int k (← l.widenInt? k) (← r.widenInt? k))
    | some (.float w) => some (.float w (← l.widenFloat? w) (← r.widenFloat? w))
    | _ => none

def widen? (v : Value) : Option Scalar :=
  match v.operand with
  | .decimal d => some (.decimal d)
  | u =>
      match u.numericKind?.map NumericKind.promoteUnary with
      | some (.int k) => (u.widenInt? k).map (.int k)
      | some (.float w) => (u.widenFloat? w).map (.float w)
      | _ => none

end Value

namespace Pair

def order? : Pair → Option Ordering
  | .int _ a b => some (compare a.val b.val)
  | .float _ a b => a.compare? b
  | .decimal a b => some (a.order b)

end Pair

namespace Sized

variable {k : IntKind}

def settle (checked : Bool) (n : Int) : Except Fault (Sized k) :=
  if checked then (fit? k n).elim (.error .overflow) .ok else .ok (wrap k n)

def bitwise (op : Bitwise) (a b : Sized k) : Except Fault (Sized k) :=
  match op with
  | .and => .ok (a.and b)
  | .or => .ok (a.or b)
  | .xor => .ok (a.xor b)
  | .shiftLeft | .shiftRight => .error .undefined

/-- Division truncates towards zero and overflows only at the minimum over minus one. -/
def calculate (op : BinaryOp) (a b : Sized k) : Except Fault (Sized k) :=
  match op with
  | .add checked => settle checked (a.val + b.val)
  | .subtract checked => settle checked (a.val - b.val)
  | .multiply checked => settle checked (a.val * b.val)
  | .divide => if b.val = 0 then .error .divideByZero else settle true (a.val.tdiv b.val)
  | .modulo =>
      if b.val = 0 then .error .divideByZero
      else if a.val = k.min ∧ b.val = -1 then .error .overflow
      else settle true (a.val.tmod b.val)
  | .bitwise op => a.bitwise op b
  | _ => .error .undefined

end Sized

def Binary.calculate {w : FloatKind} (op : BinaryOp) (a b : Binary w) : Except Fault (Binary w) :=
  match op with
  | .add _ => .ok (a.add b)
  | .subtract _ => .ok (a.sub b)
  | .multiply _ => .ok (a.mul b)
  | .divide => .ok (a.div b)
  | .modulo => .ok (a.mod b)
  | _ => .error .undefined

def Decimal.calculate (op : BinaryOp) (a b : Decimal) : Except Fault Decimal :=
  let fits (r : Option Decimal) : Except Fault Decimal := r.elim (.error .overflow) .ok
  match op with
  | .add _ => fits (a.add b)
  | .subtract _ => fits (a.sub b)
  | .multiply _ => fits (a.mul b)
  | .divide => if b.isZero then .error .divideByZero else fits (a.div b)
  | .modulo => if b.isZero then .error .divideByZero else fits (a.mod b)
  | _ => .error .undefined

namespace Value

variable [Decimal.FromBinary]

def arithmetic (op : BinaryOp) (left right : Value) : Except Fault Value :=
  match widenPair? left right with
  | none => .error .undefined
  | some (.int k a b) => (a.calculate op b).map (.int k)
  | some (.float w a b) => (a.calculate op b).map (.float w)
  | some (.decimal a b) => (a.calculate op b).map .decimal

def shift (left : Bool) (v count : Value) : Except Fault Value :=
  match count.operand.integer?, v.widen? with
  | some n, some (.int k a) => .ok (.int k (if left then a.shiftLeft n else a.shiftRight n))
  | _, _ => .error .undefined

def equal (left right : Value) : Bool :=
  match left, right with
  | .null, .null => true
  | .null, _ | _, .null => false
  | l, r =>
      match widenPair? l r with
      | some pair => pair.order? == some .eq
      | none => l.same r

def compare (op : Comparison) (left right : Value) : Except Fault Value :=
  match op with
  | .equal => .ok (.bool (left.equal right))
  | .notEqual => .ok (.bool !(left.equal right))
  | op =>
      if left.isNull || right.isNull then .ok (.bool false)
      else
        match widenPair? left right with
        | some pair => .ok (.bool (op.holds pair.order?))
        | none => .error .undefined

def connective? : BinaryOp → Option (Option Bool → Option Bool → Option Bool)
  | .bitwise .and | .andAlso => some Truth.and
  | .bitwise .or | .orElse => some Truth.or
  | .bitwise .xor => some Truth.xor
  | _ => none

def isTruth (v : Value) : Bool := v.isNull || v.bool?.isSome

def calculate (op : BinaryOp) (left right : Value) : Except Fault Value :=
  if left.isNull || right.isNull then .ok .null
  else
    match op with
    | .bitwise .shiftLeft => shift true left right
    | .bitwise .shiftRight => shift false left right
    | .andAlso | .orElse | .coalesce | .index => .error .undefined
    | op => arithmetic op left right

/-- Arithmetic typed as an enumeration is turned back into one. -/
def rewrap (v : Value) (t : DataType) : Except Failure Value :=
  if v.isNull || !t.isEnumeration then .ok v
  else (v.cast false t).mapError fun e => .expression (.cast e)

def combine (op : BinaryOp) (left right : Value) (t : DataType) : Except Failure Value := do
  let result : Except Fault Value :=
    match op with
    | .compare c => compare c left right
    | op =>
        if op.isAdd && (t.isString || left.isString || right.isString) then
          .ok (.string (left.text ++ right.text))
        else
          match connective? op with
          | some logic =>
              if left.isTruth && right.isTruth then
                .ok ((logic left.bool? right.bool?).elim .null .bool)
              else calculate op left right
          | none => calculate op left right
  let v ← result.mapError (·.failure op.symbol [left, right])
  v.rewrap t

def complement (v : Value) : Except Fault Value :=
  match v with
  | .bool b => .ok (.bool !b)
  | v =>
      match v.widen? with
      | some (.int k n) => .ok (.int k n.complement)
      | _ => .error .undefined

def negate (checked : Bool) (v : Value) : Except Fault Value :=
  match v.widen? with
  | some (.int .u64 _) => .error .undefined
  | some (.int .u32 n) => .ok (.int .i64 (Sized.wrap .i64 (-n.val)))
  | some (.int k n) => (Sized.settle checked (-n.val)).map (.int k)
  | some (.float w x) => .ok (.float w x.neg)
  | some (.decimal d) => .ok (.decimal d.neg)
  | none => .error .undefined

def apply (op : UnaryOp) (v : Value) (t : DataType) : Except Failure Value :=
  if v.isNull then .ok .null
  else do
    let result : Except Fault Value :=
      match op with
      | .not => v.complement
      | .negate checked => v.negate checked
      | .plus => v.widen?.elim (.error .undefined) (.ok ∘ Scalar.value)
      | .cast _ | .length => .error .undefined
    let u ← result.mapError (·.failure op.symbol [v])
    u.rewrap t

end Value
end ExprSql
