import ExprSql.Expr

namespace ExprSql

namespace DataType

def liftedIf (nullable : Bool) (t : DataType) : DataType := if nullable then t.lifted else t

def operandKind? (t : DataType) : Option NumericKind :=
  match t.underlying with
  | .numeric k => some k
  | .enumeration _ backing => some backing
  | _ => none

/-- The common type of two operands, or the left one when there is none. -/
def promoted (left right : DataType) : DataType :=
  let l := left.underlying
  let r := right.underlying
  if l = .decimal ∨ r = .decimal then .decimal
  else
    match l.operandKind?, r.operandKind? with
    | some a, some b => (a.promote b).elim l .numeric
    | _, _ => l

end DataType

def BinaryOp.resultType (op : BinaryOp) (left right : DataType) : DataType :=
  let nullable := left.isNullable || right.isNullable
  let common := (left.promoted right).liftedIf nullable
  match op with
  | .compare _ | .andAlso | .orElse => .bool
  | .coalesce => if right = .object then left.underlying else right
  | .index => left.element?.getD .object
  | .add _ => if left.isString || right.isString then .string else common
  | .bitwise .shiftLeft | .bitwise .shiftRight =>
      let shifted :=
        left.operandKind?.elim left.underlying fun k => .numeric k.promoteUnary
      shifted.liftedIf nullable
  | .bitwise _ =>
      if left.isBool && right.isBool then DataType.bool.liftedIf nullable else common
  | _ => common

namespace UnaryOp

def notType (t : DataType) : DataType :=
  match t.operandKind? with
  | some k => (DataType.numeric k.promoteUnary).liftedIf t.isNullable
  | none => t

def negateType (t : DataType) : DataType :=
  match t.operandKind? with
  | some (.int .u32) => (DataType.int .i64).liftedIf t.isNullable
  | some k => (DataType.numeric k.promoteUnary).liftedIf t.isNullable
  | none => t

def resultType (op : UnaryOp) (operand : DataType) : DataType :=
  match op with
  | .not => notType operand
  | .negate _ => negateType operand
  | .plus | .cast _ => operand
  | .length => .int .i32

end UnaryOp

namespace Expr

def ofValue (v : Value) : Expr := .constant v v.type

def null (t : DataType) : Expr := .constant .null t

def access (target : Expr) (name : String) (t : DataType) : Expr :=
  .member (some target) ⟨target.type.name, name, t, false⟩

def staticMember (owner name : String) (t : DataType) : Expr :=
  .member none ⟨owner, name, t, true⟩

def invoke (target : Expr) (name : String) (arguments : List Expr) (t : DataType) : Expr :=
  .call (some target) ⟨target.type.name, name, t, false⟩ arguments

def staticCall (owner name : String) (arguments : List Expr) (t : DataType) : Expr :=
  .call none ⟨owner, name, t, true⟩ arguments

def new (t : DataType) (arguments : List Expr) : Expr :=
  .construct t (some ⟨t.name, "new", t, true⟩) arguments

def default (t : DataType) : Expr := .construct t none []

def listOf (element : DataType) (items : List Expr) : Expr :=
  let t : DataType := .list element
  .list t none [] (items.map fun item => (⟨t.name, "Add", .object, false⟩, [item]))

def cast (operand : Expr) (t : DataType) (checked : Bool) : Expr :=
  .unary (.cast checked) operand t none

def apply (op : UnaryOp) (operand : Expr) : Expr :=
  .unary op operand (op.resultType operand.type) none

def combine (op : BinaryOp) (left right : Expr) : Expr :=
  .binary op left right (op.resultType left.type right.type) none

def choose (test whenTrue whenFalse : Expr) : Expr :=
  .conditional test whenTrue whenFalse whenTrue.type

def withMethod (e : Expr) (method : Member) : Expr :=
  match e with
  | .unary op operand t _ => .unary op operand t (some method)
  | .binary op left right t _ => .binary op left right t (some method)
  | e => e

end Expr
end ExprSql
