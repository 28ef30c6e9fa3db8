import ExprSql.Operator
import ExprSql.Value

/-!
Expression trees. Members and methods are named by the type that declares them; host code enters
only through thunks and bindings.
-/
namespace ExprSql

structure Member where
  owner : String
  name : String
  type : DataType
  static : Bool
  deriving DecidableEq, Repr

def Member.label (m : Member) : String := m.owner ++ "." ++ m.name

inductive HostCall where
  | thunk (description : String)
  | getter (owner name : String)
  | method (owner name : String) (arguments : Nat)
  deriving DecidableEq, Repr

def HostCall.text : HostCall → String
  | .thunk description => description
  | .getter owner name => s!"{owner}.{name}"
  | .method owner name arguments => s!"{owner}.{name}/{arguments}"

/-- The calls made so far, in order. Host code may answer differently after each. -/
abbrev Trace := List HostCall

/-- A host computation without arguments; its identity tells it from other thunks. -/
structure Thunk where
  identity : Nat
  run : Trace → Except String Value

inductive Expr where
  | constant (value : Value) (type : DataType)
  | parameter (name : String) (type : DataType)
  | member (target : Option Expr) (member : Member)
  | construct (type : DataType) (constructor : Option Member) (arguments : List Expr)
  | array (element : DataType) (items : List Expr)
  | arrayOfLength (element : DataType) (length : Expr)
  /-- A constructed collection and the calls that fill it, each a method and its arguments. -/
  | list (type : DataType) (constructor : Option Member) (arguments : List Expr)
      (additions : List (Member × List Expr))
  | call (target : Option Expr) (method : Member) (arguments : List Expr)
  | unary (op : UnaryOp) (operand : Expr) (type : DataType) (method : Option Member)
  | binary (op : BinaryOp) (left right : Expr) (type : DataType) (method : Option Member)
  | conditional (test whenTrue whenFalse : Expr) (type : DataType)
  | typeIs (operand : Expr) (type : DataType)
  | thunk (type : DataType) (description : String) (thunk : Thunk)

instance : Inhabited Expr := ⟨.constant .null .object⟩

structure Call where
  target : Option Expr
  method : Member
  arguments : List Expr

structure Parameter where
  name : String
  type : DataType
  deriving DecidableEq, Repr

structure Lambda where
  parameters : List Parameter
  body : Expr

namespace Expr

def type : Expr → DataType
  | .constant _ t => t
  | .parameter _ t => t
  | .member _ m => m.type
  | .construct t _ _ => t
  | .array element _ => .array element
  | .arrayOfLength element _ => .array element
  | .list t _ _ _ => t
  | .call _ m _ => m.type
  | .unary _ _ t _ => t
  | .binary _ _ _ t _ => t
  | .conditional _ _ _ t => t
  | .typeIs _ _ => .bool
  | .thunk t _ _ => t

def kindName : Expr → String
  | .constant .. => "constant"
  | .parameter .. => "parameter"
  | .member .. => "member access"
  | .construct .. => "new"
  | .array .. | .arrayOfLength .. => "new array"
  | .list .. => "list init"
  | .call .. => "call"
  | .unary .. => "unary"
  | .binary .. => "binary"
  | .conditional .. => "conditional"
  | .typeIs .. => "type test"
  | .thunk .. => "opaque"

end Expr
end ExprSql
