import ExprSql.Value.Cast

namespace ExprSql

inductive HostFailure where
  | divideByZero
  | indexOutOfRange (index : Int) (length : Nat)
  | missingValue
  /-- A null reached a type that does not allow it, and null conversion is strict. -/
  | nullValue (target : DataType)
  | raised (text : String)
  deriving DecidableEq, Repr

inductive InvocationFailure where
  | nullTarget (label : String)
  | failed (cause : HostFailure)
  | overflow
  deriving DecidableEq, Repr

inductive InvalidExpression where
  | tooDeep (limit : Nat)
  | freeParameter (name : String)
  | testNotBool (shown : String)
  | unknownMember (record name : String)
  | unbound (label : String)
  | noConstructor (type : DataType)
  | cast (error : CastError)
  | noLength (kind : String)
  | notAnIndex (kind : String)
  | notIndexable (kind : String)
  | undefinedOperator (symbol : String) (kinds : List String)
  | notATable (parameter : String) (type : DataType)
  | notBoolean (node : String) (type : DataType)
  | closedFragment
  | operandCount (method : String) (expected found : Nat)
  | noOperand (method : String)
  | emptyList (method : String)
  | notScalar (kind : String)
  | other (text : String)
  deriving DecidableEq, Repr

inductive InvalidPath where
  | through (member node : String)
  | staticRoot (member : String)
  | notAColumn (node : String)
  | notAMember (node : String)
  | foreignParameter (name : String)
  deriving DecidableEq, Repr

inductive Failure where
  | expression (cause : InvalidExpression)
  | path (cause : InvalidPath)
  | invocation (target : String) (cause : InvocationFailure)
  deriving DecidableEq, Repr

def HostFailure.message : HostFailure → String
  | .divideByZero => "attempted to divide by zero"
  | .indexOutOfRange index length =>
      s!"index {index} is out of range for a collection of length {length}"
  | .missingValue => "nullable object must have a value"
  | .nullValue target => "cannot convert null to non-nullable `" ++ target.name ++ "`"
  | .raised text => text

def InvocationFailure.message : InvocationFailure → String
  | .nullTarget label => s!"instance member `{label}` accessed through a null target"
  | .failed cause => cause.message
  | .overflow => overflowText

def InvalidExpression.message : InvalidExpression → String
  | .tooDeep limit => s!"expression nesting exceeds the maximum depth of {limit}"
  | .freeParameter name => s!"parameter `{name}` cannot be evaluated to a value"
  | .testNotBool shown => s!"conditional test evaluated to {shown}, expected a boolean"
  | .unknownMember record name => s!"record `{record}` has no member `{name}`"
  | .unbound label => s!"`{label}` is not bound"
  | .noConstructor type => "no constructor bound for `" ++ type.name ++ "`"
  | .cast error => error.message
  | .noLength kind => s!"{kind} has no length"
  | .notAnIndex kind => s!"cannot index with {kind}"
  | .notIndexable kind => s!"cannot index into {kind}"
  | .undefinedOperator symbol kinds =>
      s!"operator `{symbol}` is not defined for " ++ " and ".intercalate kinds
  | .notATable parameter type =>
      s!"parameter `{parameter}` of type `" ++ type.name ++ "` is not a registered table"
  | .notBoolean node type => s!"{node} node of type `" ++ type.name ++ "` is not a boolean operator"
  | .closedFragment => "operator fragment cannot take operands"
  | .operandCount method expected found => s!"`{method}` takes {expected} operands, found {found}"
  | .noOperand method => s!"`{method}` takes an operand"
  | .emptyList method => s!"`{method}` takes at least one list element"
  | .notScalar kind => s!"{kind} cannot be bound as a single parameter"
  | .other text => text

def InvalidPath.message : InvalidPath → String
  | .through member node => s!"`{member}` passes through a {node} node"
  | .staticRoot member => s!"`{member}` is rooted at a static member"
  | .notAColumn node => s!"a {node} node is not a column path"
  | .notAMember node => s!"a {node} node is not a member path"
  | .foreignParameter name => s!"`{name}` is not a parameter of the selector"

def Failure.message : Failure → String
  | .expression cause => "invalid expression: " ++ cause.message
  | .path cause => "invalid member path: " ++ cause.message
  | .invocation target cause => s!"invocation of `{target}` failed: " ++ cause.message

end ExprSql
