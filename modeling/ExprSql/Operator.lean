namespace ExprSql

inductive Comparison where
  | equal | notEqual | less | lessEqual | greater | greaterEqual
  deriving DecidableEq, Repr

inductive Arithmetic where
  | add | subtract | multiply | divide | modulo
  deriving DecidableEq, Repr

inductive Bitwise where
  | and | or | xor | shiftLeft | shiftRight
  deriving DecidableEq, Repr

inductive Connective where
  | and | or
  deriving DecidableEq, Repr

inductive UnaryOp where
  | cast (checked : Bool)
  | not
  | negate (checked : Bool)
  | plus
  | length
  deriving DecidableEq, Repr

inductive BinaryOp where
  | add (checked : Bool)
  | subtract (checked : Bool)
  | multiply (checked : Bool)
  | divide
  | modulo
  | bitwise (op : Bitwise)
  | andAlso
  | orElse
  | compare (op : Comparison)
  | coalesce
  | index
  deriving DecidableEq, Repr

def Comparison.symbol : Comparison → String
  | .equal => "=="
  | .notEqual => "!="
  | .less => "<"
  | .lessEqual => "<="
  | .greater => ">"
  | .greaterEqual => ">="

def Comparison.sql : Comparison → String
  | .equal => "="
  | .notEqual => "<>"
  | .less => "<"
  | .lessEqual => "<="
  | .greater => ">"
  | .greaterEqual => ">="

def Arithmetic.symbol : Arithmetic → String
  | .add => "+"
  | .subtract => "-"
  | .multiply => "*"
  | .divide => "/"
  | .modulo => "%"

def Bitwise.symbol : Bitwise → String
  | .and => "&"
  | .or => "|"
  | .xor => "^"
  | .shiftLeft => "<<"
  | .shiftRight => ">>"

def Connective.sql : Connective → String
  | .and => "AND"
  | .or => "OR"

def Comparison.ofSql? (s : String) : Option Comparison :=
  [.equal, .notEqual, .less, .lessEqual, .greater, .greaterEqual].find? (·.sql == s)

def Arithmetic.ofSymbol? (s : String) : Option Arithmetic :=
  [.add, .subtract, .multiply, .divide, .modulo].find? (·.symbol == s)

def Bitwise.ofSymbol? (s : String) : Option Bitwise :=
  [.and, .or, .xor, .shiftLeft, .shiftRight].find? (·.symbol == s)

def Connective.ofSql? (s : String) : Option Connective := [.and, .or].find? (·.sql == s)

namespace UnaryOp

def symbol : UnaryOp → String
  | .cast _ => "cast"
  | .not => "!"
  | .negate _ => "-"
  | .plus => "+"
  | .length => "len"

def names : List (String × UnaryOp) :=
  [("Convert", .cast false), ("ConvertChecked", .cast true), ("Not", .not),
    ("Negate", .negate false), ("NegateChecked", .negate true), ("UnaryPlus", .plus),
    ("ArrayLength", .length)]

def isChecked : UnaryOp → Bool
  | .cast checked | .negate checked => checked
  | _ => false

end UnaryOp

namespace BinaryOp

def arithmetic? : BinaryOp → Option Arithmetic
  | .add _ => some .add
  | .subtract _ => some .subtract
  | .multiply _ => some .multiply
  | .divide => some .divide
  | .modulo => some .modulo
  | _ => none

def symbol : BinaryOp → String
  | .add _ => Arithmetic.symbol .add
  | .subtract _ => Arithmetic.symbol .subtract
  | .multiply _ => Arithmetic.symbol .multiply
  | .divide => Arithmetic.symbol .divide
  | .modulo => Arithmetic.symbol .modulo
  | .bitwise op => op.symbol
  | .andAlso => "&&"
  | .orElse => "||"
  | .compare op => op.symbol
  | .coalesce => "??"
  | .index => "[]"

def names : List (String × BinaryOp) :=
  [("Add", .add false), ("AddChecked", .add true), ("Subtract", .subtract false),
    ("SubtractChecked", .subtract true), ("Multiply", .multiply false),
    ("MultiplyChecked", .multiply true), ("Divide", .divide), ("Modulo", .modulo),
    ("And", .bitwise .and), ("Or", .bitwise .or), ("ExclusiveOr", .bitwise .xor),
    ("LeftShift", .bitwise .shiftLeft), ("RightShift", .bitwise .shiftRight),
    ("AndAlso", .andAlso), ("OrElse", .orElse), ("Equal", .compare .equal),
    ("NotEqual", .compare .notEqual), ("LessThan", .compare .less),
    ("LessThanOrEqual", .compare .lessEqual), ("GreaterThan", .compare .greater),
    ("GreaterThanOrEqual", .compare .greaterEqual), ("Coalesce", .coalesce),
    ("ArrayIndex", .index)]

def isChecked : BinaryOp → Bool
  | .add checked | .subtract checked | .multiply checked => checked
  | _ => false

def isAdd : BinaryOp → Bool
  | .add _ => true
  | _ => false

def isComparison : BinaryOp → Bool
  | .compare _ => true
  | _ => false

def isArithmetic (op : BinaryOp) : Bool := op.arithmetic?.isSome

def isBitwise : BinaryOp → Bool
  | .bitwise _ => true
  | _ => false

def isShortCircuit : BinaryOp → Bool
  | .andAlso | .orElse => true
  | _ => false

end BinaryOp
end ExprSql
