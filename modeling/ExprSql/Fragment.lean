import ExprSql.Operator
import ExprSql.Value

namespace ExprSql

/-- A column of a table; the name `*` stands for all of them. -/
structure Column where
  table : String
  qualifier : Option String
  name : String
  deriving DecidableEq, Repr

def Column.isWildcard (c : Column) : Bool := c.name == "*"

inductive Fragment where
  | value (v : Value)
  | column (c : Column)
  | comparison (op : Comparison) (left right : Fragment)
  | isNull (operand : Fragment) (negated : Bool)
  | like (operand pattern : Fragment) (negated : Bool)
  | inList (operand : Fragment) (items : List Fragment) (negated : Bool)
  | between (operand low high : Fragment) (negated : Bool)
  | logical (op : Connective) (operands : List Fragment)
  | not (operand : Fragment)
  | arithmetic (op : Arithmetic) (operands : List Fragment)
  | bitwise (op : Bitwise) (operands : List Fragment)
  | complement (operand : Fragment)
  | negate (operand : Fragment)
  | case (arms : List (Fragment × Fragment)) (otherwise : Fragment)
  | function (name : String) (arguments : List Fragment)

instance : Inhabited Fragment := ⟨.value .null⟩

namespace Fragment

/-- Equality with the literal null is a null test of the other side. -/
def compare (op : Comparison) (left right : Fragment) : Fragment :=
  let nullTest (negated : Bool) : Fragment :=
    match left, right with
    | operand, .value .null => .isNull operand negated
    | .value .null, operand => .isNull operand negated
    | left, right => .comparison op left right
  match op with
  | .equal => nullTest false
  | .notEqual => nullTest true
  | op => .comparison op left right

def equalsBool (f : Fragment) (b : Bool) : Fragment := compare .equal f (.value (.bool b))

/-- Adds an operand at the end; only n-ary nodes and functions take one. -/
def push? (f operand : Fragment) : Option Fragment :=
  match f with
  | .logical op operands => some (.logical op (operands ++ [operand]))
  | .arithmetic op operands => some (.arithmetic op (operands ++ [operand]))
  | .bitwise op operands => some (.bitwise op (operands ++ [operand]))
  | .function name arguments => some (.function name (arguments ++ [operand]))
  | _ => none

def isOperator : Fragment → Bool
  | .comparison .. | .isNull .. | .like .. | .inList .. | .between .. | .logical .. | .not _ => true
  | _ => false

def operands? : Fragment → Option (List Fragment)
  | .logical _ operands | .arithmetic _ operands | .bitwise _ operands => some operands
  | _ => none

end Fragment
end ExprSql
