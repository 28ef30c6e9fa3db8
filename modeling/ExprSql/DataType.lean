import ExprSql.Numeric.Kind

namespace ExprSql

inductive DataType where
  | object
  | bool
  | string
  | numeric (kind : NumericKind)
  | decimal
  | nullable (inner : DataType)
  | enumeration (name : String) (backing : NumericKind)
  | array (element : DataType)
  | list (element : DataType)
  | record (name : String)
  deriving DecidableEq, Repr

namespace DataType

abbrev int (k : IntKind) : DataType := .numeric (.int k)

def name : DataType → String
  | .object => "Object"
  | .bool => "bool"
  | .string => "String"
  | .numeric k => k.name
  | .decimal => "Decimal"
  | .nullable inner => "Option<" ++ inner.name ++ ">"
  | .enumeration name _ => name
  | .array element => "[" ++ element.name ++ "]"
  | .list element => "Vec<" ++ element.name ++ ">"
  | .record name => name

def isNullable : DataType → Bool
  | .nullable _ => true
  | _ => false

def lifted : DataType → DataType
  | .nullable inner => .nullable inner
  | t => .nullable t

def underlying : DataType → DataType
  | .nullable inner => inner
  | t => t

def isBool (t : DataType) : Bool := t.underlying == .bool

def isString (t : DataType) : Bool := t == .string

def isEnumeration (t : DataType) : Bool :=
  match t.underlying with
  | .enumeration .. => true
  | _ => false

def numericKind? (t : DataType) : Option NumericKind :=
  match t.underlying with
  | .numeric k => some k
  | _ => none

def isNumericLike (t : DataType) : Bool :=
  match t.underlying with
  | .numeric _ | .decimal | .enumeration .. => true
  | _ => false

def element? : DataType → Option DataType
  | .array element | .list element => some element
  | _ => none

/-- Whether a value of type `source` can stand where `target` is expected without a cast. -/
def assignable (target source : DataType) : Bool :=
  target == source || target == .object || target == .nullable source

end DataType
end ExprSql
