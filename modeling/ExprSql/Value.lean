import ExprSql.DataType
import ExprSql.Numeric.Sized
import ExprSql.Numeric.Shortest
import ExprSql.Numeric.Decimal
import ExprSql.Text.Quoted

/-!
Run-time values. A record is a host object: its identity decides equality, its members are what
expressions can read. A record embedded in another is copied whenever it is read, so it has no
identity and equals nothing.
-/
namespace ExprSql

inductive Value where
  | null
  | bool (b : Bool)
  | char (c : Char)
  | int (kind : IntKind) (n : Sized kind)
  | float (kind : FloatKind) (x : Binary kind)
  | decimal (d : Decimal)
  | string (s : String)
  | enumeration (typeName : String) (backing : Value)
  | array (items : List Value)
  | list (items : List Value)
  | record (identity : Option Nat) (typeName : String) (members : List (String × Value))

instance : Inhabited Value := ⟨.null⟩

namespace Value

def zero : NumericKind → Value
  | .int k => .int k (Sized.zero k)
  | .float k => .float k (Binary.zero k)
  | .char => .char '\x00'

def isNull : Value → Bool
  | .null => true
  | _ => false

def isString : Value → Bool
  | .string _ => true
  | _ => false

def bool? : Value → Option Bool
  | .bool b => some b
  | _ => none

def string? : Value → Option String
  | .string s => some s
  | _ => none

def numericKind? : Value → Option NumericKind
  | .int k _ => some (.int k)
  | .float k _ => some (.float k)
  | .char _ => some .char
  | _ => none

def integer? : Value → Option Int
  | .int _ n => some n.val
  | .char c => some c.toNat
  | .enumeration _ backing => backing.integer?
  | _ => none

def operand : Value → Value
  | .enumeration _ backing => backing
  | v => v

def items? : Value → Option (List Value)
  | .array items | .list items => some items
  | _ => none

def length? : Value → Option Nat
  | .string s => some s.length
  | v => v.items?.map List.length

/-- Elements of collections are not tracked at run time and count as `object`. -/
def type : Value → DataType
  | .null => .object
  | .bool _ => .bool
  | .char _ => .numeric .char
  | .int k _ => .numeric (.int k)
  | .float k _ => .numeric (.float k)
  | .decimal _ => .decimal
  | .string _ => .string
  | .enumeration name backing => .enumeration name (backing.numericKind?.getD (.int .i32))
  | .array _ => .array .object
  | .list _ => .list .object
  | .record _ name _ => .record name

/-- Null is an instance of no type; every other value is one of `object`. -/
def instanceOf (v : Value) (t : DataType) : Bool :=
  match v, t with
  | .null, _ => false
  | _, .object => true
  | v, .nullable inner => v.instanceOf inner
  | .array _, .array _ | .list _, .list _ => true
  | v, t => v.type == t

def kindName : Value → String
  | .null => "null"
  | .bool _ => "bool"
  | .char _ => "char"
  | .int k _ => k.name
  | .float k _ => k.name
  | .decimal _ => "decimal"
  | .string _ => "string"
  | .enumeration .. => "enum"
  | .array _ => "array"
  | .list _ => "list"
  | .record .. => "record"

mutual

/-- Equality within a kind: floating point and decimals as numbers, records by identity. -/
def same : Value → Value → Bool
  | .null, .null => true
  | .bool a, .bool b => a == b
  | .char a, .char b => a == b
  | .int j a, .int k b => j == k && a.val == b.val
  | .float .f32 a, .float .f32 b => a.same b
  | .float .f64 a, .float .f64 b => a.same b
  | .decimal a, .decimal b => a.same b
  | .string a, .string b => a == b
  | .enumeration s a, .enumeration t b => s == t && a.same b
  | .array a, .array b => sameItems a b
  | .list a, .list b => sameItems a b
  | .record (some a) _ _, .record (some b) _ _ => a == b
  | _, _ => false

def sameItems : List Value → List Value → Bool
  | [], [] => true
  | a :: as, b :: bs => a.same b && sameItems as bs
  | _, _ => false

end

mutual

def display : Value → String
  | .null => "null"
  | .bool b => toString b
  | .char c => Text.quotedChar c
  | .int _ n => toString n.val
  | .float _ x => x.text
  | .decimal d => d.text
  | .string s => Text.quoted s
  | .enumeration name backing => name ++ "(" ++ backing.display ++ ")"
  | .array items | .list items => "[" ++ ", ".intercalate (displayItems items) ++ "]"
  | .record _ name _ => name ++ "\x7b..\x7d"

def displayItems : List Value → List String
  | [] => []
  | v :: vs => v.display :: displayItems vs

end

/-- The text of a value when strings are joined: null is empty, strings stand unquoted. -/
def text : Value → String
  | .null => ""
  | .string s => s
  | .char c => c.toString
  | v => v.display

def member? (members : List (String × Value)) (name : String) : Option Value :=
  members.lookup name

end Value

def DataType.default : DataType → Value
  | .bool => .bool false
  | .numeric k => Value.zero k
  | .decimal => .decimal Decimal.zero
  | .enumeration name backing => .enumeration name (Value.zero backing)
  | _ => .null

end ExprSql
