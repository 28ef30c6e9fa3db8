namespace ExprSql

-- Powers mean the same whatever algebra is in scope.
@[default_instance high]
instance intPower : Pow Int Nat := instPowNat

@[default_instance high]
instance natPower : Pow Nat Nat := instPowNat

inductive IntKind where
  | i8 | i16 | i32 | i64 | u8 | u16 | u32 | u64
  deriving DecidableEq, Repr

namespace IntKind

def signed : IntKind → Bool
  | .i8 | .i16 | .i32 | .i64 => true
  | .u8 | .u16 | .u32 | .u64 => false

def width : IntKind → Nat
  | .i8 | .u8 => 8
  | .i16 | .u16 => 16
  | .i32 | .u32 => 32
  | .i64 | .u64 => 64

def name : IntKind → String
  | .i8 => "i8"
  | .i16 => "i16"
  | .i32 => "i32"
  | .i64 => "i64"
  | .u8 => "u8"
  | .u16 => "u16"
  | .u32 => "u32"
  | .u64 => "u64"

def min (k : IntKind) : Int := if k.signed then -2 ^ (k.width - 1) else 0

def max (k : IntKind) : Int := if k.signed then 2 ^ (k.width - 1) - 1 else 2 ^ k.width - 1

end IntKind

inductive FloatKind where
  | f32 | f64
  deriving DecidableEq, Repr

def FloatKind.name : FloatKind → String
  | .f32 => "f32"
  | .f64 => "f64"

inductive NumericKind where
  | int (k : IntKind)
  | float (k : FloatKind)
  | char
  deriving DecidableEq, Repr

namespace NumericKind

def all : List NumericKind :=
  [.int .i8, .int .i16, .int .i32, .int .i64, .int .u8, .int .u16, .int .u32, .int .u64,
    .float .f32, .float .f64, .char]

def name : NumericKind → String
  | .int k => k.name
  | .float k => k.name
  | .char => "char"

def ofName? (s : String) : Option NumericKind := all.find? (·.name == s)

def isFloat : NumericKind → Bool
  | .float _ => true
  | _ => false

def isInteger (k : NumericKind) : Bool := !k.isFloat

def isSigned : NumericKind → Bool
  | .int k => k.signed
  | _ => false

def isUnsigned : NumericKind → Bool
  | .int k => !k.signed
  | .char => true
  | .float _ => false

def integer? : NumericKind → Option IntKind
  | .int k => some k
  | .char => some .u16
  | .float _ => none

def promoteUnary : NumericKind → NumericKind
  | .int .i8 | .int .i16 | .int .u8 | .int .u16 | .char => .int .i32
  | k => k

/-- The common kind of two operands. Only `u64` beside a signed integer has none. -/
def promote (a b : NumericKind) : Option NumericKind :=
  let either (k : NumericKind) : Bool := a == k || b == k
  let signed : Bool := a.isSigned || b.isSigned
  if either (.float .f64) then some (.float .f64)
  else if either (.float .f32) then some (.float .f32)
  else if either (.int .u64) then if signed then none else some (.int .u64)
  else if either (.int .i64) then some (.int .i64)
  else if either (.int .u32) then some (.int (if signed then .i64 else .u32))
  else some (.int .i32)

theorem promote_comm (a b : NumericKind) : promote a b = promote b a := by
  simp only [promote, Bool.or_comm]

end NumericKind
end ExprSql
