import ExprSql.Failure
import ExprSql.Text.Doubled

namespace ExprSql

inductive Bound where
  | null
  | bool (b : Bool)
  | int (n : Sized .i64)
  | float (x : Binary .f64)
  | decimal (d : Decimal)
  | text (s : String)
  deriving DecidableEq

namespace Bound

/-- Integers past the signed 64-bit range become decimals. -/
def ofInt {k : IntKind} (n : Sized k) : Bound :=
  match Sized.fit? .i64 n.val with
  | some n => .int n
  | none => .decimal (Decimal.ofInt n.val (Decimal.sized_lt n))

def ofValue : Value → Except Failure Bound
  | .null => .ok .null
  | .bool b => .ok (.bool b)
  | .char c => .ok (.text c.toString)
  | .int _ n => .ok (ofInt n)
  | .float _ x => .ok (.float (Binary.ofBinary .f64 x))
  | .decimal d => .ok (.decimal d)
  | .string s => .ok (.text s)
  | .enumeration _ backing => ofValue backing
  | v => .error (.expression (.notScalar v.kindName))

def literal : Bound → String
  | .null => "NULL"
  | .bool b => if b then "TRUE" else "FALSE"
  | .int n => toString n.val
  | .float x => x.text
  | .decimal d => d.text
  | .text s => Text.enclosed '\'' s

end Bound
end ExprSql
