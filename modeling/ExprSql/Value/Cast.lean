import ExprSql.Value
import ExprSql.Numeric.Decimal.Float

/-!
Casts between values. A checked cast fails when the number is out of the target's range; an
unchecked one keeps its low bits. Decimals report overflow either way. A null cast to a type that
does not allow it becomes the type's default.
-/
namespace ExprSql

inductive CastError where
  | overflow
  | unsupported (kind : String) (target : DataType)
  deriving DecidableEq, Repr

def overflowText : String := "arithmetic operation resulted in an overflow"

def CastError.message : CastError → String
  | .overflow => overflowText
  | .unsupported kind target => "no conversion from " ++ kind ++ " to `" ++ target.name ++ "`"

namespace Value

inductive Source where
  | whole (n : Int)
  | real (x : Binary .f64)

def source? : Value → Option Source
  | .int _ n => some (.whole n.val)
  | .char c => some (.whole c.toNat)
  | .float _ x => some (.real (Binary.ofBinary .f64 x))
  | .enumeration _ backing => backing.source?
  | _ => none

def clamp (k : IntKind) (n : Int) : Int := max k.min (min k.max n)

/-- The 64-bit integer an unchecked cast goes through: signed unless past the signed range. -/
def saturated : Binary .f64 → Int
  | .nan => 0
  | .infinity negative => if negative then IntKind.min .i64 else IntKind.max .u64
  | x@(.finite ..) =>
      let limit := Binary.ofInt .f64 (IntKind.max .i64)
      let n := x.trunc?.getD 0
      if x.compare? limit == some .gt then clamp .u64 n else clamp .i64 n

/-- Whether the kind has room for a number without a fraction. The bounds are floats as well, so
the second, one more than the greatest integer, may be the sum of two rounded numbers. -/
def inRange (k : IntKind) (x : Binary .f64) : Bool :=
  x.within (.ofInt .f64 k.min) ((Binary.ofInt .f64 k.max).add (.ofInt .f64 1))

def Source.toSized (k : IntKind) (checked : Bool) : Source → Except CastError (Sized k)
  | .whole n =>
      if checked then (Sized.fit? k n).elim (.error .overflow) .ok else .ok (Sized.wrap k n)
  | .real x =>
      if checked then
        let part := x.truncate
        if inRange k part then .ok (Sized.wrap k (part.trunc?.getD 0)) else .error .overflow
      else .ok (Sized.wrap k (saturated x))

def Source.toBinary (w : FloatKind) : Source → Binary w
  | .whole n => Binary.ofInt w n
  | .real x => Binary.ofBinary w x

def unitChar? (n : Int) : Option Char :=
  if h : n.toNat.isValidChar then some (Char.ofNatAux n.toNat h) else none

def Source.narrow (checked : Bool) (s : Source) : NumericKind → Except CastError Value
  | .int k => (s.toSized k checked).map (.int k)
  | .float w => .ok (.float w (s.toBinary w))
  | .char => do
      let unit ← s.toSized .u16 checked
      match unitChar? unit.val with
      | some c => .ok (.char c)
      | none => if checked then .error .overflow else .ok (.char '\uFFFD')

/-- Truncates; a negative sign, even of a zero, is out of range for unsigned kinds. -/
def ofDecimal (d : Decimal) : NumericKind → Except CastError Value
  | .int k => do
      let n ← whole k
      .ok (.int k n)
  | .float w => .ok (.float w (d.toBinary w))
  | .char => do
      let unit ← whole .u16
      (unitChar? unit.val).elim (.error .overflow) (.ok ∘ .char)
where
  whole (k : IntKind) : Except CastError (Sized k) :=
    if d.negative && !k.signed then .error .overflow
    else (Sized.fit? k d.trunc).elim (.error .overflow) .ok

def toNumeric (v : Value) (k : NumericKind) (checked : Bool) : Except CastError Value :=
  match v with
  | .decimal d => ofDecimal d k
  | v =>
      match v.source? with
      | some s => s.narrow checked k
      | none => .error (.unsupported v.kindName (.numeric k))

variable [Decimal.FromBinary]

def toDecimal : Value → Except CastError Decimal
  | .decimal d => .ok d
  | .float _ x => (Decimal.FromBinary.fromBinary? x).elim (.error .overflow) .ok
  | .int _ n => .ok (Decimal.ofInt n.val (Decimal.sized_lt n))
  | .char c => .ok (Decimal.ofInt (Int.ofNat c.toNat) (Decimal.codePoint_lt c))
  | .enumeration _ backing => backing.toDecimal
  | v => .error (.unsupported v.kindName .decimal)

def cast (checked : Bool) (v : Value) : DataType → Except CastError Value
  | .nullable inner => if v.isNull then .ok .null else v.cast checked inner
  | target =>
      if v.isNull then .ok target.default
      else
        match target with
        | .numeric k => v.toNumeric k checked
        | .enumeration name backing => (v.toNumeric backing checked).map (.enumeration name)
        | .decimal => v.toDecimal.map .decimal
        | .object => .ok v
        | target =>
            if target.assignable v.type then .ok v else .error (.unsupported v.kindName target)

end Value
end ExprSql
