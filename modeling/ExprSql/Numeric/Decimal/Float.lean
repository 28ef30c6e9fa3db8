import ExprSql.Numeric.Decimal

namespace ExprSql.Decimal

/-- The 64-bit number of the decimal, sign applied last. -/
def toFloat64 (a : Decimal) : Binary .f64 :=
  if a.scale = 0 then Binary.ofInt .f64 a.trunc
  else
    let unit := 10 ^ a.scale
    let whole := Binary.ofRatio .f64 false (a.mantissa / unit) 1
    let fraction :=
      (Binary.ofRatio .f64 false (a.mantissa % unit) 1).div (Binary.ofRatio .f64 false unit 1)
    let sum :=
      if a.mantissa % unit = 0 then whole
      else
        let power := (Binary.ofInt .f64 10).powSquaring a.scale
        (((whole.add fraction).mul power).round).div power
    if a.negative then sum.neg else sum

def toBinary (w : FloatKind) (a : Decimal) : Binary w := Binary.ofBinary w a.toFloat64

structure Scaled where
  mantissa : Nat
  exponent : Int

def halve : Nat → Scaled → Scaled
  | 0, s => s
  | n + 1, ⟨m, t⟩ =>
      if m % 2 = 0 then halve n ⟨m / 2, t + 1⟩
      else if 5 * m < 2 ^ 96 then halve n ⟨5 * m, t⟩
      else halve n ⟨m / 2, t + 1⟩

def double : Nat → Scaled → Option Scaled
  | 0, s => some s
  | n + 1, ⟨m, t⟩ =>
      if m < 2 ^ 95 then double n ⟨2 * m, t - 1⟩
      else if (n + 1 : Int) < 2 * t then none
      else double n ⟨m / 5, t⟩

def spell : Nat → Nat → Option Nat
  | 0, m => some m
  | n + 1, m => if 10 * m < 2 ^ 96 then spell n (10 * m) else none

def dropDigit (m : Nat) : Nat := if 5 ≤ m % 10 then m / 10 + 1 else m / 10

def shorten (m scale : Nat) : Nat × Nat :=
  if scale ≤ 28 then (m, scale)
  else if m / 10 = 0 then (0, 0)
  else shorten (dropDigit m) (scale - 1)
termination_by scale

/-- Drops fraction digits that the precision of the source cannot carry. -/
def trim (bound m : Nat) : Nat → Nat × Nat
  | 0 => (m, 0)
  | scale + 1 => if bound ≤ m then trim bound (dropDigit m) scale else (m, scale + 1)

def stripZeros (m : Nat) : Nat → Nat × Nat
  | 0 => (m, 0)
  | scale + 1 => if m % 10 = 0 then stripZeros (m / 10) scale else (m, scale + 1)

def carried : FloatKind → Nat
  | .f32 => 2 ^ 24
  | .f64 => 2 ^ 52

def ofBinary? {w : FloatKind} : Binary w → Option Decimal
  | .nan | .infinity _ => none
  | .finite negative units _ =>
      if units = 0 then some { zero with negative }
      else do
        let (m, e) := Binary.significand w units
        let exponent : Int := e - w.one.log2
        let s ← double exponent.toNat (halve (-exponent).toNat ⟨m, exponent⟩)
        let m ← spell s.exponent.toNat s.mantissa
        let (m, scale) := shorten m (-s.exponent).toNat
        let (m, scale) := trim (carried w) m scale
        let (m, scale) := stripZeros m scale
        make? negative m scale

/-- The decimal form of floats, for those that have one. -/
class FromBinary where
  fromBinary? {w : FloatKind} : Binary w → Option Decimal

instance : FromBinary := ⟨ofBinary?⟩

end ExprSql.Decimal
