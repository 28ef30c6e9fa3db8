import ExprSql.Numeric.Decimal

/-!
Division of decimals. Digits are appended in groups of at most nine until the remainder is spent or
the mantissa is full, the last of them taken back if it no longer fits.
-/
namespace ExprSql.Decimal

/-- A quotient in progress: its value is `(q + r / divisor) / 10 ^ scale`. -/
structure Progress where
  q : Nat
  r : Nat
  scale : Int
  padded : Bool

def room (q : Nat) (scale : Int) : Nat :=
  ((List.range 10).reverse.find? fun (p : Nat) =>
    decide (scale + Int.ofNat p ≤ 28 ∧ q * 10 ^ p < 2 ^ 96)).getD 0

def nextDigits (s : Progress) : Option Nat :=
  if s.r = 0 then if 0 ≤ s.scale then none else some (min 9 (-s.scale).toNat)
  else some (room s.q s.scale)

/-- Takes back the last digit of a quotient that has outgrown the mantissa, rounding half to even. -/
def takeBack (s : Progress) : Option Progress :=
  if s.q < 2 ^ 96 then some s
  else if s.scale < 1 then none
  else
    let kept := s.q / 10
    let digit := s.q % 10
    let up := 5 < digit || (digit == 5 && (s.r != 0 || kept % 2 == 1))
    some { s with q := if up then kept + 1 else kept, scale := s.scale - 1 }

def extend (divisor : Nat) (s : Progress) : Option Progress :=
  match nextDigits s with
  | none => some s
  | some p =>
      let padded := s.padded || s.r != 0
      if h : 0 < p ∧ s.scale + p ≤ 28 then
        let next : Progress :=
          ⟨s.q * 10 ^ p + s.r * 10 ^ p / divisor, s.r * 10 ^ p % divisor, s.scale + p, padded⟩
        if next.q < 2 ^ 96 then extend divisor next
        else if s.r = 0 then none
        else takeBack next
      else if s.scale < 0 then none
      else
        let up := divisor < 2 * s.r || (2 * s.r == divisor && s.q % 2 == 1)
        takeBack { s with q := if up then s.q + 1 else s.q, padded }
termination_by (28 - s.scale).toNat
decreasing_by
  show (28 - (s.scale + p)).toNat < (28 - s.scale).toNat
  omega

def dropZeros (q scale : Nat) : Nat × Nat :=
  if 8 ≤ scale ∧ q % 2 ^ 32 = 0 ∧ q % 10 ^ 8 = 0 then dropZeros (q / 10 ^ 8) (scale - 8)
  else
    [4, 2, 1].foldl (fun (q, scale) n =>
      if n ≤ scale ∧ q % 10 ^ n = 0 then (q / 10 ^ n, scale - n) else (q, scale)) (q, scale)
termination_by scale

def div (a b : Decimal) : Option Decimal :=
  if a.isZero then some zero
  else do
    let start : Progress :=
      ⟨a.mantissa / b.mantissa, a.mantissa % b.mantissa, (a.scale : Int) - b.scale, false⟩
    let s ← extend b.mantissa start
    let (q, scale) := if s.padded then dropZeros s.q s.scale.toNat else (s.q, s.scale.toNat)
    make? ((a.negative ^^ b.negative) && q != 0) q scale

end ExprSql.Decimal
