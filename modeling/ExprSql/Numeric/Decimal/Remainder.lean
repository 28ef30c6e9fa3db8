import ExprSql.Numeric.Decimal

/-!
Remainders of decimals. A divisor below `2 ^ 64` gives the true remainder. Division by a longer
one goes word by word, and a partial remainder whose first word is the divisor's own loses that
word, so the result can differ from the true remainder; it is below the divisor all the same.
-/
namespace ExprSql.Decimal

def words (n : Nat) : List Nat := (List.range 7).reverse.map fun i => n / 2 ^ (32 * i) % 2 ^ 32

def bringDown (divisor rest word : Nat) : Nat :=
  let kept := if rest / 2 ^ 64 = divisor / 2 ^ 64 then rest % 2 ^ 64 else rest
  (kept * 2 ^ 32 + word) % divisor

/-- Long divisors are first shifted until their top bit is set, and the dividend with them. -/
def remainder (x y : Nat) : Nat :=
  if y < 2 ^ 64 then x % y
  else
    let unit := 2 ^ (95 - y.log2)
    (words (x * unit)).foldl (bringDown (y * unit)) 0 / unit

def mod (a b : Decimal) : Option Decimal :=
  if a.isZero then some zero
  else
    let scale := max a.scale b.scale
    let x := (a.atScale scale).natAbs
    let y := (b.atScale scale).natAbs
    if x = y then some zero
    else if x < y then some a
    else
      let r := remainder x y
      make? (a.negative && r != 0) r scale

end ExprSql.Decimal
