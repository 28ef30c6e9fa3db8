import ExprSql.Numeric.Kind

/-!
Binary floating point of 32 and 64 bits. A finite number is a sign and a whole count of units,
the unit being the smallest positive number of the kind, so order and truncation are facts about
integers and every operation is an exact ratio rounded once, to nearest with ties to even.
-/
namespace ExprSql

namespace FloatKind

def precision : FloatKind → Nat
  | .f32 => 24
  | .f64 => 53

def exponentBits : FloatKind → Nat
  | .f32 => 8
  | .f64 => 11

def width : FloatKind → Nat
  | .f32 => 32
  | .f64 => 64

def one : FloatKind → Nat
  | .f32 => 2 ^ 149
  | .f64 => 2 ^ 1074

def largest (w : FloatKind) : Nat := (2 ^ w.precision - 1) * 2 ^ (2 ^ w.exponentBits - 3)

/-- Trailing bits that a significand of this size cannot hold. -/
def excess (w : FloatKind) (units : Nat) : Nat := units.log2 + 1 - w.precision

def Holds (w : FloatKind) (units : Nat) : Prop :=
  units ≤ w.largest ∧ units % 2 ^ w.excess units = 0

instance (w : FloatKind) (units : Nat) : Decidable (w.Holds units) :=
  inferInstanceAs (Decidable (_ ∧ _))

end FloatKind

def halfEven (num den : Nat) : Nat :=
  let q := num / den
  let r := num % den
  if 2 * r < den then q
  else if den < 2 * r then q + 1
  else q + q % 2

inductive Binary (w : FloatKind) where
  | nan
  | infinity (negative : Bool)
  | finite (negative : Bool) (units : Nat) (held : w.Holds units)
  deriving DecidableEq

namespace Binary

variable {w : FloatKind}

/-- A count that no finite number has stands past the largest. -/
def ofUnits (w : FloatKind) (negative : Bool) (units : Nat) : Binary w :=
  if h : w.Holds units then .finite negative units h else .infinity negative

def nearestUnits (w : FloatKind) (num den : Nat) : Nat :=
  let step := 2 ^ w.excess (num / den)
  halfEven num (den * step) * step

def ofRatio (w : FloatKind) (negative : Bool) (num den : Nat) : Binary w :=
  ofUnits w negative (nearestUnits w (num * w.one) den)

def ofInt (w : FloatKind) (n : Int) : Binary w := ofRatio w (n < 0) n.natAbs 1

def zero (w : FloatKind) : Binary w := .finite false 0 ⟨Nat.zero_le _, Nat.zero_mod _⟩

def ofBinary (w : FloatKind) {v : FloatKind} : Binary v → Binary w
  | .nan => .nan
  | .infinity s => .infinity s
  | .finite s u _ => ofRatio w s u v.one

def signed (negative : Bool) (n : Nat) : Int := if negative then -n else n

/-- Ranks the numbers, infinities one past the largest; a NaN has no rank. -/
def rank? : Binary w → Option Int
  | .nan => none
  | .infinity s => some (signed s (w.largest + 1))
  | .finite s u _ => some (signed s u)

def same (a b : Binary w) : Bool :=
  match a.rank?, b.rank? with
  | some x, some y => x == y
  | _, _ => false

def compare? (a b : Binary w) : Option Ordering :=
  match a.rank?, b.rank? with
  | some x, some y => some (compare x y)
  | _, _ => none

def within (x low limit : Binary w) : Bool :=
  (x.compare? low).any Ordering.isGE && x.compare? limit == some .lt

def trunc? : Binary w → Option Int
  | .finite s u _ => some (signed s (u / w.one))
  | _ => none

def truncate : Binary w → Binary w
  | .finite s u _ => ofUnits w s (u / w.one * w.one)
  | x => x

def isNegative : Binary w → Bool
  | .nan => false
  | .infinity s => s
  | .finite s _ _ => s

def neg : Binary w → Binary w
  | .nan => .nan
  | .infinity s => .infinity !s
  | .finite s u h => .finite (!s) u h

/-- A zero sum is positive unless both terms are negative. -/
def add : Binary w → Binary w → Binary w
  | .nan, _ => .nan
  | _, .nan => .nan
  | .infinity s, .infinity t => if s == t then .infinity s else .nan
  | .infinity s, .finite .. => .infinity s
  | .finite .., .infinity t => .infinity t
  | .finite s u _, .finite t v _ =>
      let sum : Int := signed s u + signed t v
      let negative := if sum == 0 then s && t else sum < 0
      ofUnits w negative (nearestUnits w sum.natAbs 1)

def sub (a b : Binary w) : Binary w := a.add b.neg

def mul : Binary w → Binary w → Binary w
  | .nan, _ => .nan
  | _, .nan => .nan
  | .infinity s, .infinity t => .infinity (s ^^ t)
  | .infinity s, .finite t v _ => if v == 0 then .nan else .infinity (s ^^ t)
  | .finite s u _, .infinity t => if u == 0 then .nan else .infinity (s ^^ t)
  | .finite s u _, .finite t v _ => ofUnits w (s ^^ t) (nearestUnits w (u * v) w.one)

def div : Binary w → Binary w → Binary w
  | .nan, _ => .nan
  | _, .nan => .nan
  | .infinity _, .infinity _ => .nan
  | .infinity s, .finite t _ _ => .infinity (s ^^ t)
  | .finite s _ _, .infinity t => ofUnits w (s ^^ t) 0
  | .finite s u _, .finite t v _ =>
      if v == 0 then if u == 0 then .nan else .infinity (s ^^ t)
      else ofRatio w (s ^^ t) u v

def mod : Binary w → Binary w → Binary w
  | .finite s u _, .finite _ v _ => if v == 0 then .nan else ofUnits w s (u % v)
  | .finite s u h, .infinity _ => .finite s u h
  | _, _ => .nan

def round : Binary w → Binary w
  | .finite s u _ => ofUnits w s ((2 * u + w.one) / (2 * w.one) * w.one)
  | x => x

def powSquaring (base : Binary w) (n : Nat) : Binary w :=
  go base (ofInt w 1) n
where
  go (base acc : Binary w) (n : Nat) : Binary w :=
    let acc := if n % 2 == 1 then acc.mul base else acc
    if n / 2 = 0 then acc else go (base.mul base) acc (n / 2)
  termination_by n
  decreasing_by omega

def significand (w : FloatKind) (units : Nat) : Nat × Nat :=
  let e := w.excess units
  (units / 2 ^ e, e)

def toBits : Binary w → Nat
  | .nan => (2 ^ w.exponentBits - 1) * 2 ^ (w.precision - 1) + 2 ^ (w.precision - 2)
  | .infinity s => encode s (2 ^ w.exponentBits - 1) 0
  | .finite s u _ =>
      let hidden := 2 ^ (w.precision - 1)
      if u < hidden then encode s 0 u
      else
        let (m, e) := significand w u
        encode s (e + 1) (m - hidden)
where
  encode (negative : Bool) (exponent fraction : Nat) : Nat :=
    (if negative then 2 ^ (w.width - 1) else 0) + exponent * 2 ^ (w.precision - 1) + fraction

def ofBits (w : FloatKind) (bits : Nat) : Binary w :=
  let hidden := 2 ^ (w.precision - 1)
  let fraction := bits % hidden
  let exponent := bits / hidden % 2 ^ w.exponentBits
  let negative := bits / 2 ^ (w.width - 1) % 2 == 1
  if exponent = 2 ^ w.exponentBits - 1 then
    if fraction = 0 then .infinity negative else .nan
  else if exponent = 0 then ofUnits w negative fraction
  else ofUnits w negative ((hidden + fraction) * 2 ^ (exponent - 1))

end Binary
end ExprSql
