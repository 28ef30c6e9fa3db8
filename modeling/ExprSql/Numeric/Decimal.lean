import ExprSql.Numeric.Binary
import ExprSql.Numeric.Sized

/-!
Fixed-point decimals: a sign, a mantissa below `2 ^ 96` and at most 28 fraction digits. Results
that do not fit lose digits once, rounded half to even; those that cannot fit at all are `none`.
-/
namespace ExprSql

structure Decimal where
  negative : Bool
  mantissa : Nat
  scale : Nat
  mantissa_lt : mantissa < 2 ^ 96
  scale_le : scale ≤ 28
  deriving DecidableEq

namespace Decimal

def make? (negative : Bool) (mantissa scale : Nat) : Option Decimal :=
  if h : mantissa < 2 ^ 96 ∧ scale ≤ 28 then some ⟨negative, mantissa, scale, h.1, h.2⟩ else none

def zero : Decimal := ⟨false, 0, 0, by decide, by decide⟩

def ofInt (n : Int) (h : n.natAbs < 2 ^ 96) : Decimal := ⟨n < 0, n.natAbs, 0, h, by decide⟩

theorem sized_lt {k : IntKind} (n : Sized k) : n.val.natAbs < 2 ^ 96 := by
  have := n.property
  cases k <;> simp [IntKind.Holds, IntKind.min, IntKind.max, IntKind.signed, IntKind.width] at this
    <;> omega

theorem codePoint_lt (c : Char) : (Int.ofNat c.toNat).natAbs < 2 ^ 96 := by
  have : c.toNat < 2 ^ 96 := Nat.lt_trans c.val.toNat_lt (by decide)
  simpa using this

def isZero (a : Decimal) : Bool := a.mantissa == 0

def neg (a : Decimal) : Decimal := { a with negative := !a.negative }

def atScale (a : Decimal) (scale : Nat) : Int :=
  Binary.signed a.negative (a.mantissa * 10 ^ (scale - a.scale))

def order (a b : Decimal) : Ordering :=
  let scale := max a.scale b.scale
  compare (a.atScale scale) (b.atScale scale)

def same (a b : Decimal) : Bool := a.order b == .eq

/-- Drops the fewest digits that bring mantissa and scale into range. A zero has no sign. -/
def fit (negative : Bool) (n scale : Nat) : Option Decimal :=
  let least := scale - 28
  ((List.range (scale + 1 - least)).map (· + least)).findSome? fun k =>
    let m := halfEven n (10 ^ k)
    make? (negative && m != 0) m (scale - k)

def add (a b : Decimal) : Option Decimal :=
  if a.isZero then some b
  else if b.isZero then some a
  else
    let scale := max a.scale b.scale
    let sum := a.atScale scale + b.atScale scale
    fit (sum < 0) sum.natAbs scale

def sub (a b : Decimal) : Option Decimal := if b.isZero && a.isZero then some b else a.add b.neg

def isShort (a : Decimal) : Bool := a.mantissa < 2 ^ 32

/-- The product of short mantissas vanishes, digits and all, once its scale is past 47. -/
def mul (a b : Decimal) : Option Decimal :=
  if a.isZero || b.isZero then some zero
  else if a.isShort && b.isShort && 47 < a.scale + b.scale then some zero
  else fit (a.negative ^^ b.negative) (a.mantissa * b.mantissa) (a.scale + b.scale)

def trunc (a : Decimal) : Int := Binary.signed a.negative (a.mantissa / 10 ^ a.scale)

def text (a : Decimal) : String :=
  let digits := Nat.toDigits 10 a.mantissa
  let padded := List.replicate (a.scale + 1 - digits.length) '0' ++ digits
  let whole := padded.take (padded.length - a.scale)
  let fraction := padded.drop (padded.length - a.scale)
  String.ofList ((if a.negative then ['-'] else []) ++ whole
    ++ (if a.scale = 0 then [] else '.' :: fraction))

def digitsValue (ds : List Char) : Nat := ds.foldl (fun n c => 10 * n + (c.toNat - '0'.toNat)) 0

def ofText? (s : String) : Option Decimal :=
  let (negative, body) := match s.toList with
    | '-' :: rest => (true, rest)
    | rest => (false, rest)
  let whole := body.takeWhile Char.isDigit
  let rest := body.dropWhile Char.isDigit
  if whole.isEmpty then none
  else
    match rest with
    | [] => read negative whole 0
    | '.' :: fraction =>
        if fraction.isEmpty || !fraction.all Char.isDigit then none
        else read negative (whole ++ fraction) fraction.length
    | _ => none
where
  read (negative : Bool) (ds : List Char) (scale : Nat) : Option Decimal :=
    let m := digitsValue ds
    make? (negative && m != 0) m scale

end Decimal
end ExprSql
