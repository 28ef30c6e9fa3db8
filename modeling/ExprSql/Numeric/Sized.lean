import ExprSql.Numeric.Kind

/-!
Integers that fit a kind. Arithmetic is done on `Int` and brought back by `wrap` (low bits kept)
or `fit?` (refused when out of range); bit operations go through the two's complement bits.
-/
namespace ExprSql

def IntKind.Holds (k : IntKind) (n : Int) : Prop := k.min ≤ n ∧ n ≤ k.max

instance (k : IntKind) (n : Int) : Decidable (k.Holds n) :=
  inferInstanceAs (Decidable (_ ∧ _))

abbrev Sized (k : IntKind) := { n : Int // k.Holds n }

namespace Sized

def reduce (k : IntKind) (n : Int) : Int :=
  if k.signed then n.bmod (2 ^ k.width) else n % 2 ^ k.width

theorem reduce_holds (k : IntKind) (n : Int) : k.Holds (reduce k n) := by
  cases k <;> simp [IntKind.Holds, IntKind.min, IntKind.max, IntKind.signed, IntKind.width,
    reduce, Int.bmod_def] <;> omega

def wrap (k : IntKind) (n : Int) : Sized k := ⟨reduce k n, reduce_holds k n⟩

def fit? (k : IntKind) (n : Int) : Option (Sized k) :=
  if h : k.Holds n then some ⟨n, h⟩ else none

def zero (k : IntKind) : Sized k := ⟨0, by cases k <;> decide⟩

def bits {k : IntKind} (n : Sized k) : BitVec k.width := BitVec.ofInt k.width n.val

def ofBits (k : IntKind) (b : BitVec k.width) : Sized k := wrap k b.toNat

variable {k : IntKind}

def and (a b : Sized k) : Sized k := ofBits k (a.bits &&& b.bits)
def or (a b : Sized k) : Sized k := ofBits k (a.bits ||| b.bits)
def xor (a b : Sized k) : Sized k := ofBits k (a.bits ^^^ b.bits)
def complement (a : Sized k) : Sized k := ofBits k (~~~a.bits)

/-- The count is cut to 32 bits, then masked to the width of the kind. -/
def shiftCount (k : IntKind) (n : Int) : Nat := (wrap .u32 n).val.toNat &&& (k.width - 1)

def shiftLeft (a : Sized k) (n : Int) : Sized k := ofBits k (a.bits <<< shiftCount k n)

def shiftRight (a : Sized k) (n : Int) : Sized k :=
  ofBits k (if k.signed then a.bits.sshiftRight (shiftCount k n) else a.bits >>> shiftCount k n)

end Sized
end ExprSql
