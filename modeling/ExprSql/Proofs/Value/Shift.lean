import ExprSql.Proofs.Numeric.Shift
import ExprSql.Proofs.Value.Enumerated

namespace ExprSql.Value

variable {l r v w : Value} {j k : NumericKind} {i : IntKind} {a n : Int} {t : DataType} {up : Bool}

theorem integer_of_counts (counts : Counts t v n) : v.integer? = some n := by
  induction counts with
  | int m => rfl
  | char c => rfl
  | enumeration backing ih => exact ih
  | nullable present ih => exact ih

theorem shift_stands (left : Stands l j a) (right : Stands r k n)
    (promoted : j.promoteUnary = .int i) : ∃ x : Sized i, x.val = a ∧ ∀ up : Bool,
      shift up l r = .ok (.int i (if up then x.shiftLeft n else x.shiftRight n)) := by
  obtain ⟨x, widened, same⟩ := widen_stands left promoted
  have count := integer_of_counts (stands_operand right)
  refine ⟨x, same, fun up => ?_⟩
  simp only [shift, widened, count]

def shiftOf (up : Bool) : BinaryOp := .bitwise (if up then .shiftLeft else .shiftRight)

theorem combine_shift (left : Stands l j a) (right : Stands r k n)
    (notEnumeration : t.isEnumeration = false) (done : shift up l r = .ok w) :
    combine (shiftOf up) l r t = .ok w := by
  have leftPresent := (stands_present left).1
  have rightPresent := (stands_present right).1
  have calculated : result (shiftOf up) l r = .ok w := by
    cases up <;>
      simpa [shiftOf, result, connective?, calculate, leftPresent, rightPresent] using done
  have apart : joins (shiftOf up) l r t = false := rfl
  rw [combine_apart apart, calculated]
  exact rewrap_plain notEnumeration w

/-- Shifts of whole numbers give the promoted left operand times a power of two, in its low bits,
or its quotient by that power, rounded down. -/
theorem shifts_exact (left : Stands l j a) (right : Stands r k n)
    (notEnumeration : t.isEnumeration = false) : ∃ i, j.promoteUnary = .int i ∧ i.Holds a ∧
      (∃ m : Sized i, combine (.bitwise .shiftLeft) l r t = .ok (.int i m) ∧
        m.val ≡ a * 2 ^ (n % i.width).toNat [ZMOD 2 ^ i.width]) ∧
      ∃ m : Sized i, combine (.bitwise .shiftRight) l r t = .ok (.int i m) ∧
        m.val = ⌊(a : ℚ) / 2 ^ (n % i.width).toNat⌋ := by
  obtain ⟨i, promoted⟩ := NumericKind.promoteUnary_whole (stands_integral left).1
  obtain ⟨x, rfl, shifted⟩ := shift_stands left right promoted
  have upward := combine_shift left right notEnumeration (shifted true)
  have downward := combine_shift left right notEnumeration (shifted false)
  exact ⟨i, promoted, x.property, ⟨_, upward, Sized.shiftLeft_congruent x n⟩,
    _, downward, Sized.shiftRight_floor x n⟩

theorem balance_shifted_back :
    let l : Value := .enumeration "Balance" (.int .i16 ⟨-5, by decide⟩)
    let r : Value := .int .i64 ⟨-1, by decide⟩
    Stands l (.int .i16) (-5) ∧ Stands r (.int .i64) (-1) ∧ DataType.isEnumeration .object = false ∧
      (∃ m : Sized .i32, combine (.bitwise .shiftLeft) l r .object = .ok (.int .i32 m) ∧
        m.val = -2 ^ 31) ∧
      ∃ m : Sized .i32, combine (.bitwise .shiftRight) l r .object = .ok (.int .i32 m) ∧
        m.val = -1 := by
  intro l r
  have left : Stands l (.int .i16) (-5) := .enumeration (.int ⟨-5, by decide⟩)
  have right : Stands r (.int .i64) (-1) := .number (.int ⟨-1, by decide⟩)
  obtain ⟨i, promoted, -, ⟨m, upward, low⟩, q, downward, floor⟩ :=
    shifts_exact (t := .object) left right rfl
  cases promoted
  have residue : ((-1 : Int) % (IntKind.width .i32 : Nat)).toNat = 31 := rfl
  rw [residue] at low floor
  have lowest : m.val = -2 ^ 31 := by
    have range : -2147483648 ≤ m.val ∧ m.val ≤ 2147483647 := m.property
    have bits : m.val % 4294967296 = 2147483648 := low
    omega
  have down : q.val = -1 := by
    rw [floor, Int.floor_eq_iff]
    norm_num
  exact ⟨left, right, rfl, ⟨m, upward, lowest⟩, q, downward, down⟩

end ExprSql.Value
