import ExprSql.Proofs.Value.Whole

namespace ExprSql

namespace Comparison

def Means : Comparison → Int → Int → Prop
  | .equal, a, b => a = b
  | .notEqual, a, b => a ≠ b
  | .less, a, b => a < b
  | .lessEqual, a, b => a ≤ b
  | .greater, a, b => b < a
  | .greaterEqual, a, b => b ≤ a

instance (c : Comparison) (a b : Int) : Decidable (c.Means a b) :=
  match c with
  | .equal => inferInstanceAs (Decidable (a = b))
  | .notEqual => inferInstanceAs (Decidable (a ≠ b))
  | .less => inferInstanceAs (Decidable (a < b))
  | .lessEqual => inferInstanceAs (Decidable (a ≤ b))
  | .greater => inferInstanceAs (Decidable (b < a))
  | .greaterEqual => inferInstanceAs (Decidable (b ≤ a))

def isEquality (c : Comparison) : Bool := c == .equal || c == .notEqual

theorem holds_compare (c : Comparison) (a b : Int) :
    c.holds (some (compare a b)) = decide (c.Means a b) := by
  rw [Bool.eq_iff_iff, decide_eq_true_iff]
  rcases Int.lt_trichotomy a b with less | same | greater
  · rw [compare_lt_iff_lt.2 less]
    cases c <;> simp [holds, Means] <;> omega
  · rw [compare_eq_iff_eq.2 same]
    cases c <;> simp [holds, Means] <;> omega
  · rw [compare_gt_iff_gt.2 greater]
    cases c <;> simp [holds, Means] <;> omega
end Comparison

namespace Value

variable {l r v w : Value} {j k common : NumericKind} {a b : Int} {c : Comparison} {t : DataType}

theorem equal_present (left : l.isNull = false) (right : r.isNull = false) : equal l r =
    match widenPair? l r with
    | some pair => pair.order? == some .eq
    | none => l.same r := by
  unfold equal
  split
  · cases left
  · cases left
  · cases right
  · rfl

theorem compare_widened {pair : Pair} (left : l.isNull = false) (right : r.isNull = false)
    (widened : widenPair? l r = some pair) :
    compare c l r = .ok (.bool (c.holds pair.order?)) := by
  have same : equal l r = (pair.order? == some .eq) := by
    rw [equal_present left right, widened]
  cases c with
  | equal =>
    simp only [compare, same]
    cases pair.order? with
    | none => rfl
    | some order => cases order <;> rfl
  | notEqual =>
    simp only [compare, same]
    rfl
  | _ => simp only [compare, left, right, widened, Bool.or_self, Bool.false_eq_true, if_false]

theorem compare_apart (left : l.isNull = false) (right : r.isNull = false)
    (apart : widenPair? l r = none) (different : l.same r = false) : compare c l r =
      if c.isEquality then .ok (.bool (c == .notEqual)) else .error .undefined := by
  have unequal : equal l r = false := by
    rw [equal_present left right, apart]
    exact different
  cases c with
  | equal | notEqual =>
    simp only [compare, unequal]
    rfl
  | _ =>
    simp only [compare, left, right, apart, Bool.or_self, Bool.false_eq_true, if_false]
    rfl

theorem same_counts (left : Counts (.numeric j) v a) (right : Counts (.numeric k) w b)
    (apart : j ≠ k) : v.same w = false := by
  cases left <;> cases right <;> simp [same] at apart ⊢
  intro same
  exact absurd same apart

theorem same_stands (left : Stands l j a) (right : Stands r k b) (apart : j ≠ k) :
    l.same r = false := by
  cases left with
  | number leftCounts =>
    cases right with
    | number rightCounts => exact same_counts leftCounts rightCounts apart
    | enumeration backing => cases leftCounts <;> rfl
  | enumeration leftBacking =>
    cases right with
    | number rightCounts => cases rightCounts <;> rfl
    | enumeration rightBacking => simp [same, same_counts leftBacking rightBacking apart]

theorem order_stands (left : Stands l j a) (right : Stands r k b)
    (found : j.promote k = some common) :
    ∃ pair, widenPair? l r = some pair ∧ pair.order? = some (Ord.compare a b) := by
  obtain ⟨i, rfl⟩ :=
    NumericKind.promote_whole (stands_integral left).1 (stands_integral right).1 found
  obtain ⟨x, y, widened, rfl, rfl⟩ := widenPair_stands left right found
  exact ⟨_, widened, rfl⟩

theorem compare_promoted (left : Stands l j a) (right : Stands r k b)
    (found : j.promote k = some common) :
    compare c l r = .ok (.bool (decide (c.Means a b))) := by
  obtain ⟨pair, widened, ordered⟩ := order_stands left right found
  rw [compare_widened (stands_present left).1 (stands_present right).1 widened, ordered,
    Comparison.holds_compare]

theorem compare_unpromoted (left : Stands l j a) (right : Stands r k b)
    (none : j.promote k = none) : compare c l r =
      if c.isEquality then .ok (.bool (c == .notEqual)) else .error .undefined := by
  have different : j ≠ k := by
    intro same
    rw [NumericKind.promote_none_iff] at none
    rcases none with ⟨rfl, signed⟩ | ⟨signed, rfl⟩
    · rw [← same] at signed
      cases signed
    · rw [same] at signed
      cases signed
  exact compare_apart (stands_present left).1 (stands_present right).1
    (widenPair_apart left right none) (same_stands left right different)

theorem combine_compare (c : Comparison) (l r : Value) (t : DataType) :
    combine (.compare c) l r t =
      ((compare c l r).mapError (·.failure c.symbol [l, r])).bind (·.rewrap t) :=
  combine_apart rfl

theorem rewrap_truth {x : Bool} (enumeration : t.isEnumeration = true) :
    ∃ cause, (Value.bool x).rewrap t = .error (.expression cause) := by
  unfold DataType.isEnumeration at enumeration
  cases t with
  | nullable inner =>
    cases inner with
    | enumeration name backing => exact ⟨_, rfl⟩
    | _ => cases enumeration
  | enumeration name backing => exact ⟨_, rfl⟩
  | _ => cases enumeration

theorem combine_truth {x : Bool} (compared : compare c l r = .ok (.bool x))
    (plain : t.isEnumeration = false) : combine (.compare c) l r t = .ok (.bool x) := by
  rw [combine_compare, compared]
  exact rewrap_plain plain _

theorem combine_truth_or_error {x : Bool} (compared : compare c l r = .ok (.bool x)) :
    (∃ cause, combine (.compare c) l r t = .error (.expression cause)) ∨
      combine (.compare c) l r t = .ok (.bool x) := by
  by_cases enumeration : t.isEnumeration = true
  · left
    rw [combine_compare, compared]
    exact rewrap_truth enumeration
  · exact .inr (combine_truth compared (by simpa using enumeration))

/-- Equality asked of one number held in two kinds that have none in common. -/
def Overlooked (c : Comparison) (j k : NumericKind) (a b : Int) : Prop :=
  c.isEquality = true ∧ j.promote k = none ∧ a = b

/-- Outside the overlooked case a comparison that succeeds tells the order of the numbers, and it
succeeds wherever the kinds have one in common; in that case it tells the opposite. -/
theorem integer_comparisons (left : Stands l j a) (right : Stands r k b) (c : Comparison)
    (t : DataType) :
    (¬ Overlooked c j k a b →
      (∃ cause, combine (.compare c) l r t = .error (.expression cause)) ∨
      combine (.compare c) l r t = .ok (.bool (decide (c.Means a b)))) ∧
    (t.isEnumeration = false → j.promote k ≠ none →
      combine (.compare c) l r t = .ok (.bool (decide (c.Means a b)))) ∧
    (t.isEnumeration = false → Overlooked c j k a b →
      combine (.compare c) l r t = .ok (.bool (!decide (c.Means a b)))) := by
  cases found : j.promote k with
  | some common =>
    have compared := compare_promoted (c := c) left right found
    refine ⟨fun _ => combine_truth_or_error compared,
      fun plain _ => combine_truth compared plain, ?_⟩
    rintro - ⟨-, none, -⟩
    cases found.symm.trans none
  | none =>
    have compared := compare_unpromoted (c := c) left right found
    by_cases equality : c.isEquality = true
    · rw [if_pos equality] at compared
      refine ⟨fun seen => ?_, fun _ promoted => absurd rfl promoted, ?_⟩
      · have apart : a ≠ b := fun same => seen ⟨equality, found, same⟩
        have truth : (c == .notEqual) = decide (c.Means a b) := by
          cases c <;> simp [Comparison.isEquality, Comparison.Means, apart] at equality ⊢
        exact truth ▸ combine_truth_or_error compared
      · rintro plain ⟨-, -, rfl⟩
        have truth : (c == .notEqual) = !decide (c.Means a a) := by
          cases c <;> simp [Comparison.isEquality, Comparison.Means] at equality ⊢
        exact truth ▸ combine_truth compared plain
    · rw [if_neg equality] at compared
      refine ⟨fun _ => .inl ⟨.undefinedOperator c.symbol [l.kindName, r.kindName], ?_⟩,
        fun _ promoted => absurd rfl promoted, ?_⟩
      · rw [combine_compare, compared]
        rfl
      · rintro - ⟨overlooked, -, -⟩
        exact absurd overlooked equality

theorem character_within_code_point :
    let l : Value := .char '😀'
    let r : Value := .enumeration "CodePoint" (.int .i64 ⟨0x1F600, by decide⟩)
    Stands l .char 0x1F600 ∧ Stands r (.int .i64) 0x1F600 ∧
      ¬ Overlooked .lessEqual .char (.int .i64) 0x1F600 0x1F600 ∧
      DataType.bool.isEnumeration = false ∧
      NumericKind.char.promote (.int .i64) ≠ none ∧
      combine (.compare .lessEqual) l r .bool = .ok (.bool true) := by
  intro l r
  have left : Stands l .char 0x1F600 := .number (.char '😀')
  have right : Stands r (.int .i64) 0x1F600 := .enumeration (.int ⟨0x1F600, by decide⟩)
  have promoted : NumericKind.char.promote (.int .i64) ≠ none := by decide
  have seen : ¬ Overlooked .lessEqual .char (.int .i64) 0x1F600 0x1F600 := by
    rintro ⟨equality, -, -⟩
    cases equality
  obtain ⟨-, done, -⟩ := integer_comparisons left right .lessEqual .bool
  exact ⟨left, right, seen, rfl, promoted, done rfl promoted⟩

/-- Equality of numbers is not transitive: an unsigned and a signed five both equal a short one. -/
theorem fives_differ :
    let l : Value := .int .u64 ⟨5, by decide⟩
    let m : Value := .int .u16 ⟨5, by decide⟩
    let r : Value := .int .i32 ⟨5, by decide⟩
    combine (.compare .equal) l m .bool = .ok (.bool true) ∧
      combine (.compare .equal) m r .bool = .ok (.bool true) ∧
      combine (.compare .equal) l r .bool = .ok (.bool false) :=
  ⟨rfl, rfl, rfl⟩

end Value
end ExprSql
