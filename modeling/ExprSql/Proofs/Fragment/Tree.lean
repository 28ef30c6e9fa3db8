import Mathlib
import ExprSql.Fragment

namespace ExprSql.Fragment

def children : Fragment → List Fragment
  | .value _ | .column _ => []
  | .comparison _ left right => [left, right]
  | .isNull operand _ => [operand]
  | .like operand pattern _ => [operand, pattern]
  | .inList operand items _ => operand :: items
  | .between operand low high _ => [operand, low, high]
  | .logical _ operands | .arithmetic _ operands | .bitwise _ operands => operands
  | .not operand | .complement operand | .negate operand => [operand]
  | .case arms otherwise => arms.flatMap (fun arm => [arm.1, arm.2]) ++ [otherwise]
  | .function _ arguments => arguments

theorem arm_smaller {arms : List (Fragment × Fragment)} {arm : Fragment × Fragment}
    (member : arm ∈ arms) : sizeOf arm.1 < sizeOf arms ∧ sizeOf arm.2 < sizeOf arms := by
  have inner : sizeOf arm = 1 + sizeOf arm.1 + sizeOf arm.2 := by cases arm; simp
  have outer := List.sizeOf_lt_of_mem member
  omega

theorem child_smaller {f g : Fragment} (child : g ∈ f.children) : sizeOf g < sizeOf f := by
  cases f with
  | value v => simp [children] at child
  | column c => simp [children] at child
  | case arms otherwise =>
    simp only [children, List.mem_append, List.mem_flatMap, List.mem_cons, List.not_mem_nil,
      or_false] at child
    rw [case.sizeOf_spec]
    rcases child with ⟨arm, member, rfl | rfl⟩ | rfl
    · have := arm_smaller member
      omega
    · have := arm_smaller member
      omega
    · omega
  | inList operand items negated =>
    rw [inList.sizeOf_spec]
    rcases List.mem_cons.mp child with rfl | member
    · omega
    · have := List.sizeOf_lt_of_mem member
      omega
  | logical op operands =>
    have := List.sizeOf_lt_of_mem (show g ∈ operands from child)
    rw [logical.sizeOf_spec]
    omega
  | arithmetic op operands =>
    have := List.sizeOf_lt_of_mem (show g ∈ operands from child)
    rw [arithmetic.sizeOf_spec]
    omega
  | bitwise op operands =>
    have := List.sizeOf_lt_of_mem (show g ∈ operands from child)
    rw [bitwise.sizeOf_spec]
    omega
  | function name arguments =>
    have := List.sizeOf_lt_of_mem (show g ∈ arguments from child)
    rw [function.sizeOf_spec]
    omega
  | _ =>
    simp only [children, List.mem_cons, List.not_mem_nil, or_false] at child
    rcases child with rfl | rfl | rfl <;> simp <;> omega

theorem children_induction {P : Fragment → Prop}
    (step : ∀ f : Fragment, (∀ g ∈ f.children, P g) → P f) (f : Fragment) : P f :=
  step f fun g _ => children_induction step g
termination_by sizeOf f
decreasing_by exact child_smaller ‹_›

inductive Everywhere (P : Fragment → Prop) : Fragment → Prop where
  | node {f : Fragment} (here : P f) (below : ∀ g ∈ f.children, Everywhere P g) : Everywhere P f

theorem everywhere_mono {P Q : Fragment → Prop} (weaken : ∀ f, P f → Q f) {f : Fragment}
    (everywhere : f.Everywhere P) : f.Everywhere Q := by
  induction everywhere with
  | node here _ below => exact .node (weaken _ here) below

end ExprSql.Fragment
