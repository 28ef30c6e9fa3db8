import ExprSql.Proofs.Fragment.Layout

namespace ExprSql

open Slot

variable {β : Type} {pick : Slot → Option β} (noText : ∀ s, pick (.text s) = none)
include noText

namespace Slot

theorem pick_grouped (ss : List Slot) : (grouped ss).filterMap pick = ss.filterMap pick := by
  simp [grouped, noText]

theorem pick_operand (parent : Nat) (f : Fragment) (ss : List Slot) :
    (operand parent f ss).filterMap pick = ss.filterMap pick := by
  unfold operand
  split
  · exact pick_grouped noText ss
  · rfl

theorem pick_first (parent : Nat) (f : Fragment) (ss : List Slot) :
    (first parent f ss).filterMap pick = ss.filterMap pick := by
  unfold first
  split
  · exact pick_grouped noText ss
  · rfl

theorem pick_separated (items : List (List Slot)) :
    (separated items).filterMap pick = items.flatMap (List.filterMap pick) := by
  cases items with
  | nil => rfl
  | cons item items =>
    rw [separated_cons, List.filterMap_append, List.flatMap_cons]
    congr 1
    induction items with
    | nil => rfl
    | cons next items ih => simp [noText, ih]

theorem pick_negatedIf (negated : Bool) (plain opposite : String) :
    pick (negatedIf negated plain opposite) = none :=
  noText _

end Slot

namespace Fragment

theorem pick_restLayout (symbol : String) (parent : Nat) (fs : List Fragment) :
    (restLayout symbol parent fs).filterMap pick = fs.flatMap fun f => f.layout.filterMap pick := by
  induction fs with
  | nil => rfl
  | cons f fs ih => simp [restLayout, noText, pick_operand noText, ih]

theorem pick_chainLayout (symbol : String) (parent : Nat) (fs : List Fragment) :
    (chainLayout symbol parent fs).filterMap pick
      = fs.flatMap fun f => f.layout.filterMap pick := by
  cases fs with
  | nil => rfl
  | cons f fs => simp [chainLayout, pick_first noText, pick_restLayout noText]

omit noText in
theorem pick_argumentLayouts (fs : List Fragment) :
    (argumentLayouts fs).flatMap (List.filterMap pick)
      = fs.flatMap fun f => f.layout.filterMap pick := by
  induction fs with
  | nil => rfl
  | cons f fs ih => simp [argumentLayouts, ih]

theorem pick_items (f : Fragment) :
    (items f f.layout).flatMap (List.filterMap pick) = f.layout.filterMap pick := by
  unfold items
  split
  · rw [layout, Value.layout, pick_grouped noText, pick_separated noText]
  · rw [layout, Value.layout, pick_grouped noText, pick_separated noText]
  · simp

theorem pick_itemLayouts (fs : List Fragment) :
    (itemLayouts fs).flatMap (List.filterMap pick)
      = fs.flatMap fun f => f.layout.filterMap pick := by
  induction fs with
  | nil => rfl
  | cons f fs ih =>
    rw [itemLayouts, List.flatMap_append, pick_items noText, ih, List.flatMap_cons]

theorem pick_armLayouts (arms : List (Fragment × Fragment)) :
    (armLayouts arms).filterMap pick
      = (arms.flatMap fun arm => [arm.1, arm.2]).flatMap fun f => f.layout.filterMap pick := by
  induction arms with
  | nil => rfl
  | cons arm arms ih =>
    obtain ⟨test, result⟩ := arm
    simp [armLayouts, noText, ih]

theorem pick_layout {f : Fragment} (noValue : ∀ v, f ≠ .value v) (noColumn : ∀ c, f ≠ .column c) :
    f.layout.filterMap pick = f.children.flatMap fun g => g.layout.filterMap pick := by
  cases f with
  | value v => exact absurd rfl (noValue v)
  | column c => exact absurd rfl (noColumn c)
  | logical op operands | arithmetic op operands | bitwise op operands =>
    rw [layout, pick_chainLayout noText]
    rfl
  | inList operand items negated =>
    simp [layout, children, noText, pick_operand noText, pick_negatedIf noText,
      pick_separated noText, pick_itemLayouts noText]
  | case arms otherwise => simp [layout, children, noText, pick_armLayouts noText]
  | function name arguments =>
    simp [layout, children, noText, pick_grouped noText, pick_separated noText,
      pick_argumentLayouts]
  | _ => simp [layout, children, noText, pick_operand noText, pick_negatedIf noText]

end Fragment
end ExprSql
