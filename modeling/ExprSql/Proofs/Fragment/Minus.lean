import ExprSql.Proofs.Fragment.Fences

namespace ExprSql

namespace Slot

def minus : Slot := .text "-"

def Unstacked (ss : List Slot) : Prop := ss.IsChain fun a b => a = minus → b ≠ minus

variable {ss ts : List Slot} {s : String}

@[simp] theorem unstacked_nil : Unstacked [] := List.isChain_nil

@[simp] theorem unstacked_single (slot : Slot) : Unstacked [slot] := List.isChain_singleton slot

@[simp] theorem unstacked_text (other : s ≠ "-") :
    Unstacked (.text s :: ss) ↔ Unstacked ss := by
  simp [Unstacked, List.isChain_cons, minus, other]

@[simp] theorem unstacked_identifier (name : String) :
    Unstacked (.identifier name :: ss) ↔ Unstacked ss := by
  simp [Unstacked, List.isChain_cons, minus]

@[simp] theorem unstacked_join (other : s ≠ "-") :
    Unstacked (ss ++ .text s :: ts) ↔ Unstacked ss ∧ Unstacked ts := by
  simp [Unstacked, List.isChain_append, List.isChain_cons, minus, other]

theorem unstacked_minus :
    Unstacked (.text "-" :: ss) ↔ (∀ slot ∈ ss.head?, slot ≠ minus) ∧ Unstacked ss := by
  simp [Unstacked, List.isChain_cons, minus]

@[simp] theorem unstacked_grouped : Unstacked (grouped ss) ↔ Unstacked ss := by
  simp [grouped]

@[simp] theorem unstacked_operand (parent : Nat) (f : Fragment) :
    Unstacked (operand parent f ss) ↔ Unstacked ss := by
  unfold operand
  split
  · exact unstacked_grouped
  · rfl

@[simp] theorem unstacked_first (parent : Nat) (f : Fragment) :
    Unstacked (first parent f ss) ↔ Unstacked ss := by
  unfold first
  split
  · exact unstacked_grouped
  · rfl

@[simp] theorem unstacked_separated (items : List (List Slot)) :
    Unstacked (separated items) ↔ ∀ item ∈ items, Unstacked item := by
  induction items with
  | nil => simp [separated]
  | cons item items ih =>
    cases items with
    | nil => simp [separated]
    | cons next items =>
      rw [separated_cons_cons, unstacked_join (by decide), ih]
      exact List.forall_mem_cons.symm

theorem unstacked_ofColumn (c : Column) : Unstacked (ofColumn c) := by
  unfold ofColumn
  cases c.qualifier with
  | none => exact unstacked_single _
  | some q => simp

theorem separator_apart (symbol : String) : s!" {symbol} " ≠ "-" := by
  intro same
  have begins := congrArg (fun s => s.toList.head?) same
  simp [toString] at begins

end Slot

open Slot

mutual

theorem Value.layout_unstacked (v : Value) : Unstacked v.layout := by
  cases v with
  | array items | list items =>
    rw [Value.layout, unstacked_grouped, unstacked_separated]
    exact Value.layouts_unstacked items
  | _ => exact unstacked_single _

theorem Value.layouts_unstacked (vs : List Value) :
    ∀ ss ∈ Value.layoutEach vs, Unstacked ss := by
  cases vs with
  | nil => simp [Value.layoutEach]
  | cons v vs =>
    rw [Value.layoutEach]
    exact List.forall_mem_cons.mpr ⟨v.layout_unstacked, Value.layouts_unstacked vs⟩

end

namespace Fragment

/-- What a minus sign needs no parentheses for begins with no other. -/
theorem operand_unsigned {f : Fragment} (named : NodeNamed (· ≠ "-") f) :
    ∀ slot ∈ (operand 10 f f.layout).head?, slot ≠ minus := by
  unfold operand
  split
  · simp [grouped, minus]
  · rename_i tight
    cases f with
    | value v => cases v <;> simp [layout, Value.layout, grouped, minus]
    | column c =>
      obtain ⟨table, qualifier, name⟩ := c
      cases qualifier with
      | none => by_cases wild : name = "*" <;> simp [layout, ofColumn, Column.isWildcard, wild, minus]
      | some q => simp [layout, ofColumn, minus]
    | case arms otherwise => simp [layout, minus]
    | function name arguments => simpa [layout, minus, NodeNamed] using named
    | logical op operands => cases op <;> simp [precedence] at tight
    | arithmetic op operands => cases op <;> simp [precedence] at tight
    | bitwise op operands => cases op <;> simp [precedence] at tight
    | _ => simp [precedence] at tight

theorem unstacked_restLayout (symbol : String) (parent : Nat) (ss : List Slot)
    {fs : List Fragment} :
    Unstacked (ss ++ restLayout symbol parent fs) ↔
      Unstacked ss ∧ ∀ f ∈ fs, Unstacked f.layout := by
  induction fs generalizing ss with
  | nil => simp [restLayout]
  | cons f fs ih =>
    rw [restLayout, List.cons_append, unstacked_join (separator_apart symbol), ih,
      unstacked_operand, List.forall_mem_cons]

theorem unstacked_chainLayout (symbol : String) (parent : Nat) {fs : List Fragment} :
    Unstacked (chainLayout symbol parent fs) ↔ ∀ f ∈ fs, Unstacked f.layout := by
  cases fs with
  | nil => simp [chainLayout]
  | cons f fs => rw [chainLayout, unstacked_restLayout, unstacked_first, List.forall_mem_cons]

theorem unstacked_argumentLayouts {fs : List Fragment} :
    (∀ ss ∈ argumentLayouts fs, Unstacked ss) ↔ ∀ f ∈ fs, Unstacked f.layout := by
  induction fs with
  | nil => simp [argumentLayouts]
  | cons f fs ih => rw [argumentLayouts, List.forall_mem_cons, List.forall_mem_cons, ih]

theorem unstacked_items {f : Fragment} (whole : Unstacked f.layout) :
    ∀ ss ∈ items f f.layout, Unstacked ss := by
  unfold items
  split
  · exact Value.layouts_unstacked _
  · exact Value.layouts_unstacked _
  · exact List.forall_mem_singleton.mpr whole

theorem unstacked_itemLayouts {fs : List Fragment} (each : ∀ f ∈ fs, Unstacked f.layout) :
    ∀ ss ∈ itemLayouts fs, Unstacked ss := by
  induction fs with
  | nil => simp [itemLayouts]
  | cons f fs ih =>
    obtain ⟨whole, later⟩ := List.forall_mem_cons.mp each
    rw [itemLayouts]
    exact List.forall_mem_append.mpr ⟨unstacked_items whole, ih later⟩

theorem unstacked_armLayouts (ss : List Slot) {arms : List (Fragment × Fragment)} :
    Unstacked (ss ++ armLayouts arms) ↔
      Unstacked ss ∧ ∀ arm ∈ arms, Unstacked arm.1.layout ∧ Unstacked arm.2.layout := by
  induction arms generalizing ss with
  | nil => simp [armLayouts]
  | cons arm arms ih =>
    obtain ⟨test, result⟩ := arm
    have tail := ih result.layout
    simp [armLayouts, tail, and_assoc]

theorem layout_unstacked {f : Fragment} (named : f.Everywhere (NodeNamed (· ≠ "-"))) :
    Unstacked f.layout := by
  induction named with
  | @node f here below unstacked =>
    cases f with
    | value v => exact v.layout_unstacked
    | column c => exact unstacked_ofColumn c
    | negate operand =>
      have inner := unstacked operand (by simp [children])
      obtain ⟨named, -⟩ := below operand (by simp [children])
      rw [layout, unstacked_minus, unstacked_operand]
      exact ⟨operand_unsigned named, inner⟩
    | inList operand items negated =>
      have list := unstacked_itemLayouts fun g mem => unstacked g (List.mem_cons_of_mem operand mem)
      have inner := unstacked operand (by simp [children])
      cases negated <;> simpa [layout, negatedIf, inner] using list
    | logical op operands | arithmetic op operands | bitwise op operands =>
      rw [layout, unstacked_chainLayout]
      exact unstacked
    | case arms otherwise =>
      have each : ∀ arm ∈ arms, Unstacked arm.1.layout ∧ Unstacked arm.2.layout := by
        intro arm mem
        refine ⟨unstacked _ ?_, unstacked _ ?_⟩
        · exact List.mem_append_left _ (List.mem_flatMap.mpr ⟨arm, mem, by simp⟩)
        · exact List.mem_append_left _ (List.mem_flatMap.mpr ⟨arm, mem, by simp⟩)
      have last := unstacked otherwise (by simp [children])
      have front : Unstacked (.text "CASE" :: armLayouts arms) :=
        (unstacked_armLayouts [.text "CASE"]).mpr ⟨unstacked_single _, each⟩
      simpa [layout, last] using front
    | function name arguments =>
      rw [layout, unstacked_text here, unstacked_grouped, unstacked_separated]
      exact unstacked_argumentLayouts.mpr unstacked
    | comparison op left right =>
      have parts := separator_apart op.sql
      simpa [layout, parts, children] using unstacked
    | isNull operand negated | like operand pattern negated | between operand low high negated =>
      cases negated <;> simpa [layout, negatedIf, children] using unstacked
    | _ => simpa [layout, children] using unstacked

end Fragment
end ExprSql
