import ExprSql.Proofs.Fragment.Picks

namespace ExprSql

open Slot

mutual

def Value.scalars : Value → List Value
  | .array items | .list items => scalarsOfEach items
  | v => [v]

def Value.scalarsOfEach : List Value → List Value
  | [] => []
  | v :: vs => v.scalars ++ scalarsOfEach vs

end

namespace Value

/-- Has a parameter form: is no record, no collection, and no enumeration over either. -/
def Bindable : Value → Prop
  | .array _ | .list _ | .record .. => False
  | .enumeration _ backing => backing.Bindable
  | _ => True

/-- The parameter is the scalar in the form a database takes. -/
inductive BoundAs : Value → Bound → Prop
  | null : BoundAs .null .null
  | bool (b : Bool) : BoundAs (.bool b) (.bool b)
  | char (c : Char) : BoundAs (.char c) (.text (String.ofList [c]))
  | int {k : IntKind} {n : Sized k} {m : Sized .i64} (same : m.val = n.val) :
      BoundAs (.int k n) (.int m)
  | large {k : IntKind} {n : Sized k} {d : Decimal} (past : IntKind.i64.max < n.val)
      (positive : d.negative = false) (whole : d.scale = 0) (same : (d.mantissa : Int) = n.val) :
      BoundAs (.int k n) (.decimal d)
  | float {k : FloatKind} (x : Binary k) : BoundAs (.float k x) (.float (Binary.ofBinary .f64 x))
  | decimal (d : Decimal) : BoundAs (.decimal d) (.decimal d)
  | string (s : String) : BoundAs (.string s) (.text s)
  | enumeration {name : String} {backing : Value} {b : Bound} (bound : BoundAs backing b) :
      BoundAs (.enumeration name backing) b

theorem ofInt_boundAs {k : IntKind} (n : Sized k) : BoundAs (.int k n) (Bound.ofInt n) := by
  unfold Bound.ofInt Sized.fit?
  split
  · rename_i m fits
    split at fits
    · cases fits
      exact .int rfl
    · cases fits
  · rename_i misfit
    split at misfit
    · cases misfit
    · rename_i outside
      have range := n.property
      have past : IntKind.i64.max < n.val := by
        cases k <;> simp [IntKind.Holds, IntKind.min, IntKind.max, IntKind.signed, IntKind.width]
          at range outside ⊢ <;> omega
      have positive : 0 ≤ n.val := Int.le_of_lt (Int.lt_of_le_of_lt (by decide) past)
      exact .large past (by simp [Decimal.ofInt, positive]) rfl (Int.natAbs_of_nonneg positive)

theorem bound_of_bindable (v : Value) (bindable : v.Bindable) : ∃ b, Bound.ofValue v = .ok b := by
  cases v with
  | array items => cases bindable
  | list items => cases bindable
  | record identity name members => cases bindable
  | enumeration name backing => exact bound_of_bindable backing bindable
  | _ => exact ⟨_, rfl⟩

theorem bindable_of_bound (v : Value) {b : Bound} (bound : Bound.ofValue v = .ok b) :
    v.Bindable ∧ v.BoundAs b := by
  cases v with
  | array items => cases bound
  | list items => cases bound
  | record identity name members => cases bound
  | enumeration name backing =>
    obtain ⟨bindable, same⟩ := bindable_of_bound backing bound
    exact ⟨bindable, .enumeration same⟩
  | null =>
    cases bound
    exact ⟨trivial, .null⟩
  | bool b =>
    cases bound
    exact ⟨trivial, .bool b⟩
  | char c =>
    cases bound
    exact ⟨trivial, .char c⟩
  | int k n =>
    cases bound
    exact ⟨trivial, ofInt_boundAs n⟩
  | float k x =>
    cases bound
    exact ⟨trivial, .float x⟩
  | decimal d =>
    cases bound
    exact ⟨trivial, .decimal d⟩
  | string s =>
    cases bound
    exact ⟨trivial, .string s⟩

end Value

namespace Slot

@[simp] theorem values_nil : values [] = [] := rfl

@[simp] theorem values_text (s : String) (ss : List Slot) :
    values (.text s :: ss) = values ss := rfl

@[simp] theorem values_identifier (name : String) (ss : List Slot) :
    values (.identifier name :: ss) = values ss := rfl

@[simp] theorem values_value (v : Value) (ss : List Slot) :
    values (.value v :: ss) = v :: values ss := rfl

theorem values_ofColumn (c : Column) : values (ofColumn c) = [] := by
  unfold ofColumn
  cases c.qualifier <;> by_cases wild : c.isWildcard = true <;> simp [wild]

theorem value_of_text (s : String) : value? (.text s) = none := rfl

end Slot

mutual

theorem Value.pick_layout {β : Type} {pick : Slot → Option β}
    (noText : ∀ s, pick (.text s) = none) (v : Value) :
    v.layout.filterMap pick = v.scalars.filterMap fun s => pick (.value s) := by
  cases v with
  | array items | list items =>
    rw [Value.layout, Value.scalars, pick_grouped noText, pick_separated noText,
      Value.pick_layouts noText]
  | _ => rfl

theorem Value.pick_layouts {β : Type} {pick : Slot → Option β}
    (noText : ∀ s, pick (.text s) = none) (vs : List Value) :
    (Value.layoutEach vs).flatMap (List.filterMap pick)
      = (Value.scalarsOfEach vs).filterMap fun s => pick (.value s) := by
  cases vs with
  | nil => rfl
  | cons v vs =>
    rw [Value.layoutEach, Value.scalarsOfEach, List.flatMap_cons, List.filterMap_append,
      v.pick_layout noText, Value.pick_layouts noText vs]

end

namespace Fragment

def scalars : Fragment → List Value
  | .value v => v.scalars
  | f => f.children.attach.flatMap fun g => g.val.scalars
termination_by f => sizeOf f
decreasing_by exact child_smaller g.property

theorem scalars_node {f : Fragment} (inner : ∀ v, f ≠ .value v) :
    f.scalars = f.children.flatMap scalars := by
  rw [scalars]
  · rw [List.flatMap_subtype (fun g _ => rfl), List.unattach_attach]
  · exact fun v same => inner v same

theorem values_layout (f : Fragment) : values f.layout = f.scalars := by
  induction f using children_induction with
  | step f below =>
    cases f with
    | value v =>
      rw [layout, scalars, values, v.pick_layout value_of_text]
      exact List.filterMap_some
    | column c => rw [layout, values_ofColumn, scalars_node (by simp), children, List.flatMap_nil]
    | _ =>
      rw [scalars_node (by simp), values, pick_layout value_of_text (by simp) (by simp)]
      exact List.flatMap_congr below

end Fragment

theorem bound_of_all_bindable (vs : List Value) (bindable : ∀ v ∈ vs, v.Bindable) :
    ∃ bs, vs.mapM Bound.ofValue = .ok bs := by
  induction vs with
  | nil => exact ⟨[], rfl⟩
  | cons v vs ih =>
    obtain ⟨b, first⟩ := v.bound_of_bindable (bindable v List.mem_cons_self)
    obtain ⟨bs, rest⟩ := ih fun w mem => bindable w (List.mem_cons_of_mem v mem)
    exact ⟨b :: bs, by rw [List.mapM_cons, first, rest]; rfl⟩

theorem all_bindable_of_bound {vs : List Value} {bs : List Bound}
    (bound : vs.mapM Bound.ofValue = .ok bs) :
    List.Forall₂ (fun v b => v.Bindable ∧ v.BoundAs b) vs bs := by
  induction vs generalizing bs with
  | nil =>
    cases bound
    exact .nil
  | cons v vs ih =>
    obtain ⟨b, later, first, rest, rfl⟩ := mapM_cons_ok bound
    exact .cons (v.bindable_of_bound first) (ih rest)

namespace Fragment

theorem toSql_ok {d : Dialect} {f : Fragment} {sql : String} {params : List Bound} :
    f.toSql d = .ok (sql, params) ↔
      f.scalars.mapM Bound.ofValue = .ok params ∧ sql = String.join (Slot.write d 0 f.layout) := by
  rw [toSql_eq_layout, values_layout]
  cases f.scalars.mapM Bound.ofValue with
  | error e => simp [bind, Except.bind]
  | ok bs =>
    rw [Slot.ok_bind]
    constructor
    · intro same
      cases same
      exact ⟨rfl, rfl⟩
    · rintro ⟨same, rfl⟩
      cases same
      rfl

theorem toSql_succeeds_iff (d : Dialect) (f : Fragment) :
    (∃ sql params, f.toSql d = .ok (sql, params)) ↔ ∀ v ∈ f.scalars, v.Bindable := by
  constructor
  · rintro ⟨sql, params, rendered⟩ v mem
    have pairs := all_bindable_of_bound (toSql_ok.mp rendered).1
    exact ((List.forall₂_and_left _ _).mp pairs).1 v mem
  · intro bindable
    obtain ⟨bs, bound⟩ := bound_of_all_bindable f.scalars bindable
    exact ⟨_, bs, toSql_ok.mpr ⟨bound, rfl⟩⟩

end Fragment
end ExprSql
