import ExprSql.Proofs.Fragment.Scalars

namespace ExprSql

open Slot

def Column.identifiers (c : Column) : List String :=
  c.qualifier.toList ++ if c.isWildcard then [] else [c.name]

def Piece.identifier? : Piece → Option String
  | .identifier name => some name
  | _ => none

def Slot.identifier? : Slot → Option String
  | .identifier name => some name
  | _ => none

namespace Slot

theorem identifier_of_text (s : String) : identifier? (.text s) = none := rfl

theorem identifier_of_piece {slot : Slot} {p : Piece} (bound : slot.piece = .ok p) :
    p.identifier? = slot.identifier? := by
  cases slot with
  | text s =>
    cases bound
    rfl
  | identifier name =>
    cases bound
    rfl
  | value v =>
    rw [piece] at bound
    cases known : Bound.ofValue v with
    | error e =>
      rw [known] at bound
      cases bound
    | ok b =>
      rw [known] at bound
      cases bound
      rfl

theorem identifiers_of_pieces {ss : List Slot} {ps : List Piece} (bound : pieces ss = .ok ps) :
    ps.filterMap Piece.identifier? = ss.filterMap identifier? := by
  induction ss generalizing ps with
  | nil =>
    cases bound
    rfl
  | cons slot ss ih =>
    obtain ⟨p, qs, first, rest, rfl⟩ := mapM_cons_ok bound
    simp only [List.filterMap_cons, identifier_of_piece first, ih rest]

theorem identifiers_ofColumn (c : Column) :
    (ofColumn c).filterMap identifier? = c.identifiers := by
  unfold ofColumn Column.identifiers
  cases c.qualifier <;> by_cases wild : c.isWildcard = true <;> simp [wild] <;> rfl

end Slot

namespace Fragment

def columns : Fragment → List Column
  | .column c => [c]
  | f => f.children.attach.flatMap fun g => g.val.columns
termination_by f => sizeOf f
decreasing_by exact child_smaller g.property

theorem columns_node {f : Fragment} (inner : ∀ c, f ≠ .column c) :
    f.columns = f.children.flatMap columns := by
  rw [columns]
  · rw [List.flatMap_subtype (fun g _ => rfl), List.unattach_attach]
  · exact fun c same => inner c same

@[simp] theorem columns_value (v : Value) : (Fragment.value v).columns = [] := by
  simp [columns, children]

@[simp] theorem columns_column (c : Column) : (Fragment.column c).columns = [c] := by
  simp [columns]

theorem columns_compare (op : Comparison) (f g : Fragment) :
    (compare op f g).columns = f.columns ++ g.columns := by
  have comparison : (Fragment.comparison op f g).columns = f.columns ++ g.columns := by
    simp [columns_node, children]
  unfold compare
  cases op
  case equal | notEqual =>
    dsimp only
    split
    · simp [columns_node, children]
    · simp [columns_node, children]
    · exact comparison
  all_goals exact comparison

theorem columns_equalsBool (f : Fragment) (b : Bool) : (f.equalsBool b).columns = f.columns := by
  rw [equalsBool, columns_compare, columns_value, List.append_nil]

theorem columns_only {f g : Fragment} (inner : ∀ c, f ≠ .column c) (only : f.children = [g]) :
    f.columns = g.columns := by
  rw [columns_node inner, only, List.flatMap_singleton]

theorem columns_case (arms : List (Fragment × Fragment)) (z : Fragment) :
    (Fragment.case arms z).columns
      = arms.flatMap (fun arm => arm.1.columns ++ arm.2.columns) ++ z.columns := by
  simp [columns_node, children, List.flatMap_assoc]

theorem columns_function (name : String) (fs : List Fragment) :
    (Fragment.function name fs).columns = fs.flatMap columns :=
  columns_node (by simp)

theorem identifiers_layout (f : Fragment) :
    f.layout.filterMap identifier? = f.columns.flatMap Column.identifiers := by
  induction f using children_induction with
  | step f below =>
    cases f with
    | value v =>
      rw [layout, v.pick_layout identifier_of_text, columns_node (by simp), children]
      exact List.filterMap_eq_nil_iff.mpr fun s _ => rfl
    | column c => rw [layout, identifiers_ofColumn, columns, List.flatMap_singleton]
    | _ =>
      rw [columns_node (by simp), pick_layout identifier_of_text (by simp) (by simp),
        List.flatMap_assoc]
      exact List.flatMap_congr below

theorem identifiers_of_rendered {f : Fragment} {ps : List Piece} (rendered : f.pieces = .ok ps) :
    ps.filterMap Piece.identifier? = f.columns.flatMap Column.identifiers := by
  rw [f.pieces_eq_layout] at rendered
  rw [identifiers_of_pieces rendered, identifiers_layout]

end Fragment
end ExprSql
