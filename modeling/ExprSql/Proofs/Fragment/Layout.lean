import ExprSql.Fragment.Render
import ExprSql.Proofs.Fragment.Tree

/-!
Layouts: what a fragment is written as before any value is bound. Rendering is laying out, binding
the values from the left and writing the slots.
-/
namespace ExprSql

inductive Slot where
  | text (s : String)
  | identifier (name : String)
  | value (v : Value)

namespace Slot

def piece : Slot → Except Failure Piece
  | .text s => .ok (.text s)
  | .identifier name => .ok (.identifier name)
  | .value v => do
      let b ← Bound.ofValue v
      .ok (.parameter b)

def value? : Slot → Option Value
  | .value v => some v
  | _ => none

def grouped (ss : List Slot) : List Slot := .text "(" :: ss ++ [.text ")"]

def operand (parent : Nat) (f : Fragment) (ss : List Slot) : List Slot :=
  if f.precedence ≤ parent then grouped ss else ss

def first (parent : Nat) (f : Fragment) (ss : List Slot) : List Slot :=
  if f.precedence < parent then grouped ss else ss

def separated (items : List (List Slot)) : List Slot := [.text ", "].intercalate items

def ofColumn (c : Column) : List Slot :=
  let name := if c.isWildcard then .text "*" else .identifier c.name
  match c.qualifier with
  | some q => [.identifier q, .text ".", name]
  | none => [name]

def negatedIf (negated : Bool) (plain opposite : String) : Slot :=
  .text (if negated then opposite else plain)

end Slot

mutual

def Value.layout : Value → List Slot
  | .array items | .list items => Slot.grouped (Slot.separated (layoutEach items))
  | v => [.value v]

def Value.layoutEach : List Value → List (List Slot)
  | [] => []
  | v :: vs => v.layout :: layoutEach vs

end

/-- An item of a list stands for itself, a collection for its elements. -/
def Slot.items (f : Fragment) (whole : List Slot) : List (List Slot) :=
  match f with
  | .value (.array vs) | .value (.list vs) => Value.layoutEach vs
  | _ => [whole]

namespace Fragment
open Slot

mutual

def layout : Fragment → List Slot
  | .value v => v.layout
  | .column c => ofColumn c
  | .comparison op left right =>
      operand 4 left left.layout ++ .text s!" {op.sql} " :: operand 4 right right.layout
  | .isNull f negated => operand 4 f f.layout ++ [negatedIf negated " IS NULL" " IS NOT NULL"]
  | .like f pattern negated =>
      operand 4 f f.layout ++ negatedIf negated " LIKE " " NOT LIKE "
        :: operand 4 pattern pattern.layout
  | .inList f items negated =>
      operand 4 f f.layout ++ negatedIf negated " IN (" " NOT IN (" :: separated (itemLayouts items)
        ++ [.text ")"]
  | .between f low high negated =>
      operand 4 f f.layout ++ negatedIf negated " BETWEEN " " NOT BETWEEN "
        :: operand 4 low low.layout ++ .text " AND " :: operand 4 high high.layout
  | .logical op operands => chainLayout op.sql (precedence (.logical op [])) operands
  | .arithmetic op operands => chainLayout op.symbol (precedence (.arithmetic op [])) operands
  | .bitwise op operands => chainLayout op.symbol (precedence (.bitwise op [])) operands
  | .not f => .text "NOT " :: operand 3 f f.layout
  | .complement f => .text "~" :: operand 10 f f.layout
  | .negate f => .text "-" :: operand 10 f f.layout
  | .case arms otherwise =>
      .text "CASE" :: armLayouts arms ++ .text " ELSE " :: otherwise.layout ++ [.text " END"]
  | .function name arguments => .text name :: grouped (separated (argumentLayouts arguments))

def chainLayout (symbol : String) (parent : Nat) : List Fragment → List Slot
  | [] => []
  | f :: fs => first parent f f.layout ++ restLayout symbol parent fs

def restLayout (symbol : String) (parent : Nat) : List Fragment → List Slot
  | [] => []
  | f :: fs => .text s!" {symbol} " :: operand parent f f.layout ++ restLayout symbol parent fs

def argumentLayouts : List Fragment → List (List Slot)
  | [] => []
  | f :: fs => f.layout :: argumentLayouts fs

def itemLayouts : List Fragment → List (List Slot)
  | [] => []
  | f :: fs => items f f.layout ++ itemLayouts fs

def armLayouts : List (Fragment × Fragment) → List Slot
  | [] => []
  | (test, result) :: arms =>
      .text " WHEN " :: test.layout ++ .text " THEN " :: result.layout ++ armLayouts arms

end

def elements : Fragment → List Fragment
  | .value (.array vs) | .value (.list vs) => vs.map .value
  | f => [f]

theorem elements_single {f : Fragment} (scalar : ∀ v, f = .value v → v.items? = none) :
    f.elements = [f] := by
  unfold elements
  split
  · exact absurd (scalar _ rfl) (by simp [Value.items?])
  · exact absurd (scalar _ rfl) (by simp [Value.items?])
  · rfl

theorem layoutEach_eq_map (vs : List Value) :
    Value.layoutEach vs = (vs.map Fragment.value).map layout := by
  induction vs with
  | nil => rfl
  | cons v vs ih => simp [Value.layoutEach, layout, ih]

theorem items_eq_elements (f : Fragment) : Slot.items f f.layout = f.elements.map layout := by
  cases f with
  | value v =>
    cases v with
    | array vs | list vs => exact layoutEach_eq_map vs
    | _ => rfl
  | _ => rfl

theorem itemLayouts_eq_elements (items : List Fragment) :
    itemLayouts items = (items.flatMap elements).map layout := by
  induction items with
  | nil => rfl
  | cons f items ih => rw [itemLayouts, items_eq_elements, ih, List.flatMap_cons, List.map_append]

end Fragment

theorem mapM_cons_ok {α β ε : Type} {f : α → Except ε β} {x : α} {xs : List α} {ys : List β}
    (mapped : (x :: xs).mapM f = .ok ys) :
    ∃ y later, f x = .ok y ∧ xs.mapM f = .ok later ∧ ys = y :: later := by
  rw [List.mapM_cons] at mapped
  cases first : f x with
  | error e =>
    rw [first] at mapped
    cases mapped
  | ok y =>
    cases rest : xs.mapM f with
    | error e =>
      rw [first, rest] at mapped
      cases mapped
    | ok later =>
      rw [first, rest] at mapped
      cases mapped
      exact ⟨y, later, rfl, rfl, rfl⟩

namespace Slot

def pieces (ss : List Slot) : Except Failure (List Piece) := ss.mapM piece

@[simp] theorem pieces_nil : pieces [] = .ok [] := rfl

@[simp] theorem pieces_text (s : String) (ss : List Slot) :
    pieces (.text s :: ss) = pieces ss >>= fun ps => .ok (.text s :: ps) := by
  simp only [pieces, List.mapM_cons]
  rfl

@[simp] theorem pieces_identifier (name : String) (ss : List Slot) :
    pieces (.identifier name :: ss) = pieces ss >>= fun ps => .ok (.identifier name :: ps) := by
  simp only [pieces, List.mapM_cons]
  rfl

theorem pieces_value (v : Value) (ss : List Slot) :
    pieces (.value v :: ss) = Bound.ofValue v >>= fun b => pieces ss >>= fun ps =>
      .ok (.parameter b :: ps) := by
  simp only [pieces, List.mapM_cons, piece, bind_assoc]
  rfl

theorem pieces_append (ss ts : List Slot) :
    pieces (ss ++ ts) = pieces ss >>= fun ps => pieces ts >>= fun qs => .ok (ps ++ qs) := by
  simp only [pieces, List.mapM_append]
  rfl

theorem ok_bind {α β : Type} (a : α) (f : α → Except Failure β) : Except.ok a >>= f = f a := rfl

theorem bind_ok {α : Type} (x : Except Failure α) : (x >>= fun a => .ok a) = x := by
  cases x <;> rfl

theorem pieces_grouped (ss : List Slot) :
    pieces (grouped ss) = pieces ss >>= fun ps => .ok (Piece.grouped ps) := by
  simp [grouped, Piece.grouped, pieces_append, bind_assoc, ok_bind]

theorem pieces_operand (parent : Nat) (f : Fragment) (ss : List Slot) :
    pieces (operand parent f ss) = pieces ss >>= fun ps => .ok (Piece.operand parent f ps) := by
  unfold operand Piece.operand
  split
  · exact pieces_grouped ss
  · exact (bind_ok _).symm

theorem pieces_first (parent : Nat) (f : Fragment) (ss : List Slot) :
    pieces (first parent f ss) = pieces ss >>= fun ps => .ok (Piece.first parent f ps) := by
  unfold first Piece.first
  split
  · exact pieces_grouped ss
  · exact (bind_ok _).symm

theorem separated_cons (item : List Slot) (items : List (List Slot)) :
    separated (item :: items) = item ++ items.flatMap fun next => .text ", " :: next := by
  induction items generalizing item with
  | nil => simp [separated, List.intercalate]
  | cons next items ih =>
    have tail := ih next
    simp only [separated, List.intercalate, List.intersperse_cons_cons, List.flatten_cons] at tail ⊢
    rw [tail]
    simp

theorem separated_cons_cons (item next : List Slot) (items : List (List Slot)) :
    separated (item :: next :: items) = item ++ .text ", " :: separated (next :: items) := by
  simp only [separated_cons, List.flatMap_cons, List.cons_append]

theorem pieces_separated (items : List (List Slot)) :
    pieces (separated items) = items.mapM pieces >>= fun ps => .ok (Piece.separated ps) := by
  induction items with
  | nil => rfl
  | cons item items ih =>
    cases items with
    | nil =>
      simp [separated, Piece.separated, List.intercalate, List.mapM_cons]
      exact (bind_ok _).symm
    | cons next items =>
      have joined (p q : List Piece) (ps : List (List Piece)) :
          Piece.separated (p :: q :: ps) = p ++ .text ", " :: Piece.separated (q :: ps) := by
        simp [Piece.separated, List.intercalate]
      rw [separated_cons_cons, pieces_append, pieces_text, ih]
      simp only [List.mapM_cons, bind_assoc, pure_bind, ok_bind, joined]

theorem pieces_ofColumn (c : Column) : pieces (ofColumn c) = .ok (Piece.ofColumn c) := by
  unfold ofColumn Piece.ofColumn
  cases c.qualifier <;> by_cases wild : c.isWildcard = true <;> simp [wild, ok_bind]

end Slot

open Slot

mutual

theorem Value.pieces_eq_layout (v : Value) : v.pieces = Slot.pieces v.layout := by
  cases v with
  | array items | list items =>
    rw [Value.pieces, Value.layout, pieces_grouped, pieces_separated, Value.piecesOfEach_eq_layouts]
    simp only [bind_assoc, ok_bind]
  | _ =>
    simp only [Value.pieces, Value.layout, Slot.pieces, piece, List.mapM_cons, bind_assoc]
    rfl

theorem Value.piecesOfEach_eq_layouts (vs : List Value) :
    Value.piecesOfEach vs = (Value.layoutEach vs).mapM Slot.pieces := by
  cases vs with
  | nil => rfl
  | cons v vs =>
    rw [Value.piecesOfEach, Value.layoutEach, List.mapM_cons, Value.pieces_eq_layout v,
      Value.piecesOfEach_eq_layouts vs]
    rfl

end

namespace Fragment

mutual

theorem pieces_eq_layout (f : Fragment) : f.pieces = Slot.pieces f.layout := by
  cases f with
  | value v => rw [pieces, layout, v.pieces_eq_layout]
  | column c => rw [pieces, layout, pieces_ofColumn]
  | comparison op left right =>
    rw [pieces, layout, pieces_append, pieces_text, pieces_operand, pieces_operand,
      left.pieces_eq_layout, right.pieces_eq_layout]
    simp only [bind_assoc, ok_bind]
  | isNull operand negated =>
    rw [pieces, layout, pieces_append, pieces_operand, operand.pieces_eq_layout, negatedIf,
      pieces_text]
    simp only [bind_assoc, ok_bind, pieces_nil, Piece.negatedIf]
  | like operand pattern negated =>
    rw [pieces, layout, pieces_append, negatedIf, pieces_text, pieces_operand, pieces_operand,
      operand.pieces_eq_layout, pattern.pieces_eq_layout]
    simp only [bind_assoc, ok_bind, Piece.negatedIf]
  | inList operand items negated =>
    rw [pieces, layout, List.append_assoc, pieces_append, negatedIf, List.cons_append, pieces_text,
      pieces_append, pieces_text, pieces_operand, pieces_separated, operand.pieces_eq_layout,
      itemPieces_eq_layouts items]
    simp only [bind_assoc, ok_bind, pieces_nil, Piece.negatedIf, List.append_assoc,
      List.cons_append]
  | between operand low high negated =>
    rw [pieces, layout, List.append_assoc, pieces_append, negatedIf, List.cons_append, pieces_text,
      pieces_append, pieces_text, pieces_operand, pieces_operand, pieces_operand,
      operand.pieces_eq_layout, low.pieces_eq_layout, high.pieces_eq_layout]
    simp only [bind_assoc, ok_bind, Piece.negatedIf, List.append_assoc, List.cons_append]
  | logical op operands => rw [pieces, layout, chainPieces_eq_layout]
  | arithmetic op operands => rw [pieces, layout, chainPieces_eq_layout]
  | bitwise op operands => rw [pieces, layout, chainPieces_eq_layout]
  | not operand =>
    rw [pieces, layout, pieces_text, pieces_operand, operand.pieces_eq_layout]
    simp only [bind_assoc, ok_bind]
  | complement operand =>
    rw [pieces, layout, pieces_text, pieces_operand, operand.pieces_eq_layout]
    simp only [bind_assoc, ok_bind]
  | negate operand =>
    rw [pieces, layout, pieces_text, pieces_operand, operand.pieces_eq_layout]
    simp only [bind_assoc, ok_bind]
  | case arms otherwise =>
    rw [pieces, layout, List.append_assoc, List.cons_append, pieces_text, pieces_append,
      List.cons_append, pieces_text, pieces_append, pieces_text, armPieces_eq_layouts arms,
      otherwise.pieces_eq_layout]
    simp only [bind_assoc, ok_bind, pieces_nil, List.append_assoc, List.cons_append]
  | function name arguments =>
    rw [pieces, layout, pieces_text, pieces_grouped, pieces_separated,
      argumentPieces_eq_layouts arguments]
    simp only [bind_assoc, ok_bind]

theorem chainPieces_eq_layout (symbol : String) (parent : Nat) (fs : List Fragment) :
    chainPieces symbol parent fs = Slot.pieces (chainLayout symbol parent fs) := by
  cases fs with
  | nil => rfl
  | cons f fs =>
    rw [chainPieces, chainLayout, pieces_append, pieces_first, f.pieces_eq_layout,
      restPieces_eq_layout symbol parent fs]
    simp only [bind_assoc, ok_bind]

theorem restPieces_eq_layout (symbol : String) (parent : Nat) (fs : List Fragment) :
    restPieces symbol parent fs = Slot.pieces (restLayout symbol parent fs) := by
  cases fs with
  | nil => rfl
  | cons f fs =>
    rw [restPieces, restLayout, List.cons_append, pieces_text, pieces_append, pieces_operand,
      f.pieces_eq_layout, restPieces_eq_layout symbol parent fs]
    simp only [bind_assoc, ok_bind, List.cons_append]

theorem argumentPieces_eq_layouts (fs : List Fragment) :
    argumentPieces fs = (argumentLayouts fs).mapM Slot.pieces := by
  cases fs with
  | nil => rfl
  | cons f fs =>
    rw [argumentPieces, argumentLayouts, List.mapM_cons, f.pieces_eq_layout,
      argumentPieces_eq_layouts fs]
    rfl

theorem itemPieces_eq_layouts (fs : List Fragment) :
    itemPieces fs = (itemLayouts fs).mapM Slot.pieces := by
  cases fs with
  | nil => rfl
  | cons f fs =>
    have whole := f.pieces_eq_layout
    have later := itemPieces_eq_layouts fs
    unfold itemPieces itemLayouts
    rw [List.mapM_append, later]
    cases f with
    | value v =>
      cases v with
      | array vs | list vs =>
        simp only [items]
        rw [Value.piecesOfEach_eq_layouts]
        rfl
      | _ =>
        simp only [items, whole, List.mapM_cons, List.mapM_nil, bind_assoc, ok_bind, pure_bind]
        rfl
    | _ =>
      simp only [items, whole, List.mapM_cons, List.mapM_nil, bind_assoc, ok_bind, pure_bind]
      rfl

theorem armPieces_eq_layouts (arms : List (Fragment × Fragment)) :
    armPieces arms = Slot.pieces (armLayouts arms) := by
  cases arms with
  | nil => rfl
  | cons arm arms =>
    obtain ⟨test, result⟩ := arm
    rw [armPieces, armLayouts, List.append_assoc, List.cons_append, pieces_text, pieces_append,
      List.cons_append, pieces_text, pieces_append, test.pieces_eq_layout, result.pieces_eq_layout,
      armPieces_eq_layouts arms]
    simp only [bind_assoc, ok_bind, List.append_assoc, List.cons_append]

end

end Fragment

namespace Slot

def write (d : Dialect) : Nat → List Slot → List String
  | _, [] => []
  | count, .text s :: rest => s :: write d count rest
  | count, .identifier name :: rest => d.quoted name :: write d count rest
  | count, .value _ :: rest => d.placeholder (count + 1) :: write d (count + 1) rest

def values (ss : List Slot) : List Value := ss.filterMap value?

theorem write_pieces (d : Dialect) (count : Nat) (ss : List Slot) :
    (pieces ss >>= fun ps => Except.ok (Piece.write d count ps, ps.filterMap Piece.bound?))
      = (values ss).mapM Bound.ofValue >>= fun bs => Except.ok (write d count ss, bs) := by
  induction ss generalizing count with
  | nil => rfl
  | cons slot ss ih =>
    cases slot with
    | text s =>
      have tail := congrArg (· >>= fun r => Except.ok (s :: r.1, r.2)) (ih count)
      simp only [bind_assoc, ok_bind] at tail
      rw [pieces_text, bind_assoc]
      exact tail
    | identifier name =>
      have tail := congrArg (· >>= fun r => Except.ok (d.quoted name :: r.1, r.2)) (ih count)
      simp only [bind_assoc, ok_bind] at tail
      rw [pieces_identifier, bind_assoc]
      exact tail
    | value v =>
      have split : values (.value v :: ss) = v :: values ss := rfl
      rw [split, List.mapM_cons, pieces_value]
      cases bound : Bound.ofValue v with
      | error e => rfl
      | ok b =>
        have tail := congrArg
          (· >>= fun r => Except.ok (d.placeholder (count + 1) :: r.1, b :: r.2)) (ih (count + 1))
        simp only [bind_assoc, ok_bind] at tail
        simp only [ok_bind, bind_assoc, pure_bind]
        exact tail

end Slot

/-- Rendering binds the values of the layout in order, whatever the dialect. -/
theorem Fragment.toSql_eq_layout (d : Dialect) (f : Fragment) :
    f.toSql d = (Slot.values f.layout).mapM Bound.ofValue >>= fun bs =>
      Except.ok (String.join (Slot.write d 0 f.layout), bs) := by
  have written := congrArg (· >>= fun r => Except.ok (String.join r.1, r.2))
    (Slot.write_pieces d 0 f.layout)
  simp only [bind_assoc, Slot.ok_bind] at written
  rw [toSql, f.pieces_eq_layout]
  exact written

end ExprSql
