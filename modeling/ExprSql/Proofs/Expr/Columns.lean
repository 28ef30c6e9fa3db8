import Mathlib
import ExprSql.Expr.Path
import ExprSql.Compile.Registry

/-!
The columns that an expression reads, in source order. What is evaluated whole reads none.
-/
namespace ExprSql

/-- The column of a path: the names run together, and no names stand for all columns. -/
def Parameter.column (p : Parameter) (names : List String) : Column :=
  ⟨p.type.name, some p.name, if names = [] then "*" else String.join names⟩

namespace Registry

variable (r : Registry)

def overTables (paths : List (Parameter × List String)) : List (Parameter × List String) :=
  paths.filter fun path => r.isTable path.1.type.name

def columnsOf (paths : List (Parameter × List String)) : List Column :=
  (r.overTables paths).map fun path => path.1.column path.2

theorem columnsOf_append (paths more : List (Parameter × List String)) :
    r.columnsOf (paths ++ more) = r.columnsOf paths ++ r.columnsOf more := by
  simp only [columnsOf, overTables, List.filter_append, List.map_append]

theorem columnsOf_flatMap {α : Type} (xs : List α) (paths : α → List (Parameter × List String)) :
    r.columnsOf (xs.flatMap paths) = xs.flatMap fun x => r.columnsOf (paths x) := by
  simp only [columnsOf, overTables, List.filter_flatMap, List.map_flatMap]

end Registry

namespace Expr

def rooted? : Expr → Option (Parameter × List String)
  | .parameter name type => some (⟨name, type⟩, [])
  | .member (some target) m => target.rooted?.map fun path => (path.1, path.2 ++ [m.name])
  | _ => none

section
variable (r : Registry)

mutual

/-- The longest member paths. The last operand of a handled call may be an array that stands for
its items; any other array is evaluated. -/
def paths (last : Bool) : Expr → List (Parameter × List String)
  | .parameter name type => ((Expr.parameter name type).rooted?).toList
  | .member target m => ((Expr.member target m).rooted?).toList
  | .array _ items => if last then pathsOfEach items else []
  | .call none m arguments =>
      if r.contains m.owner m.name then pathsOfOperands arguments else []
  | .call (some target) m arguments =>
      if r.contains m.owner m.name then
        target.paths arguments.isEmpty ++ pathsOfOperands arguments
      else []
  | .unary .length _ _ _ | .binary .index _ _ _ _ => []
  | .unary _ operand _ _ => operand.paths false
  | .binary _ left right _ _ => left.paths false ++ right.paths false
  | .conditional test whenTrue whenFalse _ =>
      test.paths false ++ whenTrue.paths false ++ whenFalse.paths false
  | .typeIs operand _ => operand.paths false
  | .constant .. | .construct .. | .arrayOfLength .. | .list .. | .thunk .. => []

def pathsOfEach : List Expr → List (Parameter × List String)
  | [] => []
  | e :: es => e.paths false ++ pathsOfEach es

def pathsOfOperands : List Expr → List (Parameter × List String)
  | [] => []
  | e :: es => e.paths es.isEmpty ++ pathsOfOperands es

end

def columns (e : Expr) : List Column := r.columnsOf (e.paths r false)

def columnsOfOperands (es : List Expr) : List Column := r.columnsOf (pathsOfOperands r es)

end

variable {r : Registry}

theorem path_of_member (target : Expr) (m : Member) :
    (Expr.member (some target) m).path?
      = target.path?.map fun path => (path.1, path.2 ++ [m.name]) := by
  unfold path?
  rw [chain]
  rcases target.chain with ⟨names, none | root⟩
  · rfl
  · cases root <;> rfl

theorem path_eq_rooted (e : Expr) : e.path? = e.rooted? := by
  fun_induction rooted? e with
  | case1 => rfl
  | case2 target m ih => rw [path_of_member, ih]
  | case3 e noParameter noMember =>
    cases e with
    | parameter name t => exact absurd rfl (noParameter name t)
    | member target m =>
      cases target with
      | none => rfl
      | some target => exact absurd rfl (noMember target m)
    | _ => rfl

theorem chain_of_member (target : Option Expr) (m : Member) :
    (Expr.member target m).chain.1 ≠ [] := by
  cases target <;> simp [chain]

theorem column_of_path {e : Expr} {p : Parameter} {names : List String}
    (path : e.path? = some (p, names)) : e.column = .ok (p.column names) := by
  cases e with
  | parameter name t =>
    cases path
    rfl
  | member target m =>
    have named := chain_of_member target m
    unfold path? at path
    unfold column
    split at path
    · rename_i found name t chain
      cases path
      rw [chain] at named ⊢
      simp only [Parameter.column, if_neg named]
    · cases path
  | _ => cases path

theorem columns_of_columnPath {e : Expr} (table : e.isColumnPath r.isTable = true) :
    ∃ column, e.column = .ok column ∧ e.columns r = [column] := by
  unfold isColumnPath at table
  split at table
  · rename_i p names path
    have whole : e.paths r false = [(p, names)] := by
      cases e with
      | parameter name t => rw [paths, ← path_eq_rooted, path, Option.toList_some]
      | member target m => rw [paths, ← path_eq_rooted, path, Option.toList_some]
      | _ => cases path
    refine ⟨p.column names, column_of_path path, ?_⟩
    simp [columns, whole, Registry.columnsOf, Registry.overTables, table]
  · cases table

theorem columns_of_other_member {target : Option Expr} {m : Member}
    (other : ¬ (Expr.member target m).isColumnPath r.isTable = true) :
    (Expr.member target m).columns r = [] := by
  rw [columns, paths, ← path_eq_rooted]
  unfold isColumnPath at other
  split at other
  · rename_i p names path
    simp [path, Registry.columnsOf, Registry.overTables, other]
  · rename_i path
    rw [path]
    rfl

theorem columns_of_unhandled {m : Member} (unhandled : r.handler? m.owner m.name = none)
    (target : Option Expr) (arguments : List Expr) :
    (Expr.call target m arguments).columns r = [] := by
  have none : (Expr.call target m arguments).paths r false = [] := by
    cases target <;> simp [paths, Registry.contains, unhandled]
  rw [columns, none]
  rfl

theorem columns_of_call {m : Member} (handled : r.contains m.owner m.name = true)
    (target : Option Expr) (arguments : List Expr) :
    (Expr.call target m arguments).columns r
      = columnsOfOperands r (target.toList ++ arguments) := by
  rw [columns, columnsOfOperands]
  cases target with
  | none => simp [paths, handled]
  | some target => simp [paths, pathsOfOperands, handled]

theorem pathsOfEach_eq_flatMap (es : List Expr) :
    pathsOfEach r es = es.flatMap (paths r false) := by
  induction es with
  | nil => rfl
  | cons e es ih => rw [pathsOfEach, ih, List.flatMap_cons]

theorem paths_anywhere {e : Expr} (noArray : ∀ t items, e ≠ .array t items) (last : Bool) :
    e.paths r last = e.paths r false := by
  cases e with
  | array t items => exact absurd rfl (noArray t items)
  | call target m arguments => cases target <;> simp only [paths]
  | unary op operand t m => cases op <;> simp only [paths]
  | binary op left right t m => cases op <;> simp only [paths]
  | _ => simp only [paths]

theorem columns_of_last_array (t : DataType) (items : List Expr) :
    columnsOfOperands r [.array t items] = items.flatMap (columns r) := by
  rw [columnsOfOperands, pathsOfOperands, pathsOfOperands, List.append_nil, List.isEmpty_nil, paths,
    if_pos rfl, pathsOfEach_eq_flatMap, r.columnsOf_flatMap]
  rfl

theorem columns_of_last {e : Expr} (noArray : ∀ t items, e ≠ .array t items) :
    columnsOfOperands r [e] = e.columns r := by
  rw [columnsOfOperands, pathsOfOperands, pathsOfOperands, List.append_nil, paths_anywhere noArray,
    columns]

theorem columns_of_operand (e : Expr) {es : List Expr} (more : es ≠ []) :
    columnsOfOperands r (e :: es) = e.columns r ++ columnsOfOperands r es := by
  rw [columnsOfOperands, pathsOfOperands, List.isEmpty_eq_false_iff.mpr more, r.columnsOf_append,
    columns, columnsOfOperands]

theorem columns_unary {op : UnaryOp} (noLength : op ≠ .length) (operand : Expr) (t : DataType)
    (m : Option Member) : (Expr.unary op operand t m).columns r = operand.columns r := by
  cases op with
  | length => exact absurd rfl noLength
  | _ => rfl

theorem columns_binary {op : BinaryOp} (noIndex : op ≠ .index) (left right : Expr) (t : DataType)
    (m : Option Member) :
    (Expr.binary op left right t m).columns r = left.columns r ++ right.columns r := by
  have both : (Expr.binary op left right t m).paths r false
      = left.paths r false ++ right.paths r false := by
    cases op with
    | index => exact absurd rfl noIndex
    | _ => rfl
  rw [columns, both, r.columnsOf_append, columns, columns]

theorem columns_conditional (test whenTrue whenFalse : Expr) (t : DataType) :
    (Expr.conditional test whenTrue whenFalse t).columns r
      = test.columns r ++ whenTrue.columns r ++ whenFalse.columns r := by
  simp only [columns, paths, Registry.columnsOf_append]

end Expr
end ExprSql
