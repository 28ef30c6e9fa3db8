import ExprSql.Expr.Builder
import ExprSql.Proofs.Compile.Chain
import ExprSql.Proofs.Compile.Standard
import ExprSql.Proofs.Expr.Columns
import ExprSql.Proofs.Fragment.Columns

/-!
Columns of compiled queries. Every builder of fragments keeps the columns of its operands and their
order, so a query has the columns that its expression reads, each as often and in the same order.
-/
namespace ExprSql

open Run

variable {r : Registry} {l : Level}

theorem columns_of_family (family : Family) (fs : List Fragment) :
    (family.node fs).columns = fs.flatMap Fragment.columns := by
  cases family <;> exact Fragment.columns_node (by simp [Family.node])

theorem columns_pattern (before after : Bool) (f : Fragment) :
    (Handler.pattern before after f).columns = f.columns := by
  unfold Handler.pattern
  split
  · rw [Fragment.columns_value, Fragment.columns_value]
  · rw [Fragment.columns_function]
    cases before <;> cases after <;> simp

theorem columns_condition (o : Operand) : o.condition.columns = o.toFragment.columns := by
  unfold Operand.condition
  split
  · rfl
  · exact Fragment.columns_equalsBool _ _

theorem columns_negation (o : Operand) : o.negation.columns = o.toFragment.columns := by
  unfold Operand.negation
  split
  · exact Fragment.columns_only (by simp) rfl
  · exact Fragment.columns_equalsBool _ _

namespace Expr

theorem operands_columns (family : Family) (e : Expr) :
    (e.operandsOf family).flatMap (columns r) = e.columns r := by
  refine operandsOf_induction (motive := fun es e => es.flatMap (columns r) = e.columns r) ?_ ?_ e
  · intro e
    exact List.flatMap_singleton _ _
  · intro es op left right t m same left_columns
    have noIndex : op ≠ .index := by
      rintro rfl
      cases same
    rw [List.flatMap_append, List.flatMap_singleton, left_columns, columns_binary noIndex]

end Expr

structure Level.Keeps (r : Registry) (l : Level) : Prop where
  operand : ∀ e, Ensures (l.operand e) (·.toFragment.columns = e.columns r) fun _ => True
  predicate : ∀ e, Ensures (l.predicate e) (·.columns = e.columns r) fun _ => True

theorem flatMap_of_each {α β γ : Type} {f : α → List γ} {g : β → List γ} {xs : List α}
    {ys : List β} (each : List.Forall₂ (fun x y => g y = f x) xs ys) :
    ys.flatMap g = xs.flatMap f := by
  induction each with
  | nil => rfl
  | cons first _ ih => rw [List.flatMap_cons, List.flatMap_cons, first, ih]

section
variable (keeps : l.Keeps r)
include keeps

theorem fragment_keeps (e : Expr) :
    Ensures (l.fragment e) (·.columns = e.columns r) fun _ => True :=
  ensures_bind (keeps.operand e) fun _ same => ensures_pure same

theorem operands_keep (es : List Expr) :
    Ensures (Handler.operands.go l es)
      (·.flatMap Fragment.columns = Expr.columnsOfOperands r es) fun _ => True := by
  fun_induction Handler.operands.go l es with
  | case1 => exact ensures_pure rfl
  | case2 t items =>
    refine ensures_weaken (ensures_mapM_each fun e _ => fragment_keeps keeps e) fun fs each => ?_
    rw [flatMap_of_each each, Expr.columns_of_last_array]
  | case3 e noArray =>
    rw [Expr.columns_of_last noArray]
    refine ensures_bind (keeps.operand e) fun o same => ?_
    split
    · refine ensures_pure ?_
      rw [← same]
      simp [Operand.toFragment, List.flatMap_map]
    · exact ensures_pure (by rw [List.flatMap_singleton, same])
  | case4 e rest noArray more ih =>
    rw [Expr.columns_of_operand e (by simpa using more)]
    refine ensures_bind (fragment_keeps keeps e) fun f first => ?_
    refine ensures_bind ih fun fs later => ?_
    exact ensures_pure (by rw [List.flatMap_cons, first, later])

theorem standard_keeps {h : Handler} (standard : h.Standard) {m : Member}
    (handled : r.contains m.owner m.name = true) (target : Option Expr) (arguments : List Expr) :
    Ensures (h l ⟨target, m, arguments⟩)
      (·.toFragment.columns = (Expr.call target m arguments).columns r) fun _ => True := by
  rw [Expr.columns_of_call handled]
  have operands : Ensures (Handler.operands l ⟨target, m, arguments⟩) _ _ :=
    operands_keep keeps (target.toList ++ arguments)
  cases standard with
  | function name =>
    refine ensures_bind operands fun fs same => ensures_pure ?_
    rw [← same]
    exact Fragment.columns_function name fs
  | membership negated =>
    refine ensures_bind operands fun fs same => ?_
    split
    · exact ensures_throw trivial
    · exact ensures_throw trivial
    · refine ensures_pure ?_
      rw [← same]
      exact Fragment.columns_node (by simp [Operand.toFragment])
  | like negated | between | nullTest negated | startsWith | endsWith | contains =>
    refine ensures_bind operands fun fs same => ?_
    split
    · refine ensures_pure ?_
      rw [← same]
      simp [Operand.toFragment, Fragment.columns_node, Fragment.children, columns_pattern]
    · exact ensures_throw trivial

theorem condition_keeps (e : Expr) :
    Ensures (l.condition e) (·.toFragment.columns = e.columns r) fun _ => True :=
  ensures_bind (keeps.predicate e) fun _ same => ensures_pure same

theorem case_keeps (e : Expr) :
    Ensures (l.case e) (·.columns = e.columns r) fun _ => True := by
  have arm (a : Expr × Expr) :
      Ensures (do
        let t ← l.predicate a.1
        let r ← l.fragment a.2
        pure (t, r)) (fun arm => arm.1.columns ++ arm.2.columns
          = a.1.columns r ++ a.2.columns r) fun _ => True := by
    refine ensures_bind (keeps.predicate a.1) fun f test => ?_
    refine ensures_bind (fragment_keeps keeps a.2) fun g result => ?_
    exact ensures_pure (by rw [test, result])
  refine ensures_bind (ensures_mapM_each fun a _ => arm a) fun arms each => ?_
  refine ensures_bind (fragment_keeps keeps _) fun z last => ensures_pure ?_
  rw [← Expr.ladder_flatMap (Expr.columns r) Expr.columns_conditional e, Fragment.columns_case,
    last, flatMap_of_each each]

omit keeps in
theorem gather_keeps {compile : Expr → Run Fragment}
    (compiles : ∀ e, Ensures (compile e) (·.columns = e.columns r) fun _ => True)
    (family : Family) (e : Expr) :
    Ensures (Level.gather compile family e) (·.columns = e.columns r) fun _ => True := by
  rw [Level.gather_eq_mapM]
  refine ensures_bind (ensures_mapM_each fun e _ => compiles e) fun fs each => ensures_pure ?_
  rw [columns_of_family, flatMap_of_each each, Expr.operands_columns]

theorem predicateAbove_keeps (e : Expr) :
    Ensures (l.predicateAbove e) (·.columns = e.columns r) fun _ => True := by
  unfold Level.predicateAbove
  split
  · split
    · refine ensures_bind (fragment_keeps keeps _) fun f same => ensures_pure ?_
      rw [Fragment.columns_equalsBool, same]
    · exact ensures_throw trivial
  · split
    · refine ensures_bind (keeps.operand _) fun o same => ensures_pure ?_
      rw [columns_condition, same]
    · exact ensures_throw trivial
  · rw [Expr.columns_unary (by simp)]
    split
    · split
      · refine ensures_bind (fragment_keeps keeps _) fun f same => ensures_pure ?_
        rw [Fragment.columns_equalsBool, same]
      · refine ensures_bind (keeps.operand _) fun o same => ensures_pure ?_
        rw [columns_negation, same]
      · refine ensures_bind (keeps.predicate _) fun f same => ensures_pure ?_
        rw [Fragment.columns_only (by simp) rfl, same]
    · exact ensures_throw trivial
  · rw [Expr.columns_binary (by simp)]
    refine ensures_bind (fragment_keeps keeps _) fun f left => ?_
    refine ensures_bind (fragment_keeps keeps _) fun g right => ensures_pure ?_
    rw [Fragment.columns_compare, left, right]
  · split
    · exact gather_keeps keeps.predicate _ _
    · exact ensures_throw trivial
  · exact ensures_throw trivial

end

variable (c : Compiler)

theorem evaluate_keeps {e : Expr} (none : e.columns r = []) :
    Ensures (c.evaluate e) (·.toFragment.columns = e.columns r) fun _ => True := by
  refine ensures_bind (ensures_trivial _) fun v _ => ensures_pure ?_
  rw [none]
  exact Fragment.columns_value v

theorem asColumn_keeps {e : Expr} (path : e.isColumnPath r.isTable = true) :
    Ensures e.asColumn (·.toFragment.columns = e.columns r) fun _ => True := by
  obtain ⟨column, found, only⟩ := Expr.columns_of_columnPath path
  unfold Expr.asColumn
  rw [found, only]
  exact ensures_pure (Fragment.columns_column column)

theorem operandAbove_keeps (standard : c.registry.Standard) (keeps : l.Keeps c.registry)
    (e : Expr) :
    Ensures (c.operandAbove l e) (·.toFragment.columns = e.columns c.registry) fun _ => True := by
  unfold Compiler.operandAbove
  split
  iterate 6 exact evaluate_keeps c rfl
  · split
    · rename_i path
      exact asColumn_keeps path
    · rename_i other
      exact evaluate_keeps c (Expr.columns_of_other_member other)
  · split
    · rename_i name t table
      exact asColumn_keeps table
    · exact ensures_throw trivial
  · split
    · rename_i h found
      exact standard_keeps keeps (standard _ _ _ found) (by simp [Registry.contains, found]) _ _
    · rename_i unhandled
      exact evaluate_keeps c (Expr.columns_of_unhandled unhandled _ _)
  · split
    case h_1 | h_2 =>
      rw [Expr.columns_unary (by simp)]
      refine ensures_bind (keeps.operand _) fun o same => ?_
      rw [← same]
      split
      · refine ensures_bind (ensures_trivial _) fun v _ => ensures_pure ?_
        simp [Operand.toFragment]
      · exact ensures_pure rfl
    · split
      · exact condition_keeps keeps _
      · rw [Expr.columns_unary (by simp)]
        refine ensures_bind (fragment_keeps keeps _) fun f same => ensures_pure ?_
        rw [← same]
        exact Fragment.columns_only (by simp [Operand.toFragment]) rfl
    · rw [Expr.columns_unary (by simp)]
      refine ensures_bind (fragment_keeps keeps _) fun f same => ensures_pure ?_
      rw [← same]
      exact Fragment.columns_only (by simp [Operand.toFragment]) rfl
    · exact evaluate_keeps c rfl
  · rw [Expr.columns_binary (by simp)]
    refine ensures_bind (fragment_keeps keeps _) fun f left => ?_
    refine ensures_bind (fragment_keeps keeps _) fun g right => ensures_pure ?_
    rw [← left, ← right]
    simp [Operand.toFragment, Fragment.columns_function]
  · exact evaluate_keeps c rfl
  · split
    · exact condition_keeps keeps _
    · exact condition_keeps keeps _
    · refine ensures_bind (gather_keeps (fragment_keeps keeps) _ _) fun f same => ?_
      exact ensures_pure same
  · exact ensures_bind (case_keeps keeps _) fun f same => ensures_pure same
  · exact condition_keeps keeps _

theorem level_keeps (standard : c.registry.Standard) (n : Nat) :
    (c.level n).Keeps c.registry := by
  induction n with
  | zero => exact ⟨fun _ => ensures_throw trivial, fun _ => ensures_throw trivial⟩
  | succ n ih => exact ⟨operandAbove_keeps c standard ih, predicateAbove_keeps ih⟩

/-- The fragment has the columns of an expression in source order, each of a table under the
parameter's name, and is written with their names in that order. -/
structure Fragment.KeepsColumns (r : Registry) (e : Expr) (f : Fragment) : Prop where
  same : f.columns = e.columns r
  tables : List.Forall₂ (fun column path => r.isTable column.table = true ∧
    column.table = path.1.type.name ∧ column.qualifier = some path.1.name) f.columns
    (r.overTables (e.paths r false))
  written : ∀ ps, f.pieces = .ok ps →
    ps.filterMap Piece.identifier? = f.columns.flatMap Column.identifiers

theorem keepsColumns_of_same {e : Expr} {f : Fragment} (same : f.columns = e.columns r) :
    f.KeepsColumns r e where
  same := same
  tables := by
    rw [same, Expr.columns, Registry.columnsOf, List.forall₂_map_left_iff, List.forall₂_same]
    intro path member
    exact ⟨(List.mem_filter.mp member).2, rfl, rfl⟩
  written _ rendered := Fragment.identifiers_of_rendered rendered

/-- No column is lost, repeated or moved on the way from an expression to its query. -/
theorem compiled_columns_in_order (standard : c.registry.Standard) (e : Expr) (s t : Trace) :
    (∀ o, Gives (c.operand e) s o t → o.toFragment.KeepsColumns c.registry e) ∧
    (∀ f, Gives (c.predicate e) s f t → f.KeepsColumns c.registry e) := by
  have keeps : c.top.Keeps c.registry := level_keeps c standard _
  constructor
  · intro o gives
    exact keepsColumns_of_same ((keeps.operand e).1 s o t gives)
  · intro f gives
    exact keepsColumns_of_same ((keeps.predicate e).1 s f t gives)

theorem swapped_and_spread_columns :
    let person : Expr := .parameter "p" (.record "Person")
    let name := person.access "Name" .string
    let ownerName := ((Expr.parameter "o" (.record "Order")).access "Owner"
      (.record "Person")).access "Name" .string
    let age := person.access "Age" (.int .i32)
    let noAge := Expr.combine (.compare .equal) (.null (.int .i32)) age
    let listed : Expr := .call none ⟨"Sql", "In", .bool, true⟩
      [name, .array .string [ownerName, .constant (.string "x") .string, name]]
    let e := Expr.combine .andAlso noAge listed
    let c : Compiler :=
      { registry := ({ tables := ["Person", "Order"] } : Registry).registerStandard }
    let row (column : String) : Column := ⟨"Person", some "p", column⟩
    let owner : Column := ⟨"Order", some "o", "OwnerName"⟩
    let f : Fragment := .logical .and [.isNull (.column (row "Age")) false,
      .inList (.column (row "Name"))
        [.column owner, .value (.string "x"), .column (row "Name")] false]
    c.registry.Standard ∧ Gives (c.predicate e) [] f [] ∧
      e.columns c.registry = [row "Age", row "Name", owner, row "Name"] ∧
      f.KeepsColumns c.registry e := by
  intro person name ownerName age noAge listed e c row owner f
  have standard : c.registry.Standard :=
    Registry.registerStandard_standard (Registry.unhandled_standard _)
  have gives : Gives (c.predicate e) [] f [] := by
    rfl
  exact ⟨standard, gives, rfl, (compiled_columns_in_order c standard e [] []).2 f gives⟩

end ExprSql
