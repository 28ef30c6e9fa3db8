import ExprSql.Expr.Builder
import ExprSql.Proofs.Compile.Chain
import ExprSql.Proofs.Compile.Standard
import ExprSql.Proofs.Evaluate.Failures

/-!
Sorts of compiled queries. Conditions stand exactly where a query wants them: under connectives,
under a denial and as tests of a case; and every n-ary node has its operands.
-/
namespace ExprSql

open Run

namespace Fragment

/-- What a single node asks of the fragments right below it. -/
def NodeSorted : Fragment → Prop
  | .logical _ operands => 2 ≤ operands.length ∧ ∀ f ∈ operands, f.isOperator = true
  | .arithmetic _ operands | .bitwise _ operands => 2 ≤ operands.length
  | .not operand => operand.isOperator = true
  | .case arms _ => arms ≠ [] ∧ ∀ arm ∈ arms, arm.1.isOperator = true
  | .comparison op left right =>
      op = .equal ∨ op = .notEqual → left ≠ .value .null ∧ right ≠ .value .null
  | _ => True

abbrev WellSorted : Fragment → Prop := Everywhere NodeSorted

def SortedCondition (f : Fragment) : Prop := f.WellSorted ∧ f.isOperator = true

theorem value_sorted (v : Value) : (Fragment.value v).WellSorted :=
  .node trivial (by simp [children])

theorem column_sorted (c : Column) : (Fragment.column c).WellSorted :=
  .node trivial (by simp [children])

theorem unary_sorted {f g : Fragment} (here : NodeSorted f) (only : f.children = [g])
    (hg : g.WellSorted) : f.WellSorted :=
  .node here (by simp [only, hg])

theorem compare_sorted (op : Comparison) {f g : Fragment} (hf : f.WellSorted)
    (hg : g.WellSorted) : (compare op f g).SortedCondition := by
  have nullTest (h : Fragment) (negated : Bool) (hh : h.WellSorted) :
      (Fragment.isNull h negated).SortedCondition :=
    ⟨unary_sorted trivial rfl hh, rfl⟩
  have comparison (asked : NodeSorted (.comparison op f g)) :
      (Fragment.comparison op f g).SortedCondition :=
    ⟨.node asked (by simp [children, hf, hg]), rfl⟩
  unfold compare
  cases op
  case equal | notEqual =>
    dsimp only
    split
    · exact nullTest _ _ hf
    · exact nullTest _ _ hg
    · rename_i left right
      exact comparison fun _ => ⟨left, right⟩
  all_goals exact comparison (by simp [NodeSorted])

theorem equalsBool_sorted {f : Fragment} (b : Bool) (hf : f.WellSorted) :
    (f.equalsBool b).SortedCondition :=
  compare_sorted .equal hf (value_sorted _)

theorem not_sorted {f : Fragment} (hf : f.SortedCondition) :
    (Fragment.not f).SortedCondition :=
  ⟨unary_sorted hf.2 rfl hf.1, rfl⟩

theorem like_sorted (negated : Bool) {f g : Fragment} (hf : f.WellSorted) (hg : g.WellSorted) :
    (Fragment.like f g negated).WellSorted :=
  .node trivial (by simp [children, hf, hg])

theorem function_sorted (name : String) {fs : List Fragment} (hfs : ∀ f ∈ fs, f.WellSorted) :
    (Fragment.function name fs).WellSorted :=
  .node trivial hfs

theorem pattern_sorted (before after : Bool) {f : Fragment} (hf : f.WellSorted) :
    (Handler.pattern before after f).WellSorted := by
  unfold Handler.pattern
  split
  · exact value_sorted _
  · refine function_sorted _ fun g member => ?_
    have wildcard : (Fragment.value (.string "%")).WellSorted := value_sorted _
    cases before <;> cases after <;> simp at member <;> grind

theorem case_sorted {arms : List (Fragment × Fragment)} {z : Fragment} (some : arms ≠ [])
    (tests : ∀ arm ∈ arms, arm.1.SortedCondition ∧ arm.2.WellSorted) (hz : z.WellSorted) :
    (Fragment.case arms z).WellSorted := by
  refine .node ⟨some, fun arm mem => (tests arm mem).1.2⟩ fun g child => ?_
  simp only [children, List.mem_append, List.mem_flatMap, List.mem_cons, List.not_mem_nil,
    or_false] at child
  rcases child with ⟨arm, mem, rfl | rfl⟩ | rfl
  · exact (tests arm mem).1.1
  · exact (tests arm mem).2
  · exact hz

end Fragment

open Fragment

theorem node_sorted {family : Family} {fs : List Fragment} (two : 2 ≤ fs.length)
    (sorted : ∀ f ∈ fs, f.WellSorted)
    (conditions : ∀ op, family = .logical op → ∀ f ∈ fs, f.isOperator = true) :
    (family.node fs).WellSorted := by
  cases family with
  | arithmetic op => exact .node two sorted
  | bitwise op => exact .node two sorted
  | logical op => exact .node ⟨two, conditions op rfl⟩ sorted
  | concat => exact .node trivial sorted

def Failure.TakesOperands (e : Failure) : Prop := e ≠ .expression .closedFragment

theorem evaluation_takes {e : Failure} (h : e.OfEvaluation) : e.TakesOperands := by
  rintro rfl
  exact h

/-- What every level of the compiler keeps: operands are well-sorted, predicates are conditions
besides, and no chain is refused an operand. -/
structure Level.Sorts (l : Level) : Prop where
  operand : ∀ e, Ensures (l.operand e) (·.toFragment.WellSorted) Failure.TakesOperands
  predicate : ∀ e, Ensures (l.predicate e) SortedCondition Failure.TakesOperands

variable {l : Level}

theorem standard_sorts {h : Handler} (standard : h.Standard) (sorts : l.Sorts) (call : Call) :
    Ensures (h l call) (·.toFragment.WellSorted) Failure.TakesOperands := by
  have operands := Handler.ensures_operands sorts.operand value_sorted call
  have count (n : Nat) (fs : List Fragment) :
      (Handler.countFailure call n fs).TakesOperands := by
    simp [Handler.countFailure, Failure.TakesOperands]
  cases standard with
  | like negated => exact Handler.ensures_two operands count fun _ _ => like_sorted negated
  | startsWith | endsWith | contains =>
    exact Handler.ensures_two operands count fun _ _ hf hg =>
      like_sorted false hf (pattern_sorted _ _ hg)
  | between =>
    exact Handler.ensures_three operands count fun _ _ _ hf hg hh =>
      .node trivial (by simp [children, hf, hg, hh])
  | nullTest negated =>
    exact Handler.ensures_one operands count fun _ hf => unary_sorted trivial rfl hf
  | function name =>
    exact ensures_bind operands fun fs hfs => ensures_pure (function_sorted name hfs)
  | membership negated =>
    refine ensures_bind operands fun fs hfs => ?_
    split
    · exact ensures_throw (by simp [Failure.TakesOperands])
    · exact ensures_throw (by simp [Failure.TakesOperands])
    · exact ensures_pure (.node trivial hfs)

theorem gather_sorts {compile : Expr → Run Fragment} {family : Family} {op : BinaryOp}
    {left right : Expr} {t : DataType} {method : Option Member}
    (same : op.family? t = some family) {P : Fragment → Prop}
    (compiles : ∀ e, Ensures (compile e) P Failure.TakesOperands)
    (sorted : ∀ f, P f → f.WellSorted)
    (conditions : ∀ c, family = .logical c → ∀ f, P f → f.isOperator = true) :
    Ensures (Level.gather compile family (.binary op left right t method))
      (fun f => f.WellSorted ∧ ∃ fs, f = family.node fs) Failure.TakesOperands := by
  rw [Level.gather_eq_mapM]
  refine ensures_bind (ensures_mapM fun e _ => compiles e) fun fs hfs => ?_
  refine ensures_pure ⟨node_sorted ?_ (fun f mem => sorted f (hfs.2 f mem))
    fun c logical f mem => conditions c logical f (hfs.2 f mem), fs, rfl⟩
  have first := Expr.operandsOf_length_pos family left
  rw [hfs.1, Expr.operands_of_chain same, List.length_append, List.length_singleton]
  omega

theorem operand_condition_sorted {o : Operand} (sorted : o.toFragment.WellSorted) :
    o.condition.SortedCondition ∧ o.negation.SortedCondition := by
  cases o with
  | value v => exact ⟨equalsBool_sorted true sorted, equalsBool_sorted false sorted⟩
  | fragment f =>
    unfold Operand.condition Operand.negation
    cases operator : Operand.isOperator (.fragment f) with
    | true => exact ⟨⟨sorted, operator⟩, not_sorted ⟨sorted, operator⟩⟩
    | false => exact ⟨equalsBool_sorted true sorted, equalsBool_sorted false sorted⟩

section
variable (sorts : l.Sorts)
include sorts

theorem fragment_sorts (e : Expr) :
    Ensures (l.fragment e) WellSorted Failure.TakesOperands :=
  Handler.ensures_fragment sorts.operand e

theorem condition_sorts (e : Expr) :
    Ensures (l.condition e) (·.toFragment.WellSorted) Failure.TakesOperands :=
  ensures_bind (sorts.predicate e) fun _ hf => ensures_pure hf.1

theorem case_sorts (test whenTrue whenFalse : Expr) (t : DataType) :
    Ensures (l.case (.conditional test whenTrue whenFalse t)) WellSorted
      Failure.TakesOperands := by
  have arm (a : Expr × Expr) :
      Ensures (do
        let t ← l.predicate a.1
        let r ← l.fragment a.2
        pure (t, r)) (fun arm => arm.1.SortedCondition ∧ arm.2.WellSorted)
        Failure.TakesOperands := by
    refine ensures_bind (sorts.predicate a.1) fun f hf => ?_
    exact ensures_bind (fragment_sorts sorts a.2) fun g hg => ensures_pure ⟨hf, hg⟩
  refine ensures_bind (ensures_mapM fun a _ => arm a) fun arms harms => ?_
  refine ensures_bind (fragment_sorts sorts _) fun z hz => ?_
  refine ensures_pure (case_sorted ?_ harms.2 hz)
  rintro rfl
  simp at harms

theorem predicateAbove_sorts (e : Expr) :
    Ensures (l.predicateAbove e) SortedCondition Failure.TakesOperands := by
  have refused : e.notBoolean.TakesOperands := by simp [Expr.notBoolean, Failure.TakesOperands]
  unfold Level.predicateAbove
  split
  · split
    · exact ensures_bind (fragment_sorts sorts _) fun _ hf => ensures_pure (equalsBool_sorted _ hf)
    · exact ensures_throw refused
  · split
    · exact ensures_bind (sorts.operand _) fun _ ho =>
        ensures_pure (operand_condition_sorted ho).1
    · exact ensures_throw refused
  · split
    · split
      · exact ensures_bind (fragment_sorts sorts _) fun _ hf =>
          ensures_pure (equalsBool_sorted _ hf)
      · exact ensures_bind (sorts.operand _) fun _ ho =>
          ensures_pure (operand_condition_sorted ho).2
      · exact ensures_bind (sorts.predicate _) fun _ hf => ensures_pure (not_sorted hf)
    · exact ensures_throw refused
  · refine ensures_bind (fragment_sorts sorts _) fun f hf => ?_
    exact ensures_bind (fragment_sorts sorts _) fun g hg => ensures_pure (compare_sorted _ hf hg)
  · split
    · rename_i connective same
      refine ensures_weaken (gather_sorts same sorts.predicate (fun _ h => h.1) fun _ _ _ h => h.2)
        ?_
      rintro _ ⟨sorted, fs, rfl⟩
      exact ⟨sorted, rfl⟩
    · exact ensures_throw refused
  · exact ensures_throw refused

end

variable (c : Compiler)

theorem evaluate_sorts (e : Expr) :
    Ensures (c.evaluate e) (·.toFragment.WellSorted) Failure.TakesOperands := by
  have evaluates := c.evaluator.eval_evaluates e
  have value : Ensures (c.evaluator.eval e) (fun _ => True) Failure.TakesOperands :=
    ⟨evaluates.1, fun s e t fails => evaluation_takes (evaluates.2 s e t fails)⟩
  exact ensures_bind value fun v _ => ensures_pure (value_sorted v)

theorem asColumn_sorts (e : Expr) :
    Ensures e.asColumn (·.toFragment.WellSorted) Failure.TakesOperands := by
  refine ensures_bind (P := fun _ => True) (ensures_ofExcept (fun _ _ => trivial) ?_)
    fun column _ => ensures_pure (column_sorted column)
  intro f failed
  unfold Expr.column at failed
  repeat' split at failed
  all_goals cases failed
  all_goals simp [Failure.TakesOperands]

theorem operandAbove_sorts (standard : c.registry.Standard) (sorts : l.Sorts) (e : Expr) :
    Ensures (c.operandAbove l e) (·.toFragment.WellSorted) Failure.TakesOperands := by
  have evaluates (op : UnaryOp) (operandType t : DataType) (m : Option Member) (v : Value) :
      Ensures (c.evaluator.apply op operandType t m v) (fun _ => True) Failure.TakesOperands :=
    have h := c.evaluator.apply_evaluates op operandType t m v
    ⟨h.1, fun s e t fails => evaluation_takes (h.2 s e t fails)⟩
  unfold Compiler.operandAbove
  split
  iterate 6 exact evaluate_sorts c _
  · split
    · exact asColumn_sorts _
    · exact evaluate_sorts c _
  · split
    · exact asColumn_sorts _
    · exact ensures_throw (by simp [Failure.TakesOperands])
  · split
    · rename_i h found
      exact standard_sorts (standard _ _ _ found) sorts _
    · exact evaluate_sorts c _
  · split
    case h_1 | h_2 =>
      refine ensures_bind (sorts.operand _) fun o ho => ?_
      split
      · exact ensures_bind (evaluates _ _ _ _ _) fun v _ => ensures_pure (value_sorted v)
      · exact ensures_pure ho
    · split
      · exact condition_sorts sorts _
      · exact ensures_bind (fragment_sorts sorts _) fun f hf =>
          ensures_pure (unary_sorted trivial rfl hf)
    · exact ensures_bind (fragment_sorts sorts _) fun f hf =>
        ensures_pure (unary_sorted trivial rfl hf)
    · exact evaluate_sorts c _
  · refine ensures_bind (fragment_sorts sorts _) fun f hf => ?_
    exact ensures_bind (fragment_sorts sorts _) fun g hg =>
      ensures_pure (function_sorted _ (by simp [hf, hg]))
  · exact evaluate_sorts c _
  · split
    · exact condition_sorts sorts _
    · exact condition_sorts sorts _
    · rename_i family other same
      refine ensures_bind (gather_sorts same (fragment_sorts sorts) (fun _ h => h) ?_)
        fun f hf => ensures_pure hf.1
      intro c logical
      exact absurd logical (other c)
  · exact ensures_bind (case_sorts sorts _ _ _ _) fun f hf => ensures_pure hf
  · exact condition_sorts sorts _

theorem level_sorts (standard : c.registry.Standard) (n : Nat) : (c.level n).Sorts := by
  have tooDeep : (Failure.tooDeep c.evaluator.options.maxDepth).TakesOperands := by
    simp [Failure.tooDeep, Failure.TakesOperands]
  induction n with
  | zero => exact ⟨fun _ => ensures_throw tooDeep, fun _ => ensures_throw tooDeep⟩
  | succ n ih => exact ⟨operandAbove_sorts c standard ih, predicateAbove_sorts ih⟩

theorem compiled_queries_sorted (standard : c.registry.Standard) (e : Expr) (s t : Trace) :
    (∀ f, Gives (c.operand e) s (.fragment f) t → f.WellSorted) ∧
    (∀ f, Gives (c.fragment e) s f t → f.WellSorted) ∧
    (∀ f, Gives (c.predicate e) s f t → f.WellSorted ∧ f.isOperator = true) ∧
    ¬ Fails (c.operand e) s (.expression .closedFragment) t ∧
    ¬ Fails (c.fragment e) s (.expression .closedFragment) t ∧
    ¬ Fails (c.predicate e) s (.expression .closedFragment) t := by
  have sorts : c.top.Sorts := level_sorts c standard _
  have operand := sorts.operand e
  have fragment := fragment_sorts sorts e
  have predicate := sorts.predicate e
  refine ⟨fun f gives => operand.1 _ _ _ gives, fun f gives => fragment.1 _ _ _ gives,
    fun f gives => predicate.1 _ _ _ gives, ?_, ?_, ?_⟩
  · exact fun fails => operand.2 _ _ _ fails rfl
  · exact fun fails => fragment.2 _ _ _ fails rfl
  · exact fun fails => predicate.2 _ _ _ fails rfl

theorem active_without_age_sorted :
    let person : Expr := .parameter "p" (.record "Person")
    let active := person.access "Active" .bool
    let noAge := Expr.combine (.compare .equal) (person.access "Age" (.int .i32))
      (.null (.int .i32))
    let c : Compiler := { registry := ({ tables := ["Person"] } : Registry).registerStandard }
    let row (name : String) : Fragment := .column ⟨"Person", some "p", name⟩
    let f : Fragment := .logical .and
      [.comparison .equal (row "Active") (.value (.bool false)), .isNull (row "Age") false]
    c.registry.Standard ∧ Gives (c.predicate (.combine .andAlso (.apply .not active) noAge)) [] f []
      ∧ f.WellSorted ∧ f.isOperator = true := by
  intro person active noAge c row f
  have standard : c.registry.Standard :=
    Registry.registerStandard_standard (Registry.unhandled_standard _)
  have gives : Gives (c.predicate (.combine .andAlso (.apply .not active) noAge)) [] f [] := by
    rfl
  exact ⟨standard, gives, (compiled_queries_sorted c standard _ [] []).2.2.1 f gives⟩

end ExprSql
