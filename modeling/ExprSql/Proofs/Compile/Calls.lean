import ExprSql.Expr.Builder
import ExprSql.Proofs.Compile.Chain
import ExprSql.Proofs.Compile.Standard
import ExprSql.Proofs.Evaluate.Calls

/-!
The host calls of compilation. A node is compiled or evaluated, never both, so compiling calls the
sites of an expression in their order as well.
-/
namespace ExprSql

open Run

variable {b : Bindings}

theorem operands_sites (family : Family) (e : Expr) :
    ((e.operandsOf family).flatMap (Expr.sites b)).Sublist (e.sites b) := by
  refine Expr.operandsOf_induction
    (motive := fun es e => (es.flatMap (Expr.sites b)).Sublist (e.sites b)) ?_ ?_ e
  · intro e
    simp
  · intro es op left right t method same sublist
    rw [List.flatMap_append, List.flatMap_singleton, Expr.sites, List.append_assoc]
    exact sublist.append (List.sublist_append_left _ _)

theorem operands_of_call_sites (target : Option Expr) (m : Member) (arguments : List Expr) :
    ((target.toList ++ arguments).flatMap (Expr.sites b)).Sublist
      ((Expr.call target m arguments).sites b) := by
  rw [List.flatMap_append]
  cases target with
  | none =>
    rw [Expr.sites, Expr.sitesOfEach_eq_flatMap]
    exact List.sublist_append_left _ _
  | some target =>
    rw [Expr.sites, Expr.sitesOfEach_eq_flatMap]
    simp

structure Level.Walks (b : Bindings) (l : Bindings → Level) : Prop where
  operand : ∀ e, Calls b (e.sites b) fun b' => (l b').operand e
  predicate : ∀ e, Calls b (e.sites b) fun b' => (l b').predicate e

theorem gather_calls {compile : Bindings → Expr → Run Fragment}
    (calls : ∀ e, Calls b (e.sites b) (compile · e)) (family : Family) (e : Expr) :
    Calls b (e.sites b) fun b' => Level.gather (compile b') family e := by
  simp only [Level.gather_eq_mapM]
  refine calls_within (operands_sites family e) ?_
  exact calls_then (calls_mapM calls _) fun fs => calls_pure _

theorem asColumn_calls (e : Expr) : Calls b (e.sites b) fun _ => e.asColumn :=
  calls_within (List.nil_sublist _) (calls_then (calls_ofExcept _) fun _ => calls_pure _)

section
variable {l : Bindings → Level} (walks : Level.Walks b l)
include walks

theorem fragment_calls (e : Expr) : Calls b (e.sites b) fun b' => (l b').fragment e :=
  calls_then (walks.operand e) fun _ => calls_pure _

theorem handled_calls (call : Call) :
    Calls b ((call.target.toList ++ call.arguments).flatMap (Expr.sites b)) fun b' =>
      Handler.operands (l b') call := by
  unfold Handler.operands
  generalize call.target.toList ++ call.arguments = es
  induction es using Handler.operands.go.induct with
  | case1 => exact calls_pure []
  | case2 t items =>
    rw [List.flatMap_singleton, Expr.sites, Expr.sitesOfEach_eq_flatMap]
    exact calls_mapM (fragment_calls walks) items
  | case3 e notArray =>
    simp only [Handler.operands.go]
    rw [List.flatMap_singleton]
    refine calls_then (walks.operand e) fun o => ?_
    split
    · exact calls_pure _
    · exact calls_pure _
  | case4 e rest notArray notLast ih =>
    simp only [Handler.operands.go]
    rw [List.flatMap_cons]
    refine calls_bind (fragment_calls walks e) fun f => ?_
    exact calls_then ih fun fs => calls_pure _

theorem standard_calls {h : Handler} (standard : h.Standard) (target : Option Expr) (m : Member)
    (arguments : List Expr) :
    Calls b ((Expr.call target m arguments).sites b) fun b' => h (l b') ⟨target, m, arguments⟩ := by
  refine calls_within (operands_of_call_sites target m arguments) ?_
  have operands := handled_calls walks ⟨target, m, arguments⟩
  cases standard with
  | function name => exact calls_then operands fun fs => calls_pure _
  | like negated | between | nullTest negated | startsWith | endsWith | contains =>
    refine calls_then operands fun fs => ?_
    split
    · exact calls_pure _
    · exact calls_throw _
  | membership negated =>
    refine calls_then operands fun fs => ?_
    split
    · exact calls_throw _
    · exact calls_throw _
    · exact calls_pure _

theorem condition_calls (e : Expr) : Calls b (e.sites b) fun b' => (l b').condition e :=
  calls_then (walks.predicate e) fun _ => calls_pure _

theorem case_calls (e : Expr) : Calls b (e.sites b) fun b' => (l b').case e := by
  rw [← Expr.ladder_flatMap (Expr.sites b) (fun _ _ _ _ => rfl) e]
  refine calls_bind (calls_mapM (fun arm => ?_) _) fun arms => ?_
  · refine calls_bind (walks.predicate arm.1) fun f => ?_
    exact calls_then (fragment_calls walks arm.2) fun g => calls_pure _
  · exact calls_then (fragment_calls walks _) fun z => calls_pure _

theorem predicateAbove_calls (e : Expr) :
    Calls b (e.sites b) fun b' => (l b').predicateAbove e := by
  cases e with
  | member target m =>
    unfold Level.predicateAbove
    dsimp only
    split
    · exact calls_then (fragment_calls walks _) fun f => calls_pure _
    · exact calls_throw _
  | call target m arguments =>
    unfold Level.predicateAbove
    dsimp only
    split
    · exact calls_then (walks.operand _) fun o => calls_pure _
    · exact calls_throw _
  | unary op operand t method =>
    unfold Level.predicateAbove
    rw [Expr.sites]
    refine calls_within (List.sublist_append_left _ _) ?_
    cases op with
    | not =>
      dsimp only
      split
      · cases operand with
        | member => exact calls_then (fragment_calls walks _) fun f => calls_pure _
        | call => exact calls_then (walks.operand _) fun o => calls_pure _
        | _ => exact calls_then (walks.predicate _) fun f => calls_pure _
      · exact calls_throw _
    | _ => exact calls_throw _
  | binary op left right t method =>
    cases isComparison : op.isComparison with
    | true =>
      cases op with
      | compare op =>
        rw [Expr.sites]
        refine calls_within (List.sublist_append_left _ _) ?_
        refine calls_bind (fragment_calls walks left) fun f => ?_
        exact calls_then (fragment_calls walks right) fun g => calls_pure _
      | _ => cases isComparison
    | false =>
      by_cases chained : ∃ connective, op.family? t = some (.logical connective)
      · obtain ⟨connective, same⟩ := chained
        simp only [predicateAbove_chain same]
        exact gather_calls walks.predicate _ _
      · rw [not_exists] at chained
        simp only [predicateAbove_unchained isComparison chained]
        exact calls_throw _
  | _ => exact calls_throw _

end

def Compiler.withHost (c : Compiler) (b : Bindings) : Compiler :=
  { c with evaluator := c.evaluator.withHost b }

variable (c : Compiler)

theorem evaluate_calls (e : Expr) : Calls b (e.sites b) fun b' => (c.withHost b').evaluate e :=
  calls_then (c.evaluator.eval_calls e) fun _ => calls_pure _

theorem operandAbove_calls (standard : c.registry.Standard) {l : Bindings → Level}
    (walks : Level.Walks b l) (e : Expr) :
    Calls b (e.sites b) fun b' => (c.withHost b').operandAbove (l b') e := by
  cases e with
  | constant | construct | array | arrayOfLength | list | thunk => exact evaluate_calls c _
  | member target m =>
    change Calls b _ fun b' => if Expr.isColumnPath c.registry.isTable _ then _ else _
    split
    · exact asColumn_calls _
    · exact evaluate_calls c _
  | parameter name t =>
    change Calls b _ fun b' => if c.registry.isTable t.name then _ else _
    split
    · exact asColumn_calls _
    · exact calls_throw _
  | call target m arguments =>
    cases found : c.registry.handler? m.owner m.name with
    | none =>
      simp only [Compiler.operandAbove, Compiler.withHost, found]
      exact evaluate_calls c _
    | some h =>
      simp only [Compiler.operandAbove, Compiler.withHost, found]
      exact standard_calls walks (standard _ _ h found) target m arguments
  | unary op operand t method =>
    have within {x : Bindings → Run Operand} (calls : Calls b (operand.sites b) x) :
        Calls b ((Expr.unary op operand t method).sites b) x :=
      calls_within (List.sublist_append_left _ _) calls
    cases op with
    | cast | plus =>
      refine calls_bind (walks.operand operand) fun o => ?_
      cases o with
      | value v => exact calls_then (c.evaluator.apply_calls _ _ _ _ _) fun v => calls_pure _
      | fragment f => exact calls_pure _
    | not =>
      change Calls b _ fun b' => if t.isBool then _ else _
      split
      · exact condition_calls walks _
      · exact within (calls_then (fragment_calls walks operand) fun f => calls_pure _)
    | negate => exact within (calls_then (fragment_calls walks operand) fun f => calls_pure _)
    | length => exact evaluate_calls c _
  | binary op left right t method =>
    by_cases isCoalesce : op = .coalesce
    · subst isCoalesce
      rw [Expr.sites]
      refine calls_within (List.sublist_append_left _ _) ?_
      refine calls_bind (fragment_calls walks left) fun f => ?_
      exact calls_then (fragment_calls walks right) fun g => calls_pure _
    by_cases isIndex : op = .index
    · subst isIndex
      exact evaluate_calls c _
    rcases family_cases (op.family? t) with ⟨family, same, other⟩ | unchained
    · simp only [operandAbove_chain same other]
      exact calls_then (gather_calls (fragment_calls walks) _ _) fun f => calls_pure _
    · simp only [operandAbove_unchained isCoalesce isIndex unchained]
      exact condition_calls walks _
  | conditional => exact calls_then (case_calls walks _) fun f => calls_pure _
  | typeIs => exact condition_calls walks _

theorem level_walks (standard : c.registry.Standard) (n : Nat) :
    Level.Walks b fun b' => (c.withHost b').level n := by
  induction n with
  | zero =>
    let tooDeep := Failure.tooDeep c.evaluator.options.maxDepth
    exact ⟨fun _ => calls_throw tooDeep, fun _ => calls_throw tooDeep⟩
  | succ n ih => exact ⟨operandAbove_calls c standard ih, predicateAbove_calls ih⟩

end ExprSql
