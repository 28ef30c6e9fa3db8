import ExprSql.Proofs.Compile.Chain
import ExprSql.Proofs.Compile.Standard
import ExprSql.Proofs.Evaluate.Operands

/-!
Compilation of one node as a run that asks the level below. Of the compiler itself only the
registry counts for it, and the evaluator where the node is evaluated whole or is a unary operator
over a value.
-/
namespace ExprSql

open Run

/-- What a compiler is asked about a node: its operand, its condition or its value. -/
inductive Question where
  | operand (e : Expr)
  | predicate (e : Expr)
  | value (e : Expr)

def Question.Answer : Question → Type
  | .operand _ => Operand
  | .predicate _ => Fragment
  | .value _ => Value

namespace Level

def answer (l : Level) : Oracle Question.Answer
  | .operand e => l.operand e
  | .predicate e => l.predicate e
  | .value e => l.eval e

def ofOracle (o : Oracle Question.Answer) : Level where
  operand e := o (.operand e)
  predicate e := o (.predicate e)
  eval e := o (.value e)

theorem operand_asking (e : Expr) : Asking fun o => (ofOracle o).operand e :=
  asking_question (Question.operand e)

theorem predicate_asking (e : Expr) : Asking fun o => (ofOracle o).predicate e :=
  asking_question (Question.predicate e)

theorem fragment_asking (e : Expr) : Asking fun o => (ofOracle o).fragment e :=
  asking_bind (operand_asking e) fun a => asking_fixed (pure a.toFragment)

theorem condition_asking (e : Expr) : Asking fun o => (ofOracle o).condition e :=
  asking_bind (predicate_asking e) fun f => asking_fixed (pure (Operand.fragment f))

theorem case_asking (e : Expr) : Asking fun o => (ofOracle o).case e := by
  refine asking_bind (asking_mapM (fun arm => ?_) _) fun arms => ?_
  · refine asking_bind (predicate_asking arm.1) fun t => ?_
    exact asking_bind (fragment_asking arm.2) fun r => asking_fixed (pure (t, r))
  · exact asking_bind (fragment_asking _) fun z => asking_fixed (pure (Fragment.case arms z))

theorem gather_asking {compile : Oracle Question.Answer → Expr → Run Fragment}
    (asking : ∀ e, Asking (compile · e)) (family : Family) (e : Expr) :
    Asking fun o => gather (compile o) family e := by
  simp only [gather_eq_mapM]
  exact asking_bind (asking_mapM asking _) fun fs => asking_fixed (pure (family.node fs))

end Level

theorem operands_asking (call : Call) :
    Asking fun o => Handler.operands (Level.ofOracle o) call := by
  unfold Handler.operands
  generalize call.target.toList ++ call.arguments = es
  induction es using Handler.operands.go.induct with
  | case1 => exact asking_fixed (pure [])
  | case2 t items => exact asking_mapM Level.fragment_asking items
  | case3 e notArray =>
    simp only [Handler.operands.go]
    exact asking_bind (Level.operand_asking e) fun a => asking_fixed _
  | case4 e rest notArray notLast ih =>
    simp only [Handler.operands.go]
    exact asking_bind (Level.fragment_asking e) fun f => asking_bind ih fun fs => asking_fixed _

theorem standard_asking {h : Handler} (standard : h.Standard) (call : Call) :
    Asking fun o => h (Level.ofOracle o) call := by
  cases standard <;> exact asking_bind (operands_asking call) fun fs => asking_fixed _

theorem asking_if {α : Type} {p : Prop} [Decidable p]
    {x y : Oracle Question.Answer → Run α} (whenTrue : Asking x) (whenFalse : Asking y) :
    Asking fun o => if p then x o else y o := by
  by_cases holds : p <;> simp only [holds, if_true, if_false] <;> assumption

theorem predicateAbove_asking (e : Expr) :
    Asking fun o => (Level.ofOracle o).predicateAbove e := by
  cases e with
  | member target m =>
    refine asking_if ?_ (asking_fixed _)
    exact asking_bind (Level.fragment_asking _) fun f => asking_fixed _
  | call target m arguments =>
    refine asking_if ?_ (asking_fixed _)
    exact asking_bind (Level.operand_asking _) fun a => asking_fixed _
  | unary op operand t method =>
    cases op with
    | not =>
      refine asking_if ?_ (asking_fixed _)
      cases operand with
      | member => exact asking_bind (Level.fragment_asking _) fun f => asking_fixed _
      | call => exact asking_bind (Level.operand_asking _) fun a => asking_fixed _
      | _ => exact asking_bind (Level.predicate_asking _) fun f => asking_fixed _
    | _ => exact asking_fixed _
  | binary op left right t method =>
    cases isComparison : op.isComparison with
    | true =>
      cases op with
      | compare op =>
        refine asking_bind (Level.fragment_asking left) fun f => ?_
        exact asking_bind (Level.fragment_asking right) fun g => asking_fixed _
      | _ => cases isComparison
    | false =>
      by_cases chained : ∃ connective, op.family? t = some (.logical connective)
      · obtain ⟨connective, same⟩ := chained
        simp only [predicateAbove_chain same]
        exact Level.gather_asking Level.predicate_asking _ _
      · rw [not_exists] at chained
        simp only [predicateAbove_unchained isComparison chained]
        exact asking_fixed _
  | _ => exact asking_fixed _

namespace Compiler

variable {c : Compiler}

theorem operandAbove_asking (standard : c.registry.Standard) (e : Expr) :
    Asking fun o => c.operandAbove (Level.ofOracle o) e := by
  cases e with
  | constant | construct | array | arrayOfLength | list | thunk => exact asking_fixed _
  | parameter name t => exact asking_fixed _
  | member target m => exact asking_fixed _
  | call target m arguments =>
    cases found : c.registry.handler? m.owner m.name with
    | none =>
      simp only [operandAbove, found]
      exact asking_fixed _
    | some h =>
      simp only [operandAbove, found]
      exact standard_asking (standard _ _ h found) _
  | unary op operand t method =>
    cases op with
    | cast | plus =>
      refine asking_bind (Level.operand_asking operand) fun a => ?_
      exact asking_fixed _
    | not =>
      refine asking_if (Level.condition_asking _) ?_
      exact asking_bind (Level.fragment_asking operand) fun f => asking_fixed _
    | negate => exact asking_bind (Level.fragment_asking operand) fun f => asking_fixed _
    | length => exact asking_fixed _
  | binary op left right t method =>
    by_cases isCoalesce : op = .coalesce
    · subst isCoalesce
      refine asking_bind (Level.fragment_asking left) fun f => ?_
      exact asking_bind (Level.fragment_asking right) fun g => asking_fixed _
    by_cases isIndex : op = .index
    · subst isIndex
      exact asking_fixed _
    rcases family_cases (op.family? t) with ⟨family, same, other⟩ | unchained
    · simp only [operandAbove_chain same other]
      exact asking_bind (Level.gather_asking Level.fragment_asking _ _) fun f => asking_fixed _
    · simp only [operandAbove_unchained isCoalesce isIndex unchained]
      exact Level.condition_asking _
  | conditional => exact asking_bind (Level.case_asking _) fun f => asking_fixed _
  | typeIs => exact Level.condition_asking _

def above (c : Compiler) (o : Oracle Question.Answer) : Oracle Question.Answer
  | .operand e => c.operandAbove (.ofOracle o) e
  | .predicate e => (Level.ofOracle o).predicateAbove e
  | .value e => c.evaluator.eval e

theorem answer_succ (c : Compiler) (n : Nat) (q : Question) :
    (c.level (n + 1)).answer q = c.above (c.level n).answer q := by
  cases q <;> rfl

theorem answer_value (c : Compiler) (n : Nat) (e : Expr) :
    (c.level n).answer (.value e) = c.evaluator.eval e := by
  cases n <;> rfl

def ask (c : Compiler) : Oracle Question.Answer
  | .operand e => c.operand e
  | .predicate e => c.predicate e
  | .value e => c.value e

theorem ask_eq_answer (c : Compiler) (q : Question) :
    c.ask q = (c.level c.evaluator.options.maxDepth).answer q := by
  cases q with
  | value e => exact (answer_value c _ e).symm
  | _ => rfl

theorem above_asking (standard : c.registry.Standard) (q : Question) :
    Asking fun o => c.above o q := by
  cases q with
  | operand e => exact operandAbove_asking standard e
  | predicate e => exact predicateAbove_asking e
  | value e => exact asking_fixed _

/-- A node is evaluated whole, whatever the level below, or of the evaluator only the operator of
a unary node counts. -/
theorem operandAbove_whole_or_parts (r : Registry) (e : Expr) :
    (∀ (ev : Evaluator) (l : Level),
      (⟨r, ev⟩ : Compiler).operandAbove l e = (⟨r, ev⟩ : Compiler).evaluate e) ∨
    ∀ (ev ev' : Evaluator) (l : Level), ev.AppliesAlike ev' e →
      (⟨r, ev⟩ : Compiler).operandAbove l e = (⟨r, ev'⟩ : Compiler).operandAbove l e := by
  cases e with
  | constant | construct | array | arrayOfLength | list | thunk => exact .inl fun _ _ => rfl
  | parameter name t => exact .inr fun _ _ _ _ => rfl
  | member target m =>
    cases column : (Expr.member target m).isColumnPath r.isTable with
    | true => exact .inr fun _ _ _ _ => by simp [operandAbove, column]
    | false => exact .inl fun _ _ => by simp [operandAbove, column]
  | call target m arguments =>
    cases found : r.handler? m.owner m.name with
    | some h => exact .inr fun _ _ _ _ => by simp only [operandAbove, found]
    | none => exact .inl fun _ _ => by simp only [operandAbove, found]
  | unary op operand t method =>
    cases op with
    | cast checked =>
      refine .inr fun ev ev' l alike => bind_congr fun a => ?_
      cases a with
      | value v => simp only [alike _ _ _ _ rfl]
      | fragment f => rfl
    | plus =>
      refine .inr fun ev ev' l alike => bind_congr fun a => ?_
      cases a with
      | value v => simp only [alike _ _ _ _ rfl]
      | fragment f => rfl
    | not | negate => exact .inr fun _ _ _ _ => rfl
    | length => exact .inl fun _ _ => rfl
  | binary op left right t method =>
    cases op with
    | index => exact .inl fun _ _ => rfl
    | _ => exact .inr fun _ _ _ _ => rfl
  | conditional | typeIs => exact .inr fun _ _ _ _ => rfl

inductive Evaluates (c : Compiler) : Question → Expr → Prop
  | value (e : Expr) : Evaluates c (.value e) e
  | operand {e : Expr} (whole : ∀ o, c.above o (.operand e) = c.evaluate e) :
      Evaluates c (.operand e) e

theorem above_agrees {r : Registry} {ev ev' : Evaluator} (standard : r.Standard)
    {o o' : Oracle Question.Answer} {answers : Question → Trace → Failure → Trace → Prop}
    {values : Expr → Trace → Failure → Trace → Prop}
    (below : ∀ q, Agree (answers q) (o q) (o' q))
    (evaluated : ∀ e, Agree (values e) (ev.eval e) (ev'.eval e)) (q : Question)
    (alike : ∀ e, q = .operand e → ev.AppliesAlike ev' e) :
    Agree (fun s x t =>
        (∃ asked met, Asks (fun o => (⟨r, ev'⟩ : Compiler).above o q) o' s asked met ∧
          answers asked met x t) ∨
        ∃ e, (⟨r, ev'⟩ : Compiler).Evaluates q e ∧ values e s x t)
      ((⟨r, ev⟩ : Compiler).above o q) ((⟨r, ev'⟩ : Compiler).above o' q) := by
  have asked := agree_asking (above_asking (c := ⟨r, ev'⟩) standard q) below
  cases q with
  | value e => exact agree_weaken (evaluated e) fun s x t excuse => .inr ⟨e, .value e, excuse⟩
  | predicate e => exact agree_weaken asked fun s x t excuse => .inl excuse
  | operand e =>
    rcases operandAbove_whole_or_parts r e with whole | parts
    · have first : (⟨r, ev⟩ : Compiler).above o (.operand e) = (⟨r, ev⟩ : Compiler).evaluate e :=
        whole ev _
      have second (o : Oracle Question.Answer) :
          (⟨r, ev'⟩ : Compiler).above o (.operand e) = (⟨r, ev'⟩ : Compiler).evaluate e :=
        whole ev' _
      rw [first, second]
      exact agree_weaken (agree_then (evaluated e) _) fun s x t excuse =>
        .inr ⟨e, .operand second, excuse⟩
    · have same : (⟨r, ev⟩ : Compiler).above o (.operand e)
          = (⟨r, ev'⟩ : Compiler).above o (.operand e) := parts ev ev' _ (alike e rfl)
      rw [same]
      exact agree_weaken asked fun s x t excuse => .inl excuse

end Compiler
end ExprSql
