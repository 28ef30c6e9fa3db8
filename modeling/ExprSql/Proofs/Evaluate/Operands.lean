import ExprSql.Evaluate
import ExprSql.Proofs.Run.Asking

namespace ExprSql.Evaluator

open Run

section
variable (ev : Evaluator)

theorem fill_asking (additions : List (Member × List Expr)) (collection : Value) :
    Asking fun eval => ev.fill eval collection additions := by
  induction additions generalizing collection with
  | nil => exact asking_fixed (pure collection)
  | cons addition rest ih =>
    refine asking_bind (asking_mapM asking_question addition.2) fun vs => ?_
    exact asking_bind (asking_fixed (ev.invoke addition.1 (some collection) vs)) fun _ => ih _

theorem step_asking (e : Expr) : Asking fun eval => ev.step eval e := by
  cases e with
  | constant v t => exact asking_fixed (pure v)
  | parameter name t => exact asking_fixed _
  | member target m =>
    exact asking_bind (asking_option asking_question target) fun v => asking_fixed (ev.read v m)
  | construct t constructor arguments =>
    refine asking_bind (asking_mapM asking_question arguments) fun vs => ?_
    exact asking_fixed (ev.construct t constructor vs)
  | array t items =>
    exact asking_bind (asking_mapM asking_question items) fun vs => asking_fixed _
  | arrayOfLength t length =>
    exact asking_bind (asking_question length) fun n => asking_fixed _
  | list t constructor arguments additions =>
    refine asking_bind (asking_mapM asking_question arguments) fun vs => ?_
    refine asking_bind (asking_fixed (ev.construct t constructor vs)) fun v => ?_
    exact fill_asking ev additions v
  | call target m arguments =>
    refine asking_bind (asking_option asking_question target) fun v => ?_
    refine asking_bind (asking_mapM asking_question arguments) fun vs => ?_
    exact asking_bind (asking_fixed (ev.invoke m v vs)) fun _ => asking_fixed _
  | unary op operand t method =>
    refine asking_bind (asking_question operand) fun v => ?_
    exact asking_fixed (ev.apply op operand.type t method v)
  | binary op left right t method =>
    cases method with
    | none =>
      refine asking_bind (asking_question left) fun l => ?_
      split
      · exact asking_fixed (pure l)
      · exact asking_bind (asking_question right) fun r => asking_fixed _
    | some m =>
      refine asking_bind (asking_question left) fun l => ?_
      refine asking_bind (asking_question right) fun r => ?_
      exact asking_bind (asking_fixed (ev.invoke m none [l, r])) fun _ => asking_fixed _
  | conditional test whenTrue whenFalse t =>
    refine asking_bind (asking_question test) fun v => ?_
    split
    · exact asking_question whenTrue
    · exact asking_question whenFalse
    · exact asking_fixed _
  | typeIs operand t => exact asking_bind (asking_question operand) fun v => asking_fixed _
  | thunk t description code => exact asking_fixed _

end

/-- The operator of the node, if it is unary, does the same with every operand. -/
def AppliesAlike (ev ev' : Evaluator) (e : Expr) : Prop :=
  ∀ op operand t method, e = .unary op operand t method → ∀ v,
    ev.apply op operand.type t method v = ev'.apply op operand.type t method v

section
variable (ev ev' : Evaluator) (bindings : ev.bindings = ev'.bindings) {eval : Expr → Run Value}
include bindings

theorem fill_congr (additions : List (Member × List Expr)) (collection : Value) :
    ev.fill eval collection additions = ev'.fill eval collection additions := by
  obtain ⟨b, options⟩ := ev
  cases bindings
  induction additions generalizing collection with
  | nil => rfl
  | cons addition rest ih =>
    refine bind_congr fun vs => ?_
    exact bind_congr fun _ => ih _

/-- Options tell evaluators apart at casts alone. -/
theorem step_congr {e : Expr} (alike : ev.AppliesAlike ev' e) :
    ev.step eval e = ev'.step eval e := by
  obtain ⟨b, options⟩ := ev
  cases bindings
  cases e with
  | unary op operand t method => exact bind_congr fun v => alike op operand t method rfl v
  | list t constructor arguments additions =>
    refine bind_congr fun vs => ?_
    exact bind_congr fun v => fill_congr ⟨ev'.bindings, options⟩ ev' rfl additions v
  | binary op left right t method => cases method <;> rfl
  | _ => rfl

theorem step_agrees {e : Expr} (alike : ev.AppliesAlike ev' e) {eval' : Expr → Run Value}
    {answers : Expr → Trace → Failure → Trace → Prop}
    (below : ∀ operand, Agree (answers operand) (eval operand) (eval' operand)) :
    Agree (fun s x t => ∃ operand met, Asks (fun eval => ev'.step eval e) eval' s operand met ∧
        answers operand met x t)
      (ev.step eval e) (ev'.step eval' e) := by
  rw [step_congr ev ev' bindings alike]
  exact agree_asking (step_asking ev' e) below

end

end ExprSql.Evaluator
