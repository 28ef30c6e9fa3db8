import ExprSql.Evaluate
import ExprSql.Proofs.Run

/-!
How evaluation fails. Tables, conditions, operand counts and parameters are the compiler's
concern, so no evaluation ever fails for one of them.
-/
namespace ExprSql

open Run

/-- Failures that evaluation can have; the rest belong to compilation. -/
def Failure.OfEvaluation : Failure → Prop
  | .path _ => False
  | .expression cause =>
      match cause with
      | .notATable .. | .notBoolean .. | .closedFragment | .operandCount .. | .noOperand _
      | .emptyList _ | .notScalar _ | .other _ => False
      | _ => True
  | .invocation .. => True

namespace Evaluator

abbrev Evaluates {α : Type} (x : Run α) : Prop :=
  Ensures x (fun _ => True) Failure.OfEvaluation

theorem length_error {v : Value} {label : String} {e : Failure}
    (h : length v label = .error e) : e.OfEvaluation := by
  unfold length at h
  split at h
  · cases h; simp [Failure.OfEvaluation]
  · split at h
    · cases h
    · cases h; simp [Failure.OfEvaluation]

theorem item_error {v i : Value} {e : Failure} (h : item v i = .error e) :
    e.OfEvaluation := by
  unfold item at h
  repeat' split at h
  all_goals cases h
  all_goals simp [Failure.OfEvaluation, Failure.nullTarget]

theorem intrinsic_error {target : Option Value} {m : Member} {e : Failure}
    (h : intrinsic target m = .error e) : e.OfEvaluation := by
  have unbound : (Failure.unbound m).OfEvaluation := by
    simp [Failure.unbound, Failure.OfEvaluation]
  unfold intrinsic at h
  dsimp only at h
  split at h
  · split at h
    · cases h
    · cases h
    · cases h; simp [Failure.OfEvaluation]
    · cases h; exact unbound
  · split at h
    · cases h; exact unbound
    · split at h
      · cases h; simp [Failure.OfEvaluation, Failure.nullTarget]
      · split at h
        · split at h
          · cases h
          · cases h; simp [Failure.OfEvaluation]
        · exact length_error h
        · exact length_error h
        · exact length_error h
        · cases h; exact unbound

theorem rewrap_error {v : Value} {t : DataType} {e : Failure} (h : v.rewrap t = .error e) :
    e.OfEvaluation := by
  unfold Value.rewrap at h
  split at h
  · cases h
  · cases hc : v.cast false t with
    | ok w => simp [hc, Except.mapError] at h
    | error c =>
      simp only [hc, Except.mapError, Except.error.injEq] at h
      subst h; simp [Failure.OfEvaluation]

theorem settled_error {x : Except Fault Value} {symbol : String} {operands : List Value}
    {t : DataType} {e : Failure}
    (h : ((x.mapError (·.failure symbol operands)) >>= (·.rewrap t)) = .error e) :
    e.OfEvaluation := by
  cases x with
  | error fault =>
    cases h
    cases fault <;> simp [Fault.failure, Failure.OfEvaluation]
  | ok v => exact rewrap_error h

theorem combine_error {op : BinaryOp} {t : DataType} {l r : Value} {e : Failure}
    (h : combine op t l r = .error e) : e.OfEvaluation := by
  unfold combine at h
  split at h
  · cases h
  · exact item_error h
  · exact settled_error h

theorem apply_value_error {op : UnaryOp} {v : Value} {t : DataType} {e : Failure}
    (h : v.apply op t = .error e) : e.OfEvaluation := by
  unfold Value.apply at h
  split at h
  · cases h
  · exact settled_error h

variable (ev : Evaluator)

theorem cast_error {checked : Bool} {v : Value} {t : DataType} {e : Failure}
    (h : ev.cast checked v t = .error e) : e.OfEvaluation := by
  unfold cast at h
  split at h
  · cases h; simp [Failure.OfEvaluation]
  · cases hc : v.cast checked t with
    | ok w => simp [hc, Except.mapError] at h
    | error c =>
      cases c <;> simp [hc, Except.mapError] at h <;> subst h <;> simp [Failure.OfEvaluation]

theorem host_evaluates {α : Type} (call : HostCall) (label : String)
    (code : Trace → HostResult α) : Evaluates (Run.host call label code) := by
  refine ⟨fun _ _ _ _ => trivial, fun s e t fails => ?_⟩
  unfold Fails at fails
  rw [outcome_host] at fails
  split at fails
  · cases fails
  · cases fails; simp [Failure.OfEvaluation]

theorem pure_evaluates {α : Type} (a : α) : Evaluates (pure a : Run α) :=
  ensures_pure trivial

theorem throw_evaluates {α : Type} {e : Failure} (h : e.OfEvaluation) :
    Evaluates (throw e : Run α) :=
  ensures_throw h

theorem ofExcept_evaluates {α : Type} {x : Except Failure α}
    (h : ∀ e, x = .error e → e.OfEvaluation) : Evaluates (Run.ofExcept x) :=
  ensures_ofExcept (fun _ _ => trivial) h

theorem read_evaluates (target : Option Value) (m : Member) : Evaluates (ev.read target m) := by
  unfold read
  split
  · exact host_evaluates _ _ _
  · exact host_evaluates _ _ _
  · exact throw_evaluates (by simp [Failure.nullTarget, Failure.OfEvaluation])
  · exact ofExcept_evaluates fun _ h => intrinsic_error h

theorem invoke_evaluates (m : Member) (target : Option Value) (arguments : List Value) :
    Evaluates (ev.invoke m target arguments) := by
  have unbound : (Failure.unbound m).OfEvaluation := by
    simp [Failure.unbound, Failure.OfEvaluation]
  have nullTarget : (Failure.nullTarget m.label).OfEvaluation := by
    simp [Failure.nullTarget, Failure.OfEvaluation]
  unfold invoke
  dsimp only
  split
  · exact ensures_bind (host_evaluates _ _ _) fun v _ => pure_evaluates _
  · exact ensures_bind (host_evaluates _ _ _) fun v _ => pure_evaluates _
  · exact throw_evaluates nullTarget
  · split
    · exact throw_evaluates unbound
    · split
      · split
        · exact pure_evaluates _
        · exact throw_evaluates unbound
      · exact throw_evaluates unbound
      · exact throw_evaluates nullTarget

theorem apply_evaluates (op : UnaryOp) (operandType t : DataType) (method : Option Member)
    (v : Value) : Evaluates (ev.apply op operandType t method v) := by
  unfold apply
  split
  · exact ensures_bind (invoke_evaluates ev _ _ _) fun v _ => pure_evaluates _
  · split
    · split
      · exact pure_evaluates _
      · exact ofExcept_evaluates fun _ h => cast_error ev h
    · exact ofExcept_evaluates fun _ h => length_error h
    · exact ofExcept_evaluates fun _ h => apply_value_error h

theorem default_evaluates (t : DataType) : Evaluates (ev.default t) := by
  refine ⟨fun _ _ _ _ => trivial, fun s e u fails => ?_⟩
  have given : outcome (ev.default t) s = (.ok (ev.bindings.default s t), s) := rfl
  cases given.symm.trans fails

theorem construct_evaluates (t : DataType) (constructor : Option Member)
    (arguments : List Value) : Evaluates (ev.construct t constructor arguments) := by
  unfold construct
  split
  · exact ensures_bind (invoke_evaluates ev _ _ _) fun v _ => pure_evaluates _
  · split
    · exact default_evaluates ev t
    · exact throw_evaluates (by simp [Failure.OfEvaluation])

section
variable {eval : Expr → Run Value}
  (below : ∀ e, Evaluates (eval e))
include below

theorem each_evaluates (es : List Expr) : Evaluates (es.mapM eval) :=
  ensures_weaken (ensures_mapM fun e _ => below e) fun _ _ => trivial

theorem target_evaluates (target : Option Expr) : Evaluates (target.mapM eval) :=
  ensures_weaken (ensures_mapM_option below) fun _ _ => trivial

theorem fill_evaluates (additions : List (Member × List Expr)) (collection : Value) :
    Evaluates (ev.fill eval collection additions) := by
  induction additions generalizing collection with
  | nil => exact pure_evaluates _
  | cons addition rest ih =>
    refine ensures_bind (each_evaluates below _) fun arguments _ => ?_
    exact ensures_bind (invoke_evaluates ev _ _ _) fun _ _ => ih _

theorem step_evaluates (e : Expr) : Evaluates (ev.step eval e) := by
  cases e with
  | constant v t => exact pure_evaluates _
  | parameter name t => exact throw_evaluates (by simp [Failure.OfEvaluation])
  | member target m =>
    exact ensures_bind (target_evaluates below target) fun v _ => read_evaluates ev v m
  | construct t constructor arguments =>
    exact ensures_bind (each_evaluates below arguments) fun vs _ =>
      construct_evaluates ev t constructor vs
  | array t items => exact ensures_bind (each_evaluates below items) fun vs _ => pure_evaluates _
  | arrayOfLength t length =>
    refine ensures_bind (below length) fun n _ => ?_
    split
    · exact ensures_bind (default_evaluates ev t) fun v _ => pure_evaluates _
    · exact throw_evaluates (by simp [Failure.OfEvaluation])
  | list t constructor arguments additions =>
    refine ensures_bind (each_evaluates below arguments) fun vs _ => ?_
    exact ensures_bind (construct_evaluates ev t constructor vs) fun v _ =>
      fill_evaluates ev below additions v
  | call target m arguments =>
    refine ensures_bind (target_evaluates below target) fun v _ => ?_
    refine ensures_bind (each_evaluates below arguments) fun vs _ => ?_
    exact ensures_bind (invoke_evaluates ev m v vs) fun _ _ => pure_evaluates _
  | unary op operand t method =>
    exact ensures_bind (below operand) fun v _ =>
      apply_evaluates ev op operand.type t method v
  | binary op left right t method =>
    cases method with
    | none =>
      refine ensures_bind (below left) fun l _ => ?_
      split
      · exact pure_evaluates _
      · refine ensures_bind (below right) fun r _ => ?_
        exact ofExcept_evaluates fun _ h => combine_error h
    | some m =>
      refine ensures_bind (below left) fun l _ => ?_
      refine ensures_bind (below right) fun r _ => ?_
      exact ensures_bind (invoke_evaluates ev m none [l, r]) fun _ _ => pure_evaluates _
  | conditional test whenTrue whenFalse t =>
    refine ensures_bind (below test) fun v _ => ?_
    split
    · exact below whenTrue
    · exact below whenFalse
    · exact throw_evaluates (by simp [Failure.OfEvaluation])
  | typeIs operand t => exact ensures_bind (below operand) fun v _ => pure_evaluates _
  | thunk t description thunk => exact host_evaluates _ _ _

end

theorem eval_evaluates (e : Expr) : Evaluates (ev.eval e) := by
  have within (levels : Nat) :
      ∀ e, Evaluates (ev.evalWithin levels e) := by
    induction levels with
    | zero => exact fun e => throw_evaluates (by simp [Failure.tooDeep, Failure.OfEvaluation])
    | succ levels ih => exact fun e => step_evaluates ev ih e
  exact within _ e

end Evaluator
end ExprSql
