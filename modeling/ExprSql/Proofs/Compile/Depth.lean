import ExprSql.Proofs.Compile.Questions

namespace ExprSql

open Run

def Evaluator.limited (ev : Evaluator) (limit : Nat) : Evaluator :=
  { ev with options := { ev.options with maxDepth := limit } }

def Compiler.limited (c : Compiler) (limit : Nat) : Compiler :=
  { c with evaluator := c.evaluator.limited limit }

/-- Excuses a run that was too deep for the limit. -/
def TooDeep (limit : Nat) : Trace → Failure → Trace → Prop := fun _ e _ => e = .tooDeep limit

theorem too_deep_agrees {α : Type} {limit : Nat} (y : Run α) :
    Agree (TooDeep limit) (throw (.tooDeep limit)) y :=
  fun before => .inr ⟨.tooDeep limit, before, rfl, rfl⟩

variable {ev : Evaluator} {c : Compiler} {limit deeper n m : Nat}

theorem limited_alike (e : Expr) : (ev.limited limit).AppliesAlike (ev.limited deeper) e :=
  fun _ _ _ _ _ _ => rfl

theorem evalWithin_deeper (le : n ≤ m) (e : Expr) :
    Agree (TooDeep limit) ((ev.limited limit).evalWithin n e)
      ((ev.limited deeper).evalWithin m e) := by
  induction n generalizing m e with
  | zero => exact too_deep_agrees _
  | succ n ih =>
    obtain ⟨m, rfl⟩ : ∃ k, m = k + 1 := ⟨m - 1, by omega⟩
    have below (operand : Expr) := ih (Nat.le_of_succ_le_succ le) operand
    refine agree_weaken
      (Evaluator.step_agrees (ev.limited limit) (ev.limited deeper) rfl (limited_alike e) below) ?_
    rintro before x after ⟨operand, met, -, tooDeep⟩
    exact tooDeep

theorem eval_deeper (le : limit ≤ deeper) (e : Expr) :
    Agree (TooDeep limit) ((ev.limited limit).eval e) ((ev.limited deeper).eval e) :=
  evalWithin_deeper le e

theorem answer_deeper (standard : c.registry.Standard) (limits : limit ≤ deeper) (le : n ≤ m)
    (q : Question) :
    Agree (TooDeep limit) (((c.limited limit).level n).answer q)
      (((c.limited deeper).level m).answer q) := by
  induction n generalizing m q with
  | zero =>
    cases q with
    | value e =>
      rw [Compiler.answer_value, Compiler.answer_value]
      exact eval_deeper limits e
    | _ => exact too_deep_agrees _
  | succ n ih =>
    obtain ⟨m, rfl⟩ : ∃ k, m = k + 1 := ⟨m - 1, by omega⟩
    rw [Compiler.answer_succ, Compiler.answer_succ]
    have below (q : Question) := ih (Nat.le_of_succ_le_succ le) q
    refine agree_weaken (Compiler.above_agrees standard below (eval_deeper limits) q
      fun e _ => limited_alike e) ?_
    rintro before x after (⟨asked, met, -, tooDeep⟩ | ⟨e, -, tooDeep⟩) <;> exact tooDeep

/-- A value, operand or condition that is had within a limit is had within a higher one, after the
same calls, and so is any failure but that of meeting the limit. -/
theorem deeper_limits_agree (standard : c.registry.Standard) (le : limit ≤ deeper) (q : Question)
    (before : Trace) (result : Except Failure q.Answer) (log : Trace)
    (within : outcome ((c.limited limit).ask q) before = (result, log))
    (unlimited : result ≠ .error (.tooDeep limit)) :
    outcome ((c.limited deeper).ask q) before = (result, log) := by
  have agree := answer_deeper (c := c) standard le le q before
  rw [Compiler.ask_eq_answer] at within ⊢
  rcases agree with same | ⟨e, after, fails, rfl⟩
  · exact same.symm.trans within
  · cases within.symm.trans fails
    exact absurd rfl unlimited

theorem division_within_three :
    let int (n : Int) (holds : IntKind.i32.Holds n) : Expr :=
      .constant (.int .i32 ⟨n, holds⟩) (.int .i32)
    let seed : Expr := .thunk (.int .i32) "seed" ⟨0, fun _ => .ok (.int .i32 ⟨7, by decide⟩)⟩
    let ratio : Expr := .binary .divide (int 1 (by decide)) (int 0 (by decide)) (.int .i32) none
    let q : Question := .value (.binary (.add true) seed ratio (.int .i32) none)
    let c : Compiler := { registry := ({} : Registry).registerStandard }
    let fails : Except Failure q.Answer :=
      .error (.invocation "operator /" (.failed .divideByZero))
    outcome ((c.limited 3).ask q) [] = (fails, [.thunk "seed"]) ∧
      outcome ((c.limited 256).ask q) [] = (fails, [.thunk "seed"]) := by
  intro int seed ratio q c fails
  have standard : c.registry.Standard :=
    Registry.registerStandard_standard (Registry.unhandled_standard [])
  have within : outcome ((c.limited 3).ask q) [] = (fails, [.thunk "seed"]) := rfl
  have other : fails ≠ .error (.tooDeep 3) := by simp [fails, Failure.tooDeep]
  exact ⟨within, deeper_limits_agree standard (by decide) q [] fails _ within other⟩

end ExprSql
