import ExprSql.Proofs.Run
import ExprSql.Evaluate

namespace ExprSql.Evaluator

open Run

variable {ev : Evaluator} {e l r : Expr} {t : DataType} {v : Value}

def Yields (ev : Evaluator) (e : Expr) (v : Value) : Prop :=
  ∃ levels before after, Gives (ev.evalWithin levels e) before v after

theorem yields_step (yields : ev.Yields e v) :
    ∃ levels before after, Gives (ev.step (ev.evalWithin levels) e) before v after := by
  obtain ⟨levels, before, after, gives⟩ := yields
  cases levels with
  | zero => exact absurd gives gives_throw
  | succ levels => exact ⟨levels, before, after, gives⟩

theorem yields_constant {w : Value} (yields : ev.Yields (.constant w t) v) : v = w := by
  obtain ⟨levels, before, after, gives⟩ := yields_step yields
  exact (gives_pure.mp gives).1.symm

theorem yields_member {m : Member} (yields : ev.Yields (.member (some e) m) v) :
    ∃ target, ev.Yields e target ∧
      ∃ before after, Gives (ev.read (some target) m) before v after := by
  obtain ⟨levels, before, after, gives⟩ := yields_step yields
  obtain ⟨target?, u, first, read⟩ := gives_bind.mp gives
  obtain ⟨target, w, evaluated, found⟩ := gives_bind.mp first
  obtain ⟨rfl, rfl⟩ := gives_pure.mp found
  exact ⟨target, ⟨levels, before, w, evaluated⟩, w, after, read⟩

theorem yields_unary {op : UnaryOp} (yields : ev.Yields (.unary op e t none) v) :
    ∃ operand, ev.Yields e operand ∧
      ∃ before after, Gives (ev.apply op e.type t none operand) before v after := by
  obtain ⟨levels, before, after, gives⟩ := yields_step yields
  obtain ⟨operand, u, evaluated, applied⟩ := gives_bind.mp gives
  exact ⟨operand, ⟨levels, before, u, evaluated⟩, u, after, applied⟩

theorem yields_binary {op : BinaryOp} (yields : ev.Yields (.binary op l r t none) v) :
    ∃ left, ev.Yields l left ∧
      (decided op left = true ∧ v = left ∨
        decided op left = false ∧
          ∃ right, ev.Yields r right ∧ combine op t left right = .ok v) := by
  obtain ⟨levels, before, after, gives⟩ := yields_step yields
  obtain ⟨left, u, first, rest⟩ := gives_bind.mp gives
  refine ⟨left, ⟨levels, before, u, first⟩, ?_⟩
  split at rest
  · rename_i done
    exact .inl ⟨done, (gives_pure.mp rest).1.symm⟩
  · rename_i notDone
    obtain ⟨right, w, second, combined⟩ := gives_bind.mp rest
    refine .inr ⟨by simpa using notDone, right, ⟨levels, u, w, second⟩, ?_⟩
    exact (gives_ofExcept.mp combined).1

theorem yields_conditional {test : Expr} (yields : ev.Yields (.conditional test l r t) v) :
    (ev.Yields test (.bool true) ∧ ev.Yields l v) ∨ (ev.Yields test (.bool false) ∧ ev.Yields r v)
    := by
  obtain ⟨levels, before, after, gives⟩ := yields_step yields
  obtain ⟨truth, u, tested, rest⟩ := gives_bind.mp gives
  have met : ev.Yields test truth := ⟨levels, before, u, tested⟩
  cases truth with
  | bool b =>
    cases b with
    | true => exact .inl ⟨met, levels, u, after, rest⟩
    | false => exact .inr ⟨met, levels, u, after, rest⟩
  | _ => exact absurd rest gives_throw

end ExprSql.Evaluator
