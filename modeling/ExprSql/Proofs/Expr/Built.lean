import ExprSql.Expr.Builder
import ExprSql.Proofs.Value.Plain
import ExprSql.Proofs.Evaluate.Yields

namespace ExprSql

open Run

namespace DataType.IsPlain

variable {t u : DataType}

instance (t : DataType) : Decidable t.IsPlain := inferInstanceAs (Decidable (_ ∨ _ ∨ _))

theorem promoted (left : t.IsPlain) (right : u.IsPlain) : (t.promoted u).IsPlain := by
  rcases left with rfl | rfl | rfl <;> rcases right with rfl | rfl | rfl <;> decide

theorem resultType {op : BinaryOp} (covered : op ≠ .coalesce ∧ op ≠ .index) (left : t.IsPlain)
    (right : u.IsPlain) : (op.resultType t u).IsPlain := by
  have common := promoted left right
  rcases left with rfl | rfl | rfl <;> rcases right with rfl | rfl | rfl <;> cases op with
  | coalesce => exact absurd rfl covered.1
  | index => exact absurd rfl covered.2
  | bitwise op => cases op <;> decide
  | compare op => exact .inl rfl
  | andAlso => exact .inl rfl
  | orElse => exact .inl rfl
  | _ => exact common

theorem notType (plain : t.IsPlain) : (UnaryOp.notType t).IsPlain := by
  rcases plain with rfl | rfl | rfl <;> decide

theorem negateType (plain : t.IsPlain) : (UnaryOp.negateType t).IsPlain := by
  rcases plain with rfl | rfl | rfl <;> decide

end DataType.IsPlain

namespace Evaluator

variable {ev : Evaluator} {e l r : Expr} {t : DataType} {v : Value}

theorem yields_covered {op : BinaryOp} (covered : op ≠ .coalesce ∧ op ≠ .index) (plain : t.IsPlain)
    (left : ∀ {a}, ev.Yields l a → a.IsPlain) (right : ∀ {b}, ev.Yields r b → b.IsPlain)
    (yields : ev.Yields (.binary op l r t none) v) :
    ∃ a, ev.Yields l a ∧ (decided op a = true ∧ v = a ∨
      ∃ b, ev.Yields r b ∧ Value.result op a b = .ok v) := by
  obtain ⟨a, first, ⟨done, rfl⟩ | ⟨-, b, second, combined⟩⟩ := yields_binary yields
  · exact ⟨_, first, .inl ⟨done, rfl⟩⟩
  · have direct : combine op t a b = a.combine op b t := by
      cases op with
      | coalesce => exact absurd rfl covered.1
      | index => exact absurd rfl covered.2
      | _ => rfl
    rw [direct, Value.combine_eq_result plain.not_string plain.not_enumeration (left first)
      (right second)] at combined
    exact ⟨a, first, .inr ⟨b, second, combined⟩⟩

theorem yields_apply {op : UnaryOp} (covered : op = .not ∨ ∃ checked, op = .negate checked)
    (plain : t.IsPlain) (operand : ∀ {a}, ev.Yields e a → a.IsPlain)
    (yields : ev.Yields (.unary op e t none) v) :
    ∃ a, ev.Yields e a ∧ Value.unaryResult op a = .ok v := by
  obtain ⟨a, found, before, after, applied⟩ := yields_unary yields
  have direct : a.apply op t = .ok v := by
    rcases covered with rfl | ⟨checked, rfl⟩
    · exact (gives_ofExcept.mp applied).1
    · exact (gives_ofExcept.mp applied).1
  rw [Value.apply_eq_result plain.not_enumeration (operand found)] at direct
  exact ⟨a, found, direct⟩

end Evaluator

/-- Two names that a nullable type answers itself, whatever the members of its values. -/
def Parameter.Ordinary (p : Parameter) (name : String) : Prop :=
  p.type.name.startsWith "Option<" = true → name ≠ "HasValue" ∧ name ≠ "Value"

namespace Expr

mutual

def supply (p : Parameter) (v : Value) : Expr → Expr
  | .constant w t => .constant w t
  | .parameter name t =>
      if (⟨name, t⟩ : Parameter) = p then .constant v t else .parameter name t
  | .member none m => .member none m
  | .member (some target) m => .member (some (target.supply p v)) m
  | .construct t constructor arguments => .construct t constructor (supplyEach p v arguments)
  | .array element items => .array element (supplyEach p v items)
  | .arrayOfLength element length => .arrayOfLength element (length.supply p v)
  | .list t constructor arguments additions =>
      .list t constructor (supplyEach p v arguments) (supplyAdditions p v additions)
  | .call none m arguments => .call none m (supplyEach p v arguments)
  | .call (some target) m arguments =>
      .call (some (target.supply p v)) m (supplyEach p v arguments)
  | .unary op operand t method => .unary op (operand.supply p v) t method
  | .binary op left right t method => .binary op (left.supply p v) (right.supply p v) t method
  | .conditional test whenTrue whenFalse t =>
      .conditional (test.supply p v) (whenTrue.supply p v) (whenFalse.supply p v) t
  | .typeIs operand t => .typeIs (operand.supply p v) t
  | .thunk t description code => .thunk t description code

def supplyEach (p : Parameter) (v : Value) : List Expr → List Expr
  | [] => []
  | e :: es => e.supply p v :: supplyEach p v es

def supplyAdditions (p : Parameter) (v : Value) :
    List (Member × List Expr) → List (Member × List Expr)
  | [] => []
  | (m, arguments) :: rest => (m, supplyEach p v arguments) :: supplyAdditions p v rest

end

/-- Built from plain constants and from members of the row that `readable` allows. -/
inductive BuiltOver (p : Parameter) (row : Row) (readable : String → Prop) : Expr → Prop
  | constant {v : Value} (plain : v.IsPlain) : BuiltOver p row readable (.ofValue v)
  | access {name : String} {v : Value} (found : Value.member? row name = some v)
      (plain : v.IsPlain) (allowed : readable name) :
      BuiltOver p row readable (Expr.access (.parameter p.name p.type) name v.type)
  | combine {op : BinaryOp} {left right : Expr} (covered : op ≠ .coalesce ∧ op ≠ .index)
      (l : BuiltOver p row readable left) (r : BuiltOver p row readable right) :
      BuiltOver p row readable (.combine op left right)
  | not {operand : Expr} (o : BuiltOver p row readable operand) :
      BuiltOver p row readable (.apply .not operand)
  | negate {operand : Expr} (checked : Bool) (o : BuiltOver p row readable operand) :
      BuiltOver p row readable (.apply (.negate checked) operand)
  | choose {test whenTrue whenFalse : Expr} (t : BuiltOver p row readable test)
      (a : BuiltOver p row readable whenTrue) (b : BuiltOver p row readable whenFalse)
      (same : whenTrue.type = whenFalse.type) :
      BuiltOver p row readable (.choose test whenTrue whenFalse)

namespace BuiltOver

variable {p : Parameter} {row : Row} {readable : String → Prop} {e : Expr} {ev : Evaluator}
  {identity : Option Nat} {v : Value}

theorem type_plain (built : BuiltOver p row readable e) : e.type.IsPlain := by
  induction built with
  | constant plain => exact plain.type
  | access found plain allowed => exact plain.type
  | combine covered l r left right => exact left.resultType covered right
  | not o operand => exact operand.notType
  | negate checked o operand => exact operand.negateType
  | choose t a b same test left right => exact left

theorem intrinsic_access {name : String} {w : Value} {t : DataType} (ordinary : p.Ordinary name)
    (found : Value.member? row name = some w)
    (read : Evaluator.intrinsic (some (.record identity p.type.name row))
      ⟨p.type.name, name, t, false⟩ = .ok v) : v = w := by
  have present : (some (Value.record identity p.type.name row)).filter (!·.isNull)
      = some (.record identity p.type.name row) := rfl
  simp only [Evaluator.intrinsic, present] at read
  split at read
  · rename_i wrapped
    obtain ⟨notHasValue, notValue⟩ := ordinary wrapped
    split at read
    · exact absurd rfl notHasValue
    · exact absurd rfl notValue
    · exact absurd rfl notValue
    · cases read
  · simp only [found] at read
    exact (Except.ok.inj read).symm

theorem yields_access {name : String} {w : Value} {t : DataType}
    (unbound : ev.bindings.getters = []) (ordinary : p.Ordinary name)
    (found : Value.member? row name = some w)
    (yields : ev.Yields ((Expr.access (.parameter p.name p.type) name t).supply p
      (.record identity p.type.name row)) v) : v = w := by
  simp only [Expr.access, supply, if_true, type] at yields
  obtain ⟨target, evaluated, before, after, read⟩ := Evaluator.yields_member yields
  cases Evaluator.yields_constant evaluated
  simp only [Evaluator.read, unbound, ByOwner.get?, List.lookup_nil, Option.bind_none] at read
  exact intrinsic_access ordinary found (gives_ofExcept.mp read).1

theorem yields_plain (unbound : ev.bindings.getters = [])
    (built : BuiltOver p row p.Ordinary e)
    (yields : ev.Yields (e.supply p (.record identity p.type.name row)) v) : v.IsPlain := by
  induction built generalizing v with
  | constant plain => exact Evaluator.yields_constant yields ▸ plain
  | access found plain allowed => exact yields_access unbound allowed found yields ▸ plain
  | @combine op l r covered builtLeft builtRight left right =>
    have plain := builtLeft.type_plain.resultType covered builtRight.type_plain
    obtain ⟨a, first, ⟨-, rfl⟩ | ⟨b, second, done⟩⟩ := Evaluator.yields_covered covered plain left
      right yields
    · exact left first
    · exact Value.result_plain (left first) (right second) done
  | not o operand =>
    obtain ⟨a, found, done⟩ := Evaluator.yields_apply (by simp) o.type_plain.notType operand
      yields
    exact Value.complement_plain (operand found) done
  | negate checked o operand =>
    obtain ⟨a, found, done⟩ := Evaluator.yields_apply (by simp) o.type_plain.negateType operand
      yields
    exact (Value.negate_unchecked (operand found) done).2
  | choose t a b same test left right =>
    rcases Evaluator.yields_conditional yields with ⟨-, chosen⟩ | ⟨-, chosen⟩
    · exact left chosen
    · exact right chosen

end BuiltOver

end Expr
end ExprSql
