import Mathlib
import ExprSql.Compile

/-!
Chains of one operator family. Compiling a chain is compiling its operands from the left and
putting the results in one node, so a chain never meets a fragment that takes no more operands.
-/
namespace ExprSql

def Family.node : Family → List Fragment → Fragment
  | .arithmetic op, operands => .arithmetic op operands
  | .bitwise op, operands => .bitwise op operands
  | .logical op, operands => .logical op operands
  | .concat, operands => .function "CONCAT" operands

theorem start_eq_node (family : Family) (f : Fragment) : family.start f = family.node [f] := by
  cases family <;> rfl

theorem family_cases (family? : Option Family) :
    (∃ family, family? = some family ∧ ∀ connective, family ≠ .logical connective) ∨
      family? = none ∨ ∃ connective, family? = some (.logical connective) := by
  rcases family? with _ | (op | op | connective | _) <;> simp

theorem push_node (family : Family) (fs : List Fragment) (f : Fragment) :
    (family.node fs).push? f = some (family.node (fs ++ [f])) := by
  cases family <;> rfl

namespace Expr

/-- The operands of a left-nested chain of one family, in source order. -/
def operandsOf (family : Family) : Expr → List Expr
  | .binary op left right t method =>
      if op.family? t = some family then left.operandsOf family ++ [right]
      else [.binary op left right t method]
  | e => [e]

theorem spine_eq_operands (family : Family) (e : Expr) (found : List Expr) :
    (e.spine family found).1 :: (e.spine family found).2 = e.operandsOf family ++ found := by
  fun_induction spine family e found with
  | case1 found op left right t method same ih => simp [operandsOf, same, ih]
  | case2 found op left right t method other => simp [operandsOf, other]
  | case3 e found notBinary =>
    cases e with
    | binary op left right t method => exact absurd rfl (notBinary op left right t method)
    | _ => rfl

theorem operands_of_chain {family : Family} {op : BinaryOp} {left right : Expr} {t : DataType}
    {method : Option Member} (same : op.family? t = some family) :
    (Expr.binary op left right t method).operandsOf family
      = left.operandsOf family ++ [right] := by
  simp [operandsOf, same]

theorem operandsOf_induction {family : Family} {motive : List Expr → Expr → Prop}
    (single : ∀ e, motive [e] e)
    (link : ∀ es op left right t method, op.family? t = some family → motive es left →
      motive (es ++ [right]) (.binary op left right t method)) (e : Expr) :
    motive (e.operandsOf family) e := by
  fun_induction operandsOf family e with
  | case1 op left right t method same ih => exact link _ op left right t method same ih
  | case2 op left right t method other => exact single _
  | case3 e notBinary => exact single e

theorem operandsOf_length_pos (family : Family) (e : Expr) :
    0 < (e.operandsOf family).length := by
  have spine := congrArg List.length (spine_eq_operands family e [])
  simp only [List.length_cons, List.append_nil] at spine
  omega

theorem ladder_flatMap {β : Type} (collect : Expr → List β)
    (node : ∀ test whenTrue whenFalse t, collect (.conditional test whenTrue whenFalse t)
      = collect test ++ collect whenTrue ++ collect whenFalse) (e : Expr) :
    e.ladder.1.flatMap (fun arm => collect arm.1 ++ collect arm.2) ++ collect e.ladder.2
      = collect e := by
  fun_induction ladder e with
  | case1 test whenTrue whenFalse t arms otherwise found ih =>
    rw [found] at ih
    simp only [List.flatMap_cons, List.append_assoc, node]
    rw [ih]
  | case2 e notConditional => rfl

end Expr

namespace Level

theorem gather_rest (compile : Expr → Run Fragment) (family : Family) (es : List Expr)
    (fs : List Fragment) :
    es.foldlM (fun chain e => do
        let f ← compile e
        match chain.push? f with
        | some longer => pure longer
        | none => throw (Failure.expression .closedFragment)) (family.node fs)
      = es.mapM compile >>= fun gs => pure (family.node (fs ++ gs)) := by
  induction es generalizing fs with
  | nil => simp
  | cons e es ih =>
    simp only [List.foldlM_cons, List.mapM_cons, bind_assoc, pure_bind, push_node, ih,
      List.append_assoc, List.singleton_append]

theorem gather_eq_mapM (compile : Expr → Run Fragment) (family : Family) (e : Expr) :
    gather compile family e
      = (e.operandsOf family).mapM compile >>= fun fs => pure (family.node fs) := by
  have spine := Expr.spine_eq_operands family e []
  rw [List.append_nil] at spine
  rw [← spine, gather]
  simp only [start_eq_node, List.mapM_cons, bind_assoc, pure_bind]
  refine bind_congr fun f => ?_
  exact gather_rest compile family _ [f]

end Level

section
variable {c : Compiler} {l : Level} {op : BinaryOp} {left right : Expr} {t : DataType}
  {method : Option Member} {family : Family} {connective : Connective}

theorem predicateAbove_chain (same : op.family? t = some (.logical connective)) :
    l.predicateAbove (.binary op left right t method)
      = Level.gather l.predicate (.logical connective) (.binary op left right t method) := by
  cases op with
  | compare => cases same
  | _ => simp only [Level.predicateAbove, same]

theorem predicateAbove_unchained (notCompare : op.isComparison = false)
    (unchained : ∀ connective, op.family? t ≠ some (.logical connective)) :
    l.predicateAbove (.binary op left right t method)
      = throw (Expr.binary op left right t method).notBoolean := by
  cases op with
  | compare => cases notCompare
  | _ => simp only [Level.predicateAbove]

theorem operandAbove_chain (same : op.family? t = some family)
    (other : ∀ connective, family ≠ .logical connective) :
    c.operandAbove l (.binary op left right t method)
      = Level.gather l.fragment family (.binary op left right t method)
          >>= fun f => pure (.fragment f) := by
  cases op with
  | compare | coalesce | index => cases same
  | _ => simp only [Compiler.operandAbove, same]

theorem operandAbove_unchained (notCoalesce : op ≠ .coalesce) (notIndex : op ≠ .index)
    (unchained : op.family? t = none ∨ ∃ connective, op.family? t = some (.logical connective)) :
    c.operandAbove l (.binary op left right t method)
      = l.condition (.binary op left right t method) := by
  rcases unchained with found | ⟨connective, found⟩ <;>
  · cases op with
    | coalesce => exact absurd rfl notCoalesce
    | index => exact absurd rfl notIndex
    | _ => simp only [Compiler.operandAbove, found]

end
end ExprSql
