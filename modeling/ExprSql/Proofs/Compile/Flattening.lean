import ExprSql.Proofs.Compile.Chain
import ExprSql.Proofs.Run.InOrder

namespace ExprSql

open Run

structure ChainLink where
  op : BinaryOp
  right : Expr
  type : DataType
  method : Option Member

namespace ChainLink

def family? (l : ChainLink) : Option Family := l.op.family? l.type

def node (left : Expr) (l : ChainLink) : Expr := .binary l.op left l.right l.type l.method

end ChainLink

def Expr.family? : Expr → Option Family
  | .binary op _ _ t _ => op.family? t
  | _ => none

/-- A left-nested chain that has at least one link and is as long as it can be at its bottom. -/
structure Chain (family : Family) where
  bottom : Expr
  links : List ChainLink
  starts : bottom.family? ≠ some family
  linked : ∀ l ∈ links, l.family? = some family
  nonempty : links ≠ []

namespace Chain

variable {family : Family}

def expr (chain : Chain family) : Expr := chain.links.foldl ChainLink.node chain.bottom

def operands (chain : Chain family) : List Expr := chain.bottom :: chain.links.map ChainLink.right

theorem operandsOf_bottom {e : Expr} (starts : e.family? ≠ some family) :
    e.operandsOf family = [e] := by
  cases e with
  | binary op left right t method => exact if_neg starts
  | _ => rfl

theorem operandsOf_links {links : List ChainLink} (linked : ∀ l ∈ links, l.family? = some family)
    (left : Expr) :
    (links.foldl ChainLink.node left).operandsOf family
      = left.operandsOf family ++ links.map ChainLink.right := by
  induction links generalizing left with
  | nil => simp
  | cons l links ih =>
    obtain ⟨first, rest⟩ := List.forall_mem_cons.1 linked
    have step : (l.node left).operandsOf family = left.operandsOf family ++ [l.right] :=
      Expr.operands_of_chain first
    rw [List.foldl_cons, ih rest, step, List.map_cons, List.append_assoc, List.singleton_append]

theorem operandsOf_expr (chain : Chain family) : chain.expr.operandsOf family = chain.operands := by
  rw [expr, operandsOf_links chain.linked, operandsOf_bottom chain.starts]
  rfl

theorem top (chain : Chain family) : ∃ op left right t method,
    chain.expr = .binary op left right t method ∧ op.family? t = some family := by
  rcases List.eq_nil_or_concat chain.links with none | ⟨init, last, links⟩
  · exact absurd none chain.nonempty
  · refine ⟨last.op, init.foldl ChainLink.node chain.bottom, last.right, last.type, last.method,
      ?_, ?_⟩
    · rw [expr, links, List.concat_eq_append, List.foldl_append]
      rfl
    · exact chain.linked last (by simp [links])

theorem gather_expr (chain : Chain family) (compile : Expr → Run Fragment) :
    Level.gather compile family chain.expr
      = chain.operands.mapM compile >>= fun fs => pure (family.node fs) := by
  rw [Level.gather_eq_mapM, operandsOf_expr]

theorem operand_expr (c : Compiler) (levels : Nat) (chain : Chain family)
    (other : ∀ connective, family ≠ .logical connective) :
    (c.level levels).operand chain.expr
      = chain.operands.mapM (c.level (levels - 1)).fragment
          >>= fun fs => pure (Operand.fragment (family.node fs)) := by
  cases levels with
  | zero =>
    rw [operands, List.mapM_cons]
    rfl
  | succ levels =>
    obtain ⟨op, left, right, t, method, node, same⟩ := chain.top
    have step : (c.level (levels + 1)).operand chain.expr
        = Level.gather (c.level levels).fragment family chain.expr
            >>= fun f => pure (.fragment f) := by
      rw [node]
      exact operandAbove_chain same other
    rw [step, gather_expr, bind_assoc]
    rfl

theorem predicate_expr {connective : Connective} (c : Compiler) (levels : Nat)
    (chain : Chain (.logical connective)) :
    (c.level levels).predicate chain.expr
      = chain.operands.mapM (c.level (levels - 1)).predicate
          >>= fun fs => pure (Family.node (.logical connective) fs) := by
  cases levels with
  | zero =>
    rw [operands, List.mapM_cons]
    rfl
  | succ levels =>
    obtain ⟨op, left, right, t, method, node, same⟩ := chain.top
    have step : (c.level (levels + 1)).predicate chain.expr
        = Level.gather (c.level levels).predicate (.logical connective) chain.expr := by
      rw [node]
      exact predicateAbove_chain same
    rw [step, gather_expr]
    rfl

end Chain

/-- The run compiles the operands one by one and makes one thing of their results, or it fails as
the first operand that fails and compiles no more of them. -/
structure Gathers {α : Type} (compile : Expr → Run Fragment) (operands : List Expr)
    (make : List Fragment → α) (x : Run α) : Prop where
  gives : ∀ before a after, Gives x before a after ↔
    ∃ fs, OneByOne compile operands before fs after ∧ make fs = a
  fails : ∀ before e after, Fails x before e after ↔ FailsAtFirst compile operands before e after

theorem mapM_gathers {α : Type} (compile : Expr → Run Fragment) (operands : List Expr)
    (make : List Fragment → α) :
    Gathers compile operands make (operands.mapM compile >>= fun fs => pure (make fs)) where
  gives before a after := by
    simp only [gives_bind, gives_mapM, gives_pure]
    constructor
    · rintro ⟨fs, mid, each, made, rfl⟩
      exact ⟨fs, each, made⟩
    · rintro ⟨fs, each, made⟩
      exact ⟨fs, after, each, made, rfl⟩
  fails before e after := by
    simp only [fails_bind, fails_mapM, fails_pure, and_false, exists_false, or_false]

/-- A chain of any length compiles exactly as its operands do one level below it: to one node over
all their results, in source order. -/
theorem chains_flatten (c : Compiler) (levels : Nat) :
    (∀ (family : Family) (chain : Chain family), (∀ connective, family ≠ .logical connective) →
      Gathers (c.level (levels - 1)).fragment chain.operands
        (fun fs => Operand.fragment (family.node fs)) ((c.level levels).operand chain.expr)) ∧
    ∀ (connective : Connective) (chain : Chain (.logical connective)),
      Gathers (c.level (levels - 1)).predicate chain.operands (Fragment.logical connective)
        ((c.level levels).predicate chain.expr) := by
  constructor
  · intro family chain other
    rw [Chain.operand_expr c levels chain other]
    exact mapM_gathers _ _ _
  · intro connective chain
    rw [Chain.predicate_expr c levels chain]
    exact mapM_gathers _ _ _

/-- A sum keeps the sum on its right as one operand. A disjunction whose second operand is no
condition fails there, and does not come to load the third. -/
theorem sum_and_disjunction_flatten :
    let number (n : Int) (holds : IntKind.i32.Holds n) : Value := .int .i32 ⟨n, holds⟩
    let i32 : DataType := .int .i32
    let thunk (name : String) : Expr :=
      .thunk i32 name ⟨0, fun _ => .ok (number 7 (by decide))⟩
    let one : Expr := .constant (number 1 (by decide)) i32
    let two : Expr := .constant (number 2 (by decide)) i32
    let isOne (e : Expr) : Expr := .binary (.compare .equal) e one .bool none
    let sum : Chain (.arithmetic .add) :=
      { bottom := thunk "seed"
        links := [⟨.add false, one, i32, none⟩,
          ⟨.add true, .binary (.add false) one two i32 none, i32, none⟩]
        starts := by decide
        linked := by decide
        nonempty := by decide }
    let disjunction : Chain (.logical .or) :=
      { bottom := isOne (thunk "seed")
        links := [⟨.bitwise .or, two, .bool, none⟩, ⟨.orElse, isOne (thunk "load"), .bool, none⟩]
        starts := by decide
        linked := by decide
        nonempty := by decide }
    let summed : Fragment := .arithmetic .add [.value (number 7 (by decide)),
      .value (number 1 (by decide)),
      .arithmetic .add [.value (number 1 (by decide)), .value (number 2 (by decide))]]
    let log : Trace := [.thunk "seed"]
    let c : Compiler := {}
    (∀ connective, Family.arithmetic .add ≠ .logical connective) ∧
      Gives ((c.level 3).operand sum.expr) [] (.fragment summed) log ∧
      (∃ fs, OneByOne (c.level 2).fragment sum.operands [] fs log ∧
        Operand.fragment (.arithmetic .add fs) = .fragment summed) ∧
      Fails ((c.level 3).predicate disjunction.expr) [] two.notBoolean log ∧
      FailsAtFirst (c.level 2).predicate disjunction.operands [] two.notBoolean log := by
  intro number i32 thunk one two isOne sum disjunction summed log c
  have other : ∀ connective, Family.arithmetic .add ≠ .logical connective := by simp
  have given : Gives ((c.level 3).operand sum.expr) [] (.fragment summed) log := rfl
  have failed : Fails ((c.level 3).predicate disjunction.expr) [] two.notBoolean log := rfl
  have flatten := chains_flatten c 3
  exact ⟨other, given, ((flatten.1 _ sum other).gives _ _ _).1 given, failed,
    ((flatten.2 _ disjunction).fails _ _ _).1 failed⟩

end ExprSql
