import ExprSql.Compile
import ExprSql.Proofs.Run.InOrder

namespace ExprSql

open Run

structure LadderArm where
  test : Expr
  result : Expr
  type : DataType

/-- A conditional and those that stand one after the other in its last arm. -/
structure Ladder where
  arms : List LadderArm
  otherwise : Expr
  nonempty : arms ≠ []
  ends : ∀ test whenTrue whenFalse t, otherwise ≠ .conditional test whenTrue whenFalse t

/-- What is compiled for a ladder: a test as a condition, all else as a value. -/
inductive LadderPart where
  | test (e : Expr)
  | result (e : Expr)

def Level.part (l : Level) : LadderPart → Run Fragment
  | .test e => l.predicate e
  | .result e => l.fragment e

namespace LadderArm

def node (arm : LadderArm) (rest : Expr) : Expr :=
  .conditional arm.test arm.result rest arm.type

def parts (arm : LadderArm) : List LadderPart := [.test arm.test, .result arm.result]

def branch (l : Level) (arm : LadderArm) : Run (Fragment × Fragment) := do
  let t ← l.predicate arm.test
  let r ← l.fragment arm.result
  pure (t, r)

end LadderArm

namespace Ladder

def inOrder (branches : List (Fragment × Fragment)) : List Fragment :=
  branches.flatMap fun branch => [branch.1, branch.2]

theorem inOrder_injective : Function.Injective inOrder := by
  intro branches others same
  induction branches generalizing others with
  | nil =>
    cases others with
    | nil => rfl
    | cons other others => simp [inOrder] at same
  | cons branch branches ih =>
    cases others with
    | nil => simp [inOrder] at same
    | cons other others =>
      simp only [inOrder, List.flatMap_cons, List.cons_append, List.nil_append,
        List.cons.injEq] at same
      obtain ⟨test, result, rest⟩ := same
      rw [ih rest, Prod.ext test result]

variable (ladder : Ladder)

def expr : Expr := ladder.arms.foldr LadderArm.node ladder.otherwise

def parts : List LadderPart := ladder.arms.flatMap LadderArm.parts ++ [.result ladder.otherwise]

def branches (l : Level) : Run (List (Fragment × Fragment) × Fragment) := do
  let branches ← ladder.arms.mapM (LadderArm.branch l)
  let z ← l.fragment ladder.otherwise
  pure (branches, z)

theorem ladder_of_arms {otherwise : Expr}
    (ends : ∀ test whenTrue whenFalse t, otherwise ≠ .conditional test whenTrue whenFalse t)
    (arms : List LadderArm) : (arms.foldr LadderArm.node otherwise).ladder
      = (arms.map fun arm => (arm.test, arm.result), otherwise) := by
  induction arms with
  | nil =>
    cases otherwise with
    | conditional test whenTrue whenFalse t => exact absurd rfl (ends test whenTrue whenFalse t)
    | _ => rfl
  | cons arm arms ih =>
    rw [List.foldr_cons, LadderArm.node, Expr.ladder, ih]
    rfl

theorem case_expr (l : Level) :
    l.case ladder.expr = ladder.branches l >>= fun found => pure (.case found.1 found.2) := by
  rw [Level.case, expr, ladder_of_arms ladder.ends, branches]
  simp only [List.mapM_map, bind_assoc, pure_bind]
  rfl

theorem mapM_parts (l : Level) (arms : List LadderArm) :
    (arms.flatMap LadderArm.parts).mapM l.part
      = arms.mapM (LadderArm.branch l) >>= fun branches => pure (inOrder branches) := by
  induction arms with
  | nil => simp [inOrder]
  | cons arm arms ih =>
    simp only [List.flatMap_cons, LadderArm.parts, List.cons_append, List.nil_append,
      List.mapM_cons, Level.part, ih, LadderArm.branch, bind_assoc, pure_bind, inOrder]

theorem mapM_all_parts (l : Level) :
    ladder.parts.mapM l.part
      = ladder.branches l >>= fun found => pure (inOrder found.1 ++ [found.2]) := by
  simp only [parts, List.mapM_append, mapM_parts, branches, List.mapM_cons, List.mapM_nil,
    Level.part, bind_assoc, pure_bind]

theorem operand_expr (c : Compiler) (levels : Nat) :
    (c.level levels).operand ladder.expr
      = ladder.branches (c.level (levels - 1))
          >>= fun found => pure (Operand.fragment (.case found.1 found.2)) := by
  obtain ⟨arms, otherwise, nonempty, ends⟩ := ladder
  cases arms with
  | nil => exact absurd rfl nonempty
  | cons arm arms =>
    cases levels with
    | zero =>
      rw [branches, List.mapM_cons]
      rfl
    | succ levels =>
      have step := case_expr ⟨arm :: arms, otherwise, nonempty, ends⟩ (c.level levels)
      change (c.level levels).case _ >>= _ = _
      rw [step, bind_assoc]
      rfl

theorem oneByOne_parts {l : Level} {before after : Trace} {branches : List (Fragment × Fragment)}
    {z : Fragment} : OneByOne l.part ladder.parts before (inOrder branches ++ [z]) after ↔
      Gives (ladder.branches l) before (branches, z) after := by
  rw [← gives_mapM, mapM_all_parts, gives_bind]
  simp only [gives_pure]
  constructor
  · rintro ⟨found, late, gives, same, rfl⟩
    obtain ⟨tests, last⟩ := List.append_inj' same rfl
    have all : found = (branches, z) :=
      Prod.ext (inOrder_injective tests) (List.singleton_inj.1 last)
    exact all ▸ gives
  · intro gives
    exact ⟨_, after, gives, rfl, rfl⟩

theorem branches_length {l : Level} {before after : Trace} {branches : List (Fragment × Fragment)}
    {z : Fragment} (gives : Gives (ladder.branches l) before (branches, z) after) :
    branches.length = ladder.arms.length := by
  unfold Ladder.branches at gives
  simp only [gives_bind, gives_pure] at gives
  obtain ⟨found, mid, each, last, late, -, same, -⟩ := gives
  obtain ⟨rfl, -⟩ := Prod.mk.inj same
  have shape := ensures_mapM fun arm (_ : arm ∈ ladder.arms) =>
    ensures_trivial (LadderArm.branch l arm)
  exact (shape.1 before found mid each).1

end Ladder

/-- An else-if ladder of any length compiles exactly as its tests and results do one level below
it: to one CASE with a branch for each of its arms. -/
theorem ladders_become_one_case (c : Compiler) (levels : Nat) (ladder : Ladder) :
    (∀ before operand after, Gives ((c.level levels).operand ladder.expr) before operand after ↔
      ∃ branches z, operand = .fragment (.case branches z) ∧
        branches.length = ladder.arms.length ∧
        OneByOne (c.level (levels - 1)).part ladder.parts before
          (Ladder.inOrder branches ++ [z]) after) ∧
    ∀ before e after, Fails ((c.level levels).operand ladder.expr) before e after ↔
      FailsAtFirst (c.level (levels - 1)).part ladder.parts before e after := by
  constructor
  · intro before operand after
    rw [ladder.operand_expr, gives_bind]
    simp only [gives_pure, ladder.oneByOne_parts]
    constructor
    · rintro ⟨⟨branches, z⟩, late, gives, rfl, rfl⟩
      exact ⟨branches, z, rfl, ladder.branches_length gives, gives⟩
    · rintro ⟨branches, z, rfl, -, gives⟩
      exact ⟨(branches, z), after, gives, rfl, rfl⟩
  · intro before e after
    rw [ladder.operand_expr, ← fails_mapM, ladder.mapM_all_parts]
    simp only [fails_bind, fails_pure, and_false, exists_false, or_false]

/-- Two grades and what is left make one CASE. With no condition for a second test, the ladder fails
there, after the first test and its result. -/
theorem grades_become_one_case :
    let number (n : Int) (holds : IntKind.i32.Holds n) : Value := .int .i32 ⟨n, holds⟩
    let i32 : DataType := .int .i32
    let five : Value := number 5 (by decide)
    let thunk (name : String) : Expr := .thunk i32 name ⟨0, fun _ => .ok five⟩
    let grade (n : Int) (holds : IntKind.i32.Holds n) : Expr := .constant (number n holds) i32
    let above (name : String) (n : Int) (holds : IntKind.i32.Holds n) : Expr :=
      .binary (.compare .greater) (thunk name) (grade n holds) .bool none
    let graded : Ladder :=
      { arms := [⟨above "first" 8 (by decide), grade 1 (by decide), i32⟩,
          ⟨above "second" 4 (by decide), thunk "bonus", i32⟩]
        otherwise := grade 3 (by decide)
        nonempty := by simp
        ends := by simp [grade] }
    let broken : Ladder :=
      { arms := [⟨above "first" 8 (by decide), thunk "bonus", i32⟩,
          ⟨grade 4 (by decide), thunk "never", i32⟩]
        otherwise := thunk "never"
        nonempty := by simp
        ends := by simp [thunk] }
    let test (n : Int) (holds : IntKind.i32.Holds n) : Fragment :=
      .compare .greater (.value five) (.value (number n holds))
    let branches : List (Fragment × Fragment) :=
      [(test 8 (by decide), .value (number 1 (by decide))), (test 4 (by decide), .value five)]
    let z : Fragment := .value (number 3 (by decide))
    let log : Trace := [.thunk "first", .thunk "second", .thunk "bonus"]
    let c : Compiler := {}
    let below := (c.level 2).part
    Gives ((c.level 3).operand graded.expr) [] (.fragment (.case branches z)) log ∧
      OneByOne below graded.parts [] (Ladder.inOrder branches ++ [z]) log ∧
      Fails ((c.level 3).operand broken.expr) [] (grade 4 (by decide)).notBoolean
        [.thunk "first", .thunk "bonus"] ∧
      FailsAtFirst below broken.parts [] (grade 4 (by decide)).notBoolean
        [.thunk "first", .thunk "bonus"] := by
  intro number i32 five thunk grade above graded broken test branches z log c below
  have given : Gives ((c.level 3).operand graded.expr) [] (.fragment (.case branches z)) log := rfl
  have failed : Fails ((c.level 3).operand broken.expr) [] (grade 4 (by decide)).notBoolean
      [.thunk "first", .thunk "bonus"] := rfl
  obtain ⟨found, last, same, -, parts⟩ := ((ladders_become_one_case c 3 graded).1 _ _ _).1 given
  cases same
  exact ⟨given, parts, failed, ((ladders_become_one_case c 3 broken).2 _ _ _).1 failed⟩

end ExprSql
