import ExprSql.Proofs.Compile.Chain
import ExprSql.Proofs.Expr.Built
import ExprSql.Proofs.Fragment.Reading

/-!
Compilation preserves meaning. A fragment compiled from an expression says of a row without nulls
what the evaluator makes of the expression with the row in the place of its parameter.
-/
namespace ExprSql

open Run

namespace Family

def operator : Family → BinaryOp
  | .arithmetic op => op.operator
  | .bitwise op => .bitwise op
  | .logical op => op.operator
  | .concat => .add false

theorem node_reading {family : Family} (known : family ≠ .concat) (row : Row) (fs : List Fragment) :
    (family.node fs).reading row = Fragment.chainReading row family.operator fs := by
  cases family with
  | concat => exact absurd rfl known
  | _ => simp [node, operator, Fragment.reading]

theorem not_concat {family : Family} {op : BinaryOp} {t : DataType} (plain : t.IsPlain)
    (same : op.family? t = some family) : family ≠ .concat := by
  rintro rfl
  unfold BinaryOp.family? at same
  split at same
  case h_1 => simp [plain.not_string] at same
  case h_8 =>
    split at same
    · split at same <;> cases same
    · cases same
  all_goals cases same

end Family

namespace Expr

theorem forall₂_concat {α β : Type} {R : α → β → Prop} {xs : List α} {x : α} {ys : List β}
    (pairs : List.Forall₂ R (xs ++ [x]) ys) :
    ∃ zs z, ys = zs ++ [z] ∧ List.Forall₂ R xs zs ∧ R x z := by
  induction xs generalizing ys with
  | nil =>
    obtain ⟨z, zs, last, none, rfl⟩ := List.forall₂_cons_left_iff.mp pairs
    cases none
    exact ⟨[], z, rfl, .nil, last⟩
  | cons w xs ih =>
    obtain ⟨y, rest, first, later, rfl⟩ := List.forall₂_cons_left_iff.mp pairs
    obtain ⟨zs, z, rfl, before, last⟩ := ih later
    exact ⟨y :: zs, z, rfl, .cons first before, last⟩

section
variable (ev : Evaluator) (p : Parameter) (row : Row) (identity : Option Nat)

/-- The fragment says of the row what the expression comes to, and that is a value meeting `Q`. -/
def Conveys (Q : Value → Prop) (e : Expr) (f : Fragment) : Prop :=
  ∀ v, ev.Yields (e.supply p (.record identity p.type.name row)) v →
    f.reading row = some v ∧ Q v

end

variable {ev : Evaluator} {p : Parameter} {row : Row} {identity : Option Nat} {Q : Value → Prop}

structure Folds (family : Family) (Q : Value → Prop) : Prop where
  early {op : BinaryOp} {t : DataType} {a : Value} (same : op.family? t = some family) (met : Q a)
    (done : Evaluator.decided op a = true) : Evaluator.decided family.operator a = true
  kept {op : BinaryOp} {t : DataType} {a b v : Value} (same : op.family? t = some family)
    (left : Q a) (right : Q b) (done : Value.result op a b = .ok v) :
    Value.result family.operator a b = .ok v ∧ Q v
  settled {a b v : Value} (left : Q a) (right : Q b)
    (decided : Evaluator.decided family.operator a = true)
    (done : Value.result family.operator a b = .ok v) : v = a

theorem chain_conveys {family : Family} (folds : Folds family Q)
    (unbound : ev.bindings.getters = []) {e : Expr} (built : BuiltOver p row p.Ordinary e)
    {fs : List Fragment}
    (each : List.Forall₂ (Conveys ev p row identity Q) (e.operandsOf family) fs) (v : Value)
    (yields : ev.Yields (e.supply p (.record identity p.type.name row)) v) :
    Fragment.chainReading row family.operator fs = some v ∧ Q v := by
  have alone {e : Expr} {fs : List Fragment} (single : e.operandsOf family = [e])
      (each : List.Forall₂ (Conveys ev p row identity Q) (e.operandsOf family) fs) (v : Value)
      (yields : ev.Yields (e.supply p (.record identity p.type.name row)) v) :
      Fragment.chainReading row family.operator fs = some v ∧ Q v := by
    rw [single] at each
    obtain ⟨f, rest, conveys, none, rfl⟩ := List.forall₂_cons_left_iff.mp each
    cases none
    obtain ⟨reads, meets⟩ := conveys v yields
    exact ⟨by simp [Fragment.chainReading, Fragment.restReading, reads], meets⟩
  induction built generalizing fs v with
  | @combine op l r covered builtLeft builtRight left right =>
    by_cases same : op.family? (op.resultType l.type r.type) = some family
    · rw [show (Expr.combine op l r).operandsOf family = l.operandsOf family ++ [r] from
        operands_of_chain same] at each
      obtain ⟨gs, g, rfl, before, last⟩ := forall₂_concat each
      have plain := builtLeft.type_plain.resultType covered builtRight.type_plain
      obtain ⟨a, first, rest⟩ := Evaluator.yields_covered covered plain
        (builtLeft.yields_plain unbound) (builtRight.yields_plain unbound) yields
      obtain ⟨reads, meets⟩ := left before a first
      have nonempty : gs ≠ [] := by
        rintro rfl
        simp [Fragment.chainReading] at reads
      rw [Fragment.chain_append _ nonempty, reads, Option.bind_some]
      rcases rest with ⟨done, rfl⟩ | ⟨b, second, done⟩
      · exact ⟨Fragment.rest_of_decided (folds.early same meets done) _, meets⟩
      · obtain ⟨readsNext, meetsNext⟩ := last b second
        obtain ⟨kept, meetsResult⟩ := folds.kept same meets meetsNext done
        refine ⟨?_, meetsResult⟩
        -- the reading of a chain stops once it is decided, also where evaluation went on
        by_cases stopped : Evaluator.decided family.operator a = true
        · rw [Fragment.rest_of_decided stopped, folds.settled meets meetsNext stopped kept]
        · have combined : a.combine family.operator b .object = .ok v :=
            (Value.combine_eq_result rfl rfl (builtLeft.yields_plain unbound first)
              (builtRight.yields_plain unbound second)).mpr kept
          simp [Fragment.restReading, stopped, readsNext, combined, Except.toOption]
    · exact alone (by simp [Expr.combine, operandsOf, same]) each v yields
  | _ => exact alone rfl each v yields

theorem unchecked_eq_operator {family : Family} (known : family ≠ .concat)
    (values : ∀ c, family ≠ .logical c) {op : BinaryOp} {t : DataType}
    (same : op.family? t = some family) : op.unchecked = family.operator := by
  unfold BinaryOp.family? at same
  split at same
  case h_1 =>
    split at same <;> cases same
    · exact absurd rfl known
    · rfl
  case h_8 =>
    split at same
    · split at same <;> cases same
      · exact absurd rfl (values .and)
      · exact absurd rfl (values .or)
      · rfl
      · rfl
    · cases same
      rfl
  all_goals cases same
  · rfl
  · rfl
  · rfl
  · rfl
  · exact absurd rfl (values .and)
  · exact absurd rfl (values .or)

theorem logical_operators {c : Connective} {op : BinaryOp} {t : DataType}
    (same : op.family? t = some (.logical c)) :
    op = c.operator ∨ c = .and ∧ op = .bitwise .and ∨ c = .or ∧ op = .bitwise .or := by
  unfold BinaryOp.family? at same
  split at same
  case h_1 => split at same <;> cases same
  case h_8 =>
    split at same
    · split at same <;> cases same
      · exact .inr (.inl ⟨rfl, rfl⟩)
      · exact .inr (.inr ⟨rfl, rfl⟩)
    · cases same
  all_goals cases same
  · exact .inl rfl
  · exact .inl rfl

theorem undecided_of_values {family : Family} (values : ∀ c, family ≠ .logical c) (a : Value) :
    Evaluator.decided family.operator a = false := by
  cases family with
  | logical c => exact absurd rfl (values c)
  | arithmetic op => cases op <;> rfl
  | bitwise op => rfl
  | concat => rfl

theorem folds_values {family : Family} (known : family ≠ .concat)
    (values : ∀ c, family ≠ .logical c) : Folds family fun _ => True where
  early := by
    intro op t a same met done
    cases op with
    | andAlso => exact absurd (Option.some.inj same).symm (values .and)
    | orElse => exact absurd (Option.some.inj same).symm (values .or)
    | coalesce => cases same
    | _ => cases done
  kept := by
    intro op t a b v same left right done
    rw [← unchecked_eq_operator known values same]
    exact ⟨Value.result_unchecked done, trivial⟩
  settled := by
    intro a b v left right decided done
    rw [undecided_of_values values] at decided
    cases decided

def IsTruth (v : Value) : Prop := ∃ b, v = .bool b

theorem folds_truths (c : Connective) : Folds (.logical c) IsTruth where
  early := by
    rintro op t a same ⟨x, rfl⟩ done
    rcases logical_operators same with rfl | ⟨rfl, rfl⟩ | ⟨rfl, rfl⟩
    · exact done
    · cases done
    · cases done
  kept := by
    rintro op t a b v same ⟨x, rfl⟩ ⟨y, rfl⟩ done
    rcases logical_operators same with rfl | ⟨rfl, rfl⟩ | ⟨rfl, rfl⟩
    · refine ⟨done, ?_⟩
      cases c <;> cases x <;> cases y <;> cases done <;> exact ⟨_, rfl⟩
    · refine ⟨done, ?_⟩
      cases x <;> cases y <;> cases done <;> exact ⟨_, rfl⟩
    · refine ⟨done, ?_⟩
      cases x <;> cases y <;> cases done <;> exact ⟨_, rfl⟩
  settled := by
    rintro a b v ⟨x, rfl⟩ ⟨y, rfl⟩ decided done
    cases c <;> cases x <;> cases decided <;> cases y <;> cases done <;> rfl

theorem operands_built {family : Family} {readable : String → Prop} {e : Expr}
    (built : BuiltOver p row readable e) :
    ∀ x ∈ e.operandsOf family, BuiltOver p row readable x := by
  fun_induction operandsOf family e with
  | case1 op left right t method same ih =>
    cases built with
    | combine covered l r =>
      intro x mem
      rcases List.mem_append.mp mem with mem | mem
      · exact ih l x mem
      · exact List.mem_singleton.mp mem ▸ r
  | case2 op left right t method other => exact fun x mem => List.mem_singleton.mp mem ▸ built
  | case3 e other => exact fun x mem => List.mem_singleton.mp mem ▸ built

theorem ladder_built {readable : String → Prop} {e : Expr} (built : BuiltOver p row readable e) :
    (∀ arm ∈ e.ladder.1, BuiltOver p row readable arm.1 ∧ BuiltOver p row readable arm.2) ∧
      BuiltOver p row readable e.ladder.2 := by
  fun_induction ladder e with
  | case1 test whenTrue whenFalse t arms otherwise rest ih =>
    cases built with
    | choose t a b same =>
      obtain ⟨built, last⟩ := ih b
      rw [rest] at built last
      refine ⟨fun arm mem => ?_, last⟩
      rcases List.mem_cons.mp mem with rfl | mem
      · exact ⟨t, a⟩
      · exact built arm mem
  | case2 e other => exact ⟨fun arm mem => absurd mem List.not_mem_nil, built⟩

abbrev ConveysValue (ev : Evaluator) (p : Parameter) (row : Row) (identity : Option Nat) :=
  Conveys ev p row identity fun _ => True

abbrev ConveysTruth (ev : Evaluator) (p : Parameter) (row : Row) (identity : Option Nat) :=
  Conveys ev p row identity IsTruth

theorem ladder_conveys {readable : String → Prop} {e : Expr} (built : BuiltOver p row readable e)
    {arms : List (Fragment × Fragment)} {otherwise : Fragment}
    (each : List.Forall₂ (fun a b => ConveysTruth ev p row identity a.1 b.1 ∧
      ConveysValue ev p row identity a.2 b.2) e.ladder.1 arms)
    (last : ConveysValue ev p row identity e.ladder.2 otherwise) (v : Value)
    (yields : ev.Yields (e.supply p (.record identity p.type.name row)) v) :
    Fragment.armsReading row (otherwise.reading row) arms = some v := by
  have alone {e : Expr} {arms : List (Fragment × Fragment)} (single : e.ladder = ([], e))
      (each : List.Forall₂ (fun a b => ConveysTruth ev p row identity a.1 b.1 ∧
        ConveysValue ev p row identity a.2 b.2) e.ladder.1 arms)
      (last : ConveysValue ev p row identity e.ladder.2 otherwise) (v : Value)
      (yields : ev.Yields (e.supply p (.record identity p.type.name row)) v) :
      Fragment.armsReading row (otherwise.reading row) arms = some v := by
    rw [single] at each last
    cases each
    exact (last v yields).1
  induction built generalizing arms v with
  | choose t a b same test left right =>
    obtain ⟨⟨f, g⟩, rest, ⟨tests, results⟩, later, rfl⟩ := List.forall₂_cons_left_iff.mp each
    rcases Evaluator.yields_conditional yields with ⟨met, chosen⟩ | ⟨failed, chosen⟩
    · simp [Fragment.armsReading, (tests _ met).1, Value.bool?, (results v chosen).1]
    · simp [Fragment.armsReading, (tests _ failed).1, Value.bool?, right later last v chosen]
  | _ => exact alone rfl each last v yields

theorem compare_of_present (op : Comparison) {f g : Fragment} (left : f ≠ .value .null)
    (right : g ≠ .value .null) : Fragment.compare op f g = .comparison op f g := by
  unfold Fragment.compare
  cases op
  case equal | notEqual =>
    dsimp only
    split
    · exact absurd rfl right
    · exact absurd rfl left
    · rfl
  all_goals rfl

theorem present_of_reading {f : Fragment} {a : Value} (reads : f.reading row = some a)
    (plain : a.IsPlain) : f ≠ .value .null := by
  rintro rfl
  simp only [Fragment.reading, Option.some.injEq] at reads
  subst reads
  cases plain

theorem compare_reading {op : Comparison} {f g : Fragment} {a b v : Value}
    (left : f.reading row = some a) (right : g.reading row = some b) (leftPlain : a.IsPlain)
    (rightPlain : b.IsPlain) (done : Value.compare op a b = .ok v) :
    (Fragment.compare op f g).reading row = some v := by
  have combined : a.combine (.compare op) b .bool = .ok v :=
    (Value.combine_eq_result rfl rfl leftPlain rightPlain).mpr done
  rw [compare_of_present op (present_of_reading left leftPlain)
    (present_of_reading right rightPlain)]
  simp [Fragment.reading, left, right, combined, Except.toOption]

theorem equalsBool_reading {f : Fragment} {x : Bool} (reads : f.reading row = some (.bool x))
    (b : Bool) : (f.equalsBool b).reading row = some (.bool (x == b)) := by
  have right : (Fragment.value (.bool b)).reading row = some (.bool b) := by
    simp [Fragment.reading]
  refine compare_reading reads right (.bool x) (.bool b) ?_
  cases x <;> cases b <;> rfl

end Expr

namespace Level

variable {ev : Evaluator} {p : Parameter} {row : Row} {identity : Option Nat} {below : Level}

structure Conveys (ev : Evaluator) (p : Parameter) (row : Row) (identity : Option Nat)
    (l : Level) : Prop where
  operand (e : Expr) (built : e.BuiltOver p row p.Ordinary) :
    Ensures (l.operand e) (fun o => e.ConveysValue ev p row identity o.toFragment) fun _ => True
  predicate (e : Expr) (built : e.BuiltOver p row p.Ordinary) :
    Ensures (l.predicate e) (e.ConveysTruth ev p row identity) fun _ => True

theorem fragment_conveys (conveys : below.Conveys ev p row identity) {e : Expr}
    (built : e.BuiltOver p row p.Ordinary) :
    Ensures (below.fragment e) (e.ConveysValue ev p row identity) fun _ => True :=
  ensures_bind (conveys.operand e built) fun _ h => ensures_pure h

theorem case_conveys (conveys : below.Conveys ev p row identity) {e : Expr}
    (built : e.BuiltOver p row p.Ordinary) :
    Ensures (below.case e) (e.ConveysValue ev p row identity) fun _ => True := by
  obtain ⟨armsBuilt, lastBuilt⟩ := Expr.ladder_built built
  unfold case
  refine ensures_bind (ensures_mapM_each (R := fun a b =>
    a.1.ConveysTruth ev p row identity b.1 ∧ a.2.ConveysValue ev p row identity b.2)
    fun arm mem => ?_) fun arms each => ?_
  · obtain ⟨test, result⟩ := arm
    refine ensures_bind (conveys.predicate test (armsBuilt _ mem).1) fun f tests => ?_
    exact ensures_bind (fragment_conveys conveys (armsBuilt _ mem).2) fun g results =>
      ensures_pure ⟨tests, results⟩
  · refine ensures_bind (fragment_conveys conveys lastBuilt) fun z last => ensures_pure ?_
    intro v yields
    exact ⟨by simp [Fragment.reading, Expr.ladder_conveys built each last v yields], trivial⟩

theorem gather_conveys {Q : Value → Prop} {family : Family} {compile : Expr → Run Fragment}
    (folds : Expr.Folds family Q) (known : family ≠ .concat) (unbound : ev.bindings.getters = [])
    (compiles : ∀ x, x.BuiltOver p row p.Ordinary →
      Ensures (compile x) (x.Conveys ev p row identity Q) fun _ => True)
    {e : Expr} (built : e.BuiltOver p row p.Ordinary) :
    Ensures (gather compile family e) (e.Conveys ev p row identity Q) fun _ => True := by
  rw [gather_eq_mapM]
  refine ensures_bind (ensures_mapM_each fun x mem => compiles x (Expr.operands_built built x mem))
    fun fs each => ensures_pure fun v yields => ?_
  rw [Family.node_reading known]
  exact Expr.chain_conveys folds unbound built each v yields

theorem truth_of_type {w : Value} (plain : w.IsPlain) (bool : w.type.isBool = true) :
    Expr.IsTruth w := by
  cases plain with
  | bool b => exact ⟨b, rfl⟩
  | int32 n => cases bool
  | int64 n => cases bool

theorem member_conveys (conveys : below.Conveys ev p row identity)
    (unbound : ev.bindings.getters = []) {name : String} {w : Value}
    (found : Value.member? row name = some w) (plain : w.IsPlain) (allowed : p.Ordinary name)
    (bool : w.type.isBool = true) (b : Bool) :
    Ensures (below.fragment (.access (.parameter p.name p.type) name w.type) >>= fun f =>
        pure (f.equalsBool b))
      (fun f => ∃ x, w = .bool x ∧ ∀ v, ev.Yields ((Expr.access (.parameter p.name p.type) name
        w.type).supply p (.record identity p.type.name row)) v →
          v = w ∧ f.reading row = some (.bool (x == b))) fun _ => True := by
  obtain ⟨x, rfl⟩ := truth_of_type plain bool
  refine ensures_bind (fragment_conveys conveys (.access found plain allowed)) fun f reads =>
    ensures_pure ⟨x, rfl, fun v yields => ?_⟩
  have same := Expr.BuiltOver.yields_access unbound allowed found yields
  subst same
  exact ⟨rfl, Expr.equalsBool_reading (reads _ yields).1 b⟩

theorem not_conveys (conveys : below.Conveys ev p row identity)
    (unbound : ev.bindings.getters = []) {operand : Expr}
    (built : operand.BuiltOver p row p.Ordinary) :
    Ensures (below.predicate operand >>= fun f => pure (.not f))
      ((Expr.apply .not operand).ConveysTruth ev p row identity) fun _ => True := by
  refine ensures_bind (conveys.predicate operand built) fun f reads =>
    ensures_pure fun v yields => ?_
  obtain ⟨a, evaluated, done⟩ := Evaluator.yields_apply (.inl rfl) built.type_plain.notType
    (built.yields_plain unbound) yields
  obtain ⟨readsOperand, x, rfl⟩ := reads a evaluated
  cases done
  exact ⟨by simp [Fragment.reading, readsOperand, Value.apply, Value.isNull]; rfl, !x, rfl⟩

theorem comparison_conveys (conveys : below.Conveys ev p row identity)
    (unbound : ev.bindings.getters = []) {op : Comparison} {l r : Expr}
    (covered : BinaryOp.compare op ≠ .coalesce ∧ BinaryOp.compare op ≠ .index)
    (left : l.BuiltOver p row p.Ordinary) (right : r.BuiltOver p row p.Ordinary) :
    Ensures (below.predicateAbove (.combine (.compare op) l r))
      ((Expr.combine (.compare op) l r).ConveysTruth ev p row identity) fun _ => True := by
  refine ensures_bind (fragment_conveys conveys left) fun f readsLeft =>
    ensures_bind (fragment_conveys conveys right) fun g readsRight =>
      ensures_pure fun v yields => ?_
  obtain ⟨a, first, ⟨early, -⟩ | ⟨b, second, done⟩⟩ := Evaluator.yields_covered covered
    (left.type_plain.resultType covered right.type_plain) (left.yields_plain unbound)
    (right.yields_plain unbound) yields
  · cases early
  · exact ⟨Expr.compare_reading (readsLeft a first).1 (readsRight b second).1
      (left.yields_plain unbound first) (right.yields_plain unbound second) done,
      Value.compare_truth done⟩

theorem predicateAbove_conveys (conveys : below.Conveys ev p row identity)
    (unbound : ev.bindings.getters = []) {e : Expr} (built : e.BuiltOver p row p.Ordinary) :
    Ensures (below.predicateAbove e) (e.ConveysTruth ev p row identity) fun _ => True := by
  cases built with
  | constant plain => exact ensures_throw trivial
  | @access name w found plain allowed =>
    unfold Expr.access predicateAbove
    dsimp only
    split
    · rename_i bool
      refine ensures_weaken (member_conveys conveys unbound found plain allowed bool true) ?_
      rintro f ⟨x, rfl, reads⟩ v yields
      obtain ⟨rfl, truth⟩ := reads v yields
      exact ⟨by simpa using truth, x, rfl⟩
    · exact ensures_throw trivial
  | @combine op l r covered left right =>
    cases op with
    | compare op => exact comparison_conveys conveys unbound covered left right
    | _ =>
      unfold Expr.combine predicateAbove
      dsimp only
      split
      · rename_i c same
        exact gather_conveys (Expr.folds_truths c) (by simp) unbound conveys.predicate
          (.combine covered left right)
      · exact ensures_throw trivial
  | @not operand o =>
    unfold Expr.apply predicateAbove
    dsimp only
    split
    · rename_i bool
      have denial := not_conveys conveys unbound o
      cases o with
      | @access name w found plain allowed =>
        have typed : w.type.isBool = true := by
          cases plain with
          | bool b => rfl
          | int32 n => cases bool
          | int64 n => cases bool
        refine ensures_weaken (member_conveys conveys unbound found plain allowed typed false) ?_
        rintro f ⟨x, rfl, reads⟩ v yields
        obtain ⟨a, evaluated, done⟩ := Evaluator.yields_apply (.inl rfl)
          (Value.IsPlain.bool x).type.notType
          (Expr.BuiltOver.yields_plain unbound (.access found plain allowed)) yields
        obtain ⟨rfl, truth⟩ := reads a evaluated
        cases done
        exact ⟨by simpa using truth, !x, rfl⟩
      | _ => exact denial
    · exact ensures_throw trivial
  | negate checked o => exact ensures_throw trivial
  | choose t a b same => exact ensures_throw trivial

end Level

namespace Compiler

variable {c : Compiler} {ev : Evaluator} {p : Parameter} {row : Row} {identity : Option Nat}
  {below : Level}

theorem evaluate_constant (v : Value) :
    Ensures (c.evaluate (.ofValue v)) (fun o => o = .value v) fun _ => True := by
  refine ensures_bind (P := fun w => w = v) ?_ fun w same =>
    ensures_pure (congrArg Operand.value same)
  unfold Evaluator.eval
  cases c.evaluator.options.maxDepth with
  | zero => exact ensures_throw trivial
  | succ levels => exact ensures_pure rfl

theorem condition_conveys (conveys : below.Conveys ev p row identity) {e : Expr}
    (built : e.BuiltOver p row p.Ordinary) :
    Ensures (below.condition e) (fun o => e.ConveysValue ev p row identity o.toFragment)
      fun _ => True :=
  ensures_bind (conveys.predicate e built) fun _ reads =>
    ensures_pure fun v yields => ⟨(reads v yields).1, trivial⟩

theorem combined_conveys (conveys : below.Conveys ev p row identity)
    (unbound : ev.bindings.getters = []) {op : BinaryOp} (covered : op ≠ .coalesce ∧ op ≠ .index)
    {l r : Expr} (left : l.BuiltOver p row p.Ordinary) (right : r.BuiltOver p row p.Ordinary) :
    Ensures (match op.family? (op.resultType l.type r.type) with
      | none | some (.logical _) => below.condition (.combine op l r)
      | some family => Level.gather below.fragment family (.combine op l r) >>= fun f =>
          pure (Operand.fragment f))
      (fun o => (Expr.combine op l r).ConveysValue ev p row identity o.toFragment)
      fun _ => True := by
  have condition := condition_conveys conveys (.combine covered left right)
  have typed := left.type_plain.resultType covered right.type_plain
  split
  · exact condition
  · exact condition
  · rename_i family values same
    have known := Family.not_concat typed same
    exact ensures_bind (Level.gather_conveys (Expr.folds_values known values) known unbound
      (fun x => Level.fragment_conveys conveys) (.combine covered left right))
      fun f reads => ensures_pure reads

theorem operandAbove_conveys (conveys : below.Conveys ev p row identity)
    (unbound : ev.bindings.getters = []) (table : c.registry.isTable p.type.name = true) {e : Expr}
    (built : e.BuiltOver p row p.Ordinary) :
    Ensures (c.operandAbove below e) (fun o => e.ConveysValue ev p row identity o.toFragment)
      fun _ => True := by
  have condition := condition_conveys conveys built
  cases built with
  | @constant v plain =>
    refine ensures_weaken (evaluate_constant v) ?_
    rintro _ rfl w yields
    cases Evaluator.yields_constant yields
    exact ⟨by simp [Operand.toFragment, Fragment.reading], trivial⟩
  | @access name w found plain allowed =>
    have path : (Expr.access (.parameter p.name p.type) name w.type).isColumnPath
        c.registry.isTable = true := table
    have column : (Expr.access (.parameter p.name p.type) name w.type).asColumn
        = pure (.fragment (.column ⟨p.type.name, some p.name, String.join [name]⟩)) := rfl
    unfold Expr.access at path column ⊢
    unfold operandAbove
    rw [if_pos path, column]
    refine ensures_pure fun v yields => ?_
    have same := Expr.BuiltOver.yields_access unbound allowed found yields
    exact ⟨by simp [Operand.toFragment, Fragment.reading, found, same], trivial⟩
  | @combine op l r covered left right =>
    have combined := combined_conveys conveys unbound covered left right
    cases op with
    | coalesce => exact absurd rfl covered.1
    | index => exact absurd rfl covered.2
    | _ => exact combined
  | @not operand o =>
    unfold Expr.apply at condition ⊢
    unfold operandAbove
    dsimp only
    split
    · exact condition
    · refine ensures_bind (Level.fragment_conveys conveys o) fun f reads =>
        ensures_pure fun v yields => ?_
      obtain ⟨a, evaluated, done⟩ := Evaluator.yields_apply (.inl rfl) o.type_plain.notType
        (o.yields_plain unbound) yields
      have applied : a.apply .not .object = .ok v :=
        (Value.apply_eq_result rfl (o.yields_plain unbound evaluated)).mpr done
      simp [Operand.toFragment, Fragment.reading, (reads a evaluated).1, applied, Except.toOption]
  | @negate operand checked o =>
    refine ensures_bind (Level.fragment_conveys conveys o) fun f reads =>
      ensures_pure fun v yields => ?_
    obtain ⟨a, evaluated, done⟩ := Evaluator.yields_apply (.inr ⟨checked, rfl⟩)
      o.type_plain.negateType (o.yields_plain unbound) yields
    have plain := o.yields_plain unbound evaluated
    have applied : a.apply (.negate false) .object = .ok v :=
      (Value.apply_eq_result rfl plain).mpr (Value.negate_unchecked plain done).1
    simp [Operand.toFragment, Fragment.reading, (reads a evaluated).1, applied, Except.toOption]
  | choose t a b same =>
    exact ensures_bind (Level.case_conveys conveys (.choose t a b same)) fun f reads =>
      ensures_pure reads

theorem level_conveys (unbound : ev.bindings.getters = [])
    (table : c.registry.isTable p.type.name = true) (n : Nat) :
    (c.level n).Conveys ev p row identity := by
  induction n with
  | zero => exact ⟨fun _ _ => ensures_throw trivial, fun _ _ => ensures_throw trivial⟩
  | succ n below =>
    exact ⟨fun _ built => operandAbove_conveys below unbound table built,
      fun _ built => Level.predicateAbove_conveys below unbound built⟩

/-- What a compiled fragment or condition says of a row is what evaluation gives. -/
theorem compilation_preserves_meaning (unbound : c.evaluator.bindings = {})
    (table : c.registry.isTable p.type.name = true) {e : Expr}
    (built : e.BuiltOver p row p.Ordinary) {f : Fragment} {v : Value} {s s' t t' : Trace}
    (compiled : Gives (c.fragment e) s f t ∨ Gives (c.predicate e) s f t)
    (value : Gives (c.value (e.supply p (.record identity p.type.name row))) s' v t') :
    f.reading row = some v := by
  have none : c.evaluator.bindings.getters = [] := by rw [unbound]
  have conveys : c.top.Conveys c.evaluator p row identity := level_conveys none table _
  have yields : c.evaluator.Yields (e.supply p (.record identity p.type.name row)) v :=
    ⟨_, s', t', value⟩
  rcases compiled with gives | gives
  · exact ((Level.fragment_conveys conveys built).1 s f t gives v yields).1
  · exact ((conveys.predicate e built).1 s f t gives v yields).1

theorem difference_and_flag_meaning :
    let p : Parameter := ⟨"r", .record "Row"⟩
    let row : Row := [("A", .int .i32 ⟨-3, by decide⟩), ("On", .bool true)]
    let r : Expr := .parameter "r" (.record "Row")
    let n (k : Int) (h : IntKind.i32.Holds k) : Expr := .ofValue (.int .i32 ⟨k, h⟩)
    let difference := Expr.combine (.subtract true) (r.access "A" (.int .i32)) (n 4 (by decide))
    let e := Expr.combine .andAlso (.combine (.compare .less) difference (n 5 (by decide)))
      (r.access "On" .bool)
    let c : Compiler := { registry := { tables := ["Row"] } }
    c.evaluator.bindings = {} ∧ c.registry.isTable p.type.name = true
      ∧ e.BuiltOver p row p.Ordinary
      ∧ ∃ f, Gives (c.predicate e) [] f []
        ∧ Gives (c.value (e.supply p (.record none "Row" row))) [] (.bool true) []
        ∧ f.reading row = some (.bool true) := by
  intro p row r n difference e c
  have plain (k : Int) (h : IntKind.i32.Holds k) : (Value.int .i32 ⟨k, h⟩).IsPlain := .int32 _
  have ordinary (name : String) : p.Ordinary name := by
    intro wrapped
    change "Row".startsWith "Option<" = true at wrapped
    exact absurd wrapped (by decide)
  have built : e.BuiltOver p row p.Ordinary :=
    .combine (by decide) (.combine (by decide) (.combine (by decide)
      (.access rfl (plain _ _) (ordinary _)) (.constant (plain _ _))) (.constant (plain _ _)))
      (.access rfl (.bool true) (ordinary _))
  have compiled : Gives (c.predicate e) [] _ [] := rfl
  have value : Gives (c.value (e.supply p (.record none "Row" row))) [] (.bool true) [] := rfl
  exact ⟨rfl, rfl, built, _, compiled, value,
    compilation_preserves_meaning rfl rfl built (.inr compiled) value⟩

/-- Records whose type is named like a nullable type have two members that evaluation answers
without looking at the record. -/
theorem wrapped_rows_change_meaning :
    ¬ ∀ (c : Compiler) (name table : String) (row : Row) (identity : Option Nat) (e : Expr)
      (f : Fragment) (v : Value) (s s' t t' : Trace),
      c.evaluator.bindings = {} → c.registry.handlers = [] → c.registry.isTable table = true →
      e.BuiltOver ⟨name, .record table⟩ row (fun _ => True) →
      Gives (c.fragment e) s f t ∨ Gives (c.predicate e) s f t →
      Gives (c.value (e.supply ⟨name, .record table⟩ (.record identity table row))) s' v t' →
      f.reading row = some v := by
  intro meaning
  have wrapped : "Option<Row>".startsWith "Option<" = true := by decide +kernel
  have answered : Evaluator.intrinsic
      (some (.record none "Option<Row>" [("HasValue", .bool false)]))
      ⟨"Option<Row>", "HasValue", .bool, false⟩ = .ok (.bool true) := by
    simp [Evaluator.intrinsic, wrapped, Value.isNull]
  have value : Gives (Run.ofExcept (Evaluator.intrinsic
      (some (.record none "Option<Row>" [("HasValue", .bool false)]))
      ⟨"Option<Row>", "HasValue", .bool, false⟩)) [] (.bool true) [] := by
    rw [answered]
    rfl
  have reads := meaning { registry := { tables := ["Option<Row>"] } } "r" "Option<Row>"
    [("HasValue", .bool false)] none
    (.access (.parameter "r" (.record "Option<Row>")) "HasValue" .bool)
    (.column ⟨"Option<Row>", some "r", "HasValue"⟩) (.bool true) [] [] [] [] rfl rfl rfl
    (.access rfl (.bool false) trivial) (.inl rfl) value
  simp [Fragment.reading, Value.member?] at reads

end Compiler
end ExprSql
