import ExprSql.Proofs.Compile.Chain
import ExprSql.Proofs.Run
import ExprSql.Proofs.Value.StaticType

/-!
What counts as joining text. The evaluator looks at the values that it adds, the compiler at the
type of the node alone. An optional string is a string to the evaluator, and to the compiler it is
not.
-/
namespace ExprSql

open Run

namespace DataType

variable {t : DataType}

structure IsBasic (t : DataType) : Prop where
  scalar : t.underlying.isScalar = true
  notEnumeration : t.isEnumeration = false

def sample (t : DataType) : Value :=
  match t.underlying with
  | .string => .string ""
  | t => t.default

theorem sample_instance (basic : t.IsBasic) : t.sample.instanceOf t = true := by
  obtain ⟨scalar, notEnumeration⟩ := basic
  rw [Value.instance_underlying, Value.instance_scalar scalar]
  unfold isEnumeration at notEnumeration
  unfold sample
  cases underlying : t.underlying with
  | numeric k => cases k <;> rfl
  | enumeration name backing =>
    rw [underlying] at notEnumeration
    cases notEnumeration
  | _ =>
    rw [underlying] at scalar
    first | rfl | cases scalar

end DataType

theorem DataType.IsBasic.operand {v : Value} {t : DataType} (basic : t.IsBasic)
    (isInstance : v.instanceOf t = true) : v.IsOperand t :=
  ⟨basic.scalar, .inr isInstance⟩

namespace BinaryOp

variable {op : BinaryOp} {L R : DataType}

theorem promoted_cases (L R : DataType) :
    L.promoted R = .decimal ∨ (∃ k, L.promoted R = .numeric k) ∨ L.promoted R = L.underlying := by
  simp only [DataType.promoted]
  split
  · exact .inl rfl
  · split
    · rename_i a b _ _
      cases common : a.promote b with
      | none => exact .inr (.inr rfl)
      | some k => exact .inr (.inl ⟨k, rfl⟩)
    · exact .inr (.inr rfl)

theorem resultType_isString (isAdd : op.isAdd = true) :
    (op.resultType L R).isString = (L.isString || R.isString) := by
  cases strung : L.isString || R.isString with
  | true =>
    rw [resultType_string isAdd strung]
    rfl
  | false =>
    cases op with
    | add checked =>
      have leftOther : L ≠ .string := by
        rintro rfl
        cases strung
      simp only [resultType, strung, Bool.false_eq_true, if_false]
      cases nullable : L.isNullable || R.isNullable with
      | true => cases L.promoted R <;> rfl
      | false =>
        have same : L.underlying = L := by
          cases L <;> first | rfl | cases nullable
        have other : L.promoted R ≠ .string := by
          rcases promoted_cases L R with decimal | ⟨k, numeric⟩ | kept
          · simp [decimal]
          · simp [numeric]
          · rwa [kept, same]
        simpa [DataType.isString, DataType.liftedIf] using other
    | _ => cases isAdd

theorem resultType_notEnumeration (isAdd : op.isAdd = true) (basic : L.IsBasic) :
    (op.resultType L R).isEnumeration = false := by
  cases strung : L.isString || R.isString with
  | true =>
    rw [resultType_string isAdd strung]
    rfl
  | false =>
    have apart : L.isString = false ∧ R.isString = false := by simpa using strung
    have integral : op.isIntegral = true := by cases op <;> first | rfl | cases isAdd
    have scalar : L.underlying.underlying = L.underlying := by
      cases underlying : L.underlying with
      | nullable inner => cases underlying ▸ basic.scalar
      | _ => rfl
    have left := basic.notEnumeration
    unfold DataType.isEnumeration at left ⊢
    rw [resultType_integral integral fun _ => apart]
    rcases promoted_cases L R with decimal | ⟨k, numeric⟩ | kept
    · rw [decimal]
      rfl
    · rw [numeric]
      rfl
    · rwa [kept, scalar]

theorem family_sum (isAdd : op.isAdd = true) : op.family? (op.resultType L R) =
    some (if L.isString || R.isString then .concat else .arithmetic .add) := by
  cases op with
  | add checked => rw [family?, resultType_isString isAdd]
  | _ => cases isAdd

end BinaryOp

namespace Value

variable {op : BinaryOp} {L R : DataType} {l r : Value} {s : String}

theorem isString_typed (operand : l.IsOperand L) (present : l.isNull = false) :
    l.isString = true ↔ L.underlying = .string := by
  rw [← operand.type present]
  cases l <;> simp [isString, type]

theorem calculate_not_string (notCompare : op.isComparison = false) :
    calculate op l r ≠ .ok (.string s) := by
  intro done
  rcases calculate_cases notCompare done with null | ⟨-, -, ⟨⟨_, shifted⟩, -⟩ | ⟨computed, -⟩⟩
  · cases null
  · obtain ⟨k, -, typed⟩ := shift_type shifted
    cases typed
  · obtain ⟨pair, -, typed⟩ := arithmetic_type computed
    cases pair <;> cases typed

section
variable (isAdd : op.isAdd = true) (left : L.IsBasic) (right : R.IsBasic)
  (leftInstance : l.instanceOf L = true) (rightInstance : r.instanceOf R = true)
include isAdd left right leftInstance rightInstance

theorem joins_iff_text : joins op l r (op.resultType L R) = true ↔
    L.underlying = .string ∨ R.underlying = .string := by
  have leftText := isString_typed (left.operand leftInstance) (present_of_instance leftInstance)
  have rightText := isString_typed (right.operand rightInstance) (present_of_instance rightInstance)
  have plain {t : DataType} (isString : t.isString = true) : t.underlying = .string := by
    rw [of_decide_eq_true isString]
    rfl
  rw [joins, isAdd, Bool.true_and, BinaryOp.resultType_isString isAdd]
  simp only [Bool.or_eq_true, leftText, rightText]
  constructor
  · rintro (((isString | isString) | text) | text)
    · exact .inl (plain isString)
    · exact .inr (plain isString)
    · exact .inl text
    · exact .inr text
  · rintro (text | text)
    · exact .inl (.inr text)
    · exact .inr text

theorem combine_text_iff : combine op l r (op.resultType L R) = .ok (.string (l.text ++ r.text)) ↔
    L.underlying = .string ∨ R.underlying = .string := by
  rw [← joins_iff_text isAdd left right leftInstance rightInstance]
  have kept := rewrap_plain (BinaryOp.resultType_notEnumeration (R := R) isAdd left)
  constructor
  · intro done
    by_contra apart
    rw [combine_apart (by simpa using apart)] at done
    obtain ⟨u, computed, rewrapped⟩ := bind_done done
    rw [kept] at rewrapped
    cases rewrapped
    rw [mapError_ok] at computed
    cases op with
    | add checked =>
      have notCompare : (BinaryOp.add checked).isComparison = false := rfl
      exact calculate_not_string notCompare computed
    | _ => cases isAdd
  · intro joined
    rw [combine_eq, if_pos joined]
    exact kept _

end
end Value

namespace Expr

variable {op : BinaryOp} {left right : Expr}

/-- Evaluation of the node joins text, for some operands that are there and of their types. -/
def Joins (op : BinaryOp) (left right : Expr) : Prop :=
  ∃ (ev : Evaluator) (eval : Expr → Run Value) (l r : Value) (before mid after : Trace),
    l.instanceOf left.type = true ∧ r.instanceOf right.type = true ∧
      Gives (eval left) before l mid ∧ Gives (eval right) mid r after ∧
      Gives (ev.step eval (left.combine op right)) before (.string (l.text ++ r.text)) after

theorem gives_sum {ev : Evaluator} {eval : Expr → Run Value} {l r v : Value}
    {before mid after late : Trace} (isAdd : op.isAdd = true)
    (leftGives : Gives (eval left) before l mid) (rightGives : Gives (eval right) mid r after) :
    Gives (ev.step eval (left.combine op right)) before v late ↔
      Value.combine op l r (op.resultType left.type right.type) = .ok v ∧ after = late := by
  cases op with
  | add checked =>
    have leftRun : outcome (eval left) before = (.ok l, mid) := leftGives
    have rightRun : outcome (eval right) mid = (.ok r, after) := rightGives
    rw [← gives_ofExcept]
    unfold Gives
    rw [combine, Evaluator.step, outcome_bind, leftRun]
    simp only [Evaluator.decided, Bool.false_eq_true, if_false]
    rw [outcome_bind, rightRun]
    rfl
  | _ => cases isAdd

theorem joins_iff (isAdd : op.isAdd = true) (leftBasic : left.type.IsBasic)
    (rightBasic : right.type.IsBasic) : Joins op left right ↔
      left.type.underlying = .string ∨ right.type.underlying = .string := by
  constructor
  · rintro ⟨ev, eval, l, r, before, mid, after, leftInstance, rightInstance, first, second, done⟩
    rw [gives_sum isAdd first second] at done
    exact (Value.combine_text_iff isAdd leftBasic rightBasic leftInstance rightInstance).1 done.1
  · intro text
    have leftInstance := DataType.sample_instance leftBasic
    have rightInstance := DataType.sample_instance rightBasic
    have joined :=
      (Value.combine_text_iff isAdd leftBasic rightBasic leftInstance rightInstance).2 text
    -- every operand comes to the sample of its own type, also where the two are one expression
    have sampled (e : Expr) : Gives (pure e.type.sample) [] e.type.sample [] := rfl
    exact ⟨{}, fun e => pure e.type.sample, _, _, [], [], [], leftInstance, rightInstance,
      sampled left, sampled right,
      (gives_sum isAdd (sampled left) (sampled right)).2 ⟨joined, rfl⟩⟩

def CompilesTo (P : Fragment → Prop) (e : Expr) : Prop :=
  ∀ (c : Compiler) (levels : Nat) (before after : Trace),
    (∀ o, Gives ((c.level levels).operand e) before o after → ∃ f, o = .fragment f ∧ P f) ∧
      ∀ f, ¬ Gives ((c.level levels).predicate e) before f after

theorem sum_compiles {family : Family} (isAdd : op.isAdd = true)
    (typed : (if left.type.isString || right.type.isString then .concat else .arithmetic .add)
      = family) :
    CompilesTo (fun f => ∃ fs, f = family.node fs) (left.combine op right) := by
  have same : op.family? (op.resultType left.type right.type) = some family := by
    rw [BinaryOp.family_sum isAdd, typed]
  have other (connective : Connective) : family ≠ .logical connective := by
    rw [← typed]
    split <;> simp
  intro c levels before after
  cases levels with
  | zero => exact ⟨fun o gives => absurd gives gives_throw, fun f => gives_throw⟩
  | succ levels =>
    constructor
    · intro o gives
      change Gives (c.operandAbove (c.level levels) (left.combine op right)) before o after at gives
      rw [combine, operandAbove_chain same other, Level.gather_eq_mapM, bind_assoc] at gives
      obtain ⟨fs, mid, -, gives⟩ := gives_bind.mp gives
      rw [pure_bind, gives_pure] at gives
      exact ⟨family.node fs, gives.1.symm, fs, rfl⟩
    · intro f gives
      change Gives ((c.level levels).predicateAbove (left.combine op right)) before f after at gives
      have notCompare : op.isComparison = false := by cases op <;> first | rfl | cases isAdd
      rw [combine, predicateAbove_unchained notCompare] at gives
      · exact gives_throw gives
      · intro connective chained
        exact other connective (Option.some.inj (same.symm.trans chained))

theorem concat_compiles (isAdd : op.isAdd = true)
    (text : left.type = .string ∨ right.type = .string) :
    CompilesTo (fun f => ∃ fs, f = .function "CONCAT" fs) (left.combine op right) := by
  have typed : (left.type.isString || right.type.isString) = true := by
    rcases text with same | same <;> simp [same, DataType.isString]
  exact sum_compiles isAdd (if_pos typed)

theorem addition_compiles (isAdd : op.isAdd = true) (leftOther : left.type ≠ .string)
    (rightOther : right.type ≠ .string) :
    CompilesTo (fun f => ∃ fs, f = .arithmetic .add fs) (left.combine op right) := by
  have untyped : ¬ (left.type.isString || right.type.isString) = true := by
    simp [DataType.isString, leftOther, rightOther]
  exact sum_compiles isAdd (if_neg untyped)

theorem underlying_string {t : DataType} :
    t.underlying = .string ↔ t = .string ∨ t = .nullable .string := by
  cases t <;> simp [DataType.underlying]

/-- Some operand is an optional string, and none is a string. -/
def OnlyOptional (left right : Expr) : Prop :=
  left.type ≠ .string ∧ right.type ≠ .string ∧
    (left.type = .nullable .string ∨ right.type = .nullable .string)

/-- A sum is compiled to a CONCAT where its evaluation may join text, and to an addition where it
may not. Where the only strings among the operands are optional it is compiled to an addition, and
its evaluation joins text. -/
theorem sums_compiled (isAdd : op.isAdd = true) (leftBasic : left.type.IsBasic)
    (rightBasic : right.type.IsBasic) :
    (¬ OnlyOptional left right →
      (Joins op left right →
        CompilesTo (fun f => ∃ fs, f = .function "CONCAT" fs) (left.combine op right)) ∧
      (¬ Joins op left right →
        CompilesTo (fun f => ∃ fs, f = .arithmetic .add fs) (left.combine op right))) ∧
    (OnlyOptional left right → Joins op left right ∧
      CompilesTo (fun f => ∃ fs, f = .arithmetic .add fs) (left.combine op right)) := by
  have text := joins_iff isAdd leftBasic rightBasic
  rw [underlying_string, underlying_string] at text
  refine ⟨fun told => ⟨fun joins => concat_compiles isAdd ?_, fun counts => ?_⟩, ?_⟩
  · by_contra none
    rw [not_or] at none
    refine told ⟨none.1, none.2, ?_⟩
    rcases text.1 joins with (same | optional) | (same | optional)
    · exact absurd same none.1
    · exact .inl optional
    · exact absurd same none.2
    · exact .inr optional
  · refine addition_compiles isAdd (fun same => ?_) (fun same => ?_)
    · exact counts (text.2 (.inl (.inl same)))
    · exact counts (text.2 (.inr (.inl same)))
  · rintro ⟨leftOther, rightOther, optional⟩
    exact ⟨text.2 (optional.imp .inr .inr), addition_compiles isAdd leftOther rightOther⟩

theorem name_and_age_compiled :
    let c : Compiler := ⟨{ tables := ["Person"] }, {}⟩
    let p : Expr := .parameter "p" (.record "Person")
    let name := p.access "Name" .string
    let age := p.access "Age" (.nullable (.int .i32))
    (BinaryOp.add true).isAdd = true ∧ name.type.IsBasic ∧ age.type.IsBasic ∧
      Joins (.add true) name age ∧
      CompilesTo (fun f => ∃ fs, f = .function "CONCAT" fs) (name.combine (.add true) age) ∧
      ∃ f, Gives ((c.level 2).operand (name.combine (.add true) age)) [] (.fragment f) [] := by
  intro c p name age
  have nameBasic : name.type.IsBasic := ⟨rfl, rfl⟩
  have ageBasic : age.type.IsBasic := ⟨rfl, rfl⟩
  have joins : Joins (.add true) name age := (joins_iff rfl nameBasic ageBasic).2 (.inl rfl)
  have told : ¬ OnlyOptional name age := fun optional => optional.1 rfl
  exact ⟨rfl, nameBasic, ageBasic, joins,
    ((sums_compiled rfl nameBasic ageBasic).1 told).1 joins, _, rfl⟩

/-- Two optional strings are joined by the evaluator, and compiled to an addition. -/
theorem nicknames_added :
    let c : Compiler := ⟨{ tables := ["Person"] }, {}⟩
    let p : Expr := .parameter "p" (.record "Person")
    let nick := p.access "Nick" (.nullable .string)
    let suffix : Expr := .constant (.string "!") (.nullable .string)
    nick.type.IsBasic ∧ suffix.type.IsBasic ∧ Joins (.add false) nick suffix ∧
      ∃ fs, Gives ((c.level 2).operand (nick.combine (.add false) suffix)) []
        (.fragment (.arithmetic .add fs)) [] := by
  intro c p nick suffix
  have nickBasic : nick.type.IsBasic := ⟨rfl, rfl⟩
  have suffixBasic : suffix.type.IsBasic := ⟨rfl, rfl⟩
  exact ⟨nickBasic, suffixBasic, (joins_iff rfl nickBasic suffixBasic).2 (.inl rfl), _, rfl⟩

end Expr
end ExprSql
