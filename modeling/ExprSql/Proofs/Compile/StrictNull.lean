import ExprSql.Proofs.Compile.Questions
import ExprSql.Proofs.Value.Target

/-!
Strict null conversion. A strict run is the lenient one, but that it fails where the lenient one goes
on with the default of a type that does not allow null.
-/
namespace ExprSql

open Run

def Evaluator.withNulls (ev : Evaluator) (strict : Bool) : Evaluator :=
  { ev with options := { ev.options with strictNull := strict } }

def Compiler.withNulls (c : Compiler) (strict : Bool) : Compiler :=
  { c with evaluator := c.evaluator.withNulls strict }

/-- The types that leave an uninitialised slot null, though they are not nullable. -/
def DataType.isReference : DataType → Bool
  | .object | .string | .array _ | .list _ | .record _ => true
  | _ => false

def Failure.nullRefused (t : DataType) : Failure :=
  .invocation ("cast to " ++ t.name) (.failed (.nullValue t))

/-- A unary operator that converts a null to a type that does not allow it. The first type is that
of the operand, which needs a conversion unless the target takes it as it is. -/
inductive ConvertsNull : UnaryOp → DataType → DataType → Option Member → Value → Prop
  | cast {s t : DataType} (checked : Bool) (converts : t.assignable s = false)
      (notNullable : t.isNullable = false) : ConvertsNull (.cast checked) s t none .null

theorem null_refused_alike {α : Type} {x : Run α} {before after after' : Trace} {s t : DataType}
    (fails : Fails x before (.nullRefused s) after)
    (other : Fails x before (.nullRefused t) after') : s = t := by
  have same := fails.symm.trans other
  simp only [Failure.nullRefused] at same
  grind

theorem default_of_reference {t : DataType} (notNullable : t.isNullable = false) :
    t.default.isNull = false ∨ t.isReference = true ∧ t.default = .null := by
  cases t with
  | nullable inner => cases notNullable
  | numeric k => cases k <;> exact .inl rfl
  | bool | decimal | enumeration => exact .inl rfl
  | object | string | array | list | record => exact .inr ⟨rfl, rfl⟩

namespace Evaluator

variable {ev : Evaluator} {op : UnaryOp} {s t : DataType} {method : Option Member} {v w : Value}
  {checked : Bool}

theorem cast_strict :
    (ev.withNulls true).cast checked v t = if v.isNull && !t.isNullable then
      .error (.nullRefused t) else (ev.withNulls false).cast checked v t := by
  simp [cast, withNulls, Failure.nullRefused]

theorem cast_lenient (notNullable : t.isNullable = false) :
    (ev.withNulls false).cast checked .null t = .ok t.default := by
  have default : Value.null.cast checked t = .ok t.default := by
    cases t with
    | nullable inner => cases notNullable
    | _ => rfl
  simp [cast, withNulls, default, Except.mapError]

theorem apply_refused (converts : ConvertsNull op s t method v) :
    (ev.withNulls true).apply op s t method v = throw (Failure.nullRefused t) := by
  cases converts with
  | cast checked converts notNullable =>
    rw [apply_cast, converts, cast_strict, notNullable]
    rfl

theorem apply_supplied (converts : ConvertsNull op s t method v) :
    (ev.withNulls false).apply op s t method v = pure t.default := by
  cases converts with
  | cast checked converts notNullable =>
    rw [apply_cast, converts, cast_lenient notNullable]
    rfl

theorem apply_alike (other : ¬ ConvertsNull op s t method v) :
    (ev.withNulls true).apply op s t method v = (ev.withNulls false).apply op s t method v := by
  cases method with
  | some m => rfl
  | none =>
    cases op with
    | cast checked =>
      rw [apply_cast, apply_cast, cast_strict]
      cases converts : t.assignable s with
      | true => rfl
      | false =>
        have passes : (v.isNull && !t.isNullable) = false := by
          by_contra null
          obtain ⟨isNull, notNullable⟩ : v.isNull = true ∧ t.isNullable = false := by
            simpa using null
          cases v with
          | null => exact other (.cast checked converts notNullable)
          | _ => cases isNull
        rw [passes]
        rfl
    | _ => rfl

theorem alike_of_no_cast {e : Expr}
    (noCast : ¬ ∃ checked operand t, e = .unary (.cast checked) operand t none) :
    (ev.withNulls true).AppliesAlike (ev.withNulls false) e := by
  rintro op operand t method rfl v
  refine apply_alike fun converts => ?_
  cases converts
  exact noCast ⟨_, operand, t, rfl⟩

theorem apply_agrees (op : UnaryOp) (s t : DataType) (method : Option Member) (v : Value) :
    Agree (fun before e after => ConvertsNull op s t method v ∧ e = .nullRefused t ∧ after = before)
      ((ev.withNulls true).apply op s t method v)
      ((ev.withNulls false).apply op s t method v) := by
  by_cases converts : ConvertsNull op s t method v
  · rw [apply_refused converts]
    exact fun before => .inr ⟨_, before, rfl, converts, rfl, rfl⟩
  · rw [apply_alike converts]
    exact agree_refl _

theorem null_of_strict_cast (null : v.isNull = true) {before after : Trace}
    (gives : Gives ((ev.withNulls true).apply (.cast checked) s t none v) before w after) :
    w.isNull = true := by
  rw [apply_cast] at gives
  split at gives
  · obtain ⟨rfl, -⟩ := gives_pure.1 gives
    exact null
  · obtain ⟨done, -⟩ := gives_ofExcept.1 gives
    rw [cast_strict, null, Bool.true_and] at done
    cases v with
    | null =>
      cases t with
      | nullable inner =>
        cases done
        rfl
      | _ => cases done
    | _ => cases null

/-- Evaluation with some levels left comes, on the trace `after`, to convert a null to `t`, which
gives the default of `t`. -/
inductive SuppliesDefault (ev : Evaluator) (t : DataType) (after : Trace) :
    Nat → Expr → Trace → Prop
  | cast {levels : Nat} {checked : Bool} {operand : Expr} {before : Trace}
      (converts : ConvertsNull (.cast checked) operand.type t none .null)
      (null : Gives (ev.evalWithin levels operand) before .null after)
      (supplied : Gives (ev.evalWithin (levels + 1) (.unary (.cast checked) operand t none)) before
        t.default after) :
      SuppliesDefault ev t after (levels + 1) (.unary (.cast checked) operand t none) before
  | operand {levels : Nat} {e operand : Expr} {before met : Trace}
      (asks : Asks (fun eval => ev.step eval e) (ev.evalWithin levels) before operand met)
      (below : SuppliesDefault ev t after levels operand met) :
      SuppliesDefault ev t after (levels + 1) e before

end Evaluator

/-- Excuses a run that refuses a null, where one that supplies a default stands against it. -/
def RefusesNull (supplies : DataType → Trace → Trace → Prop) : Trace → Failure → Trace → Prop :=
  fun before e after => ∃ t, e = .nullRefused t ∧ supplies t after before

namespace Evaluator

variable {ev : Evaluator}

theorem cast_agrees {levels : Nat} {checked : Bool} {operand : Expr} {t : DataType}
    (below : Agree (RefusesNull ((ev.withNulls false).SuppliesDefault · · levels operand))
      ((ev.withNulls true).evalWithin levels operand)
      ((ev.withNulls false).evalWithin levels operand)) :
    Agree (RefusesNull ((ev.withNulls false).SuppliesDefault · · (levels + 1)
        (.unary (.cast checked) operand t none)))
      ((ev.withNulls true).evalWithin (levels + 1) (.unary (.cast checked) operand t none))
      ((ev.withNulls false).evalWithin (levels + 1) (.unary (.cast checked) operand t none)) := by
  refine agree_weaken (agree_bind below fun v => apply_agrees (.cast checked) operand.type t none v)
    ?_
  -- The operand has refused a null already, or it has given the null that is refused here.
  rintro before e after (⟨u, rfl, supplies⟩ | ⟨v, mid, gives, converts, rfl, rfl⟩)
  · exact ⟨u, rfl, .operand (asks_first _ _ before) supplies⟩
  · have applied : (ev.withNulls false).apply (.cast checked) operand.type t none v
        = pure t.default := apply_supplied converts
    cases converts with
    | cast _ converts notNullable =>
      refine ⟨t, rfl, .cast (.cast checked converts notNullable) gives ?_⟩
      exact gives_bind.2 ⟨.null, after, gives, by rw [applied]; exact gives_pure.2 ⟨rfl, rfl⟩⟩

theorem evalWithin_strict (levels : Nat) (e : Expr) :
    Agree (RefusesNull ((ev.withNulls false).SuppliesDefault · · levels e))
      ((ev.withNulls true).evalWithin levels e) ((ev.withNulls false).evalWithin levels e) := by
  induction levels generalizing e with
  | zero => exact fun _ => .inl rfl
  | succ levels ih =>
    -- Only a cast does differently of itself; any other node differs where an operand does.
    by_cases casts : ∃ checked operand t, e = .unary (.cast checked) operand t none
    · obtain ⟨checked, operand, t, rfl⟩ := casts
      exact cast_agrees (ih operand)
    · have alike : (ev.withNulls true).AppliesAlike (ev.withNulls false) e :=
        alike_of_no_cast casts
      refine agree_weaken (step_agrees (ev.withNulls true) (ev.withNulls false) rfl alike ih) ?_
      rintro before x after ⟨operand, met, asks, t, rfl, supplies⟩
      exact ⟨t, rfl, .operand asks supplies⟩

end Evaluator

namespace Compiler

inductive SuppliesDefault (c : Compiler) (t : DataType) (after : Trace) :
    Nat → Question → Trace → Prop
  | value {levels : Nat} {e : Expr} {before : Trace}
      (supplies : c.evaluator.SuppliesDefault t after c.evaluator.options.maxDepth e before) :
      SuppliesDefault c t after levels (.value e) before
  | whole {levels : Nat} {e : Expr} {before : Trace}
      (whole : ∀ o, c.above o (.operand e) = c.evaluate e)
      (supplies : c.evaluator.SuppliesDefault t after c.evaluator.options.maxDepth e before) :
      SuppliesDefault c t after (levels + 1) (.operand e) before
  | cast {levels : Nat} {checked : Bool} {operand : Expr} {before : Trace}
      (converts : ConvertsNull (.cast checked) operand.type t none .null)
      (null : Gives ((c.level levels).operand operand) before (.value .null) after)
      (supplied : Gives ((c.level (levels + 1)).operand (.unary (.cast checked) operand t none))
        before (.value t.default) after) :
      SuppliesDefault c t after (levels + 1) (.operand (.unary (.cast checked) operand t none))
        before
  | asked {levels : Nat} {q asked : Question} {before met : Trace}
      (asks : Asks (fun o => c.above o q) (c.level levels).answer before asked met)
      (supplies : SuppliesDefault c t after levels asked met) :
      SuppliesDefault c t after (levels + 1) q before

variable {c : Compiler}

abbrev Excused (c : Compiler) (levels : Nat) (q : Question) : Trace → Failure → Trace → Prop :=
  RefusesNull ((c.withNulls false).SuppliesDefault · · levels q)

def castOperand (c : Compiler) (checked : Bool) (s t : DataType) : Operand → Run Operand
  | .value v => do
      let v ← c.evaluator.apply (.cast checked) s t none v
      pure (.value v)
  | .fragment f => pure (.fragment f)

theorem operand_cast (levels : Nat) (checked : Bool) (operand : Expr) (t : DataType) :
    (c.level (levels + 1)).operand (.unary (.cast checked) operand t none)
      = (c.level levels).operand operand >>= c.castOperand checked operand.type t := by
  refine bind_congr fun a => ?_
  cases a <;> rfl

theorem castOperand_agrees (checked : Bool) (s t : DataType) (a : Operand) :
    Agree (fun before e after => a = .value .null ∧ ConvertsNull (.cast checked) s t none .null ∧
        e = .nullRefused t ∧ after = before)
      ((c.withNulls true).castOperand checked s t a)
      ((c.withNulls false).castOperand checked s t a) := by
  cases a with
  | fragment f => exact agree_refl _
  | value v =>
    have applied : Agree _ ((c.withNulls true).evaluator.apply (.cast checked) s t none v)
        ((c.withNulls false).evaluator.apply (.cast checked) s t none v) :=
      Evaluator.apply_agrees (.cast checked) s t none v
    refine agree_weaken (agree_then applied _) ?_
    rintro before e after ⟨converts, refused, same⟩
    cases v with
    | null => exact ⟨rfl, converts, refused, same⟩
    | _ => cases converts

theorem cast_operand_agrees {levels : Nat} {checked : Bool} {operand : Expr} {t : DataType}
    (below : Agree (c.Excused levels (.operand operand))
      (((c.withNulls true).level levels).operand operand)
      (((c.withNulls false).level levels).operand operand)) :
    Agree (c.Excused (levels + 1) (.operand (.unary (.cast checked) operand t none)))
      (((c.withNulls true).level (levels + 1)).operand (.unary (.cast checked) operand t none))
      (((c.withNulls false).level (levels + 1)).operand
        (.unary (.cast checked) operand t none)) := by
  have supplied := operand_cast (c := c.withNulls false) levels checked operand t
  rw [operand_cast, supplied]
  refine agree_weaken (agree_bind below (castOperand_agrees checked operand.type t)) ?_
  rintro before e after (⟨u, rfl, supplies⟩ | ⟨a, mid, gives, rfl, converts, rfl, rfl⟩)
  · exact ⟨u, rfl, .asked (asks_first _ _ before) supplies⟩
  · refine ⟨t, rfl, .cast converts gives ?_⟩
    have applied : (c.withNulls false).evaluator.apply (.cast checked) operand.type t none .null
        = pure t.default := Evaluator.apply_supplied converts
    rw [supplied]
    refine gives_bind.2 ⟨_, after, gives, ?_⟩
    rw [castOperand, applied]
    exact gives_pure.2 ⟨rfl, rfl⟩

theorem answer_strict (standard : c.registry.Standard) (levels : Nat) (q : Question) :
    Agree (c.Excused levels q) (((c.withNulls true).level levels).answer q)
      (((c.withNulls false).level levels).answer q) := by
  have evaluated (e : Expr) :
      Agree (RefusesNull ((c.withNulls false).evaluator.SuppliesDefault · ·
          c.evaluator.options.maxDepth e))
        ((c.withNulls true).evaluator.eval e) ((c.withNulls false).evaluator.eval e) :=
    Evaluator.evalWithin_strict c.evaluator.options.maxDepth e
  induction levels generalizing q with
  | zero =>
    cases q with
    | value e =>
      rw [answer_value, answer_value]
      refine agree_weaken (evaluated e) ?_
      rintro before x after ⟨t, rfl, supplies⟩
      exact ⟨t, rfl, .value supplies⟩
    | _ => exact fun _ => .inl rfl
  | succ levels ih =>
    -- A cast that is evaluated whole is the evaluator's; here it stands over a compiled operand.
    by_cases casts : ∃ checked operand t, q = .operand (.unary (.cast checked) operand t none)
    · obtain ⟨checked, operand, t, rfl⟩ := casts
      exact cast_operand_agrees (ih (.operand operand))
    · have alike (e : Expr) (asked : q = .operand e) :
          (c.evaluator.withNulls true).AppliesAlike (c.evaluator.withNulls false) e := by
        refine Evaluator.alike_of_no_cast ?_
        rintro ⟨checked, operand, t, rfl⟩
        exact casts ⟨checked, operand, t, asked⟩
      rw [answer_succ, answer_succ]
      refine agree_weaken (above_agrees standard ih evaluated q alike) ?_
      rintro before x after
        (⟨asked, met, asks, t, rfl, supplies⟩ | ⟨e, evaluates, t, rfl, supplies⟩)
      · exact ⟨t, rfl, .asked asks supplies⟩
      · cases evaluates with
        | value => exact ⟨t, rfl, .value supplies⟩
        | operand whole => exact ⟨t, rfl, .whole whole supplies⟩

end Compiler

theorem Evaluator.SuppliesDefault.notNullable {ev : Evaluator} {t : DataType} {after : Trace}
    {levels : Nat} {e : Expr} {before : Trace}
    (supplies : ev.SuppliesDefault t after levels e before) : t.isNullable = false := by
  induction supplies with
  | cast converts null supplied =>
    cases converts
    assumption
  | operand asks below ih => exact ih

theorem Compiler.SuppliesDefault.notNullable {c : Compiler} {t : DataType} {after : Trace}
    {levels : Nat} {q : Question} {before : Trace}
    (supplies : c.SuppliesDefault t after levels q before) : t.isNullable = false := by
  induction supplies with
  | value supplies | whole _ supplies => exact supplies.notNullable
  | cast converts null supplied =>
    cases converts
    assumption
  | asked _ _ ih => exact ih

/-- A strict run comes to what the lenient one comes to, after the same calls, or it refuses a null
where the lenient one goes on with the default of the type; that default is null itself for the
reference types alone. No cast of a strict run makes a value of null. -/
theorem strict_differs_at_refused_nulls (c : Compiler) (standard : c.registry.Standard) :
    (∀ (q : Question) (before : Trace),
      outcome ((c.withNulls true).ask q) before = outcome ((c.withNulls false).ask q) before ∨
      ∃ t after, Fails ((c.withNulls true).ask q) before (.nullRefused t) after ∧
        (c.withNulls false).SuppliesDefault t after c.evaluator.options.maxDepth q before ∧
        (t.default.isNull = false ∨ t.isReference = true ∧ t.default = .null)) ∧
    ∀ (checked : Bool) (s t : DataType) (v w : Value) (before after : Trace), v.isNull = true →
      Gives ((c.evaluator.withNulls true).apply (.cast checked) s t none v) before w after →
        w.isNull = true := by
  constructor
  · intro q before
    have agree := Compiler.answer_strict standard c.evaluator.options.maxDepth q before
    rw [Compiler.ask_eq_answer, Compiler.ask_eq_answer]
    rcases agree with same | ⟨e, after, fails, t, rfl, supplies⟩
    · exact .inl same
    · exact .inr ⟨t, after, fails, supplies, default_of_reference supplies.notNullable⟩
  · intro checked s t v w before after null gives
    exact Evaluator.null_of_strict_cast null gives

theorem absent_shift_refused :
    let seed : Expr := .thunk (.int .i32) "seed" ⟨0, fun _ => .ok (.int .i32 ⟨7, by decide⟩)⟩
    let shift : Expr :=
      .unary (.cast true) (.constant .null (.nullable (.int .i32))) (.int .i32) none
    let q : Question := .value (.binary (.add true) seed shift (.int .i32) none)
    let c : Compiler := { registry := ({} : Registry).registerStandard }
    let wide : DataType := .nullable (.int .i64)
    c.registry.Standard ∧
      Gives ((c.withNulls false).ask q) [] (Value.int .i32 ⟨7, by decide⟩) [.thunk "seed"] ∧
      (∃ t after, Fails ((c.withNulls true).ask q) [] (.nullRefused t) after ∧
        (c.withNulls false).SuppliesDefault t after c.evaluator.options.maxDepth q []) ∧
      ∃ w, Gives ((c.evaluator.withNulls true).apply (.cast true) (.int .i32) wide none .null) [] w
        [] ∧ w.isNull = true := by
  intro seed shift q c wide
  have standard : c.registry.Standard :=
    Registry.registerStandard_standard (Registry.unhandled_standard [])
  have strict : Fails ((c.withNulls true).ask q) [] (.nullRefused (.int .i32)) [.thunk "seed"] :=
    rfl
  have lenient :
      Gives ((c.withNulls false).ask q) [] (Value.int .i32 ⟨7, by decide⟩) [.thunk "seed"] := rfl
  have kept :
      Gives ((c.evaluator.withNulls true).apply (.cast true) (.int .i32) wide none .null) [] .null
        [] := rfl
  have differ := strict_differs_at_refused_nulls c standard
  refine ⟨standard, lenient, ?_, .null, kept, differ.2 _ _ _ _ _ _ _ rfl kept⟩
  rcases differ.1 q [] with same | ⟨t, after, fails, supplies, -⟩
  · cases strict.symm.trans (same.trans lenient)
  · exact ⟨t, after, fails, supplies⟩

/-- A string is no value type and its default is null, yet a null is refused. -/
theorem absent_name_refused :
    let name : Expr := .unary (.cast false) (.constant .null (.nullable .string)) .string none
    let c : Compiler := { registry := ({} : Registry).registerStandard }
    Gives ((c.withNulls false).ask (.value name)) [] .null [] ∧
      ¬ (outcome ((c.withNulls true).ask (.value name)) []
            = outcome ((c.withNulls false).ask (.value name)) [] ∨
          ∃ t after, Fails ((c.withNulls true).ask (.value name)) [] (.nullRefused t) after ∧
            t.default.isNull = false) := by
  intro name c
  have strict : Fails ((c.withNulls true).ask (.value name)) [] (.nullRefused .string) [] := rfl
  have lenient : Gives ((c.withNulls false).ask (.value name)) [] .null [] := rfl
  refine ⟨lenient, ?_⟩
  rintro (same | ⟨t, after, fails, present⟩)
  · cases strict.symm.trans (same.trans lenient)
  · cases null_refused_alike strict fails
    cases present

end ExprSql
