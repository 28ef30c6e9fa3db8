import ExprSql.Evaluate
import ExprSql.Proofs.Run
import ExprSql.Proofs.Value.Instance

namespace ExprSql

open Run

theorem DataType.assignable_cases {s t : DataType} (assignable : t.assignable s = true) :
    t = s ∨ t = .object ∨ t = .nullable s := by
  unfold DataType.assignable at assignable
  simpa [or_assoc] using assignable

namespace Value

variable {v w : Value} {s t : DataType} {k : NumericKind} {checked : Bool}

theorem zero_kind (k : NumericKind) : (zero k).numericKind? = some k := by
  cases k <;> rfl

theorem type_of_numericKind (kind : v.numericKind? = some k) : v.type = .numeric k := by
  cases v <;> cases kind <;> rfl

theorem type_enumeration {name : String} (kind : v.numericKind? = some k) :
    (Value.enumeration name v).type = .enumeration name k := by
  rw [type, kind, Option.getD_some]

theorem default_fits (t : DataType) : t.default.Fits t := by
  cases t with
  | numeric k => exact fits_of_type (by cases k <;> rfl) (type_of_numericKind (zero_kind k))
  | enumeration name k => exact fits_of_type rfl (type_enumeration (zero_kind k))
  | bool | decimal => exact .inr rfl
  | _ => exact .inl rfl

theorem instance_object (present : v.isNull = false) : v.instanceOf .object = true := by
  cases v with
  | null => cases present
  | _ => rfl

theorem instance_type (present : v.isNull = false) : v.instanceOf v.type = true := by
  cases v with
  | null => cases present
  | _ => simp [instanceOf, type]

theorem cast_instance (present : v.isNull = false) (done : v.cast checked t = .ok w) :
    w.instanceOf t = true := by
  induction t with
  | nullable inner ih =>
    rw [instance_nullable]
    exact ih (by simpa [cast, present] using done)
  | numeric k =>
    rw [cast_counted rfl present] at done
    obtain ⟨u, number, rfl⟩ := map_ok done
    exact (instance_scalar rfl).2 (type_of_numericKind (toNumeric_kind number))
  | enumeration name k =>
    rw [cast_enumeration rfl present] at done
    obtain ⟨u, number, rfl⟩ := map_ok done
    exact (instance_scalar rfl).2 (type_enumeration (toNumeric_kind number))
  | decimal =>
    simp only [cast, present] at done
    obtain ⟨d, -, rfl⟩ := map_ok done
    rfl
  | object =>
    simp only [cast, present] at done
    cases done
    exact instance_object present
  | bool | string | array | list | record =>
    simp only [cast, present, Bool.false_eq_true, if_false] at done
    split at done
    · rename_i assignable
      cases done
      rcases DataType.assignable_cases assignable with same | object | nullable
      · exact same ▸ instance_type present
      · cases object
      · cases nullable
    · cases done

theorem cast_of_null (done : Value.null.cast checked t = .ok w) : w.Fits t := by
  cases t with
  | nullable inner =>
    cases done
    exact .inl rfl
  | _ =>
    cases done
    exact default_fits _

theorem cast_fits (done : v.cast checked t = .ok w) : w.Fits t := by
  cases present : v.isNull with
  | false => exact .inr (cast_instance present done)
  | true =>
    cases v with
    | null => exact cast_of_null done
    | _ => cases present

theorem null_of_cast (done : v.cast checked t = .ok w) (null : w.isNull = true) :
    v.isNull = true := by
  by_contra present
  rw [Bool.not_eq_true] at present
  cases null.symm.trans (present_of_instance (cast_instance present done))

theorem assignable_fits (assignable : t.assignable s = true) (fits : v.Fits s) : v.Fits t := by
  rcases fits with null | isInstance
  · exact .inl null
  · rcases DataType.assignable_cases assignable with rfl | rfl | rfl
    · exact .inr isInstance
    · exact .inr (instance_object (present_of_instance isInstance))
    · exact .inr ((instance_nullable v s).trans isInstance)

end Value

namespace Evaluator

variable {ev : Evaluator}

theorem cast_ok {checked : Bool} {v w : Value} {t : DataType}
    (done : ev.cast checked v t = .ok w) : v.cast checked t = .ok w := by
  unfold cast at done
  split at done
  · cases done
  · exact Value.mapError_ok.1 done

theorem apply_cast {checked : Bool} {v : Value} {s t : DataType} :
    ev.apply (.cast checked) s t none v
      = if t.assignable s then pure v else ofExcept (ev.cast checked v t) :=
  rfl

theorem apply_cast_fits {checked : Bool} {v w : Value} {s t : DataType} {before after : Trace}
    (fits : v.Fits s) (gives : Gives (ev.apply (.cast checked) s t none v) before w after) :
    w.Fits t := by
  rw [apply_cast] at gives
  by_cases assignable : t.assignable s = true
  · rw [if_pos assignable] at gives
    obtain ⟨rfl, -⟩ := gives_pure.1 gives
    exact Value.assignable_fits assignable fits
  · rw [if_neg assignable] at gives
    obtain ⟨done, -⟩ := gives_ofExcept.1 gives
    exact Value.cast_fits (cast_ok done)

/-- What a cast gives is null or of the type asked for, and null comes of null alone; so a cast
node over an operand that keeps to its own type keeps to the node's. -/
theorem casts_deliver :
    (∀ (v w : Value) (t : DataType) (checked : Bool), v.cast checked t = .ok w →
      w.Fits t ∧ (w.isNull = true → v.isNull = true)) ∧
    ∀ (ev : Evaluator) (operand : Expr) (t : DataType) (checked : Bool) (v : Value),
      v.Fits operand.type → ∀ before w after,
        Gives (ev.apply (.cast checked) operand.type t none v) before w after → w.Fits t := by
  refine ⟨fun v w t checked done => ⟨Value.cast_fits done, Value.null_of_cast done⟩, ?_⟩
  intro ev operand t checked v fits before w after gives
  exact apply_cast_fits fits gives

theorem balances_as_units :
    let unit : DataType := .enumeration "Unit" .char
    let balance : Value := .int .i64 ⟨-10240, by decide⟩
    let operand : Expr := .constant .null (.nullable (.int .i64))
    let replaced : Value := .enumeration "Unit" (.char '\uFFFD')
    let zero : Value := .enumeration "Unit" (.char '\x00')
    balance.cast false (.nullable (.nullable unit)) = .ok replaced ∧
      replaced.Fits (.nullable (.nullable unit)) ∧ Value.null.Fits operand.type ∧
      Gives (({} : Evaluator).apply (.cast true) operand.type unit none .null) [] zero [] ∧
      zero.Fits unit := by
  intro unit balance operand replaced zero
  have cast : balance.cast false (.nullable (.nullable unit)) = .ok replaced := rfl
  have applied :
      Gives (({} : Evaluator).apply (.cast true) operand.type unit none .null) [] zero [] := rfl
  have fits : Value.null.Fits operand.type := .inl rfl
  exact ⟨cast, (casts_deliver.1 _ _ _ _ cast).1, fits, applied,
    casts_deliver.2 _ _ _ _ _ fits _ _ _ applied⟩

end Evaluator
end ExprSql
