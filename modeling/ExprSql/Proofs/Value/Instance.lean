import ExprSql.Proofs.Value.Cast
import ExprSql.Proofs.Value.Plain
import ExprSql.Expr.Builder

namespace ExprSql

namespace DataType

variable {t : DataType}

def isScalar : DataType → Bool
  | .bool | .string | .numeric _ | .decimal | .enumeration .. => true
  | _ => false

theorem operandKind_underlying (scalar : t.underlying.isScalar = true) :
    t.underlying.operandKind? = t.operandKind? := by
  cases t with
  | nullable inner => cases inner <;> first | rfl | cases scalar
  | _ => rfl

end DataType

namespace Value

variable {u v : Value} {t : DataType} {k : NumericKind} {checked : Bool}

def Fits (v : Value) (t : DataType) : Prop := v.isNull = true ∨ v.instanceOf t = true

instance (v : Value) (t : DataType) : Decidable (v.Fits t) := inferInstanceAs (Decidable (_ ∨ _))

theorem present_of_instance (isInstance : v.instanceOf t = true) : v.isNull = false := by
  cases v with
  | null => simp [instanceOf] at isInstance
  | _ => rfl

theorem instance_nullable (v : Value) (t : DataType) :
    v.instanceOf (.nullable t) = v.instanceOf t := by
  cases v with
  | null => simp [instanceOf]
  | _ => rfl

theorem instance_underlying (v : Value) (t : DataType) :
    v.instanceOf t = v.instanceOf t.underlying := by
  cases t with
  | nullable inner => exact instance_nullable v inner
  | _ => rfl

theorem instance_scalar (scalar : t.isScalar = true) : v.instanceOf t = true ↔ v.type = t := by
  cases t <;> cases scalar <;> cases v <;> simp [instanceOf, type]

theorem fits_of_type (scalar : v.type.isScalar = true) (typed : v.type = t.underlying) :
    v.Fits t := by
  rw [typed] at scalar
  exact .inr (by rw [instance_underlying, instance_scalar scalar, typed])

theorem type_of_kind (found : v.operand.numericKind? = some k) :
    v.type.operandKind? = some k := by
  cases v with
  | enumeration name backing =>
    change backing.numericKind? = some k at found
    simp [type, DataType.operandKind?, DataType.underlying, found]
  | int i n | float w x | char c =>
    cases found
    rfl
  | _ => cases found

structure IsOperand (v : Value) (t : DataType) : Prop where
  scalar : t.underlying.isScalar = true
  fits : v.Fits t

namespace IsOperand

theorem type (operand : v.IsOperand t) (present : v.isNull = false) : v.type = t.underlying := by
  rcases operand.fits with null | isInstance
  · cases present.symm.trans null
  · rw [instance_underlying] at isInstance
    exact (instance_scalar operand.scalar).1 isInstance

theorem kind (operand : v.IsOperand t) (found : v.operand.numericKind? = some k) :
    t.underlying.operandKind? = some k := by
  have present : v.isNull = false := by
    cases v with
    | null => cases found
    | _ => rfl
  rw [← operand.type present]
  exact type_of_kind found

theorem bool {b : Bool} (operand : (Value.bool b).IsOperand t) : t.underlying = .bool :=
  (operand.type rfl).symm

theorem string (operand : v.IsOperand t) (isString : v.isString = true) :
    t.underlying = .string := by
  cases v with
  | string s => exact (operand.type rfl).symm
  | _ => cases isString

end IsOperand

theorem narrow_kind {source : Source} (done : source.narrow checked k = .ok u) :
    u.numericKind? = some k := by
  cases k with
  | int i =>
    obtain ⟨n, -, rfl⟩ := map_ok done
    rfl
  | float w =>
    cases done
    rfl
  | char =>
    obtain ⟨unit, -, made⟩ := bind_done done
    split at made
    · cases made
      rfl
    · split at made <;> cases made
      rfl

theorem ofDecimal_kind {d : Decimal} (done : ofDecimal d k = .ok u) : u.numericKind? = some k := by
  cases k with
  | int i =>
    obtain ⟨n, -, made⟩ := bind_done done
    cases made
    rfl
  | float w =>
    cases done
    rfl
  | char =>
    obtain ⟨unit, -, made⟩ := bind_done done
    cases found : unitChar? unit.val with
    | none =>
      rw [found] at made
      cases made
    | some c =>
      rw [found] at made
      cases made
      rfl

theorem toNumeric_kind (done : v.toNumeric k checked = .ok u) : u.numericKind? = some k := by
  unfold toNumeric at done
  split at done
  · exact ofDecimal_kind done
  · split at done
    · exact narrow_kind done
    · cases done

theorem cast_enumeration {name : String}
    (target : t.underlying = .enumeration name k) (present : v.isNull = false) :
    v.cast checked t = (v.toNumeric k checked).map (.enumeration name) := by
  cases t with
  | nullable inner =>
    cases target
    exact cast_counted (t := .nullable (.enumeration name k)) rfl present
  | enumeration name' k' =>
    cases target
    exact cast_counted (t := .enumeration name k) rfl present
  | _ => cases target

theorem rewrap_fits (enumeration : t.isEnumeration = true) (done : u.rewrap t = .ok v) :
    v.Fits t := by
  unfold rewrap at done
  rw [enumeration, Bool.not_true, Bool.or_false] at done
  split at done
  · rename_i null
    cases done
    exact .inl null
  rename_i present
  rw [Bool.not_eq_true] at present
  obtain ⟨name, k, target⟩ : ∃ name k, t.underlying = .enumeration name k := by
    unfold DataType.isEnumeration at enumeration
    split at enumeration
    · exact ⟨_, _, ‹_›⟩
    · cases enumeration
  rw [cast_enumeration target present, mapError_ok] at done
  obtain ⟨w, cast, rfl⟩ := map_ok done
  have typed : (Value.enumeration name w).type = t.underlying := by
    rw [target, type, toNumeric_kind cast, Option.getD_some]
  exact fits_of_type rfl typed

end Value
end ExprSql
