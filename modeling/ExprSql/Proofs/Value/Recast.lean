import ExprSql.Proofs.Numeric.Binary
import ExprSql.Proofs.Value.Instance

namespace ExprSql

def DataType.collected? : DataType → Option DataType
  | .nullable inner => inner.collected?
  | t => t.element?

namespace Value

variable {v : Value} {t : DataType} {k : NumericKind} {checked : Bool}

/-- A number that its own kind has room for: any but the characters past sixteen bits. -/
def IsOwn (v : Value) : Prop :=
  v.numericKind?.isSome = true ∧ ∀ c, v = .char c → c.toNat ≤ 0xFFFF

theorem unitChar_char (c : Char) : unitChar? c.toNat = some c := by
  have valid : (c.toNat : Int).toNat.isValidChar := c.valid
  rw [unitChar?, dif_pos valid]
  rfl

theorem unitChar_below {u : Sized .u16} {c : Char} (found : unitChar? u.val = some c) :
    c.toNat ≤ 0xFFFF := by
  unfold unitChar? at found
  split at found
  · have upper : u.val ≤ 0xFFFF := u.property.2
    have same : c.toNat = u.val.toNat := by
      rw [← Option.some.inj found]
      rfl
    omega
  · cases found

theorem toSized_holds {i : IntKind} {n : Int} (holds : i.Holds n) :
    (Source.whole n).toSized i checked = .ok ⟨n, holds⟩ := by
  cases checked <;> simp [Source.toSized, Sized.fit_of_holds holds, Sized.wrap_of_holds holds]

theorem narrow_char {source : Source} {c : Char}
    (done : source.narrow checked .char = .ok (.char c)) : c.toNat ≤ 0xFFFF := by
  obtain ⟨unit, -, made⟩ := bind_done done
  split at made
  · rename_i found
    cases made
    exact unitChar_below found
  · split at made <;> cases made
    decide

theorem toNumeric_own (kind : v.numericKind? = some k) :
    v.toNumeric k checked = .ok v ↔ v.IsOwn := by
  have isNumber : v.numericKind?.isSome = true := by rw [kind]; rfl
  cases v with
  | int i n =>
    cases kind
    refine iff_of_true ?_ ⟨isNumber, by simp⟩
    simp [toNumeric, source?, Source.narrow, toSized_holds n.property, Except.map]
  | float w x =>
    cases kind
    refine iff_of_true ?_ ⟨isNumber, by simp⟩
    simp only [toNumeric, source?, Source.narrow, Source.toBinary, Binary.ofBinary_ofBinary]
  | char c =>
    cases kind
    constructor
    · intro done
      refine ⟨isNumber, fun d same => ?_⟩
      cases same
      exact narrow_char done
    · rintro ⟨-, narrow⟩
      have holds : IntKind.Holds .u16 c.toNat :=
        ⟨Int.natCast_nonneg _, Int.ofNat_le.2 (narrow c rfl)⟩
      change (Source.whole c.toNat).narrow checked .char = _
      simp only [Source.narrow, toSized_holds holds, bind, Except.bind, unitChar_char]
  | _ => cases kind

theorem toNumeric_enumeration {name : String} {backing : Value}
    (number : backing.numericKind?.isSome = true) :
    (Value.enumeration name backing).toNumeric k checked = backing.toNumeric k checked := by
  cases backing <;> first | rfl | cases number

theorem recast_enumeration {name : String} {backing : Value}
    (isInstance : (Value.enumeration name backing).type = .enumeration name k) :
    (Value.enumeration name backing).toNumeric k checked = .ok backing ↔ backing.IsOwn := by
  have default : backing.numericKind?.getD (.int .i32) = k := by
    simpa [type] using isInstance
  constructor
  · intro done
    have kind := toNumeric_kind done
    rw [toNumeric_enumeration (by rw [kind]; rfl)] at done
    exact (toNumeric_own kind).1 done
  · intro own
    obtain ⟨j, kind⟩ := Option.isSome_iff_exists.1 own.1
    rw [kind, Option.getD_some] at default
    rw [toNumeric_enumeration own.1]
    exact (toNumeric_own (default ▸ kind)).2 own

theorem cast_enumeration_own {name : String} {backing : Value}
    (typed : (Value.enumeration name backing).type = .enumeration name k) :
    (Value.enumeration name backing).cast checked (.enumeration name k)
      = .ok (.enumeration name backing) ↔ backing.IsOwn := by
  have recast : (Value.enumeration name backing).toNumeric k checked = .ok backing ↔ _ :=
    recast_enumeration typed
  rw [← recast, cast_enumeration rfl rfl]
  cases (Value.enumeration name backing).toNumeric k checked <;> simp [Except.map]

theorem number_of_type (typed : v.type = .numeric k) :
    v.numericKind? = some k ∧ v.operand = v := by
  cases v <;> cases typed <;> exact ⟨rfl, rfl⟩

theorem enumeration_of_type {name : String} (typed : v.type = .enumeration name k) :
    ∃ backing, v = .enumeration name backing := by
  cases v <;> cases typed
  exact ⟨_, rfl⟩

theorem type_of_instance (isInstance : v.instanceOf t = true) (notObject : t ≠ .object)
    (notNullable : t.isNullable = false) (single : t.element? = none) : v.type = t := by
  unfold instanceOf at isInstance
  split at isInstance
  · cases isInstance
  · exact absurd rfl notObject
  · cases notNullable
  · cases single
  · cases single
  · exact of_decide_eq_true isInstance

theorem cast_uncounted_own (isInstance : v.instanceOf t = true) (present : v.isNull = false)
    (uncounted : t.countedIn? = none) (notNullable : t.isNullable = false)
    (elements : ∀ e, t.collected? = some e → e = .object) : v.cast checked t = .ok v := by
  cases t with
  | object => simp [cast, present]
  | decimal =>
    have typed := type_of_instance isInstance (by simp) rfl rfl
    cases v <;> cases typed
    rfl
  | bool | string | record name =>
    have typed := type_of_instance isInstance (by simp) rfl rfl
    simp [cast, present, DataType.assignable, typed]
  | array e | list e =>
    cases elements e rfl
    cases v <;> first | rfl | cases isInstance
  | nullable inner => cases notNullable
  | numeric k | enumeration name k => cases uncounted

/-- A cast to a type that the value has gives the value back, but for numbers that their own kind
has no room for. -/
theorem cast_own_type (isInstance : v.instanceOf t = true)
    (elements : ∀ e, t.collected? = some e → e = .object) (checked : Bool) :
    v.cast checked t = .ok v ↔ (t.countedIn?.isSome = true → v.operand.IsOwn) := by
  have present : v.isNull = false := by
    cases v with
    | null => simp [instanceOf] at isInstance
    | _ => rfl
  induction t with
  | nullable inner ih =>
    rw [instance_nullable] at isInstance
    have through : v.cast checked (.nullable inner) = v.cast checked inner := by
      simp [cast, present]
    rw [through]
    exact ih isInstance elements
  | numeric k =>
    obtain ⟨kind, operand⟩ := number_of_type ((instance_scalar rfl).1 isInstance)
    have counted : v.cast checked (.numeric k) = v.toNumeric k checked := by
      simp [cast, present]
    rw [counted, toNumeric_own kind, operand]
    exact ⟨fun own _ => own, fun own => own rfl⟩
  | enumeration name k =>
    have typed := (instance_scalar rfl).1 isInstance
    obtain ⟨backing, rfl⟩ := enumeration_of_type typed
    rw [cast_enumeration_own typed]
    exact ⟨fun own _ => own, fun own => own rfl⟩
  | _ =>
    refine iff_of_true (cast_uncounted_own isInstance present rfl rfl elements) ?_
    intro counted
    cases counted

theorem unit_recast :
    let v : Value := .enumeration "Unit" (.char 'é')
    let t : DataType := .nullable (.enumeration "Unit" .char)
    v.instanceOf t = true ∧ (∀ e, t.collected? = some e → e = .object) ∧ v.operand.IsOwn ∧
      v.cast true t = .ok v := by
  intro v t
  have own : v.operand.IsOwn := by
    refine ⟨rfl, fun c same => ?_⟩
    cases same
    decide
  have elements (e : DataType) (collected : t.collected? = some e) : e = .object := by
    cases collected
  exact ⟨rfl, elements, own, (cast_own_type rfl elements true).2 fun _ => own⟩

/-- A character past sixteen bits, a list of numbers, and an enumeration over a decimal. -/
theorem casts_change_own :
    let emoji : Value := .char '😀'
    let numbers : Value := .list [.int .i32 ⟨1, by decide⟩]
    let level : Value := .enumeration "Level" (.decimal Decimal.zero)
    emoji.instanceOf (.numeric .char) = true ∧
      emoji.cast false (.numeric .char) = .ok (.char '') ∧
      emoji.cast true (.numeric .char) = .error .overflow ∧
      numbers.instanceOf (.list (.int .i32)) = true ∧
      numbers.cast true (.list (.int .i32)) = .error (.unsupported "list" (.list (.int .i32))) ∧
      level.instanceOf (.enumeration "Level" (.int .i32)) = true ∧
      level.cast false (.enumeration "Level" (.int .i32)) =
        .error (.unsupported "enum" (.int .i32)) :=
  ⟨rfl, rfl, rfl, rfl, rfl, rfl, rfl⟩

end Value
end ExprSql
