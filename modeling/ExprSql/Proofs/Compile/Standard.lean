import ExprSql.Compile.Handlers
import ExprSql.Proofs.ByOwner
import ExprSql.Proofs.Fragment.Tree
import ExprSql.Proofs.Run

namespace ExprSql

open Run

inductive Handler.Standard : Handler → Prop where
  | like (negated : Bool) : Standard (Handler.like negated)
  | membership (negated : Bool) : Standard (Handler.membership negated)
  | between : Standard Handler.between
  | nullTest (negated : Bool) : Standard (Handler.nullTest negated)
  | startsWith : Standard Handler.startsWith
  | endsWith : Standard Handler.endsWith
  | contains : Standard Handler.contains
  | function (name : String) : Standard (Handler.function name)

/-- Every registered handler is a standard one, under whatever names. -/
def Registry.Standard (r : Registry) : Prop :=
  ∀ owner name h, r.handler? owner name = some h → h.Standard

namespace Registry

variable {r : Registry}

theorem register_standard (standard : r.Standard) (owner name : String) {h : Handler}
    (ready : h.Standard) : (r.register owner name h).Standard := by
  intro o n found lookup
  unfold handler? register at lookup
  rw [ByOwner.get?_insert] at lookup
  split at lookup
  · cases lookup
    exact ready
  · exact standard o n found lookup

theorem registerStandard_standard (standard : r.Standard) : r.registerStandard.Standard := by
  have ready : ∀ entry ∈ standardHandlers, entry.2.2.Standard := by
    simp only [standardHandlers, List.forall_mem_cons]
    refine ⟨.like _, .like _, .membership _, .membership _, .between, .nullTest _, .nullTest _,
      .function _, .function _, .function _, .function _, .function _, .function _, .function _,
      .startsWith, .endsWith, .contains, .function _, .function _, .function _, by simp⟩
  unfold registerStandard
  generalize standardHandlers = entries at ready
  induction entries generalizing r with
  | nil => exact standard
  | cons entry entries ih =>
    rw [List.forall_mem_cons] at ready
    exact ih (register_standard standard _ _ ready.1) ready.2

theorem unhandled_standard (tables : List String) : ({ tables } : Registry).Standard := by
  intro owner name h found
  cases found

end Registry

namespace Handler

variable {l : Level} {P : Fragment → Prop} {E : Failure → Prop}

theorem ensures_fragment (level : ∀ e, Ensures (l.operand e) (P ·.toFragment) E) (e : Expr) :
    Ensures (l.fragment e) P E :=
  ensures_bind (level e) fun _ => ensures_pure

theorem ensures_items (level : ∀ e, Ensures (l.operand e) (P ·.toFragment) E)
    (value : ∀ v, P (.value v)) (e : Expr) :
    Ensures (do
      match ← l.operand e with
      | .value (.array vs) => pure (vs.map Fragment.value)
      | operand => pure [operand.toFragment]) (∀ f ∈ ·, P f) E := by
  refine ensures_bind (level e) fun o ho => ?_
  split
  · exact ensures_pure (by simp [value])
  · exact ensures_pure (by simpa using ho)

theorem ensures_operands (level : ∀ e, Ensures (l.operand e) (P ·.toFragment) E)
    (value : ∀ v, P (.value v)) (call : Call) :
    Ensures (operands l call) (∀ f ∈ ·, P f) E := by
  unfold operands
  generalize call.target.toList ++ call.arguments = es
  fun_induction operands.go l es with
  | case1 => exact ensures_pure (by simp)
  | case2 t items =>
    exact ensures_weaken (ensures_mapM fun e _ => ensures_fragment level e) fun _ h => h.2
  | case3 e => exact ensures_items level value e
  | case4 e rest _ _ ih =>
    refine ensures_bind (ensures_fragment level e) fun f hf => ?_
    refine ensures_bind ih fun fs hfs => ?_
    exact ensures_pure (List.forall_mem_cons.mpr ⟨hf, hfs⟩)

section
variable {call : Call} (operands : Ensures (operands l call) (∀ f ∈ ·, P f) E)
  (count : ∀ n fs, E (countFailure call n fs))
include operands count

theorem ensures_one {build : Fragment → Fragment} (closed : ∀ f, P f → P (build f)) :
    Ensures (one build l call) (P ·.toFragment) E := by
  refine ensures_bind operands fun fs hfs => ?_
  split
  · exact ensures_pure (closed _ (hfs _ (by simp)))
  · exact ensures_throw (count _ _)

theorem ensures_two {build : Fragment → Fragment → Fragment}
    (closed : ∀ f g, P f → P g → P (build f g)) :
    Ensures (two build l call) (P ·.toFragment) E := by
  refine ensures_bind operands fun fs hfs => ?_
  split
  · exact ensures_pure (closed _ _ (hfs _ (by simp)) (hfs _ (by simp)))
  · exact ensures_throw (count _ _)

theorem ensures_three {build : Fragment → Fragment → Fragment → Fragment}
    (closed : ∀ f g h, P f → P g → P h → P (build f g h)) :
    Ensures (three build l call) (P ·.toFragment) E := by
  refine ensures_bind operands fun fs hfs => ?_
  split
  · exact ensures_pure (closed _ _ _ (hfs _ (by simp)) (hfs _ (by simp)) (hfs _ (by simp)))
  · exact ensures_throw (count _ _)

end

end Handler
end ExprSql
