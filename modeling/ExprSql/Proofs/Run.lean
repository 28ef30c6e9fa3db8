import Mathlib
import ExprSql.Run

/-!
What a run does from a given trace: it gives a value or it fails, and leaves a trace behind. The
lemmas take a composed run apart into the runs of its parts.
-/
namespace ExprSql.Run

variable {α β : Type}

def outcome (x : Run α) (before : Trace) : Except Failure α × Trace := x.run.run before

def Gives (x : Run α) (before : Trace) (a : α) (after : Trace) : Prop :=
  outcome x before = (.ok a, after)

def Fails (x : Run α) (before : Trace) (e : Failure) (after : Trace) : Prop :=
  outcome x before = (.error e, after)

theorem outcome_pure (a : α) (s : Trace) : outcome (pure a) s = (.ok a, s) := rfl

theorem outcome_throw (e : Failure) (s : Trace) :
    outcome (throw e : Run α) s = (.error e, s) := rfl

theorem outcome_bind (x : Run α) (f : α → Run β) (s : Trace) :
    outcome (x >>= f) s = match outcome x s with
      | (.ok a, u) => outcome (f a) u
      | (.error e, u) => (.error e, u) := by
  unfold outcome ExceptT.run StateT.run
  simp only [bind, ExceptT.bind, ExceptT.mk, StateT.bind, ExceptT.bindCont]
  cases x s with
  | mk result u => cases result <;> rfl

theorem outcome_host (call : HostCall) (label : String) (code : Trace → HostResult α)
    (s : Trace) :
    outcome (host call label code) s = match code s with
      | .ok a => (.ok a, s ++ [call])
      | .error text => (.error (.invocation label (.failed (.raised text))), s ++ [call]) := by
  change outcome (match code s with
    | .ok a => pure a
    | .error text => throw (Failure.invocation label (.failed (.raised text)))) (s ++ [call]) = _
  cases code s <;> rfl

@[simp] theorem gives_pure {a b : α} {s t : Trace} :
    Gives (pure a) s b t ↔ a = b ∧ s = t := by
  simp [Gives, outcome_pure]

@[simp] theorem fails_pure {a : α} {s t : Trace} {e : Failure} : ¬ Fails (pure a) s e t := by
  simp [Fails, outcome_pure]

@[simp] theorem gives_throw {b : α} {s t : Trace} {e : Failure} :
    ¬ Gives (throw e : Run α) s b t := by
  simp [Gives, outcome_throw]

@[simp] theorem fails_throw {s t : Trace} {e e' : Failure} :
    Fails (throw e : Run α) s e' t ↔ e = e' ∧ s = t := by
  simp [Fails, outcome_throw]

theorem gives_bind {x : Run α} {f : α → Run β} {s t : Trace} {b : β} :
    Gives (x >>= f) s b t ↔ ∃ a u, Gives x s a u ∧ Gives (f a) u b t := by
  unfold Gives
  rw [outcome_bind]
  rcases outcome x s with ⟨e | a, u⟩ <;> simp

theorem fails_bind {x : Run α} {f : α → Run β} {s t : Trace} {e : Failure} :
    Fails (x >>= f) s e t ↔ Fails x s e t ∨ ∃ a u, Gives x s a u ∧ Fails (f a) u e t := by
  unfold Gives Fails
  rw [outcome_bind]
  rcases outcome x s with ⟨e | a, u⟩ <;> simp

theorem gives_ofExcept {x : Except Failure α} {s t : Trace} {a : α} :
    Gives (ofExcept x) s a t ↔ x = .ok a ∧ s = t := by
  cases x <;> simp [ofExcept]

/-- From every trace: a value that the run gives meets `P`, a failure of it meets `E`. -/
def Ensures (x : Run α) (P : α → Prop) (E : Failure → Prop) : Prop :=
  (∀ s a t, Gives x s a t → P a) ∧ ∀ s e t, Fails x s e t → E e

variable {P : α → Prop} {Q : β → Prop} {E : Failure → Prop}

theorem ensures_pure {a : α} (h : P a) : Ensures (pure a) P E := by
  constructor
  · intro s b t gives
    rw [gives_pure] at gives
    exact gives.1 ▸ h
  · intro s e t fails
    exact absurd fails fails_pure

theorem ensures_throw {e : Failure} (h : E e) : Ensures (throw e : Run α) P E := by
  constructor
  · intro s b t gives
    exact absurd gives gives_throw
  · intro s e' t fails
    rw [fails_throw] at fails
    exact fails.1 ▸ h

theorem ensures_bind {x : Run α} {f : α → Run β} (first : Ensures x P E)
    (next : ∀ a, P a → Ensures (f a) Q E) : Ensures (x >>= f) Q E := by
  constructor
  · intro s b t gives
    obtain ⟨a, u, hx, hf⟩ := gives_bind.mp gives
    exact (next a (first.1 s a u hx)).1 u b t hf
  · intro s e t fails
    rcases fails_bind.mp fails with hx | ⟨a, u, hx, hf⟩
    · exact first.2 s e t hx
    · exact (next a (first.1 s a u hx)).2 u e t hf

theorem ensures_ofExcept {x : Except Failure α} (ok : ∀ a, x = .ok a → P a)
    (error : ∀ e, x = .error e → E e) : Ensures (ofExcept x) P E := by
  cases x with
  | ok a => exact ensures_pure (ok a rfl)
  | error e => exact ensures_throw (error e rfl)

theorem ensures_trivial (x : Run α) : Ensures x (fun _ => True) fun _ => True :=
  ⟨fun _ _ _ _ => trivial, fun _ _ _ _ => trivial⟩

theorem ensures_weaken {x : Run α} {P' : α → Prop} (h : Ensures x P E)
    (weaker : ∀ a, P a → P' a) : Ensures x P' E :=
  ⟨fun s a t gives => weaker a (h.1 s a t gives), h.2⟩

theorem ensures_mapM_each {R : α → β → Prop} {f : α → Run β} {xs : List α}
    (each : ∀ x ∈ xs, Ensures (f x) (R x) E) : Ensures (xs.mapM f) (List.Forall₂ R xs) E := by
  induction xs with
  | nil => exact ensures_pure .nil
  | cons x xs ih =>
    rw [List.mapM_cons]
    refine ensures_bind (each x List.mem_cons_self) fun y hy => ?_
    refine ensures_bind (ih fun z mem => each z (List.mem_cons_of_mem x mem)) fun ys hys => ?_
    exact ensures_pure (.cons hy hys)

theorem ensures_mapM {f : α → Run β} {xs : List α} (each : ∀ x ∈ xs, Ensures (f x) Q E) :
    Ensures (xs.mapM f) (fun ys => ys.length = xs.length ∧ ∀ y ∈ ys, Q y) E := by
  refine ensures_weaken (ensures_mapM_each each) fun ys pairs => ?_
  induction pairs with
  | nil => simp
  | cons first rest ih =>
    have later := ih fun x mem => each x (List.mem_cons_of_mem _ mem)
    exact ⟨by simp [later.1], List.forall_mem_cons.mpr ⟨first, later.2⟩⟩

theorem ensures_mapM_option {f : α → Run β} {x? : Option α} (each : ∀ x, Ensures (f x) Q E) :
    Ensures (x?.mapM f) (fun y? => ∀ y, y? = some y → Q y) E := by
  cases x? with
  | none => exact ensures_pure (by simp)
  | some x => exact ensures_bind (each x) fun y hy => ensures_pure (by rintro _ ⟨⟩; exact hy)

end ExprSql.Run
