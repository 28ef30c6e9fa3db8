import ExprSql.Proofs.Run

/-!
Runs that ask. Such a run puts one question after another to an oracle. Two oracles lead it to one
outcome, or to a question that they answer differently.
-/
namespace ExprSql.Run

variable {Q : Type} {A : Q → Type} {α β γ : Type}

abbrev Oracle (A : Q → Type) := (q : Q) → Run (A q)

/-- From the trace `before` the run comes to the question `q` on the trace `met`: were that answered
by a failure and all else as it is, the failure would be the run's. -/
def Asks (x : Oracle A → Run α) (o : Oracle A) (before : Trace) (q : Q) (met : Trace) : Prop :=
  ∀ o' : Oracle A, (∀ p s, p ≠ q ∨ s ≠ met → outcome (o' p) s = outcome (o p) s) →
    ∀ e after, Fails (o' q) met e after → Fails (x o') before e after

/-- Another oracle changes nothing before the first question that it answers differently, and is
asked nothing more if it fails there. -/
def Asking (x : Oracle A → Run α) : Prop :=
  ∀ (o o' : Oracle A) (before : Trace), outcome (x o') before = outcome (x o) before ∨
    ∃ q met, Asks x o before q met ∧ outcome (o' q) met ≠ outcome (o q) met ∧
      ∀ e after, Fails (o' q) met e after → Fails (x o') before e after

theorem asks_first {q : Q} (f : Oracle A → A q → Run β) (o : Oracle A) (before : Trace) :
    Asks (fun o => o q >>= f o) o before q before := by
  intro o' _ e after fails
  exact fails_bind.2 (.inl fails)

theorem asking_fixed (x : Run α) : Asking fun _ : Oracle A => x := fun _ _ _ => .inl rfl

theorem asking_question (q : Q) : Asking fun o : Oracle A => o q := by
  intro o o' before
  by_cases same : outcome (o' q) before = outcome (o q) before
  · exact .inl same
  · exact .inr ⟨q, before, fun _ _ _ _ fails => fails, same, fun _ _ fails => fails⟩

theorem asks_later {x : Oracle A → Run α} {f : Oracle A → α → Run β} {o : Oracle A} {a : α}
    {before mid met : Trace} {q : Q} (first : Asking x) (gives : Gives (x o) before a mid)
    (asks : Asks (f · a) o mid q met) : Asks (fun o => x o >>= f o) o before q met := by
  intro o' elsewhere e after fails
  rcases first o o' before with same | ⟨p, s, -, differ, passes⟩
  · exact fails_bind.2 (.inr ⟨a, mid, same.trans gives, asks o' elsewhere e after fails⟩)
  -- The first part may have come to this very question before the second does.
  · have here : p = q ∧ s = met := by
      by_contra other
      exact differ (elsewhere p s (by tauto))
    obtain ⟨rfl, rfl⟩ := here
    exact fails_bind.2 (.inl (passes e after fails))

theorem asking_bind {x : Oracle A → Run α} {f : Oracle A → α → Run β} (first : Asking x)
    (next : ∀ a, Asking (f · a)) : Asking fun o => x o >>= f o := by
  intro o o' before
  rcases first o o' before with same | ⟨q, met, asks, differ, passes⟩
  · rcases done : outcome (x o) before with ⟨e | a, mid⟩
    · left
      rw [outcome_bind, outcome_bind, same, done]
    · rcases next a o o' mid with later | ⟨q, met, asks, differ, passes⟩
      · left
        rw [outcome_bind, outcome_bind, same, done]
        exact later
      · refine .inr ⟨q, met, asks_later first done asks, differ, fun e after fails => ?_⟩
        exact fails_bind.2 (.inr ⟨a, mid, same.trans done, passes e after fails⟩)
  · refine .inr ⟨q, met, fun o'' elsewhere e after fails => ?_, differ, fun e after fails => ?_⟩
    · exact fails_bind.2 (.inl (asks o'' elsewhere e after fails))
    · exact fails_bind.2 (.inl (passes e after fails))

theorem asking_mapM {f : Oracle A → γ → Run α} (each : ∀ c, Asking (f · c)) (cs : List γ) :
    Asking fun o => cs.mapM (f o) := by
  induction cs with
  | nil => exact asking_fixed (pure [])
  | cons c cs ih =>
    simp only [List.mapM_cons]
    exact asking_bind (each c) fun a => asking_bind ih fun as => asking_fixed (pure (a :: as))

theorem asking_option {f : Oracle A → γ → Run α} (each : ∀ c, Asking (f · c)) (c? : Option γ) :
    Asking fun o => c?.mapM (f o) := by
  cases c? with
  | none => exact asking_fixed (pure none)
  | some c => exact asking_bind (each c) fun a => asking_fixed (pure (some a))

/-- The runs come to the same, but where the first fails and is excused. -/
def Agree (excused : Trace → Failure → Trace → Prop) (x y : Run α) : Prop :=
  ∀ before, outcome x before = outcome y before ∨
    ∃ e after, Fails x before e after ∧ excused before e after

variable {excused : Trace → Failure → Trace → Prop}

theorem agree_refl (x : Run α) : Agree excused x x := fun _ => .inl rfl

theorem agree_weaken {more : Trace → Failure → Trace → Prop} {x y : Run α}
    (agree : Agree excused x y) (weaker : ∀ s e t, excused s e t → more s e t) :
    Agree more x y := by
  intro before
  rcases agree before with same | ⟨e, after, fails, excuse⟩
  · exact .inl same
  · exact .inr ⟨e, after, fails, weaker before e after excuse⟩

theorem agree_then {x y : Run α} (agree : Agree excused x y) (f : α → Run β) :
    Agree excused (x >>= f) (y >>= f) := by
  intro before
  rcases agree before with same | ⟨e, after, fails, excuse⟩
  · left
    rw [outcome_bind, outcome_bind, same]
  · exact .inr ⟨e, after, fails_bind.2 (.inl fails), excuse⟩

theorem agree_bind {later : α → Trace → Failure → Trace → Prop} {x y : Run α} {f g : α → Run β}
    (first : Agree excused x y) (next : ∀ a, Agree (later a) (f a) (g a)) :
    Agree (fun s e t => excused s e t ∨ ∃ a mid, Gives y s a mid ∧ later a mid e t)
      (x >>= f) (y >>= g) := by
  intro before
  rcases first before with same | ⟨e, after, fails, excuse⟩
  · rcases done : outcome y before with ⟨e | a, mid⟩
    · left
      rw [outcome_bind, outcome_bind, same, done]
    · rcases next a mid with equal | ⟨e, after, fails, excuse⟩
      · left
        rw [outcome_bind, outcome_bind, same, done]
        exact equal
      · refine .inr ⟨e, after, ?_, .inr ⟨a, mid, done, excuse⟩⟩
        exact fails_bind.2 (.inr ⟨a, mid, same.trans done, fails⟩)
  · exact .inr ⟨e, after, fails_bind.2 (.inl fails), .inl excuse⟩

theorem agree_asking {x : Oracle A → Run α} {answers : Q → Trace → Failure → Trace → Prop}
    {o o' : Oracle A} (asking : Asking x) (agree : ∀ q, Agree (answers q) (o' q) (o q)) :
    Agree (fun s e t => ∃ q met, Asks x o s q met ∧ answers q met e t) (x o') (x o) := by
  intro before
  rcases asking o o' before with same | ⟨q, met, asks, differ, passes⟩
  · exact .inl same
  · rcases agree q met with equal | ⟨e, after, fails, excuse⟩
    · exact absurd equal differ
    · exact .inr ⟨e, after, passes e after fails, q, met, asks, excuse⟩

end ExprSql.Run
