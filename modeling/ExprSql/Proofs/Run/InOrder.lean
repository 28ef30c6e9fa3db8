import ExprSql.Proofs.Run

namespace ExprSql.Run

variable {α β : Type} {f : α → Run β} {x : α} {xs : List α} {y : β} {ys : List β}
  {before after : Trace} {e : Failure}

inductive OneByOne (f : α → Run β) : List α → Trace → List β → Trace → Prop
  | nil {s : Trace} : OneByOne f [] s [] s
  | cons {x : α} {xs : List α} {y : β} {ys : List β} {before mid after : Trace}
      (first : Gives (f x) before y mid) (rest : OneByOne f xs mid ys after) :
      OneByOne f (x :: xs) before (y :: ys) after

/-- Some item fails, those before it give results, and none after it is run. -/
def FailsAtFirst (f : α → Run β) (xs : List α) (before : Trace) (e : Failure) (after : Trace) :
    Prop :=
  ∃ done x rest ys mid, xs = done ++ x :: rest ∧ OneByOne f done before ys mid ∧
    Fails (f x) mid e after

theorem oneByOne_nil : OneByOne f [] before ys after ↔ ys = [] ∧ before = after := by
  constructor
  · rintro ⟨⟩
    exact ⟨rfl, rfl⟩
  · rintro ⟨rfl, rfl⟩
    exact .nil

theorem oneByOne_cons : OneByOne f (x :: xs) before ys after ↔
    ∃ y mid rest, Gives (f x) before y mid ∧ OneByOne f xs mid rest after ∧ ys = y :: rest := by
  constructor
  · rintro (_ | ⟨first, rest⟩)
    exact ⟨_, _, _, first, rest, rfl⟩
  · rintro ⟨y, mid, rest, first, others, rfl⟩
    exact .cons first others

theorem failsAtFirst_cons : FailsAtFirst f (x :: xs) before e after ↔
    Fails (f x) before e after ∨
      ∃ y mid, Gives (f x) before y mid ∧ FailsAtFirst f xs mid e after := by
  constructor
  · rintro ⟨done, item, rest, ys, mid, split, earlier, fails⟩
    cases earlier with
    | nil =>
      obtain ⟨rfl, rfl⟩ := List.cons.inj split
      exact .inl fails
    | cons first earlier =>
      obtain ⟨rfl, rfl⟩ := List.cons.inj split
      exact .inr ⟨_, _, first, _, item, rest, _, mid, rfl, earlier, fails⟩
  · rintro (fails | ⟨y, mid, first, done, item, rest, ys, met, rfl, earlier, fails⟩)
    · exact ⟨[], x, xs, [], before, rfl, .nil, fails⟩
    · exact ⟨x :: done, item, rest, y :: ys, met, rfl, .cons first earlier, fails⟩

theorem gives_mapM : Gives (xs.mapM f) before ys after ↔ OneByOne f xs before ys after := by
  induction xs generalizing before ys with
  | nil => rw [List.mapM_nil, gives_pure, oneByOne_nil, eq_comm]
  | cons x xs ih =>
    rw [List.mapM_cons, gives_bind, oneByOne_cons]
    simp only [gives_bind, gives_pure]
    constructor
    · rintro ⟨y, mid, first, rest, late, others, rfl, rfl⟩
      exact ⟨y, mid, rest, first, ih.1 others, rfl⟩
    · rintro ⟨y, mid, rest, first, others, rfl⟩
      exact ⟨y, mid, first, rest, after, ih.2 others, rfl, rfl⟩

theorem fails_mapM : Fails (xs.mapM f) before e after ↔ FailsAtFirst f xs before e after := by
  induction xs generalizing before with
  | nil =>
    rw [List.mapM_nil]
    refine iff_of_false fails_pure ?_
    rintro ⟨done, item, rest, ys, mid, split, -⟩
    simp at split
  | cons x xs ih =>
    rw [List.mapM_cons, fails_bind, failsAtFirst_cons]
    refine or_congr_right (exists_congr fun y => exists_congr fun mid => ?_)
    refine and_congr_right fun _ => ?_
    simp only [fails_bind, ih, fails_pure, and_false, exists_false, or_false]

end ExprSql.Run
