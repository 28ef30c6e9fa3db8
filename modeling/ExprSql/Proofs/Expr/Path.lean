import ExprSql.Compile
import ExprSql.Proofs.Expr.Columns
import ExprSql.Proofs.Run

/-!
Paths of members. What a column path is, which column it names and which members a selector picks
all go by one shape: members read one after the other, the first of them from a parameter.
-/
namespace ExprSql

open Run

def Parameter.over (p : Parameter) (ms : List Member) : Expr :=
  ms.foldl (fun target m => .member (some target) m) (.parameter p.name p.type)

theorem over_append (p : Parameter) (ms : List Member) (m : Member) :
    p.over (ms ++ [m]) = .member (some (p.over ms)) m := by
  simp [Parameter.over]

inductive Expr.InCasts (core : Expr) : Expr → Prop
  | bare : InCasts core core
  | cast {operand : Expr} (inner : InCasts core operand) (checked : Bool) (t : DataType)
      (method : Option Member) : InCasts core (.unary (.cast checked) operand t method)

namespace Expr

variable {e : Expr} {p : Parameter} {names : List String}

theorem rooted_iff : e.rooted? = some (p, names) ↔
    ∃ ms, e = p.over ms ∧ names = ms.map Member.name := by
  constructor
  · intro rooted
    fun_induction rooted? e generalizing names with
    | case1 name t =>
      cases rooted
      exact ⟨[], rfl, rfl⟩
    | case2 target m ih =>
      obtain ⟨⟨q, inner⟩, found, same⟩ := Option.map_eq_some_iff.1 rooted
      cases same
      obtain ⟨ms, rfl, rfl⟩ := ih found
      exact ⟨ms ++ [m], (over_append q ms m).symm, by simp⟩
    | case3 => cases rooted
  · rintro ⟨ms, rfl, rfl⟩
    induction ms using List.reverseRecOn with
    | nil => rfl
    | append_singleton ms m ih =>
      rw [over_append, rooted?, ih, Option.map_some, List.map_append, List.map_singleton]

theorem path_iff : e.path? = some (p, names) ↔
    ∃ ms, e = p.over ms ∧ names = ms.map Member.name := by
  rw [path_eq_rooted, rooted_iff]

theorem isColumnPath_iff {isTable : String → Bool} : e.isColumnPath isTable = true ↔
    ∃ p ms, e = Parameter.over p ms ∧ isTable p.type.name = true := by
  unfold isColumnPath
  cases path : e.path? with
  | none =>
    refine iff_of_false (by simp) ?_
    rintro ⟨p, ms, shape, -⟩
    cases path.symm.trans (path_iff.2 ⟨ms, shape, rfl⟩)
  | some found =>
    obtain ⟨p, names⟩ := found
    constructor
    · intro table
      obtain ⟨ms, shape, -⟩ := path_iff.1 path
      exact ⟨p, ms, shape, table⟩
    · rintro ⟨q, ms, shape, table⟩
      cases path.symm.trans (path_iff.2 ⟨ms, shape, rfl⟩)
      exact table

theorem column_cases (e : Expr) :
    (∃ p names, e.path? = some (p, names) ∧ e.column = .ok (p.column names)) ∨
      e.path? = none ∧ ∃ cause, e.column = .error (.path cause) := by
  cases path : e.path? with
  | some found => exact .inl ⟨found.1, found.2, rfl, column_of_path path⟩
  | none =>
    refine .inr ⟨rfl, ?_⟩
    unfold column
    split
    · cases path
    · rename_i m
      split
      · rename_i chain
        unfold path? at path
        rw [chain] at path
        cases path
      · exact ⟨_, rfl⟩
      · exact ⟨_, rfl⟩
    · exact ⟨_, rfl⟩

theorem column_iff {column : Column} : e.column = .ok column ↔
    ∃ p ms, e = Parameter.over p ms ∧ column = p.column (ms.map Member.name) := by
  rcases column_cases e with ⟨p, names, path, named⟩ | ⟨path, cause, failed⟩
  · obtain ⟨ms, shape, rfl⟩ := path_iff.1 path
    constructor
    · intro found
      cases named.symm.trans found
      exact ⟨p, ms, shape, rfl⟩
    · rintro ⟨q, others, shape, rfl⟩
      exact column_of_path (path_iff.2 ⟨others, shape, rfl⟩)
  · refine iff_of_false (by simp [failed]) ?_
    rintro ⟨p, ms, shape, -⟩
    cases path.symm.trans (path_iff.2 ⟨ms, shape, rfl⟩)

theorem inCasts_stripCasts (e : Expr) : e.stripCasts.InCasts e := by
  fun_induction stripCasts e with
  | case1 checked operand t method ih => exact .cast ih checked t method
  | case2 e => exact .bare

theorem stripCasts_bare (e : Expr) (checked : Bool) (operand : Expr) (t : DataType)
    (method : Option Member) : e.stripCasts ≠ .unary (.cast checked) operand t method := by
  fun_induction stripCasts e with
  | case1 _ _ _ _ ih => exact ih
  | case2 e other => exact fun same => other _ _ _ _ same

/-- How the functions on paths go together, for one expression and one set of tables. -/
structure Resolves (r : Registry) (e : Expr) : Prop where
  table : e.isColumnPath r.isTable = true ↔
    ∃ column, e.column = .ok column ∧ r.isTable column.table = true
  compiled : e.isColumnPath r.isTable = true → ∀ c : Compiler, c.registry = r →
    ∃ column, e.column = .ok column ∧ ∀ levels before,
      Gives ((c.level (levels + 1)).operand e) before (.fragment (.column column)) before
  named : ∀ column, e.column = .ok column ↔
    ∃ p ms, e = Parameter.over p ms ∧ column = p.column (ms.map Member.name)
  refused : ∀ failure, e.column = .error failure → ∃ cause, failure = .path cause

theorem gives_asColumn {column : Column} (named : e.column = .ok column) (before : Trace) :
    Gives e.asColumn before (.fragment (.column column)) before := by
  rw [asColumn, named]
  rfl

theorem operandAbove_columnPath {c : Compiler} (below : Level)
    (path : e.isColumnPath c.registry.isTable = true) :
    c.operandAbove below e = e.asColumn := by
  cases e with
  | member target m => exact if_pos path
  | parameter name t => exact if_pos path
  | _ => cases path

theorem resolves (r : Registry) (e : Expr) : e.Resolves r where
  table := by
    simp only [isColumnPath_iff, column_iff]
    constructor
    · rintro ⟨p, ms, shape, table⟩
      exact ⟨_, ⟨p, ms, shape, rfl⟩, table⟩
    · rintro ⟨column, ⟨p, ms, shape, rfl⟩, table⟩
      exact ⟨p, ms, shape, table⟩
  compiled path c same := by
    subst same
    obtain ⟨p, ms, shape, -⟩ := isColumnPath_iff.1 path
    have named := column_iff.2 ⟨p, ms, shape, rfl⟩
    refine ⟨_, named, fun levels before => ?_⟩
    change Gives (c.operandAbove (c.level levels) e) _ _ _
    rw [operandAbove_columnPath _ path]
    exact gives_asColumn named before
  named _ := column_iff
  refused failure failed := by
    rcases column_cases e with ⟨p, names, -, named⟩ | ⟨-, cause, refused⟩
    · cases named.symm.trans failed
    · cases refused.symm.trans failed
      exact ⟨cause, rfl⟩

end Expr

namespace Lambda

variable {l : Lambda}

structure Selects (l : Lambda) (core : Expr) : Prop where
  succeeds : (∃ names, l.memberPath = .ok names) ↔
    ∃ column p ms, core.column = .ok column ∧ core = Parameter.over p ms ∧ p ∈ l.parameters
  named : ∀ names, l.memberPath = .ok names →
    ∃ p ms, core = Parameter.over p ms ∧ names = ms.map Member.name ∧
      core.column = .ok (p.column names)
  refused : ∀ failure, l.memberPath = .error failure → ∃ cause, failure = .path cause

theorem memberPath_iff {names : List String} : l.memberPath = .ok names ↔
    ∃ p ms, l.body.stripCasts = Parameter.over p ms ∧ p ∈ l.parameters ∧
      names = ms.map Member.name := by
  unfold memberPath
  dsimp only
  cases path : l.body.stripCasts.path? with
  | none =>
    refine iff_of_false (by simp) ?_
    rintro ⟨p, ms, shape, -⟩
    cases path.symm.trans (Expr.path_iff.2 ⟨ms, shape, rfl⟩)
  | some found =>
    obtain ⟨p, found⟩ := found
    obtain ⟨ms, shape, rfl⟩ := Expr.path_iff.1 path
    dsimp only
    constructor
    · split
      · rintro ⟨⟩
        exact ⟨p, ms, shape, ‹_›, rfl⟩
      · rintro ⟨⟩
    · rintro ⟨q, others, other, member, rfl⟩
      obtain ⟨rfl, same⟩ := Prod.mk.inj
        (Option.some.inj (path.symm.trans (Expr.path_iff.2 ⟨others, other, rfl⟩)))
      rw [if_pos member, same]

theorem memberPath_refused {failure : Failure} (failed : l.memberPath = .error failure) :
    ∃ cause, failure = .path cause := by
  unfold memberPath at failed
  dsimp only at failed
  split at failed
  · split at failed
    · cases failed
    · cases failed
      exact ⟨_, rfl⟩
  · cases failed
    exact ⟨_, rfl⟩

theorem selects (l : Lambda) : l.Selects l.body.stripCasts where
  succeeds := by
    simp only [memberPath_iff]
    constructor
    · rintro ⟨names, p, ms, shape, member, -⟩
      exact ⟨_, p, ms, Expr.column_iff.2 ⟨p, ms, shape, rfl⟩, shape, member⟩
    · rintro ⟨column, p, ms, -, shape, member⟩
      exact ⟨_, p, ms, shape, member, rfl⟩
  named names picked := by
    obtain ⟨p, ms, shape, -, rfl⟩ := memberPath_iff.1 picked
    exact ⟨p, ms, shape, rfl, Expr.column_iff.2 ⟨p, ms, shape, rfl⟩⟩
  refused _ := memberPath_refused

end Lambda

/-- The functions on paths agree on every expression, and on what every selector picks. -/
theorem paths_agree (r : Registry) :
    (∀ e : Expr, e.Resolves r) ∧
    ∀ l : Lambda, ∃ core : Expr, core.InCasts l.body ∧
      (∀ checked operand t method, core ≠ .unary (.cast checked) operand t method) ∧
      l.Selects core :=
  ⟨Expr.resolves r, fun l => ⟨l.body.stripCasts, Expr.inCasts_stripCasts l.body,
    Expr.stripCasts_bare l.body, l.selects⟩⟩

end ExprSql
