import ExprSql.Proofs.Query.Rendered

/-!
Rendered text in PostgreSQL. There the operators on bits, the complement included, share one level
below arithmetic, while rendering leaves parentheses out by levels of its own.
-/
namespace ExprSql

/-- How tightly operators bind in PostgreSQL. -/
def Levels.postgres : Levels where
  link
    | .logical .or => 1
    | .logical .and => 2
    | .bitwise _ => 5
    | .arithmetic .add | .arithmetic .subtract => 6
    | .arithmetic _ => 7
  not := 3
  comparison := 4
  complement := 5
  negate := 8

theorem Levels.postgres_usual : Levels.postgres.Usual where
  positive op := by
    cases op with
    | comparison op => exact Nat.zero_lt_succ 3
    | link op =>
      cases op with
      | logical op => cases op <;> decide
      | arithmetic op => cases op <;> decide
      | bitwise op => exact Nat.zero_lt_succ 4
  conjunction := by decide

namespace Fragment

/-- The level in PostgreSQL of what rendering gives a precedence, the complement apart. -/
def grade (precedence : Nat) : Nat :=
  if precedence ≤ 4 then precedence else if precedence ≤ 7 then 5 else precedence - 2

theorem grade_mono {p q : Nat} (le : p ≤ q) : grade p ≤ grade q := by
  unfold grade
  split_ifs <;> omega

theorem logical_grade (op : Connective) :
    Levels.postgres.link (.logical op) = grade (precedence (.logical op [])) := by
  cases op <;> rfl

theorem arithmetic_grade (op : Arithmetic) :
    Levels.postgres.link (.arithmetic op) = grade (precedence (.arithmetic op [])) := by
  cases op <;> rfl

theorem bitwise_grade (op : Bitwise) :
    Levels.postgres.link (.bitwise op) = grade (precedence (.bitwise op [])) := by
  cases op <;> rfl

theorem precedence_logical (op : Connective) (fs : List Fragment) :
    (logical op fs).precedence = precedence (.logical op []) := by
  cases op <;> rfl

theorem precedence_arithmetic (op : Arithmetic) (fs : List Fragment) :
    (arithmetic op fs).precedence = precedence (.arithmetic op []) := by
  cases op <;> rfl

theorem precedence_bitwise (op : Bitwise) (fs : List Fragment) :
    (bitwise op fs).precedence = precedence (.bitwise op []) := by
  cases op <;> rfl

mutual

/-- Whether a complement stands last, outside groups. -/
def endsOpen : Fragment → Bool
  | .complement _ => true
  | .arithmetic op operands => lastOpen (precedence (.arithmetic op [])) operands
  | _ => false

def lastOpen (parent : Nat) : List Fragment → Bool
  | [] => false
  | f :: [] => parent < f.precedence && f.endsOpen
  | _ :: fs => lastOpen parent fs

end

def isBitwise : Fragment → Bool
  | .bitwise _ _ => true
  | _ => false

/-- A node whose operands PostgreSQL groups as rendering does. -/
def NodeKept : Fragment → Prop
  | .arithmetic op (f :: fs) =>
      let parent := precedence (.arithmetic op [])
      (f.endsOpen = true → f.precedence < parent) ∧
        ∀ g ∈ fs.dropLast, g.endsOpen = true → g.precedence ≤ parent
  | .bitwise op (_ :: fs) =>
      ∀ g ∈ fs, g.isBitwise = true → g.precedence ≤ precedence (.bitwise op [])
  | _ => True

variable {f : Fragment} {op : Link} {level parent : Nat}

theorem last_open (f last : Fragment) (mid : List Fragment) :
    lastOpen parent (f :: (mid ++ [last]))
      = (decide (parent < last.precedence) && last.endsOpen) := by
  induction mid generalizing f with
  | nil => simp [lastOpen]
  | cons g mid ih =>
    rw [List.cons_append, lastOpen, ih]
    simp

theorem chain_shape {fs : List Fragment} (two : 2 ≤ fs.length) :
    ∃ f mid last, fs = f :: (mid ++ [last]) := by
  cases fs with
  | nil => simp at two
  | cons f fs =>
    have more : fs ≠ [] := by
      rintro rfl
      simp at two
    exact ⟨f, fs.dropLast, fs.getLast more, by rw [List.dropLast_append_getLast]⟩

theorem chain_starts_above {fs : List Fragment} (two : 2 ≤ fs.length)
    (same : Levels.postgres.link op = grade parent) (low : level < grade parent)
    (each : ∀ g ∈ fs, level < grade g.precedence → g.phrase.StartsAbove .postgres level) :
    (chainPhrase op parent fs).StartsAbove .postgres level := by
  obtain ⟨f, mid, last, rfl⟩ := chain_shape two
  rw [chain_starts (by simp), same]
  exact ⟨low, fun bare => each f List.mem_cons_self (Nat.lt_of_lt_of_le low (grade_mono bare))⟩

theorem phrase_starts (operators : f.Everywhere NodeOperator) (low : level < grade f.precedence) :
    f.phrase.StartsAbove .postgres level := by
  induction operators with
  | @node f here below ih =>
    cases f with
    | comparison op left right =>
      refine ⟨low, Phrase.operand_starts.2 fun bare => ih left (by simp [children]) ?_⟩
      exact Nat.lt_of_lt_of_le low (grade_mono (Nat.le_of_lt bare))
    | logical op operands =>
      rw [precedence_logical] at low
      exact chain_starts_above here (logical_grade op) low ih
    | arithmetic op operands =>
      rw [precedence_arithmetic] at low
      exact chain_starts_above here (arithmetic_grade op) low ih
    | bitwise op operands =>
      rw [precedence_bitwise] at low
      exact chain_starts_above here.2 (bitwise_grade op) low ih
    | value v => trivial
    | column c => trivial
    | not operand => trivial
    | complement operand => trivial
    | negate operand => trivial
    | _ => exact here.elim

theorem closed_of_tight (tight : 10 < f.precedence) : f.endsOpen = false := by
  cases f with
  | complement operand => exact absurd tight (Nat.lt_irrefl 10)
  | arithmetic op operands =>
    rw [precedence_arithmetic] at tight
    cases op <;> exact absurd tight (by decide)
  | _ => rfl

theorem chain_ends_from {fs : List Fragment} (two : 2 ≤ fs.length)
    (same : Levels.postgres.link op = grade parent) (low : level ≤ grade parent)
    (each : ∀ g ∈ fs, level ≤ grade g.precedence →
      (g.phrase.EndsFrom .postgres level ↔ (g.endsOpen = true → level ≤ 5))) :
    (chainPhrase op parent fs).EndsFrom .postgres level ↔
      (lastOpen parent fs = true → level ≤ 5) := by
  obtain ⟨f, mid, last, rfl⟩ := chain_shape two
  have ends (bare : parent < last.precedence) := each last (by simp)
    (Nat.le_trans low (grade_mono (Nat.le_of_lt bare)))
  rw [chain_ends, same, last_open, Bool.and_eq_true, decide_eq_true_eq, and_imp]
  constructor
  · intro ⟨_, shown⟩ bare
    exact (ends bare).1 (shown bare)
  · intro five
    exact ⟨low, fun bare => (ends bare).2 (five bare)⟩

theorem phrase_ends (operators : f.Everywhere NodeOperator) (low : level ≤ grade f.precedence) :
    f.phrase.EndsFrom .postgres level ↔ (f.endsOpen = true → level ≤ 5) := by
  induction operators with
  | @node f here below ih =>
    have inner (parent : Nat) (low : level ≤ grade parent) (five : level ≤ 5) (g : Fragment)
        (mem : g ∈ f.children) : (Phrase.operand parent g g.phrase).EndsFrom .postgres level :=
      Phrase.operand_ends.2 fun bare =>
        (ih g mem (Nat.le_trans low (grade_mono (Nat.le_of_lt bare)))).2 fun _ => five
    cases f with
    | value v => exact iff_of_true trivial (by simp [endsOpen])
    | column c => exact iff_of_true trivial (by simp [endsOpen])
    | comparison op left right =>
      have four : level ≤ 4 := low
      have shown := inner 4 low (by omega) right (by simp [children])
      exact iff_of_true ⟨four, shown⟩ (by simp [endsOpen])
    | not operand =>
      have three : level ≤ 3 := low
      have shown := inner 3 low (by omega) operand List.mem_cons_self
      exact iff_of_true ⟨three, shown⟩ (by simp [endsOpen])
    | complement operand =>
      constructor
      · intro ends _
        exact ends.1
      · intro five
        exact ⟨five rfl, inner 10 low (five rfl) operand List.mem_cons_self⟩
    | negate operand =>
      have eight : level ≤ 8 := low
      refine iff_of_true ⟨eight, Phrase.operand_ends.2 fun tight => ?_⟩ (by simp [endsOpen])
      refine (ih operand List.mem_cons_self ?_).2 (by simp [closed_of_tight tight])
      exact Nat.le_trans low (grade_mono (Nat.le_of_lt tight))
    | logical op operands =>
      rw [precedence_logical] at low
      have five : level ≤ 5 := Nat.le_trans low (by cases op <;> decide)
      refine iff_of_true ((chain_ends_from here (logical_grade op) low ih).2 fun _ => five) ?_
      exact fun _ => five
    | bitwise op operands =>
      rw [precedence_bitwise] at low
      have five : level ≤ 5 := Nat.le_trans low (by cases op <;> decide)
      refine iff_of_true ((chain_ends_from here.2 (bitwise_grade op) low ih).2 fun _ => five) ?_
      exact fun _ => five
    | arithmetic op operands =>
      rw [precedence_arithmetic] at low
      exact chain_ends_from here (arithmetic_grade op) low ih
    | _ => exact here.elim

theorem everywhere_iff {P : Fragment → Prop} :
    f.Everywhere P ↔ P f ∧ ∀ g ∈ f.children, g.Everywhere P := by
  constructor
  · rintro ⟨here, below⟩
    exact ⟨here, below⟩
  · rintro ⟨here, below⟩
    exact .node here below

theorem operand_starts_above (operators : f.Everywhere NodeOperator)
    (low : level < grade (parent + 1)) :
    (Phrase.operand parent f f.phrase).StartsAbove .postgres level :=
  Phrase.operand_starts.2 fun bare =>
    phrase_starts operators (Nat.lt_of_lt_of_le low (grade_mono bare))

theorem loose_chain_proper {fs : List Fragment} (two : 2 ≤ fs.length)
    (operators : ∀ g ∈ fs, g.Everywhere NodeOperator)
    (same : Levels.postgres.link op = grade parent) (low : grade parent ≤ 5) :
    (chainPhrase op parent fs).Proper .postgres ↔
      (∀ g ∈ fs.tail, parent < g.precedence → g.phrase.StartsAbove .postgres (grade parent)) ∧
        ∀ g ∈ fs, g.phrase.Proper .postgres := by
  obtain ⟨f, mid, last, rfl⟩ := chain_shape two
  rw [chain_proper (by simp), same]
  have ends (g : Fragment) (mem : g ∈ f :: (mid ++ [last])) (bare : parent ≤ g.precedence) :
      g.phrase.EndsFrom .postgres (grade parent) :=
    (phrase_ends (operators g mem) (grade_mono bare)).2 fun _ => low
  constructor
  · rintro ⟨proper, -, starts, -⟩
    exact ⟨starts, proper⟩
  · rintro ⟨starts, proper⟩
    refine ⟨proper, ends f List.mem_cons_self, starts, ?_⟩
    intro g mem bare
    exact ends g (List.mem_cons_of_mem f (List.mem_of_mem_dropLast mem)) (Nat.le_of_lt bare)

theorem tight_chain_proper {fs : List Fragment} (more : fs ≠ [])
    (operators : ∀ g ∈ f :: fs, g.Everywhere NodeOperator)
    (same : Levels.postgres.link op = grade parent) (high : 5 < grade parent)
    (next : grade parent < grade (parent + 1)) :
    (chainPhrase op parent (f :: fs)).Proper .postgres ↔
      ((f.endsOpen = true → f.precedence < parent) ∧
        ∀ g ∈ fs.dropLast, g.endsOpen = true → g.precedence ≤ parent) ∧
        ∀ g ∈ f :: fs, g.phrase.Proper .postgres := by
  rw [chain_proper more, same]
  have ends (g : Fragment) (mem : g ∈ f :: fs) (bare : parent ≤ g.precedence) :
      g.phrase.EndsFrom .postgres (grade parent) ↔ ¬ g.endsOpen = true := by
    rw [phrase_ends (operators g mem) (grade_mono bare)]
    exact imp_iff_not (Nat.not_le.2 high)
  have starts (g : Fragment) (mem : g ∈ fs) (bare : parent < g.precedence) :
      g.phrase.StartsAbove .postgres (grade parent) :=
    phrase_starts (operators g (List.mem_cons_of_mem f mem))
      (Nat.lt_of_lt_of_le next (grade_mono bare))
  have inside {g : Fragment} (mem : g ∈ fs.dropLast) : g ∈ f :: fs :=
    List.mem_cons_of_mem f (List.mem_of_mem_dropLast mem)
  constructor
  · rintro ⟨proper, first, -, rest⟩
    refine ⟨⟨fun shown => Nat.lt_of_not_le fun bare => ?_, fun g mem shown => ?_⟩, proper⟩
    · exact (ends f List.mem_cons_self bare).1 (first bare) shown
    · refine Nat.le_of_not_lt fun bare => ?_
      exact (ends g (inside mem) (Nat.le_of_lt bare)).1 (rest g mem bare) shown
  · rintro ⟨⟨first, rest⟩, proper⟩
    refine ⟨proper, fun bare => ?_, starts, fun g mem bare => ?_⟩
    · exact (ends f List.mem_cons_self bare).2 fun shown => Nat.not_lt.2 bare (first shown)
    · exact (ends g (inside mem) (Nat.le_of_lt bare)).2 fun shown =>
        Nat.not_le.2 bare (rest g mem shown)

theorem tight_of_not_bitwise (tight : 5 < f.precedence) (other : f.isBitwise = false) :
    8 ≤ f.precedence := by
  cases f with
  | bitwise op operands => cases other
  | logical op operands => cases op <;> exact absurd tight (by simp [precedence])
  | arithmetic op operands => cases op <;> simp [precedence]
  | _ => simp_all [precedence]

theorem bitwise_starts (operators : f.Everywhere NodeOperator) (tight : 5 < f.precedence) :
    f.phrase.StartsAbove .postgres 5 ↔ f.isBitwise = false := by
  constructor
  · intro starts
    obtain ⟨here, below⟩ := operators
    cases f with
    | bitwise op operands =>
      obtain ⟨f, mid, last, rfl⟩ := chain_shape here.2
      have above := (chain_starts (by simp)).1 starts
      exact absurd above.1 (Nat.lt_irrefl 5)
    | _ => rfl
  · intro other
    have eight : grade 8 ≤ grade f.precedence := grade_mono (tight_of_not_bitwise tight other)
    exact phrase_starts operators (Nat.lt_of_lt_of_le (by decide) eight)

theorem lead_proper (op : Leading)
    (starts : (Phrase.operand parent f f.phrase).StartsAbove .postgres (op.level .postgres)) :
    (Phrase.lead op (Phrase.operand parent f f.phrase)).Proper .postgres ↔
      f.phrase.Proper .postgres := by
  rw [Phrase.Proper, Phrase.operand_proper]
  exact and_iff_right starts

theorem phrase_proper_iff (operators : f.Everywhere NodeOperator) :
    f.phrase.Proper .postgres ↔ f.Everywhere NodeKept := by
  induction operators with
  | @node f here operators ih =>
    have below : (∀ g ∈ f.children, g.Everywhere NodeKept) ↔
        ∀ g ∈ f.children, g.phrase.Proper .postgres :=
      forall₂_congr fun g mem => (ih g mem).symm
    rw [everywhere_iff, below]
    cases f with
    | value v => simp [phrase, Phrase.Proper, NodeKept, children]
    | column c => simp [phrase, Phrase.Proper, NodeKept, children]
    | comparison op left right =>
      have ends : (Phrase.operand 4 left left.phrase).EndsFrom .postgres 5 :=
        Phrase.operand_ends.2 fun bare =>
          (phrase_ends (operators left (by simp [children])) (grade_mono bare)).2 fun _ =>
            Nat.le_refl 5
      have starts : (Phrase.operand 4 right right.phrase).StartsAbove .postgres 4 :=
        operand_starts_above (operators right (by simp [children])) (by decide)
      rw [phrase, Phrase.Proper, Phrase.operand_proper, Phrase.operand_proper]
      simp only [NodeKept, children, List.forall_mem_cons, List.not_mem_nil, false_implies,
        implies_true, and_true, true_and]
      exact (and_iff_right ends).trans (and_iff_right starts)
    | not operand =>
      have starts : (Phrase.operand 3 operand operand.phrase).StartsAbove .postgres 3 :=
        operand_starts_above (operators operand List.mem_cons_self) (by decide)
      rw [phrase, lead_proper .not starts]
      simp [NodeKept, children]
    | complement operand =>
      have starts : (Phrase.operand 10 operand operand.phrase).StartsAbove .postgres 5 :=
        operand_starts_above (operators operand List.mem_cons_self) (by decide)
      rw [phrase, lead_proper .complement starts]
      simp [NodeKept, children]
    | negate operand =>
      have starts : (Phrase.operand 10 operand operand.phrase).StartsAbove .postgres 8 :=
        operand_starts_above (operators operand List.mem_cons_self) (by decide)
      rw [phrase, lead_proper .negate starts]
      simp [NodeKept, children]
    | logical op operands =>
      have low : grade (precedence (.logical op [])) ≤ 5 := by cases op <;> decide
      have next : grade (precedence (.logical op []))
          < grade (precedence (.logical op []) + 1) := by
        cases op <;> decide
      rw [phrase, loose_chain_proper here operators (logical_grade op) low]
      refine and_congr_left fun _ => iff_of_true ?_ trivial
      intro g mem bare
      exact phrase_starts (operators g (List.mem_of_mem_tail mem))
        (Nat.lt_of_lt_of_le next (grade_mono bare))
    | arithmetic op operands =>
      obtain ⟨f, mid, last, rfl⟩ := chain_shape here
      have high : 5 < grade (precedence (.arithmetic op [])) := by cases op <;> decide
      have next : grade (precedence (.arithmetic op []))
          < grade (precedence (.arithmetic op []) + 1) := by
        cases op <;> decide
      exact tight_chain_proper (by simp) operators (arithmetic_grade op) high next
    | bitwise op operands =>
      obtain ⟨f, mid, last, rfl⟩ := chain_shape here.2
      -- operators on bits have one grade, so a bare one behind another is read to the left of it
      have low : grade (precedence (.bitwise op [])) = 5 := by cases op <;> rfl
      have five : 5 ≤ precedence (.bitwise op []) := by cases op <;> decide
      rw [phrase, loose_chain_proper here.2 operators (bitwise_grade op) (Nat.le_of_eq low), low]
      refine and_congr_left fun _ => forall₂_congr fun g mem => ?_
      have starts (bare : precedence (.bitwise op []) < g.precedence) :
          g.phrase.StartsAbove .postgres 5 ↔ g.isBitwise = false :=
        bitwise_starts (operators g (List.mem_cons_of_mem f mem)) (Nat.lt_of_le_of_lt five bare)
      constructor
      · intro shown bits
        refine Nat.le_of_not_lt fun bare => ?_
        rw [(starts bare).1 (shown bare)] at bits
        cases bits
      · intro kept bare
        refine (starts bare).2 (Bool.eq_false_iff.2 fun bits => ?_)
        exact Nat.not_le.2 bare (kept bits)
    | _ => exact here.elim

/-- PostgreSQL reads the text of a fragment as the fragment's tree if and only if no operator on
bits stands bare behind another operator on bits, and no complement bare before arithmetic. -/
theorem grouping_kept_iff (operators : f.Everywhere NodeOperator) {sql : String}
    {params : List Bound} (rendered : f.toSql .postgres = .ok (sql, params)) :
    Parser.parseOnce .postgres '"' sql params = some f.normal ↔ f.Everywhere NodeKept := by
  rw [← phrase_proper_iff operators]
  exact rendered_read_iff Levels.postgres_usual Slot.doubleQuote_apart
    (.inr Dialect.postgres_numbered) operators rendered

theorem masked_flags_kept :
    let flag (name : String) : Fragment := .column ⟨"t", none, name⟩
    let f : Fragment := .bitwise .or [.bitwise .and [flag "a", flag "b"], .complement (flag "c")]
    let sql := "\"a\" & \"b\" | ~\"c\""
    f.Everywhere NodeOperator ∧ f.Everywhere NodeKept ∧ f.toSql .postgres = .ok (sql, []) ∧
      Parser.parseOnce .postgres '"' sql [] = some f.normal := by
  intro flag f sql
  have everywhere {P : Fragment → Prop} (outer : P f)
      (mask : P (.bitwise .and [flag "a", flag "b"])) (complement : P (.complement (flag "c")))
      (columns : ∀ c, P (.column c)) : f.Everywhere P := by
    have column (name : String) : (flag name).Everywhere P :=
      .node (columns _) (by simp [flag, children])
    have masked := List.forall_mem_cons.2 ⟨column "a", List.forall_mem_singleton.2 (column "b")⟩
    have inverted := List.forall_mem_singleton.2 (column "c")
    exact .node outer (List.forall_mem_cons.2
      ⟨.node mask masked, List.forall_mem_singleton.2 (.node complement inverted)⟩)
  have operators : f.Everywhere NodeOperator :=
    everywhere ⟨by decide, Nat.le_refl 2⟩ ⟨by decide, Nat.le_refl 2⟩ trivial fun _ => trivial
  have kept : f.Everywhere NodeKept :=
    everywhere (by simp [f, NodeKept, isBitwise]) (by simp [flag, NodeKept, isBitwise]) trivial
      fun _ => trivial
  have rendered : f.toSql .postgres = .ok (sql, []) := by rfl
  exact ⟨operators, kept, rendered, (grouping_kept_iff operators rendered).2 kept⟩

/-- Flags that are set behind a mask are masked as well. -/
theorem flags_masked_together :
    let flag (name : String) : Fragment := .column ⟨"t", none, name⟩
    let f : Fragment := .bitwise .or [flag "a", .bitwise .and [flag "b", flag "c"]]
    let g : Fragment := .bitwise .and [.bitwise .or [flag "a", flag "b"], flag "c"]
    f.Everywhere NodeOperator ∧ f.toSql .postgres = .ok ("\"a\" | \"b\" & \"c\"", []) ∧
      Parser.parseOnce .postgres '"' "\"a\" | \"b\" & \"c\"" [] = some g.normal ∧
        g.normal ≠ f.normal := by
  intro flag f g
  have column (name : String) : (flag name).Everywhere NodeOperator :=
    .node trivial (by simp [flag, children])
  have inner : (Fragment.bitwise .and [flag "b", flag "c"]).Everywhere NodeOperator :=
    .node ⟨by decide, Nat.le_refl 2⟩
      (List.forall_mem_cons.2 ⟨column "b", List.forall_mem_singleton.2 (column "c")⟩)
  have operators : f.Everywhere NodeOperator :=
    .node ⟨by decide, Nat.le_refl 2⟩
      (List.forall_mem_cons.2 ⟨column "a", List.forall_mem_singleton.2 inner⟩)
  refine ⟨operators, by rfl, by rfl, ?_⟩
  simp [f, g, flag, normal, normalEach, Tree.splice]

end Fragment
end ExprSql
