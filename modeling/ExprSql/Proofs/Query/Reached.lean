import ExprSql.Proofs.Query.Precedence

namespace ExprSql

namespace Token

def isElementary : Token → Bool
  | .parameter _ | .identifier _ | .link _ | .comparison _ | .not | .tilde => true
  | .opening | .closing | .dot => true
  | _ => false

def Dotted (ts : List Token) : Prop :=
  ∀ before after, ts = before ++ .dot :: after → ∃ front q, before = front ++ [.identifier q]

structure Elementary (ts : List Token) : Prop where
  kinds : ∀ token ∈ ts, token.isElementary = true
  dotted : Dotted ts

variable {ts us : List Token} {token : Token}

theorem elementary_append (first : Elementary ts) (second : Elementary us) :
    Elementary (ts ++ us) where
  kinds token mem := (List.mem_append.1 mem).elim (first.kinds token) (second.kinds token)
  dotted before after same := by
    rcases List.append_eq_append_iff.1 same with ⟨more, rfl, rest⟩ | ⟨more, rfl, rest⟩
    · obtain ⟨front, q, rfl⟩ := second.dotted more after rest
      exact ⟨ts ++ front, q, by simp⟩
    · cases more with
      | nil =>
        obtain ⟨front, q, none⟩ := second.dotted [] after (by simpa using rest.symm)
        simp at none
      | cons first' more =>
        obtain ⟨rfl, rfl⟩ := List.cons.inj rest
        exact first.dotted before more rfl

theorem elementary_single (kind : token.isElementary = true) (apart : token ≠ .dot) :
    Elementary [token] where
  kinds := List.forall_mem_singleton.2 kind
  dotted before after same := by
    cases before with
    | nil => exact absurd (List.cons.inj same).1 apart
    | cons first before => simp at same

theorem elementary_prefix (whole : Elementary (ts ++ us)) : Elementary ts where
  kinds token mem := whole.kinds token (List.mem_append_left us mem)
  dotted before after same := by
    refine whole.dotted before (after ++ us) ?_
    rw [same, List.append_assoc, List.cons_append]

end Token

namespace Phrase

theorem elementary_tokens (p : Phrase) : Token.Elementary p.tokens := by
  induction p with
  | value b => exact Token.elementary_single rfl (by simp)
  | column q s =>
    have named : Token.Elementary [Token.ofName s] := by
      cases s <;> exact Token.elementary_single rfl (by simp [Token.ofName])
    cases q with
    | none => exact named
    | some q =>
      have qualifier : Token.Elementary [.identifier q, .dot] := by
        refine ⟨by simp [Token.isElementary], fun before after same => ?_⟩
        cases before with
        | nil => simp at same
        | cons first before =>
          obtain ⟨rfl, rest⟩ := List.cons.inj same
          cases before with
          | nil => exact ⟨[], q, rfl⟩
          | cons second before => simp at rest
      exact Token.elementary_append qualifier named
  | group p ih =>
    have opening : Token.Elementary [.opening] := Token.elementary_single rfl (by simp)
    have closing : Token.Elementary [.closing] := Token.elementary_single rfl (by simp)
    exact Token.elementary_append (Token.elementary_append opening ih) closing
  | lead op p ih =>
    have sign : Token.Elementary [op.token] := by
      cases op <;> exact Token.elementary_single rfl (by simp [Leading.token])
    exact Token.elementary_append sign ih
  | join op l r ihl ihr =>
    have sign : Token.Elementary [op.token] := by
      cases op <;> exact Token.elementary_single rfl (by simp [Joining.token])
    exact Token.elementary_append ihl (Token.elementary_append sign ihr)

def IsPrimary : Phrase → Prop
  | .value _ | .column _ _ | .group _ => True
  | .lead _ _ | .join _ _ _ => False

end Phrase

namespace Parser

variable {levels : Levels}

/-- The tokens that the open nodes on a stack have taken. -/
inductive Opened (levels : Levels) : List Frame → List Token → Prop
  | nil : Opened levels [] []
  | group {stack : List Frame} {ts : List Token} (below : Opened levels stack ts) :
      Opened levels (.group :: stack) (ts ++ [.opening])
  | lead {stack : List Frame} {ts : List Token} (op : Leading) (below : Opened levels stack ts) :
      Opened levels (op.frame :: stack) (ts ++ [op.token])
  | join {stack : List Frame} {ts : List Token} (op : Joining) (left : Phrase)
      (below : Opened levels stack ts) (proper : left.Proper levels)
      (starts : left.StartsAbove levels (innermost levels stack))
      (ends : left.EndsFrom levels (op.floor levels))
      (loose : innermost levels stack < op.level levels) :
      Opened levels (op.frame left.tree :: stack) (ts ++ left.tokens ++ [op.token])

structure Holds (levels : Levels) (stack : List Frame) (p : Phrase) (ts : List Token) : Prop where
  opened : ∃ before, Opened levels stack before ∧ ts = before ++ p.tokens
  proper : p.Proper levels
  starts : p.StartsAbove levels (innermost levels stack)

/-- The states of the parser behind the tokens of phrases, or of parts of them. -/
inductive Reached (levels : Levels) : List Frame × Phase → List Token → Prop
  | want {stack : List Frame} {ts : List Token} (opened : Opened levels stack ts) :
      Reached levels (stack, .want) ts
  | got {stack : List Frame} {ts : List Token} (p : Phrase) (holds : Holds levels stack p ts)
      (primary : p.IsPrimary) : Reached levels (stack, .got p.tree) ts
  | qualified {stack : List Frame} {ts : List Token} (q : String)
      (opened : Opened levels stack ts) :
      Reached levels (stack, .qualified q) (ts ++ [.identifier q, .dot])
  | denied {stack : List Frame} {ts : List Token} (t : Tree) : Reached levels (stack, .denied t) ts

variable {stack : List Frame} {ts : List Token} {p : Phrase} {level : Nat}

theorem reduce_through {frame : Frame} {t whole : Tree} (complete : frame.complete t = some whole)
    (tight : level ≤ frame.level levels) :
    reduce levels level (frame :: stack) t = reduce levels level stack whole := by
  simp [reduce, complete, tight]

theorem reduce_keeps (holds : Holds levels stack p ts) (ends : p.EndsFrom levels level) :
    ∃ below whole, reduce levels level stack p.tree = (below, whole.tree) ∧
      Holds levels below whole ts ∧ whole.EndsFrom levels level ∧
      (below = [] ∨ (∃ outer, below = .group :: outer) ∨ innermost levels below < level) := by
  obtain ⟨⟨before, opened, rfl⟩, proper, starts⟩ := holds
  induction opened generalizing p with
  | nil => exact ⟨[], p, rfl, ⟨⟨[], .nil, rfl⟩, proper, starts⟩, ends, .inl rfl⟩
  | @group stack ts below ih =>
    exact ⟨_, p, rfl, ⟨⟨_, .group below, rfl⟩, proper, starts⟩, ends, .inr (.inl ⟨stack, rfl⟩)⟩
  | @lead stack ts op below ih =>
    have same := op.frame_level levels
    by_cases tight : level ≤ op.frame.level levels
    · have inner : p.StartsAbove levels (op.level levels) := same ▸ starts
      have later := ih (p := .lead op p) ⟨same ▸ tight, ends⟩ ⟨inner, proper⟩ trivial
      rw [reduce_through (op.frame_complete p.tree) tight]
      rwa [Phrase.tokens, List.append_cons] at later
    · have loose : innermost levels (op.frame :: stack) < level := Nat.lt_of_not_le tight
      exact ⟨_, p, reduce_below loose, ⟨⟨_, .lead op below, rfl⟩, proper, starts⟩, ends,
        .inr (.inr loose)⟩
  | @join stack ts op left below properLeft startsLeft endsLeft low ih =>
    have same := op.frame_level levels left.tree
    by_cases tight : level ≤ (op.frame left.tree).level levels
    · have inner : p.StartsAbove levels (op.level levels) := same ▸ starts
      have later := ih (p := .join op left p) ⟨same ▸ tight, ends⟩
        ⟨endsLeft, inner, properLeft, proper⟩ ⟨low, startsLeft⟩
      rw [reduce_through (op.frame_complete left.tree p.tree) tight]
      rwa [Phrase.tokens, List.append_cons, ← List.append_assoc, ← List.append_assoc] at later
    · have loose : innermost levels (op.frame left.tree :: stack) < level :=
        Nat.lt_of_not_le tight
      exact ⟨_, p, reduce_below loose,
        ⟨⟨_, .join op left below properLeft startsLeft endsLeft low, rfl⟩, proper, starts⟩, ends,
        .inr (.inr loose)⟩

theorem ends_of_primary (primary : p.IsPrimary) (level : Nat) : p.EndsFrom levels level := by
  cases p with
  | lead op p => exact primary.elim
  | join op l r => exact primary.elim
  | _ => trivial

theorem reduce_twice {higher : Nat} (le : level ≤ higher) (stack : List Frame) (t : Tree) :
    reduce levels level (reduce levels higher stack t).1 (reduce levels higher stack t).2
      = reduce levels level stack t := by
  induction stack generalizing t with
  | nil => rfl
  | cons frame stack ih =>
    cases complete : frame.complete t with
    | none => simp [reduce, complete]
    | some whole =>
      by_cases tight : higher ≤ frame.level levels
      · rw [reduce_through complete tight, reduce_through complete (Nat.le_trans le tight), ih]
      · simp [reduce, complete, tight]

theorem joining_reached (usual : levels.Usual) (op : Joining) (holds : Holds levels stack p ts)
    (primary : p.IsPrimary) {next : List Frame × Phase}
    (once : repeats levels (stack, .got p.tree) op.token = false)
    (read : step levels (stack, .got p.tree) op.token = some next) :
    Reached levels next (ts ++ [op.token]) := by
  obtain ⟨below, left, reduced, kept, ends, stopped⟩ :=
    reduce_keeps holds (ends_of_primary primary (op.floor levels))
  have low : innermost levels below < op.level levels := by
    rcases stopped with rfl | ⟨outer, rfl⟩ | loose
    · exact usual.positive op
    · exact usual.positive op
    · cases op with
      | link op => exact loose
      | comparison op =>
        have apart : innermost levels below ≠ levels.comparison := by
          simpa [Joining.token, repeats, show levels.comparison + 1
            = (Joining.comparison op).floor levels from rfl, reduced] using once
        exact Nat.lt_of_le_of_ne (Nat.le_of_lt_succ loose) apart
  have floor := op.level_le_floor levels
  rw [step_behind (level_joining op), ← reduce_twice floor, reduced, reduce_below low,
    shift_joining usual op low] at read
  obtain rfl := Option.some.inj read
  obtain ⟨⟨before, opened, rfl⟩, proper, starts⟩ := kept
  exact .want (.join op left opened proper starts ends low)

variable {token : Token} {next : List Frame × Phase}

theorem got_primary (opened : Opened levels stack ts) (proper : p.Proper levels)
    (primary : p.IsPrimary) : Reached levels (stack, .got p.tree) (ts ++ p.tokens) := by
  refine .got p ⟨⟨ts, opened, rfl⟩, proper, ?_⟩ primary
  cases p with
  | join op l r => exact primary.elim
  | _ => trivial

theorem want_reached (opened : Opened levels stack ts) (kind : token.isElementary = true)
    (read : step levels (stack, .want) token = some next) :
    Reached levels next (ts ++ [token]) := by
  cases token with
  | parameter b =>
    obtain rfl := Option.some.inj read
    exact got_primary (p := .value b) opened trivial trivial
  | identifier s =>
    obtain rfl := Option.some.inj read
    exact got_primary (p := .column none (some s)) opened trivial trivial
  | not =>
    obtain rfl := Option.some.inj read
    exact .want (.lead .not opened)
  | tilde =>
    obtain rfl := Option.some.inj read
    exact .want (.lead .complement opened)
  | opening =>
    obtain rfl := Option.some.inj read
    exact .want (.group opened)
  | closing =>
    cases opened with
    | nil => simp [step, begin?] at read
    | group below => simp [step, begin?] at read
    | lead op below => cases op <;> simp [step, begin?, Leading.frame] at read
    | join op left below => cases op <;> simp [step, begin?, Joining.frame] at read
  | link op =>
    cases op with
    | arithmetic op =>
      cases op with
      | multiply =>
        obtain rfl := Option.some.inj read
        exact got_primary (p := .column none none) opened trivial trivial
      | subtract =>
        obtain rfl := Option.some.inj read
        exact .want (.lead .negate opened)
      | _ => simp [step, begin?] at read
    | _ => simp [step, begin?] at read
  | comparison op => simp [step, begin?] at read
  | dot => simp [step, begin?] at read
  | _ => simp [Token.isElementary] at kind

theorem opened_group (opened : Opened levels (.group :: stack) ts) :
    ∃ before, Opened levels stack before ∧ ts = before ++ [.opening] := by
  generalize whole : Frame.group :: stack = frames at opened
  cases opened with
  | nil => simp at whole
  | group below =>
    obtain ⟨-, rfl⟩ := List.cons.inj whole
    exact ⟨_, below, rfl⟩
  | lead op below => cases op <;> simp [Leading.frame] at whole
  | join op left below => cases op <;> simp [Joining.frame] at whole

theorem closing_reached (holds : Holds levels stack p ts) (primary : p.IsPrimary)
    (read : step levels (stack, .got p.tree) .closing = some next) :
    Reached levels next (ts ++ [.closing]) := by
  obtain ⟨below, inner, reduced, ⟨⟨before, opened, rfl⟩, proper, -⟩, -, stopped⟩ :=
    reduce_keeps holds (ends_of_primary primary 0)
  have ending : level? levels .closing = some 0 := rfl
  have closed : shift below inner.tree .closing = some next := by
    rwa [step_behind ending, reduced] at read
  rcases stopped with rfl | ⟨outer, rfl⟩ | negative
  · simp [shift] at closed
  · obtain rfl := Option.some.inj closed
    obtain ⟨front, outside, rfl⟩ := opened_group opened
    have tokens : front ++ (Phrase.group inner).tokens
        = front ++ [.opening] ++ inner.tokens ++ [.closing] := by simp [Phrase.tokens]
    exact tokens ▸ got_primary (p := .group inner) outside proper trivial
  · exact absurd negative (Nat.not_lt_zero _)

theorem dot_reached (holds : Holds levels stack p ts) (primary : p.IsPrimary)
    (dotted : Token.Dotted (ts ++ [.dot]))
    (read : step levels (stack, .got p.tree) .dot = some next) :
    Reached levels next (ts ++ [.dot]) := by
  obtain ⟨front, name, last⟩ := dotted ts [] rfl
  obtain ⟨⟨before, opened, rfl⟩, -, -⟩ := holds
  cases p with
  | value b => simp [step, follow, level?, Phrase.tree] at read
  | column q s =>
    cases q with
    | some q => simp [step, follow, level?, Phrase.tree] at read
    | none =>
      obtain ⟨-, named⟩ := List.append_inj' last rfl
      cases s with
      | none => simp [Phrase.tokens, Token.ofName] at named
      | some s =>
        obtain rfl := Option.some.inj read
        have reached := Reached.qualified s opened
        rwa [List.append_cons] at reached
  | group p =>
    have closing : before ++ .opening :: p.tokens ++ [.closing] = front ++ [.identifier name] := by
      simpa [Phrase.tokens] using last
    simpa using (List.append_inj' closing rfl).2
  | lead op p => exact primary.elim
  | join op l r => exact primary.elim

theorem got_reached (usual : levels.Usual) (holds : Holds levels stack p ts) (primary : p.IsPrimary)
    (kind : token.isElementary = true) (dotted : Token.Dotted (ts ++ [token]))
    (once : repeats levels (stack, .got p.tree) token = false)
    (read : step levels (stack, .got p.tree) token = some next) :
    Reached levels next (ts ++ [token]) := by
  cases token with
  | link op => exact joining_reached usual (.link op) holds primary once read
  | comparison op => exact joining_reached usual (.comparison op) holds primary once read
  | closing => exact closing_reached holds primary read
  | dot => exact dot_reached holds primary dotted read
  | not =>
    have ending : level? levels .not = some levels.comparison := rfl
    rw [step_behind ending] at read
    obtain rfl := Option.some.inj read
    exact .denied _
  | parameter b => simp [step, follow, level?] at read
  | identifier s => simp [step, follow, level?] at read
  | tilde => simp [step, follow, level?] at read
  | opening => simp [step, follow, level?] at read
  | _ => simp [Token.isElementary] at kind

theorem qualified_reached {q : String} (opened : Opened levels stack ts)
    (read : step levels (stack, .qualified q) token = some next) :
    Reached levels next (ts ++ [.identifier q, .dot] ++ [token]) := by
  rw [List.append_assoc]
  cases token with
  | identifier s =>
    obtain rfl := Option.some.inj read
    exact got_primary (p := .column (some q) (some s)) opened trivial trivial
  | link op =>
    cases op with
    | arithmetic op =>
      cases op with
      | multiply =>
        obtain rfl := Option.some.inj read
        exact got_primary (p := .column (some q) none) opened trivial trivial
      | _ => simp [step] at read
    | _ => simp [step] at read
  | _ => simp [step] at read

theorem step_reached (usual : levels.Usual) {state : List Frame × Phase}
    (reached : Reached levels state ts) (kind : token.isElementary = true)
    (dotted : Token.Dotted (ts ++ [token])) (once : repeats levels state token = false)
    (read : step levels state token = some next) : Reached levels next (ts ++ [token]) := by
  cases reached with
  | want opened => exact want_reached opened kind read
  | got p holds primary => exact got_reached usual holds primary kind dotted once read
  | qualified q opened => exact qualified_reached opened read
  | denied t => cases token <;> simp [Token.isElementary, step] at kind read

theorem finish_reached {state : List Frame × Phase} {t : Tree} (reached : Reached levels state ts)
    (given : run levels state [] = some t) :
    ∃ p : Phrase, p.Proper levels ∧ p.tokens = ts ∧ p.tree = t := by
  cases reached with
  | want opened => simp [run] at given
  | qualified q opened => simp [run] at given
  | denied t => simp [run] at given
  | got p holds primary =>
    obtain ⟨below, whole, reduced, ⟨⟨before, opened, rfl⟩, proper, -⟩, -, -⟩ :=
      reduce_keeps holds (ends_of_primary primary 0)
    simp only [run, reduced] at given
    split at given
    · rename_i whole' nothing
      cases nothing
      cases opened
      exact ⟨whole, proper, rfl, Option.some.inj given⟩
    · cases given

theorem run_reached (usual : levels.Usual) {state : List Frame × Phase} {rest : List Token}
    {t : Tree} (reached : Reached levels state ts) (elementary : Token.Elementary (ts ++ rest))
    (given : runOnce levels state rest = some t) :
    ∃ p : Phrase, p.Proper levels ∧ p.tokens = ts ++ rest ∧ p.tree = t := by
  induction rest generalizing state ts with
  | nil =>
    rw [List.append_nil]
    exact finish_reached reached given
  | cons token rest ih =>
    rw [List.append_cons] at elementary ⊢
    have kind : token.isElementary = true := elementary.kinds token (by simp)
    have dotted := (Token.elementary_prefix elementary).dotted
    rw [runOnce] at given
    split at given
    · cases given
    · rename_i once
      obtain ⟨next, read, given⟩ := Option.bind_eq_some_iff.1 given
      exact ih (step_reached usual reached kind dotted (by simpa using once) read) elementary given

/-- The tokens of a phrase are read as its tree if and only if the phrase is proper. -/
theorem phrase_read_iff (usual : levels.Usual) (p : Phrase) :
    runOnce levels ([], .want) p.tokens = some p.tree ↔ p.Proper levels := by
  constructor
  · intro given
    obtain ⟨q, proper, tokens, tree⟩ :=
      run_reached usual (.want .nil) p.elementary_tokens given
    rwa [← Phrase.phrase_unique tokens tree]
  · intro proper
    have starts : p.StartsAbove levels (innermost levels []) := starts_above_zero usual p
    have ends : Ends levels (p.EndsFrom levels) [] := by simp [Ends]
    have read := proper_read usual proper starts ends
    rw [List.append_nil] at read
    rw [read]
    rfl

end Parser
end ExprSql
