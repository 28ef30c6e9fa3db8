import ExprSql.Proofs.Query.Phrase

/-!
Reading under a table of levels. Tokens are read as a phrase exactly when no operand shows an
operator at its edge that would take the operand apart, and comparisons do not associate.
-/
namespace ExprSql

namespace Leading

def frame : Leading → Frame
  | .not => .not
  | .complement => .complement
  | .negate => .negate

def level (levels : Levels) : Leading → Nat
  | .not => levels.not
  | .complement => levels.complement
  | .negate => levels.negate

theorem frame_level (levels : Levels) (op : Leading) : op.frame.level levels = op.level levels := by
  cases op <;> rfl

theorem frame_complete (op : Leading) (t : Tree) : op.frame.complete t = some (op.node t) := by
  cases op <;> rfl

end Leading

namespace Joining

def frame (left : Tree) : Joining → Frame
  | .link op => .link left op
  | .comparison op => .comparison left op

def level (levels : Levels) : Joining → Nat
  | .link op => levels.link op
  | .comparison _ => levels.comparison

/-- The least level of the operators that a left operand may end with. -/
def floor (levels : Levels) : Joining → Nat
  | .link op => levels.link op
  | .comparison _ => levels.comparison + 1

theorem level_le_floor (levels : Levels) (op : Joining) : op.level levels ≤ op.floor levels := by
  cases op <;> simp [level, floor]

theorem frame_level (levels : Levels) (op : Joining) (left : Tree) :
    (op.frame left).level levels = op.level levels := by
  cases op <;> rfl

theorem frame_complete (op : Joining) (left t : Tree) :
    (op.frame left).complete t = some (op.node left t) := by
  cases op <;> rfl

end Joining

/-- Operators between operands bind at some level, and `AND` no tighter than comparisons do. -/
structure Levels.Usual (levels : Levels) : Prop where
  positive (op : Joining) : 0 < op.level levels
  conjunction : levels.link (.logical .and) ≤ levels.comparison

namespace Phrase

variable (levels : Levels)

/-- The operators at the left edge bind tighter than a level. -/
def StartsAbove (level : Nat) : Phrase → Prop
  | .join op l _ => level < op.level levels ∧ l.StartsAbove level
  | _ => True

def EndsFrom (level : Nat) : Phrase → Prop
  | .lead op p => level ≤ op.level levels ∧ p.EndsFrom level
  | .join op _ r => level ≤ op.level levels ∧ r.EndsFrom level
  | _ => True

/-- Every operator binds looser than those at the edges of its operands. -/
def Proper : Phrase → Prop
  | .value _ | .column _ _ => True
  | .group p => p.Proper
  | .lead op p => p.StartsAbove levels (op.level levels) ∧ p.Proper
  | .join op l r => l.EndsFrom levels (op.floor levels) ∧ r.StartsAbove levels (op.level levels) ∧
      l.Proper ∧ r.Proper

end Phrase

namespace Parser

variable (levels : Levels)

def innermost : List Frame → Nat
  | [] => 0
  | frame :: _ => frame.level levels

def repeats : List Frame × Phase → Token → Bool
  | (stack, .got t), .comparison _ =>
      innermost levels (reduce levels (levels.comparison + 1) stack t).1 == levels.comparison
  | _, _ => false

/-- Reads all tokens like `run`, but lets no comparison be an operand of a comparison. -/
def runOnce : List Frame × Phase → List Token → Option Tree
  | state, [] => run levels state []
  | state, token :: rest =>
      if repeats levels state token then none
      else (step levels state token).bind fun next => runOnce next rest

def parseOnce (quote : Char) (sql : String) (params : List Bound) : Option Tree :=
  runOnce levels ([], .want) (Token.ofText quote sql params)

def floor? : Token → Option Nat
  | .comparison _ => some (levels.comparison + 1)
  | token => level? levels token

def Ends (condition : Nat → Prop) (rest : List Token) : Prop :=
  ∀ token ∈ rest.head?, ∃ floor, condition floor ∧ floor? levels token = some floor

variable {levels} {stack : List Frame} {t whole : Tree} {token : Token} {rest : List Token}
  {p : Phrase}

theorem ends_cons {condition : Nat → Prop} {floor : Nat} (found : floor? levels token = some floor)
    (holds : condition floor) : Ends levels condition (token :: rest) := by
  intro next mem
  cases mem
  exact ⟨floor, holds, found⟩

theorem ends_mono {condition weaker : Nat → Prop} (ends : Ends levels condition rest)
    (weaken : ∀ floor, condition floor → weaker floor) : Ends levels weaker rest := by
  intro token mem
  obtain ⟨floor, holds, found⟩ := ends token mem
  exact ⟨floor, weaken floor holds, found⟩

theorem floor_joining (op : Joining) : floor? levels op.token = some (op.floor levels) := by
  cases op <;> rfl

theorem level_joining (op : Joining) : level? levels op.token = some (op.level levels) := by
  cases op <;> rfl

theorem level_of_floor {floor : Nat} (found : floor? levels token = some floor) :
    ∃ level, level ≤ floor ∧ level? levels token = some level := by
  cases token with
  | comparison op =>
    obtain rfl := Option.some.inj found
    exact ⟨levels.comparison, Nat.le_succ _, rfl⟩
  | _ => exact ⟨floor, Nat.le_refl floor, found⟩

theorem runOnce_step {state next : List Frame × Phase}
    (once : repeats levels state token = false) (read : step levels state token = some next) :
    runOnce levels state (token :: rest) = runOnce levels next rest := by
  simp [runOnce, once, read]

theorem step_behind {level : Nat} (found : level? levels token = some level) :
    step levels (stack, .got t) token
      = shift (reduce levels level stack t).1 (reduce levels level stack t).2 token := by
  simp only [step, follow, found]

theorem reduce_below {level : Nat} (low : innermost levels stack < level) :
    reduce levels level stack t = (stack, t) := by
  cases stack with
  | nil => rfl
  | cons frame stack =>
    have kept : ¬ level ≤ frame.level levels := Nat.not_le.mpr low
    unfold reduce
    split
    · rw [if_neg kept]
    · rfl

theorem runOnce_complete {frame : Frame} (complete : frame.complete t = some whole)
    (ends : Ends levels (· ≤ frame.level levels) rest) :
    runOnce levels (frame :: stack, .got t) rest = runOnce levels (stack, .got whole) rest := by
  cases rest with
  | nil => simp [runOnce, run, reduce, complete]
  | cons token rest =>
    obtain ⟨floor, below, found⟩ := ends token rfl
    have reduced (level : Nat) (low : level ≤ floor) :
        reduce levels level (frame :: stack) t = reduce levels level stack whole := by
      simp [reduce, complete, Nat.le_trans low below]
    have alike : repeats levels (frame :: stack, .got t) token
        = repeats levels (stack, .got whole) token := by
      cases token with
      | comparison op =>
        obtain rfl := Option.some.inj found
        rw [repeats, repeats, reduced _ (Nat.le_refl _)]
      | _ => rfl
    obtain ⟨level, low, found⟩ := level_of_floor found
    rw [runOnce, runOnce, alike, step_behind found, step_behind found, reduced level low]

theorem shift_joining (usual : levels.Usual) (op : Joining)
    (low : innermost levels stack < op.level levels) :
    shift stack t op.token = some (op.frame t :: stack, .want) := by
  cases op with
  | comparison op => rfl
  | link op =>
    dsimp only [Joining.token, shift]
    split
    · rename_i operand negated stack
      have loose := usual.conjunction
      have low : levels.comparison < levels.link (.logical .and) := low
      omega
    · rfl

theorem runOnce_joining (usual : levels.Usual) (op : Joining)
    (low : innermost levels stack < op.level levels) :
    runOnce levels (stack, .got t) (op.token :: rest)
      = runOnce levels (op.frame t :: stack, .want) rest := by
  have read : step levels (stack, .got t) op.token = some (op.frame t :: stack, .want) := by
    rw [step_behind (level_joining op), reduce_below low, shift_joining usual op low]
  refine runOnce_step ?_ read
  cases op with
  | link op => rfl
  | comparison op =>
    have low : innermost levels stack < levels.comparison := low
    rw [Joining.token, repeats, reduce_below (Nat.lt_succ_of_lt low)]
    exact beq_false_of_ne (Nat.ne_of_lt low)

theorem starts_above_zero (usual : levels.Usual) (p : Phrase) : p.StartsAbove levels 0 := by
  induction p with
  | join op l r ihl ihr => exact ⟨usual.positive op, ihl⟩
  | _ => trivial

theorem ends_from_zero (p : Phrase) : p.EndsFrom levels 0 := by
  induction p with
  | lead op p ih => exact ⟨Nat.zero_le _, ih⟩
  | join op l r ihl ihr => exact ⟨Nat.zero_le _, ihr⟩
  | _ => trivial

/-- A proper phrase is read as its tree, inside any open nodes that bind looser. -/
theorem proper_read (usual : levels.Usual) (proper : p.Proper levels)
    (starts : p.StartsAbove levels (innermost levels stack))
    (ends : Ends levels (p.EndsFrom levels) rest) :
    runOnce levels (stack, .want) (p.tokens ++ rest)
      = runOnce levels (stack, .got p.tree) rest := by
  induction p generalizing stack rest with
  | value b => exact runOnce_step rfl rfl
  | column q s =>
    cases q with
    | none => cases s <;> exact runOnce_step rfl rfl
    | some q =>
      rw [Phrase.tokens, List.cons_append, List.cons_append,
        runOnce_step rfl (show step levels (stack, .want) (.identifier q)
          = some (stack, .got (.column none q)) from rfl),
        runOnce_step rfl (show step levels (stack, .got (.column none q)) .dot
          = some (stack, .qualified q) from rfl)]
      cases s <;> exact runOnce_step rfl rfl
  | group p ih =>
    have opened : step levels (stack, .want) .opening = some (.group :: stack, .want) := rfl
    have closes : Ends levels (p.EndsFrom levels) (.closing :: rest) :=
      ends_cons rfl (ends_from_zero p)
    have starts : p.StartsAbove levels (innermost levels (.group :: stack)) :=
      starts_above_zero usual p
    rw [Phrase.tokens, List.append_assoc, List.cons_append, runOnce_step rfl opened,
      List.singleton_append, ih proper starts closes]
    exact runOnce_step rfl rfl
  | lead op p ih =>
    obtain ⟨inner, proper⟩ := proper
    have opened : step levels (stack, .want) op.token = some (op.frame :: stack, .want) := by
      cases op <;> rfl
    have level := op.frame_level levels
    have starts : p.StartsAbove levels (innermost levels (op.frame :: stack)) := by
      rwa [innermost, level]
    rw [Phrase.tokens, List.cons_append, runOnce_step rfl opened,
      ih proper starts (ends_mono ends fun _ => And.right)]
    exact runOnce_complete (op.frame_complete p.tree)
      (ends_mono ends fun _ holds => level ▸ holds.1)
  | join op l r ihl ihr =>
    obtain ⟨left, right, properLeft, properRight⟩ := proper
    obtain ⟨above, starts⟩ := starts
    have level := op.frame_level levels l.tree
    have startsRight : r.StartsAbove levels (innermost levels (op.frame l.tree :: stack)) := by
      rwa [innermost, level]
    rw [Phrase.tokens, List.append_assoc, List.cons_append,
      ihl properLeft starts (ends_cons (floor_joining op) left), runOnce_joining usual op above,
      ihr properRight startsRight (ends_mono ends fun _ => And.right)]
    exact runOnce_complete (op.frame_complete l.tree r.tree)
      (ends_mono ends fun _ holds => level ▸ holds.1)

end Parser
end ExprSql
