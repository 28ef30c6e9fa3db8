import ExprSql.Proofs.Query.Reached
import ExprSql.Proofs.Query.Unambiguous

namespace ExprSql

namespace Phrase

def operand (parent : Nat) (f : Fragment) (p : Phrase) : Phrase :=
  if f.precedence ≤ parent then .group p else p

def first (parent : Nat) (f : Fragment) (p : Phrase) : Phrase :=
  if f.precedence < parent then .group p else p

end Phrase

namespace Fragment

/-- Scalars, columns and their operators. `XOR` is left out, which dialects write differently. -/
def NodeOperator : Fragment → Prop
  | .value v => v.items? = none
  | .column _ | .comparison _ _ _ | .not _ | .complement _ | .negate _ => True
  | .logical _ operands | .arithmetic _ operands => 2 ≤ operands.length
  | .bitwise op operands => op ≠ .xor ∧ 2 ≤ operands.length
  | _ => False

mutual

def phrase : Fragment → Phrase
  | .value v => .value (Bound.ofValue v).toOption
  | .column c => .column c.qualifier (if c.isWildcard then none else some c.name)
  | .comparison op left right =>
      .join (.comparison op) (Phrase.operand 4 left left.phrase)
        (Phrase.operand 4 right right.phrase)
  | .logical op operands => chainPhrase (.logical op) (precedence (.logical op [])) operands
  | .arithmetic op operands =>
      chainPhrase (.arithmetic op) (precedence (.arithmetic op [])) operands
  | .bitwise op operands => chainPhrase (.bitwise op) (precedence (.bitwise op [])) operands
  | .not f => .lead .not (Phrase.operand 3 f f.phrase)
  | .complement f => .lead .complement (Phrase.operand 10 f f.phrase)
  | .negate f => .lead .negate (Phrase.operand 10 f f.phrase)
  | _ => .value none

def chainPhrase (op : Link) (parent : Nat) : List Fragment → Phrase
  | [] => .value none
  | f :: fs => restPhrase op parent (Phrase.first parent f f.phrase) fs

def restPhrase (op : Link) (parent : Nat) (left : Phrase) : List Fragment → Phrase
  | [] => left
  | f :: fs =>
      restPhrase op parent (.join (.link op) left (Phrase.operand parent f f.phrase)) fs

end

end Fragment

namespace Phrase

variable {parent : Nat} {f : Fragment} {p : Phrase}

theorem operand_tree : (operand parent f p).tree = p.tree := by
  unfold operand
  split <;> rfl

theorem first_tree : (first parent f p).tree = p.tree := by
  unfold first
  split <;> rfl

theorem operand_tokens (same : p.tokens = Slot.tokensOf f.layout) :
    (operand parent f p).tokens = Slot.tokensOf (Slot.operand parent f f.layout) := by
  unfold operand Slot.operand
  split
  · rw [tokens, same, Slot.tokensOf_grouped]
  · exact same

theorem first_tokens (same : p.tokens = Slot.tokensOf f.layout) :
    (first parent f p).tokens = Slot.tokensOf (Slot.first parent f f.layout) := by
  unfold first Slot.first
  split
  · rw [tokens, same, Slot.tokensOf_grouped]
  · exact same

variable {levels : Levels} {level : Nat}

theorem operand_proper : (operand parent f p).Proper levels ↔ p.Proper levels := by
  unfold operand
  split <;> rfl

theorem first_proper : (first parent f p).Proper levels ↔ p.Proper levels := by
  unfold first
  split <;> rfl

theorem operand_starts : (operand parent f p).StartsAbove levels level ↔
    (parent < f.precedence → p.StartsAbove levels level) := by
  unfold operand
  split
  · rename_i grouped
    exact iff_of_true trivial fun bare => absurd grouped (Nat.not_le.2 bare)
  · rename_i bare
    simp [Nat.lt_of_not_le bare]

theorem first_starts : (first parent f p).StartsAbove levels level ↔
    (parent ≤ f.precedence → p.StartsAbove levels level) := by
  unfold first
  split
  · rename_i grouped
    exact iff_of_true trivial fun bare => absurd grouped (Nat.not_lt.2 bare)
  · rename_i bare
    simp [Nat.le_of_not_lt bare]

theorem operand_ends : (operand parent f p).EndsFrom levels level ↔
    (parent < f.precedence → p.EndsFrom levels level) := by
  unfold operand
  split
  · rename_i grouped
    exact iff_of_true trivial fun bare => absurd grouped (Nat.not_le.2 bare)
  · rename_i bare
    simp [Nat.lt_of_not_le bare]

theorem first_ends : (first parent f p).EndsFrom levels level ↔
    (parent ≤ f.precedence → p.EndsFrom levels level) := by
  unfold first
  split
  · rename_i grouped
    exact iff_of_true trivial fun bare => absurd grouped (Nat.not_lt.2 bare)
  · rename_i bare
    simp [Nat.le_of_not_lt bare]

end Phrase

namespace Fragment

open Slot

variable {f : Fragment} {op : Link} {symbol : String}

section Chain

variable {levels : Levels} {level parent : Nat} {left : Phrase} {fs : List Fragment}

theorem rest_starts : (restPhrase op parent left fs).StartsAbove levels level ↔
    (fs ≠ [] → level < levels.link op) ∧ left.StartsAbove levels level := by
  induction fs generalizing left with
  | nil => simp [restPhrase]
  | cons f fs ih =>
    rw [restPhrase, ih, Phrase.StartsAbove, Joining.level]
    constructor
    · rintro ⟨-, low, starts⟩
      exact ⟨fun _ => low, starts⟩
    · rintro ⟨low, starts⟩
      have low := low (List.cons_ne_nil f fs)
      exact ⟨fun _ => low, low, starts⟩

theorem rest_ends : (restPhrase op parent left fs).EndsFrom levels level ↔
    (fs = [] → left.EndsFrom levels level) ∧ ∀ g ∈ fs.getLast?,
      level ≤ levels.link op ∧ (Phrase.operand parent g g.phrase).EndsFrom levels level := by
  induction fs generalizing left with
  | nil => simp [restPhrase]
  | cons f fs ih =>
    rw [restPhrase, ih, Phrase.EndsFrom, Joining.level]
    cases fs with
    | nil => simp
    | cons g fs => simp

theorem rest_proper : (restPhrase op parent left fs).Proper levels ↔
    left.Proper levels ∧ (∀ g ∈ fs, g.phrase.Proper levels) ∧
      (fs ≠ [] → left.EndsFrom levels (levels.link op)) ∧
      (∀ g ∈ fs, (Phrase.operand parent g g.phrase).StartsAbove levels (levels.link op)) ∧
      ∀ g ∈ fs.dropLast, (Phrase.operand parent g g.phrase).EndsFrom levels (levels.link op) := by
  induction fs generalizing left with
  | nil => simp [restPhrase]
  | cons f fs ih =>
    rw [restPhrase, ih, Phrase.Proper, Phrase.EndsFrom, Joining.level, Joining.floor,
      Phrase.operand_proper]
    cases fs with
    | nil =>
      simp only [List.not_mem_nil, IsEmpty.forall_iff, implies_true, ne_eq, not_true_eq_false,
        List.dropLast_nil, and_true, List.forall_mem_singleton, List.cons_ne_self,
        not_false_eq_true, forall_const, List.dropLast_singleton]
      tauto
    | cons g fs =>
      simp only [List.mem_cons, forall_eq_or_imp, ne_eq, reduceCtorEq, not_false_eq_true,
        Std.le_refl, true_and, forall_const, List.dropLast_cons_cons]
      tauto

theorem chain_starts (more : fs ≠ []) :
    (chainPhrase op parent (f :: fs)).StartsAbove levels level ↔ level < levels.link op ∧
      (parent ≤ f.precedence → f.phrase.StartsAbove levels level) := by
  rw [chainPhrase, rest_starts, Phrase.first_starts]
  simp [more]

theorem chain_ends {last : Fragment} :
    (chainPhrase op parent (f :: (fs ++ [last]))).EndsFrom levels level ↔ level ≤ levels.link op ∧
      (parent < last.precedence → last.phrase.EndsFrom levels level) := by
  rw [chainPhrase, rest_ends]
  simp [Phrase.operand_ends]

/-- A chain is proper when its operands are, each but the last ends no looser than the chain binds,
and each but the first starts tighter, unless they are grouped. -/
theorem chain_proper (more : fs ≠ []) :
    (chainPhrase op parent (f :: fs)).Proper levels ↔ (∀ g ∈ f :: fs, g.phrase.Proper levels) ∧
      (parent ≤ f.precedence → f.phrase.EndsFrom levels (levels.link op)) ∧
      (∀ g ∈ fs, parent < g.precedence → g.phrase.StartsAbove levels (levels.link op)) ∧
      ∀ g ∈ fs.dropLast, parent < g.precedence → g.phrase.EndsFrom levels (levels.link op) := by
  rw [chainPhrase, rest_proper, Phrase.first_proper, Phrase.first_ends]
  simp only [Phrase.operand_starts, Phrase.operand_ends, List.forall_mem_cons, more, ne_eq,
    not_false_eq_true, forall_const, and_assoc]

end Chain

theorem rest_tree (parent : Nat) (left : Phrase) {fs : List Fragment}
    (each : ∀ g ∈ fs, g.phrase.tree = g.normal) :
    (restPhrase op parent left fs).tree = (fs.map normal).foldl (Tree.extend op) left.tree := by
  induction fs generalizing left with
  | nil => rfl
  | cons f fs ih =>
    rw [restPhrase, ih _ fun g mem => each g (List.mem_cons_of_mem f mem), Phrase.tree,
      Phrase.operand_tree, each f List.mem_cons_self]
    rfl

theorem chain_tree (parent : Nat) {fs : List Fragment} (two : 2 ≤ fs.length)
    (each : ∀ g ∈ fs, g.phrase.tree = g.normal) :
    (chainPhrase op parent fs).tree = .chain op (Tree.splice op (normalEach fs)) := by
  cases fs with
  | nil => simp at two
  | cons f fs =>
    have more : fs.map normal ≠ [] := by
      intro none
      simp [List.map_eq_nil_iff.1 none] at two
    rw [chainPhrase, rest_tree parent _ fun g mem => each g (List.mem_cons_of_mem f mem),
      Phrase.first_tree, each f List.mem_cons_self, Tree.foldl_extend op f.normal more,
      Parser.normalEach_eq_map, List.map_cons]

theorem rest_tokens (linked : (text s!" {symbol} ").tokens = [.link op]) (parent : Nat)
    (left : Phrase) {fs : List Fragment}
    (each : ∀ g ∈ fs, g.phrase.tokens = tokensOf g.layout) :
    (restPhrase op parent left fs).tokens
      = left.tokens ++ tokensOf (restLayout symbol parent fs) := by
  induction fs generalizing left with
  | nil => simp [restPhrase, restLayout]
  | cons f fs ih =>
    rw [restPhrase, ih _ fun g mem => each g (List.mem_cons_of_mem f mem), Phrase.tokens,
      Phrase.operand_tokens (each f List.mem_cons_self), restLayout, List.cons_append,
      tokensOf_text, linked, tokensOf_append]
    simp [Joining.token]

theorem chain_tokens (linked : (text s!" {symbol} ").tokens = [.link op]) (parent : Nat)
    {fs : List Fragment} (two : 2 ≤ fs.length)
    (each : ∀ g ∈ fs, g.phrase.tokens = tokensOf g.layout) :
    (chainPhrase op parent fs).tokens = tokensOf (chainLayout symbol parent fs) := by
  cases fs with
  | nil => simp at two
  | cons f fs =>
    rw [chainPhrase, rest_tokens linked parent _ fun g mem => each g (List.mem_cons_of_mem f mem),
      Phrase.first_tokens (each f List.mem_cons_self), chainLayout, tokensOf_append]

theorem phrase_tree (operators : f.Everywhere NodeOperator) : f.phrase.tree = f.normal := by
  induction operators with
  | @node f here below ih =>
    cases f with
    | value v => rfl
    | column c =>
      rw [phrase, normal, Phrase.tree]
      by_cases wild : c.isWildcard = true
      · have star : c.name = "*" := by simpa [Column.isWildcard] using wild
        simp [wild, star]
      · simp [wild]
    | comparison op left right =>
      have first := ih left (by simp [children])
      have second := ih right (by simp [children])
      simp [phrase, normal, Phrase.tree, Joining.node, Phrase.operand_tree, first, second]
    | logical op operands => exact chain_tree _ here ih
    | arithmetic op operands => exact chain_tree _ here ih
    | bitwise op operands => exact chain_tree _ here.2 ih
    | not operand =>
      have inner := ih operand List.mem_cons_self
      simp [phrase, normal, Phrase.tree, Leading.node, Phrase.operand_tree, inner]
    | complement operand =>
      have inner := ih operand List.mem_cons_self
      simp [phrase, normal, Phrase.tree, Leading.node, Phrase.operand_tree, inner]
    | negate operand =>
      have inner := ih operand List.mem_cons_self
      simp [phrase, normal, Phrase.tree, Leading.node, Phrase.operand_tree, inner]
    | _ => exact here.elim

theorem layout_scalar {v : Value} (scalar : v.items? = none) :
    (Fragment.value v).layout = [.value v] := by
  rw [layout]
  cases v with
  | array items => simp [Value.items?] at scalar
  | list items => simp [Value.items?] at scalar
  | _ => rfl

theorem column_tokens (c : Column) :
    (Fragment.column c).phrase.tokens = tokensOf (Fragment.column c).layout := by
  rw [phrase, layout]
  unfold ofColumn
  by_cases wild : c.isWildcard = true
  · cases c.qualifier with
    | none => simp only [wild, if_true]; rfl
    | some q => simp only [wild, if_true]; rfl
  · cases c.qualifier with
    | none => simp only [wild]; rfl
    | some q => simp only [wild]; rfl

theorem phrase_tokens (operators : f.Everywhere NodeOperator) :
    f.phrase.tokens = tokensOf f.layout := by
  induction operators with
  | @node f here below ih =>
    cases f with
    | value v =>
      rw [layout_scalar here]
      rfl
    | column c => exact column_tokens c
    | comparison op left right =>
      have first := ih left (by simp [children])
      have second := ih right (by simp [children])
      rw [phrase, Phrase.tokens, Phrase.operand_tokens first, Phrase.operand_tokens second, layout,
        tokensOf_append, tokensOf_text, tokens_comparison]
      rfl
    | logical op operands =>
      have linked : (text s!" {op.sql} ").tokens = [.link (.logical op)] := by cases op <;> rfl
      rw [phrase, layout, chain_tokens linked _ here ih]
    | arithmetic op operands =>
      have linked : (text s!" {op.symbol} ").tokens = [.link (.arithmetic op)] := by
        cases op <;> rfl
      rw [phrase, layout, chain_tokens linked _ here ih]
    | bitwise op operands =>
      have linked : (text s!" {op.symbol} ").tokens = [.link (.bitwise op)] := by cases op <;> rfl
      rw [phrase, layout, chain_tokens linked _ here.2 ih]
    | not operand =>
      rw [phrase, layout, Phrase.tokens, Phrase.operand_tokens (ih operand List.mem_cons_self)]
      rfl
    | complement operand =>
      rw [phrase, layout, Phrase.tokens, Phrase.operand_tokens (ih operand List.mem_cons_self)]
      rfl
    | negate operand =>
      rw [phrase, layout, Phrase.tokens, Phrase.operand_tokens (ih operand List.mem_cons_self)]
      rfl
    | _ => exact here.elim

theorem readable_of_operators (quote : Char) (operators : f.Everywhere NodeOperator) :
    f.Readable quote := by
  refine everywhere_mono (fun f here => ?_) operators
  cases f with
  | bitwise op operands => exact here.2
  | value v => exact here
  | logical op operands => exact here
  | arithmetic op operands => exact here
  | function name arguments => exact here.elim
  | _ => trivial

/-- A parser finds the tree of a fragment in its text if and only if what was written is proper
under the parser's levels. -/
theorem rendered_read_iff {levels : Levels} (usual : levels.Usual) {d : Dialect}
    (apart : Apart d.quote) (marks : d.Unnumbered ∨ d.Numbered)
    (operators : f.Everywhere NodeOperator) {sql : String} {params : List Bound}
    (rendered : f.toSql d = .ok (sql, params)) :
    Parser.parseOnce levels d.quote sql params = some f.normal ↔ f.phrase.Proper levels := by
  rw [Parser.parseOnce,
    tokens_of_rendered apart marks (readable_of_operators d.quote operators) rendered,
    ← phrase_tokens operators, ← phrase_tree operators]
  exact Parser.phrase_read_iff usual f.phrase

end Fragment
end ExprSql
