import ExprSql.Proofs.Query.Parser

/-!
Phrases: operators with their operands, and the groups that stand between parentheses. Tokens alone
may be read as several phrases, but only one of these has a given tree.
-/
namespace ExprSql

inductive Leading where
  | not
  | complement
  | negate
  deriving DecidableEq

inductive Joining where
  | link (op : Link)
  | comparison (op : Comparison)
  deriving DecidableEq

namespace Leading

def token : Leading → Token
  | .not => .not
  | .complement => .tilde
  | .negate => .link (.arithmetic .subtract)

def node : Leading → Tree → Tree
  | .not => .not
  | .complement => .complement
  | .negate => .negate

end Leading

namespace Joining

def token : Joining → Token
  | .link op => .link op
  | .comparison op => .comparison op

def node : Joining → Tree → Tree → Tree
  | .link op => Tree.extend op
  | .comparison op => .comparison op

end Joining

inductive Phrase where
  | value (b : Option Bound)
  | column (qualifier name : Option String)
  | group (inner : Phrase)
  | lead (op : Leading) (operand : Phrase)
  | join (op : Joining) (left right : Phrase)

namespace Token

def ofName : Option String → Token
  | some s => .identifier s
  | none => .link (.arithmetic .multiply)

def isParenthesis : Token → Bool
  | .opening | .closing => true
  | _ => false

/-- How many groups are open behind the tokens, if none is closed that was not open. -/
def depth : Nat → List Token → Option Nat
  | groups, [] => some groups
  | groups, .opening :: ts => depth (groups + 1) ts
  | 0, .closing :: _ => none
  | groups + 1, .closing :: ts => depth groups ts
  | groups, _ :: ts => depth groups ts

variable {ts us : List Token} {token : Token} {groups : Nat}

theorem depth_plain (plain : token.isParenthesis = false) :
    depth groups (token :: ts) = depth groups ts := by
  cases token with
  | opening => simp [isParenthesis] at plain
  | closing => simp [isParenthesis] at plain
  | _ => cases groups <;> simp [depth]

theorem depth_append (ts us : List Token) (groups : Nat) :
    depth groups (ts ++ us) = (depth groups ts).bind fun later => depth later us := by
  induction ts generalizing groups with
  | nil => simp [depth]
  | cons token ts ih =>
    cases token with
    | opening => simp [depth, ih]
    | closing => cases groups <;> simp [depth, ih]
    | _ => rw [List.cons_append, depth_plain rfl, depth_plain rfl, ih]

theorem depth_deeper {later : Nat} (found : depth groups ts = some later) :
    depth (groups + 1) ts = some (later + 1) := by
  induction ts generalizing groups with
  | nil => simpa [depth] using found
  | cons token ts ih =>
    cases token with
    | opening => exact ih found
    | closing =>
      cases groups with
      | zero => simp [depth] at found
      | succ groups => exact ih found
    | _ =>
      rw [depth_plain rfl] at found ⊢
      exact ih found

theorem split_unique {ts' us' : List Token} {token' : Token}
    (plain : token.isParenthesis = false) (plain' : token'.isParenthesis = false)
    (words : ts.countP (!·.isParenthesis) = ts'.countP (!·.isParenthesis))
    (same : ts ++ token :: us = ts' ++ token' :: us') : ts = ts' ∧ token = token' ∧ us = us' := by
  rcases List.append_eq_append_iff.1 same with ⟨more, rfl, rest⟩ | ⟨more, rfl, rest⟩
  · cases more with
    | nil => simpa using rest
    | cons first more =>
      obtain ⟨rfl, -⟩ := List.cons.inj rest
      simp [plain] at words
  · cases more with
    | nil => simpa [eq_comm] using rest
    | cons first more =>
      obtain ⟨rfl, -⟩ := List.cons.inj rest
      simp [plain'] at words

end Token

theorem Leading.token_plain (op : Leading) : op.token.isParenthesis = false := by
  cases op <;> rfl

theorem Joining.token_plain (op : Joining) : op.token.isParenthesis = false := by
  cases op <;> rfl

theorem Token.ofName_plain (s : Option String) : (ofName s).isParenthesis = false := by
  cases s <;> rfl

theorem Token.ofName_inj {s s' : Option String} (same : ofName s = ofName s') : s = s' := by
  cases s with
  | none =>
    cases s' with
    | none => rfl
    | some name => simp [ofName] at same
  | some name =>
    cases s' with
    | none => simp [ofName] at same
    | some name' => simpa [ofName] using same

def Tree.operator? : Tree → Option (Leading ⊕ Joining)
  | .chain op _ => some (.inr (.link op))
  | .comparison op _ _ => some (.inr (.comparison op))
  | .not _ => some (.inl .not)
  | .complement _ => some (.inl .complement)
  | .negate _ => some (.inl .negate)
  | _ => none

@[simp] theorem Leading.operator_node (op : Leading) (t : Tree) :
    (op.node t).operator? = some (.inl op) := by
  cases op <;> rfl

@[simp] theorem Joining.operator_node (op : Joining) (left right : Tree) :
    (op.node left right).operator? = some (.inr op) := by
  cases op <;> rfl

theorem Leading.node_inj {op : Leading} {t u : Tree} (same : op.node t = op.node u) : t = u := by
  cases op <;> simpa [node] using same

mutual

def Tree.span : Tree → Nat
  | .column (some _) _ => 4
  | .comparison _ left right => left.span + right.span
  | .chain _ operands => spanEach operands
  | .not t | .complement t | .negate t => t.span + 1
  | _ => 2

def Tree.spanEach : List Tree → Nat
  | [] => 0
  | t :: ts => t.span + spanEach ts

end

namespace Tree

theorem spanEach_append (ts us : List Tree) : spanEach (ts ++ us) = spanEach ts + spanEach us := by
  induction ts with
  | nil => simp [spanEach]
  | cons t ts ih =>
    simp only [List.cons_append, spanEach, ih]
    omega

/-- The operands that a tree brings to a chain when it begins one. -/
def parts (op : Link) : Tree → List Tree
  | .chain op' operands => if op' = op then operands else [.chain op' operands]
  | t => [t]

theorem extend_eq_parts (op : Link) (left right : Tree) :
    extend op left right = .chain op (parts op left ++ [right]) := by
  cases left with
  | chain op' operands => by_cases same : op' = op <;> simp [extend, splice, parts, same]
  | _ => rfl

theorem parts_cases (op : Link) (t : Tree) : t = .chain op (parts op t) ∨ parts op t = [t] := by
  cases t with
  | chain op' operands =>
    by_cases same : op' = op
    · exact .inl (by simp [parts, same])
    · exact .inr (by simp [parts, same])
  | _ => exact .inr rfl

theorem span_extend (op : Link) (left right : Tree) :
    (extend op left right).span = left.span + right.span := by
  have whole : spanEach (parts op left) = left.span := by
    rcases parts_cases op left with chain | alone
    · rw [chain, span, ← chain]
    · simp [alone, spanEach]
  simp [extend_eq_parts, span, spanEach_append, spanEach, whole]

end Tree

namespace Phrase

def tokens : Phrase → List Token
  | .value b => [.parameter b]
  | .column none s => [Token.ofName s]
  | .column (some q) s => [.identifier q, .dot, Token.ofName s]
  | .group p => .opening :: p.tokens ++ [.closing]
  | .lead op p => op.token :: p.tokens
  | .join op l r => l.tokens ++ op.token :: r.tokens

def tree : Phrase → Tree
  | .value b => .value b
  | .column q s => .column q (s.getD "*")
  | .group p => p.tree
  | .lead op p => op.node p.tree
  | .join op l r => op.node l.tree r.tree

variable {p q : Phrase}

theorem depth_tokens (p : Phrase) (groups : Nat) : Token.depth groups p.tokens = some groups := by
  induction p generalizing groups with
  | value b => rw [tokens, Token.depth_plain rfl, Token.depth]
  | column q s =>
    cases q with
    | none => rw [tokens, Token.depth_plain (Token.ofName_plain s), Token.depth]
    | some q =>
      rw [tokens, Token.depth_plain rfl, Token.depth_plain rfl,
        Token.depth_plain (Token.ofName_plain s), Token.depth]
  | group p ih =>
    rw [tokens, List.cons_append, Token.depth, Token.depth_append, ih, Option.bind_some]
    rfl
  | lead op p ih => rw [tokens, Token.depth_plain op.token_plain, ih]
  | join op l r ihl ihr =>
    rw [tokens, Token.depth_append, ihl, Option.bind_some, Token.depth_plain op.token_plain, ihr]

theorem words_tokens (p : Phrase) : p.tokens.countP (!·.isParenthesis) + 1 = p.tree.span := by
  induction p with
  | value b => rfl
  | column q s => cases q <;> cases s <;> rfl
  | group p ih => simpa [tokens, tree, Token.isParenthesis] using ih
  | lead op p ih =>
    have node : (op.node p.tree).span = p.tree.span + 1 := by
      cases op <;> simp [Leading.node, Tree.span]
    simp [tokens, tree, op.token_plain, node, ih]
  | join op l r ihl ihr =>
    have node : (op.node l.tree r.tree).span = l.tree.span + r.tree.span := by
      cases op with
      | link op => exact Tree.span_extend op l.tree r.tree
      | comparison op => simp [Joining.node, Tree.span]
    simp only [tokens, tree, List.countP_append, List.countP_cons, op.token_plain, node]
    simp
    omega

theorem tokens_present (p : Phrase) : p.tokens ≠ [] := by
  cases p with
  | column q s => cases q <;> simp [tokens]
  | _ => simp [tokens]

theorem chain_operands {link : Link} {operands : List Tree}
    (chain : p.tree = .chain link operands) : 2 ≤ operands.length := by
  induction p generalizing link operands with
  | value b => simp [tree] at chain
  | column q s => simp [tree] at chain
  | group p ih => exact ih chain
  | lead op p ih => cases op <;> simp [tree, Leading.node] at chain
  | join op l r ihl ihr =>
    cases op with
    | comparison op => simp [tree, Joining.node] at chain
    | link op =>
      rw [tree, Joining.node, Tree.extend_eq_parts] at chain
      obtain ⟨rfl, rfl⟩ := Tree.chain.inj chain
      rcases Tree.parts_cases op l.tree with chain | alone
      · have two := ihl chain
        simp
        omega
      · simp [alone]

theorem node_unique {op op' : Joining} {l r l' r' : Phrase}
    (same : op.node l.tree r.tree = op'.node l'.tree r'.tree) :
    op = op' ∧ l.tree = l'.tree ∧ r.tree = r'.tree := by
  cases op with
  | comparison op =>
    cases op' with
    | comparison op' => simpa [Joining.node] using same
    | link op' => simp [Joining.node, Tree.extend] at same
  | link op =>
    cases op' with
    | comparison op' => simp [Joining.node, Tree.extend] at same
    | link op' =>
      simp only [Joining.node, Tree.extend_eq_parts, Tree.chain.injEq, List.append_singleton_inj]
        at same
      obtain ⟨rfl, left, right⟩ := same
      refine ⟨rfl, ?_, right⟩
      rcases Tree.parts_cases op l.tree with chain | alone
      · rcases Tree.parts_cases op l'.tree with chain' | alone'
        · rw [chain, chain', left]
        · have two := chain_operands chain
          simp [left, alone'] at two
      · rcases Tree.parts_cases op l'.tree with chain' | alone'
        · have two := chain_operands chain'
          simp [← left, alone] at two
        · simpa [alone, alone'] using left

/-- The first parenthesis of a group is closed by the last, so nothing is joined in between. -/
theorem group_not_joined {op : Joining} {l r : Phrase} :
    (group p).tokens ≠ (join op l r).tokens := by
  intro same
  rw [tokens, tokens] at same
  rcases List.append_eq_cons_iff.1 same.symm with ⟨none, -⟩ | ⟨inner, left, rest⟩
  · exact tokens_present l none
  · have closed : Token.depth 1 inner = some 0 := by
      have balanced := depth_tokens l 0
      rwa [left, Token.depth] at balanced
    have within : ∃ more, p.tokens = inner ++ more := by
      rcases List.append_eq_append_iff.1 rest with ⟨more, -, tail⟩ | ⟨more, whole, -⟩
      · have present := List.length_pos_of_ne_nil (tokens_present r)
        have length := congrArg List.length tail
        simp at length
        omega
      · exact ⟨more, whole⟩
    obtain ⟨more, whole⟩ := within
    have balanced := depth_tokens p 0
    rw [whole, Token.depth_append] at balanced
    obtain ⟨later, found, -⟩ := Option.bind_eq_some_iff.1 balanced
    rw [Token.depth_deeper found] at closed
    simp at closed

theorem group_tokens (same : (group p).tokens = q.tokens) :
    ∃ inner, q = group inner ∧ p.tokens = inner.tokens := by
  cases q with
  | value b => simp [tokens] at same
  | column q s => cases q <;> cases s <;> simp [tokens, Token.ofName] at same
  | group q => exact ⟨q, rfl, by simpa [tokens] using same⟩
  | lead op q => cases op <;> simp [tokens, Leading.token] at same
  | join op l r => exact absurd same group_not_joined

theorem grouped_alike (tokens : p.tokens = q.tokens) :
    (∃ inner, p = group inner) ↔ ∃ inner, q = group inner := by
  constructor
  · rintro ⟨inner, rfl⟩
    obtain ⟨other, made, -⟩ := group_tokens tokens
    exact ⟨other, made⟩
  · rintro ⟨inner, rfl⟩
    obtain ⟨other, made, -⟩ := group_tokens tokens.symm
    exact ⟨other, made⟩

def operator? : Phrase → Option (Leading ⊕ Joining)
  | .value _ | .column _ _ => none
  | .group p => p.operator?
  | .lead op _ => some (.inl op)
  | .join op _ _ => some (.inr op)

theorem operator_tree (p : Phrase) : p.tree.operator? = p.operator? := by
  induction p with
  | value b => rfl
  | column q s => rfl
  | group p ih => exact ih
  | lead op p ih => exact op.operator_node p.tree
  | join op l r ihl ihr => exact op.operator_node l.tree r.tree

theorem same_operator (tree : p.tree = q.tree) : p.operator? = q.operator? := by
  rw [← operator_tree, ← operator_tree, tree]

/-- A phrase can be told from its tokens and its tree together. -/
theorem phrase_unique (tokens : p.tokens = q.tokens) (tree : p.tree = q.tree) : p = q := by
  induction p generalizing q with
  | group p ih =>
    obtain ⟨inner, rfl, same⟩ := group_tokens tokens
    rw [ih same tree]
  | value b =>
    have root := same_operator tree
    have grouped := grouped_alike tokens
    cases q with
    | value b' => simpa [Phrase.tokens] using tokens
    | column q s => simp [Phrase.tree] at tree
    | group q => simp at grouped
    | lead op q => simp [operator?] at root
    | join op l r => simp [operator?] at root
  | column qualifier s =>
    have root := same_operator tree
    have grouped := grouped_alike tokens
    cases q with
    | value b' => simp [Phrase.tree] at tree
    | column qualifier' s' =>
      obtain ⟨rfl, -⟩ := Tree.column.inj tree
      have named : Token.ofName s = Token.ofName s' := by
        cases qualifier <;> simpa [Phrase.tokens] using tokens
      rw [Token.ofName_inj named]
    | group q => simp at grouped
    | lead op q => simp [operator?] at root
    | join op l r => simp [operator?] at root
  | lead op p ih =>
    have root := same_operator tree
    have grouped := grouped_alike tokens
    cases q with
    | value b => simp [operator?] at root
    | column q s => simp [operator?] at root
    | group q => simp at grouped
    | lead op' q =>
      obtain rfl : op = op' := by simpa [operator?] using root
      rw [ih (by simpa [Phrase.tokens] using tokens) (Leading.node_inj tree)]
    | join op' l r => simp [operator?] at root
  | join op l r ihl ihr =>
    have root := same_operator tree
    have grouped := grouped_alike tokens
    cases q with
    | value b => simp [operator?] at root
    | column q s => simp [operator?] at root
    | group q => simp at grouped
    | lead op' q => simp [operator?] at root
    | join op' l' r' =>
      obtain ⟨rfl, left, right⟩ := node_unique tree
      -- parentheses aside, as many words stand before either operator, so the texts part alike
      have words : l.tokens.countP (!·.isParenthesis) = l'.tokens.countP (!·.isParenthesis) := by
        have span := words_tokens l
        have span' := words_tokens l'
        rw [left] at span
        omega
      obtain ⟨leftTokens, -, rightTokens⟩ :=
        Token.split_unique op.token_plain op.token_plain words tokens
      rw [ihl leftTokens left, ihr rightTokens right]

end Phrase
end ExprSql
