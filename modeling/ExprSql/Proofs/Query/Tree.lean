import ExprSql.Fragment.Render
import ExprSql.Proofs.Fragment.Tree

/-!
Query trees: fragments without what their text does not tell. Values stand as the parameters they
are bound as, columns without their table, and a chain that begins with a chain of its own
operator is one with it.
-/
namespace ExprSql

inductive Link where
  | logical (op : Connective)
  | arithmetic (op : Arithmetic)
  | bitwise (op : Bitwise)
  deriving DecidableEq, Repr

inductive Tree where
  | value (b : Option Bound)
  | column (qualifier : Option String) (name : String)
  | comparison (op : Comparison) (left right : Tree)
  | isNull (operand : Tree) (negated : Bool)
  | like (operand pattern : Tree) (negated : Bool)
  | inList (operand : Tree) (items : List Tree) (negated : Bool)
  | between (operand low high : Tree) (negated : Bool)
  | chain (op : Link) (operands : List Tree)
  | not (operand : Tree)
  | complement (operand : Tree)
  | negate (operand : Tree)
  | case (arms : List (Tree × Tree)) (otherwise : Tree)
  | function (name : String) (arguments : List Tree)

namespace Tree

/-- Takes a first operand apart that is a chain of the same operator. -/
def splice (op : Link) : List Tree → List Tree
  | .chain op' operands :: rest =>
      if op' = op then operands ++ rest else .chain op' operands :: rest
  | operands => operands

def extend (op : Link) (left right : Tree) : Tree := .chain op (splice op [left, right])

theorem splice_append (op : Link) {operands : List Tree} (present : operands ≠ []) (t : Tree) :
    splice op (operands ++ [t]) = splice op operands ++ [t] := by
  cases operands with
  | nil => exact absurd rfl present
  | cons first rest =>
    cases first with
    | chain op' inner => by_cases same : op' = op <;> simp [splice, same]
    | _ => rfl

theorem extend_chain (op : Link) (operands : List Tree) (t : Tree) :
    extend op (.chain op operands) t = .chain op (operands ++ [t]) := by
  simp [extend, splice]

theorem foldl_extend (op : Link) (first : Tree) {rest : List Tree} (more : rest ≠ []) :
    rest.foldl (extend op) first = .chain op (splice op (first :: rest)) := by
  induction rest using List.reverseRecOn with
  | nil => exact absurd rfl more
  | append_singleton rest t ih =>
    cases rest with
    | nil => rfl
    | cons second rest =>
      rw [List.foldl_append, ih (by simp), List.foldl_cons, List.foldl_nil, extend_chain,
        ← List.cons_append, splice_append op (by simp)]

end Tree

namespace Fragment

mutual

def normal : Fragment → Tree
  | .value v => .value (Bound.ofValue v).toOption
  | .column c => .column c.qualifier c.name
  | .comparison op left right => .comparison op left.normal right.normal
  | .isNull operand negated => .isNull operand.normal negated
  | .like operand pattern negated => .like operand.normal pattern.normal negated
  | .inList operand items negated => .inList operand.normal (normalEach items) negated
  | .between operand low high negated => .between operand.normal low.normal high.normal negated
  | .logical op operands => .chain (.logical op) (Tree.splice (.logical op) (normalEach operands))
  | .arithmetic op operands =>
      .chain (.arithmetic op) (Tree.splice (.arithmetic op) (normalEach operands))
  | .bitwise op operands => .chain (.bitwise op) (Tree.splice (.bitwise op) (normalEach operands))
  | .not operand => .not operand.normal
  | .complement operand => .complement operand.normal
  | .negate operand => .negate operand.normal
  | .case arms otherwise => .case (normalArms arms) otherwise.normal
  | .function name arguments => .function name (normalEach arguments)

def normalEach : List Fragment → List Tree
  | [] => []
  | f :: fs => f.normal :: normalEach fs

def normalArms : List (Fragment × Fragment) → List (Tree × Tree)
  | [] => []
  | (test, result) :: arms => (test.normal, result.normal) :: normalArms arms

end

end Fragment
end ExprSql
