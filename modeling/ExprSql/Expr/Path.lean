import ExprSql.Failure
import ExprSql.Fragment
import ExprSql.Expr

/-!
Member paths. A chain of members over a parameter names a column: the members' names run together,
and the parameter alone stands for all columns.
-/
namespace ExprSql

namespace Expr

/-- The member names along a chain, root first, and what the chain starts from. -/
def chain : Expr → List String × Option Expr
  | .member (some target) m =>
      let (names, root) := chain target
      (names ++ [m.name], root)
  | .member none m => ([m.name], none)
  | e => ([], some e)

def path? (e : Expr) : Option (Parameter × List String) :=
  match e.chain with
  | (names, some (.parameter name type)) => some (⟨name, type⟩, names)
  | _ => none

def isColumnPath (isTable : String → Bool) (e : Expr) : Bool :=
  match e.path? with
  | some (p, _) => isTable p.type.name
  | none => false

def column (e : Expr) : Except Failure Column :=
  match e with
  | .parameter name type => .ok ⟨type.name, some name, "*"⟩
  | .member _ m =>
      match e.chain with
      | (names, some (.parameter name type)) => .ok ⟨type.name, some name, String.join names⟩
      | (_, some root) => .error (.path (.through m.label root.kindName))
      | (_, none) => .error (.path (.staticRoot m.label))
  | e => .error (.path (.notAColumn e.kindName))

def stripCasts : Expr → Expr
  | .unary (.cast _) operand _ _ => operand.stripCasts
  | e => e

end Expr

def Lambda.memberPath (l : Lambda) : Except Failure (List String) :=
  let body := l.body.stripCasts
  match body.path? with
  | some (p, names) =>
      if p ∈ l.parameters then .ok names else .error (.path (.foreignParameter p.name))
  | none => .error (.path (.notAMember body.kindName))

end ExprSql
