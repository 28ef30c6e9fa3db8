import ExprSql.Evaluate
import ExprSql.Fragment

namespace ExprSql

/-- The outcome of compiling a node: a value known now, or a query fragment. -/
inductive Operand where
  | value (v : Value)
  | fragment (f : Fragment)

namespace Operand

def toFragment : Operand → Fragment
  | .value v => .value v
  | .fragment f => f

def isOperator : Operand → Bool
  | .value _ => false
  | .fragment f => f.isOperator

def condition (o : Operand) : Fragment :=
  if o.isOperator then o.toFragment else o.toFragment.equalsBool true

def negation (o : Operand) : Fragment :=
  if o.isOperator then .not o.toFragment else o.toFragment.equalsBool false

end Operand

/-- The compiler as one level of it sees the level below. -/
structure Level where
  operand : Expr → Run Operand
  predicate : Expr → Run Fragment
  eval : Expr → Run Value

def Level.fragment (l : Level) (e : Expr) : Run Fragment := do
  let operand ← l.operand e
  pure operand.toFragment

abbrev Handler := Level → Call → Run Operand

structure Registry where
  handlers : ByOwner Handler := []
  tables : List String := []

namespace Registry

variable (r : Registry)

def register (owner name : String) (h : Handler) : Registry :=
  { r with handlers := r.handlers.insert owner name h }

def handler? (owner name : String) : Option Handler := r.handlers.get? owner name

def contains (owner name : String) : Bool := (r.handler? owner name).isSome

def unregister (owner name : String) : Registry × Bool :=
  ({ r with handlers := r.handlers.erase owner name }, r.contains owner name)

def clear : Registry := { r with handlers := [] }

def isTable (name : String) : Bool := r.tables.contains name

def addTable (name : String) : Registry :=
  if r.isTable name then r else { r with tables := r.tables ++ [name] }

def removeTable (name : String) : Registry × Bool :=
  ({ r with tables := r.tables.filter (· != name) }, r.isTable name)

def summary : String :=
  let methods := r.handlers.keys.map fun (owner, name) => Text.quoted s!"{owner}.{name}"
  let tables := r.tables.map Text.quoted
  s!"Registry \x7b methods: [" ++ ", ".intercalate methods ++ "], tables: \x7b"
    ++ ", ".intercalate tables ++ "\x7d \x7d"

end Registry
end ExprSql
