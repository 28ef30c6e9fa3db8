import ExprSql.Expr.Path
import ExprSql.Compile.Registry

/-!
Compilation of expressions to query fragments. A node is either a query form (a column, an operator
over columns, a handled call) or is evaluated at once.
-/
namespace ExprSql

/-- Operators that chain. Checked and short-circuit variants belong with the plain ones. -/
inductive Family where
  | arithmetic (op : Arithmetic)
  | bitwise (op : Bitwise)
  | logical (op : Connective)
  | concat
  deriving DecidableEq, Repr

def BinaryOp.family? (op : BinaryOp) (t : DataType) : Option Family :=
  match op with
  | .add _ => some (if t.isString then .concat else .arithmetic .add)
  | .subtract _ => some (.arithmetic .subtract)
  | .multiply _ => some (.arithmetic .multiply)
  | .divide => some (.arithmetic .divide)
  | .modulo => some (.arithmetic .modulo)
  | .andAlso => some (.logical .and)
  | .orElse => some (.logical .or)
  | .bitwise op =>
      if t.isBool then
        match op with
        | .and => some (.logical .and)
        | .or => some (.logical .or)
        | .xor => none
        | .shiftLeft | .shiftRight => some (.bitwise op)
      else some (.bitwise op)
  | .compare _ | .coalesce | .index => none

def Family.start (first : Fragment) : Family → Fragment
  | .arithmetic op => .arithmetic op [first]
  | .bitwise op => .bitwise op [first]
  | .logical op => .logical op [first]
  | .concat => .function "CONCAT" [first]

namespace Expr

/-- The operands of a left-nested chain of one family, in order, before those already found. -/
def spine (family : Family) : Expr → List Expr → Expr × List Expr
  | .binary op left right t method, found =>
      if op.family? t = some family then spine family left (right :: found)
      else (.binary op left right t method, found)
  | e, found => (e, found)

/-- The tests and results of an else-if ladder, and what its last arm holds. -/
def ladder : Expr → List (Expr × Expr) × Expr
  | .conditional test whenTrue whenFalse _ =>
      let (arms, otherwise) := whenFalse.ladder
      ((test, whenTrue) :: arms, otherwise)
  | e => ([], e)

def notBoolean (e : Expr) : Failure := .expression (.notBoolean e.kindName e.type)

end Expr

namespace Level

variable (l : Level)

def gather (compile : Expr → Run Fragment) (family : Family) (e : Expr) : Run Fragment := do
  let (first, rest) := e.spine family []
  let f ← compile first
  rest.foldlM (fun chain e => do
    let f ← compile e
    match chain.push? f with
    | some longer => pure longer
    | none => throw (.expression .closedFragment)) (family.start f)

def case (e : Expr) : Run Fragment := do
  let (arms, otherwise) := e.ladder
  let arms ← arms.mapM fun (test, result) => do
    let t ← l.predicate test
    let r ← l.fragment result
    pure (t, r)
  let z ← l.fragment otherwise
  pure (.case arms z)

def condition (e : Expr) : Run Operand := do
  let f ← l.predicate e
  pure (.fragment f)

def predicateAbove (e : Expr) : Run Fragment :=
  match e with
  | .member _ m =>
      if m.type.isBool then do
        let f ← l.fragment e
        pure (f.equalsBool true)
      else throw e.notBoolean
  | .call _ m _ =>
      if m.type.isBool then do
        let operand ← l.operand e
        pure operand.condition
      else throw e.notBoolean
  | .unary .not operand t _ =>
      if t.isBool then
        match operand with
        | .member .. => do
            let f ← l.fragment operand
            pure (f.equalsBool false)
        | .call .. => do
            let operand ← l.operand operand
            pure operand.negation
        | operand => do
            let f ← l.predicate operand
            pure (.not f)
      else throw e.notBoolean
  | .binary (.compare op) left right _ _ => do
      let f ← l.fragment left
      let g ← l.fragment right
      pure (.compare op f g)
  | .binary op _ _ t _ =>
      match op.family? t with
      | some (.logical connective) => gather l.predicate (.logical connective) e
      | _ => throw e.notBoolean
  | e => throw e.notBoolean

end Level

def Expr.asColumn (e : Expr) : Run Operand := do
  let column ← Run.ofExcept e.column
  pure (.fragment (.column column))

structure Compiler where
  registry : Registry := {}
  evaluator : Evaluator := {}

namespace Compiler

variable (c : Compiler)

def evaluate (e : Expr) : Run Operand := do
  let v ← c.evaluator.eval e
  pure (.value v)

/-- One node as a value or a fragment, given the level below. -/
def operandAbove (below : Level) (e : Expr) : Run Operand :=
  match e with
  | .constant .. | .construct .. | .array .. | .arrayOfLength .. | .list .. | .thunk .. =>
      c.evaluate e
  | .member .. => if e.isColumnPath c.registry.isTable then e.asColumn else c.evaluate e
  | .parameter name t =>
      if c.registry.isTable t.name then e.asColumn else throw (.expression (.notATable name t))
  | .call target m arguments =>
      match c.registry.handler? m.owner m.name with
      | some handler => handler below ⟨target, m, arguments⟩
      | none => c.evaluate e
  | .unary op operand t method =>
      match op with
      | .cast _ | .plus => do
          match ← below.operand operand with
          | .value v =>
              let v ← c.evaluator.apply op operand.type t method v
              pure (.value v)
          | .fragment f => pure (.fragment f)
      | .not =>
          if t.isBool then below.condition e
          else do
            let f ← below.fragment operand
            pure (.fragment (.complement f))
      | .negate _ => do
          let f ← below.fragment operand
          pure (.fragment (.negate f))
      | .length => c.evaluate e
  | .binary .coalesce left right _ _ => do
      let f ← below.fragment left
      let g ← below.fragment right
      pure (.fragment (.function "COALESCE" [f, g]))
  | .binary .index .. => c.evaluate e
  | .binary op _ _ t _ =>
      match op.family? t with
      | none | some (.logical _) => below.condition e
      | some family => do
          let f ← Level.gather below.fragment family e
          pure (.fragment f)
  | .conditional .. => do
      let f ← below.case e
      pure (.fragment f)
  | .typeIs .. => below.condition e

def level : Nat → Level
  | 0 =>
      { operand := fun _ => throw (.tooDeep c.evaluator.options.maxDepth)
        predicate := fun _ => throw (.tooDeep c.evaluator.options.maxDepth)
        eval := c.evaluator.eval }
  | n + 1 =>
      { operand := fun e => c.operandAbove (level n) e
        predicate := fun e => (level n).predicateAbove e
        eval := c.evaluator.eval }

def top : Level := c.level c.evaluator.options.maxDepth

def operand (e : Expr) : Run Operand := c.top.operand e

def predicate (e : Expr) : Run Fragment := c.top.predicate e

def fragment (e : Expr) : Run Fragment := c.top.fragment e

def value (e : Expr) : Run Value := c.evaluator.eval e

end Compiler
end ExprSql
