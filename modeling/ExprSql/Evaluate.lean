import ExprSql.Value.Operators
import ExprSql.Options
import ExprSql.Run

/-!
Evaluation of expressions that depend on no parameter. Every node evaluated takes one of the levels
that the depth limit allows.
-/
namespace ExprSql

structure Evaluator where
  bindings : Bindings := {}
  options : Options := {}

namespace Evaluator

def length (v : Value) (label : String) : Except Failure Value :=
  match v.length? with
  | none => .error (.expression (.noLength v.kindName))
  | some n =>
      match Sized.fit? .i32 n with
      | some n => .ok (.int .i32 n)
      | none => .error (.invocation label .overflow)

def item (collection index : Value) : Except Failure Value :=
  match index.integer? with
  | none => .error (.expression (.notAnIndex index.kindName))
  | some i =>
      match collection with
      | .array items | .list items =>
          match if 0 ≤ i then items[i.toNat]? else none with
          | some v => .ok v
          | none => .error (.invocation "[]" (.failed (.indexOutOfRange i items.length)))
      | .null => .error (.nullTarget "[]")
      | v => .error (.expression (.notIndexable v.kindName))

/-- Members that need no binding: those of records, of collections and of nullable types. -/
def intrinsic (target : Option Value) (m : Member) : Except Failure Value :=
  let present := target.filter (!·.isNull)
  if m.owner.startsWith "Option<" then
    match m.name, present with
    | "HasValue", v => .ok (.bool v.isSome)
    | "Value", some v => .ok v
    | "Value", none => .error (.invocation m.label (.failed .missingValue))
    | _, _ => .error (.unbound m)
  else if m.static then .error (.unbound m)
  else
    match present with
    | none => .error (.nullTarget m.label)
    | some v =>
        match v, m.name with
        | .record _ typeName members, name =>
            match Value.member? members name with
            | some v => .ok v
            | none => .error (.expression (.unknownMember typeName name))
        | .string _, "Length" | .array _, "Length" | .list _, "Count" => length v m.label
        | _, _ => .error (.unbound m)

variable (ev : Evaluator)

def read (target : Option Value) (m : Member) : Run Value :=
  match ev.bindings.getters.get? m.owner m.name, target.filter (!·.isNull) with
  | some (.static get), _ => Run.host (.getter m.owner m.name) m.label get
  | some (.member get), some v =>
      Run.host (.getter m.owner m.name) m.label fun trace => get trace v
  | some (.member _), none => throw (.nullTarget m.label)
  | none, _ => Run.ofExcept (intrinsic target m)

/-- Invokes a method on evaluated operands. Gives the result and what the target has become. -/
def invoke (m : Member) (target : Option Value) (arguments : List Value) :
    Run (Value × Option Value) :=
  let call : HostCall := .method m.owner m.name arguments.length
  match ev.bindings.methods.get? m.owner m.name, target.filter (!·.isNull) with
  | some (.static code), _ => do
      let v ← Run.host call m.label fun trace => code trace arguments
      pure (v, target)
  | some (.member code), some self => do
      let (v, self) ← Run.host call m.label fun trace => code trace self arguments
      pure (v, some self)
  | some (.member _), none => throw (.nullTarget m.label)
  | none, present =>
      if m.static then throw (.unbound m)
      else
        match present with
        | some (.list items) =>
            if m.name == "Add" then pure (.null, some (.list (items ++ arguments)))
            else throw (.unbound m)
        | some _ => throw (.unbound m)
        | none => throw (.nullTarget m.label)

/-- A cast as expressions see it: strict conversion refuses a null that the type does not allow. -/
def cast (checked : Bool) (v : Value) (t : DataType) : Except Failure Value :=
  let label := "cast to " ++ t.name
  if v.isNull && !t.isNullable && ev.options.strictNull then
    .error (.invocation label (.failed (.nullValue t)))
  else
    (v.cast checked t).mapError fun
      | .overflow => .invocation label .overflow
      | e => .expression (.cast e)

def apply (op : UnaryOp) (operandType : DataType) (t : DataType) (method : Option Member)
    (v : Value) : Run Value :=
  match method with
  | some m => do
      let (v, _) ← ev.invoke m none [v]
      pure v
  | none =>
      match op with
      | .cast checked =>
          if t.assignable operandType then pure v else Run.ofExcept (ev.cast checked v t)
      | .length => Run.ofExcept (length v "ArrayLength")
      | op => Run.ofExcept (v.apply op t)

/-- The default of a type, as the host makes it after the calls so far. It is not logged. -/
def default (t : DataType) : Run Value := do
  let before ← get
  pure (ev.bindings.default before t)

def construct (t : DataType) (constructor : Option Member) (arguments : List Value) : Run Value :=
  match constructor.filter fun m => ev.bindings.hasMethod m.owner m.name with
  | some m => do
      let (v, _) ← ev.invoke m none arguments
      pure v
  | none =>
      if arguments.isEmpty then ev.default t
      else throw (.expression (.noConstructor t))

def decided (op : BinaryOp) (left : Value) : Bool :=
  match op with
  | .coalesce => !left.isNull
  | .andAlso => left.bool? == some false
  | .orElse => left.bool? == some true
  | _ => false

def combine (op : BinaryOp) (t : DataType) (left right : Value) : Except Failure Value :=
  match op with
  | .coalesce => .ok right
  | .index => item left right
  | op => left.combine op right t

/-- Fills a collection: each addition evaluates its arguments and is invoked on what came before. -/
def fill (evaluate : Expr → Run Value) : Value → List (Member × List Expr) → Run Value
  | collection, [] => pure collection
  | collection, (m, arguments) :: rest => do
      let arguments ← arguments.mapM evaluate
      let (_, collection?) ← ev.invoke m (some collection) arguments
      fill evaluate (collection?.getD collection) rest

def step (eval : Expr → Run Value) : Expr → Run Value
  | .constant v _ => pure v
  | .parameter name _ => throw (.expression (.freeParameter name))
  | .member target m => do
      let target ← target.mapM eval
      ev.read target m
  | .construct t constructor arguments => do
      let arguments ← arguments.mapM eval
      ev.construct t constructor arguments
  | .array _ items => do
      let items ← items.mapM eval
      pure (.array items)
  | .arrayOfLength element length => do
      let length ← eval length
      match length.integer?.filter fun n => 0 ≤ n ∧ n < 2 ^ 64 with
      | some n => do
          let v ← ev.default element
          pure (.array (List.replicate n.toNat v))
      | none => throw (.invocation ("new [" ++ element.name ++ "]") .overflow)
  | .list t constructor arguments additions => do
      let arguments ← arguments.mapM eval
      let collection ← ev.construct t constructor arguments
      ev.fill eval collection additions
  | .call target m arguments => do
      let target ← target.mapM eval
      let arguments ← arguments.mapM eval
      let (v, _) ← ev.invoke m target arguments
      pure v
  | .unary op operand t method => do
      let v ← eval operand
      ev.apply op operand.type t method v
  | .binary op left right t none => do
      let l ← eval left
      if decided op l then pure l
      else do
        let r ← eval right
        Run.ofExcept (combine op t l r)
  | .binary _ left right _ (some m) => do
      let l ← eval left
      let r ← eval right
      let (v, _) ← ev.invoke m none [l, r]
      pure v
  | .conditional test whenTrue whenFalse _ => do
      let v ← eval test
      match v.bool? with
      | some true => eval whenTrue
      | some false => eval whenFalse
      | none => throw (.expression (.testNotBool v.display))
  | .typeIs operand t => do
      let v ← eval operand
      pure (.bool (v.instanceOf t))
  | .thunk _ description thunk => Run.host (.thunk description) description thunk.run

def evalWithin : Nat → Expr → Run Value
  | 0, _ => throw (.tooDeep ev.options.maxDepth)
  | levels + 1, e => ev.step (evalWithin levels) e

def eval : Expr → Run Value := ev.evalWithin ev.options.maxDepth

end Evaluator
end ExprSql
