import ExprSql.Json
import ExprSql.Numeric.Decimal
import ExprSql.Options

/-!
Options from JSON text: an object whose other keys are ignored, or an array of at most two values in
field order.
-/
namespace ExprSql.Options

def depth? : Json → Option Nat
  | .number digits =>
      let n := Decimal.digitsValue digits
      if digits.all Char.isDigit && n < 2 ^ 64 then some n else none
  | _ => none

def flag? : Json → Option Bool
  | .bool b => some b
  | _ => none

structure Given where
  depth : Option Nat := none
  strict : Option Bool := none

/-- A field may be given once; every key has to be well-formed text. -/
def Given.add? (g : Given) (key : List Json.Unit16) (v : Json) : Option Given := do
  let key := String.ofList (← Json.text? key)
  if key == "max_depth" then
    if g.depth.isSome then none
    else some { g with depth := some (← depth? v) }
  else if key == "strict_null_conversion" then
    if g.strict.isSome then none
    else some { g with strict := some (← flag? v) }
  else some g

def ofGiven (g : Given) : Options :=
  let defaults : Options := {}
  { maxDepth := g.depth.getD defaults.maxDepth
    strictNull := g.strict.getD defaults.strictNull }

def ofJson? : Json → Option Options
  | .object entries => do
      let g ← entries.foldlM (fun g (key, v) => g.add? key v) {}
      some (ofGiven g)
  | .array [] => some {}
  | .array [d] => do some (ofGiven { depth := some (← depth? d) })
  | .array [d, s] => do
      some (ofGiven { depth := some (← depth? d), strict := some (← flag? s) })
  | _ => none

def ofText? (s : String) : Option Options := (Json.ofText? s).bind ofJson?

end ExprSql.Options
