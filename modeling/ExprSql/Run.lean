import ExprSql.Failure
import ExprSql.Host

/-!
Runs: computations that may call host code. A run threads the trace of the calls made so far and
stops at the first failure; the trace is kept either way.
-/
namespace ExprSql

abbrev Run := ExceptT Failure (StateM Trace)

namespace Run

variable {α : Type}

def ofExcept : Except Failure α → Run α
  | .ok a => pure a
  | .error e => throw e

/-- Logs a host call and makes it; a refusal is blamed on the label. -/
def host (call : HostCall) (label : String) (code : Trace → HostResult α) : Run α := do
  let before ← get
  set (before ++ [call])
  match code before with
  | .ok a => pure a
  | .error text => throw (.invocation label (.failed (.raised text)))

end Run

namespace Failure

def tooDeep (limit : Nat) : Failure := .expression (.tooDeep limit)

def unbound (m : Member) : Failure := .expression (.unbound m.label)

def nullTarget (label : String) : Failure := .invocation label (.nullTarget label)

end Failure

end ExprSql
