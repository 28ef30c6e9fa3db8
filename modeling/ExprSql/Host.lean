import ExprSql.ByOwner
import ExprSql.Expr

/-!
Host bindings: the code behind members, methods, constructors and default values. Host code sees
the trace of earlier calls and answers with a value or an error text.
-/
namespace ExprSql

abbrev HostResult (α : Type) := Except String α

inductive Getter where
  | static (get : Trace → HostResult Value)
  | member (get : Trace → Value → HostResult Value)

/-- A method on a target gives back its result and the target it leaves behind. -/
inductive HostMethod where
  | static (run : Trace → List Value → HostResult Value)
  | member (run : Trace → Value → List Value → HostResult (Value × Value))

structure Bindings where
  getters : ByOwner Getter := []
  methods : ByOwner HostMethod := []
  defaults : List (String × (Trace → Value)) := []

namespace Bindings

def bindGetter (b : Bindings) (owner name : String) (get : Getter) : Bindings :=
  { b with getters := b.getters.insert owner name get }

def bindMethod (b : Bindings) (owner name : String) (run : HostMethod) : Bindings :=
  { b with methods := b.methods.insert owner name run }

def bindConstructor (b : Bindings) (t : DataType)
    (run : Trace → List Value → HostResult Value) : Bindings :=
  b.bindMethod t.name "new" (.static run)

def bindFactory (b : Bindings) (t : DataType) (make : Trace → Value) : Bindings :=
  { b with defaults := putEntry t.name make b.defaults }

def bindDefault (b : Bindings) (t : DataType) (value : Value) : Bindings :=
  b.bindFactory t fun _ => value

def hasGetter (b : Bindings) (owner name : String) : Bool := (b.getters.get? owner name).isSome

def hasMethod (b : Bindings) (owner name : String) : Bool := (b.methods.get? owner name).isSome

/-- The bound default of a type. Without one a list is empty and the rest is the type's own. -/
def default (b : Bindings) (before : Trace) (t : DataType) : Value :=
  match b.defaults.lookup t.name with
  | some make => make before
  | none =>
      match t with
      | .list _ => .list []
      | t => t.default

def summary (b : Bindings) : String :=
  s!"HostBindings \x7b members: {b.getters.size}, methods: {b.methods.size}, "
    ++ s!"defaults: {b.defaults.length} \x7d"

end Bindings

end ExprSql
