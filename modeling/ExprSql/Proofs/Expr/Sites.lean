import Mathlib
import ExprSql.Host

namespace ExprSql

/-- A thunk, a member with a bound getter, or a bound method and the count of its arguments. -/
inductive Site where
  | thunk (description : String) (code : Thunk)
  | getter (m : Member)
  | method (m : Member) (arguments : Nat)

namespace Site

def call : Site → HostCall
  | .thunk description _ => .thunk description
  | .getter m => .getter m.owner m.name
  | .method m arguments => .method m.owner m.name arguments

def label : Site → String
  | .thunk description _ => description
  | .getter m | .method m _ => m.label

end Site

namespace Member

variable {b : Bindings} {m : Member}

def getterSites (b : Bindings) (m : Member) : List Site :=
  if b.hasGetter m.owner m.name then [.getter m] else []

def methodSites (b : Bindings) (m : Member) (arguments : Nat) : List Site :=
  if b.hasMethod m.owner m.name then [.method m arguments] else []

theorem getterSites_bound {get : Getter} (bound : b.getters.get? m.owner m.name = some get) :
    m.getterSites b = [.getter m] := by
  simp [getterSites, Bindings.hasGetter, bound]

theorem methodSites_bound {run : HostMethod} (arguments : Nat)
    (bound : b.methods.get? m.owner m.name = some run) :
    m.methodSites b arguments = [.method m arguments] := by
  simp [methodSites, Bindings.hasMethod, bound]

end Member

def methodSites? (b : Bindings) (method : Option Member) (arguments : Nat) : List Site :=
  method.elim [] fun m => m.methodSites b arguments

namespace Expr

variable (b : Bindings)

mutual

def sites : Expr → List Site
  | .constant .. | .parameter .. => []
  | .member none m => m.getterSites b
  | .member (some target) m => target.sites ++ m.getterSites b
  | .construct _ constructor arguments =>
      sitesOfEach arguments ++ methodSites? b constructor arguments.length
  | .array _ items => sitesOfEach items
  | .arrayOfLength _ length => length.sites
  | .list _ constructor arguments additions =>
      sitesOfEach arguments ++ methodSites? b constructor arguments.length
        ++ sitesOfAdditions additions
  | .call none m arguments => sitesOfEach arguments ++ m.methodSites b arguments.length
  | .call (some target) m arguments =>
      target.sites ++ sitesOfEach arguments ++ m.methodSites b arguments.length
  | .unary _ operand _ method => operand.sites ++ methodSites? b method 1
  | .binary _ left right _ method => left.sites ++ right.sites ++ methodSites? b method 2
  | .conditional test whenTrue whenFalse _ => test.sites ++ whenTrue.sites ++ whenFalse.sites
  | .typeIs operand _ => operand.sites
  | .thunk _ description code => [.thunk description code]

def sitesOfEach : List Expr → List Site
  | [] => []
  | e :: es => e.sites ++ sitesOfEach es

def sitesOfAdditions : List (Member × List Expr) → List Site
  | [] => []
  | (m, arguments) :: rest =>
      sitesOfEach arguments ++ m.methodSites b arguments.length ++ sitesOfAdditions rest

end

theorem sitesOfEach_eq_flatMap (es : List Expr) : sitesOfEach b es = es.flatMap (sites b) := by
  induction es with
  | nil => rfl
  | cons e es ih => rw [sitesOfEach, ih, List.flatMap_cons]

end Expr
end ExprSql
