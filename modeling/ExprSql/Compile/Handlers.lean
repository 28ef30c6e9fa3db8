import ExprSql.Compile.Registry

namespace ExprSql

namespace Handler

/-- The operands of a call, the last one spread out. -/
def operands (l : Level) (call : Call) : Run (List Fragment) :=
  go (call.target.toList ++ call.arguments)
where
  go : List Expr → Run (List Fragment)
    | [] => pure []
    | [.array _ items] => items.mapM l.fragment
    | [e] => do
        match ← l.operand e with
        | .value (.array vs) => pure (vs.map .value)
        | operand => pure [operand.toFragment]
    | e :: rest => do
        let f ← l.fragment e
        let fs ← go rest
        pure (f :: fs)

def countFailure (call : Call) (expected : Nat) (found : List Fragment) : Failure :=
  .expression (.operandCount call.method.label expected found.length)

def one (build : Fragment → Fragment) : Handler := fun l call => do
  match ← operands l call with
  | [f] => pure (.fragment (build f))
  | fs => throw (countFailure call 1 fs)

def two (build : Fragment → Fragment → Fragment) : Handler := fun l call => do
  match ← operands l call with
  | [f, g] => pure (.fragment (build f g))
  | fs => throw (countFailure call 2 fs)

def three (build : Fragment → Fragment → Fragment → Fragment) : Handler := fun l call => do
  match ← operands l call with
  | [f, g, h] => pure (.fragment (build f g h))
  | fs => throw (countFailure call 3 fs)

def function (name : String) : Handler := fun l call => do
  let fs ← operands l call
  pure (.fragment (.function name fs))

def like (negated : Bool) : Handler := two fun f pattern => .like f pattern negated

def between : Handler := three fun f low high => .between f low high false

def nullTest (negated : Bool) : Handler := one fun f => .isNull f negated

def membership (negated : Bool) : Handler := fun l call => do
  match ← operands l call with
  | [] => throw (.expression (.noOperand call.method.label))
  | [_] => throw (.expression (.emptyList call.method.label))
  | f :: items => pure (.fragment (.inList f items negated))

/-- The pattern for texts that hold the needle, with more text allowed before or after it. -/
def pattern (before after : Bool) (needle : Fragment) : Fragment :=
  let wildcard (allowed : Bool) : String := if allowed then "%" else ""
  match needle with
  | .value (.string s) => .value (.string (wildcard before ++ s ++ wildcard after))
  | needle =>
      let part (allowed : Bool) : List Fragment :=
        if allowed then [.value (.string "%")] else []
      .function "CONCAT" (part before ++ needle :: part after)

def matching (before after : Bool) : Handler :=
  two fun f needle => .like f (pattern before after needle) false

def startsWith : Handler := matching false true
def endsWith : Handler := matching true false
def contains : Handler := matching true true

end Handler

namespace Registry
open Handler

def standardHandlers : List (String × String × Handler) :=
  let string := DataType.string.name
  [("Sql", "Like", like false), ("Sql", "NotLike", like true),
    ("Sql", "In", membership false), ("Sql", "NotIn", membership true),
    ("Sql", "Between", between),
    ("Sql", "IsNull", nullTest false), ("Sql", "IsNotNull", nullTest true),
    ("Sql", "Lower", function "LOWER"), ("Sql", "Upper", function "UPPER"),
    ("Sql", "Trim", function "TRIM"), ("Sql", "Length", function "LENGTH"),
    ("Sql", "Abs", function "ABS"), ("Sql", "Round", function "ROUND"),
    ("Sql", "Coalesce", function "COALESCE"),
    (string, "StartsWith", startsWith), (string, "EndsWith", endsWith),
    (string, "Contains", Handler.contains),
    (string, "ToLower", function "LOWER"), (string, "ToUpper", function "UPPER"),
    (string, "Trim", function "TRIM")]

def registerStandard (r : Registry) : Registry :=
  standardHandlers.foldl (fun r (owner, name, h) => r.register owner name h) r

end Registry
end ExprSql
