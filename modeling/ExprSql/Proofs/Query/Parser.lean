import ExprSql.Proofs.Query.Token

/-!
A parser of query text. It reads one token at a time and keeps the unfinished nodes on a stack; a
table of levels tells when the operators on the stack have their last operand, and operators of one
level associate to the left.
-/
namespace ExprSql

structure Levels where
  link : Link → Nat
  comparison : Nat
  not : Nat
  complement : Nat
  negate : Nat

def Levels.rendering : Levels where
  link
    | .logical op => Fragment.precedence (.logical op [])
    | .arithmetic op => Fragment.precedence (.arithmetic op [])
    | .bitwise op => Fragment.precedence (.bitwise op [])
  comparison := Fragment.precedence (.comparison .equal default default)
  not := Fragment.precedence (.not default)
  complement := Fragment.precedence (.complement default)
  negate := Fragment.precedence (.negate default)

/-- A node that waits for its next operand, with the operands read so far. -/
inductive Frame where
  | group
  | not
  | complement
  | negate
  | link (left : Tree) (op : Link)
  | comparison (left : Tree) (op : Comparison)
  | like (operand : Tree) (negated : Bool)
  | low (operand : Tree) (negated : Bool)
  | high (operand first : Tree) (negated : Bool)
  | items (operand : Tree) (negated : Bool) (before : List Tree)
  | arguments (name : String) (before : List Tree)
  | test (arms : List (Tree × Tree))
  | result (arms : List (Tree × Tree)) (test : Tree)
  | otherwise (arms : List (Tree × Tree))

inductive Phase where
  | want
  | got (t : Tree)
  | qualified (qualifier : String)
  | called (name : String)
  | null (operand : Tree) (negated : Bool)
  | denied (operand : Tree)
  | within (operand : Tree) (negated : Bool)
  | arms

namespace Frame

/-- The level of operators that end the operand a frame waits for. -/
def level (levels : Levels) : Frame → Nat
  | .link _ op => levels.link op
  | .comparison .. | .like .. | .low .. | .high .. => levels.comparison
  | .not => levels.not
  | .complement => levels.complement
  | .negate => levels.negate
  | .group | .items .. | .arguments .. | .test _ | .result .. | .otherwise _ => 0

def complete : Frame → Tree → Option Tree
  | .not, t => some (.not t)
  | .complement, t => some (.complement t)
  | .negate, t => some (.negate t)
  | .link left op, t => some (Tree.extend op left t)
  | .comparison left op, t => some (.comparison op left t)
  | .like operand negated, t => some (.like operand t negated)
  | .high operand first negated, t => some (.between operand first t negated)
  | _, _ => none

end Frame

namespace Parser

variable (levels : Levels)

def level? : Token → Option Nat
  | .link op => some (levels.link op)
  | .comparison _ | .is | .not | .like | .within | .between => some levels.comparison
  | .closing | .comma | .when | .result | .otherwise | .finish => some 0
  | _ => none

/-- Completes the nodes on the stack that bind no looser than the level. -/
def reduce (level : Nat) : List Frame → Tree → List Frame × Tree
  | [], t => ([], t)
  | frame :: stack, t =>
      match frame.complete t with
      | some whole => if level ≤ frame.level levels then reduce level stack whole
          else (frame :: stack, t)
      | none => (frame :: stack, t)

def shift (stack : List Frame) (t : Tree) : Token → Option (List Frame × Phase)
  | .link op =>
      match op, stack with
      | .logical .and, .low operand negated :: stack =>
          some (.high operand t negated :: stack, .want)
      | op, stack => some (.link t op :: stack, .want)
  | .comparison op => some (.comparison t op :: stack, .want)
  | .is => some (stack, .null t false)
  | .not => some (stack, .denied t)
  | .like => some (.like t false :: stack, .want)
  | .within => some (stack, .within t false)
  | .between => some (.low t false :: stack, .want)
  | .closing =>
      match stack with
      | .group :: stack => some (stack, .got t)
      | .items operand negated before :: stack =>
          some (stack, .got (.inList operand (before ++ [t]) negated))
      | .arguments name before :: stack => some (stack, .got (.function name (before ++ [t])))
      | _ => none
  | .comma =>
      match stack with
      | .items operand negated before :: stack =>
          some (.items operand negated (before ++ [t]) :: stack, .want)
      | .arguments name before :: stack => some (.arguments name (before ++ [t]) :: stack, .want)
      | _ => none
  | .result =>
      match stack with
      | .test arms :: stack => some (.result arms t :: stack, .want)
      | _ => none
  | .when =>
      match stack with
      | .result arms test :: stack => some (.test (arms ++ [(test, t)]) :: stack, .want)
      | _ => none
  | .otherwise =>
      match stack with
      | .result arms test :: stack => some (.otherwise (arms ++ [(test, t)]) :: stack, .want)
      | _ => none
  | .finish =>
      match stack with
      | .otherwise arms :: stack => some (stack, .got (.case arms t))
      | _ => none
  | _ => none

def begin? (stack : List Frame) : Token → Option (List Frame × Phase)
  | .parameter b => some (stack, .got (.value b))
  | .identifier name => some (stack, .got (.column none name))
  | .link (.arithmetic .multiply) => some (stack, .got (.column none "*"))
  | .link (.arithmetic .subtract) => some (.negate :: stack, .want)
  | .tilde => some (.complement :: stack, .want)
  | .not => some (.not :: stack, .want)
  | .name s => some (stack, .called s)
  | .case => some (stack, .arms)
  | .opening => some (.group :: stack, .want)
  | .closing =>
      match stack with
      | .items operand negated [] :: stack => some (stack, .got (.inList operand [] negated))
      | .arguments name [] :: stack => some (stack, .got (.function name []))
      | _ => none
  | _ => none

def follow (stack : List Frame) (t : Tree) (token : Token) : Option (List Frame × Phase) :=
  match level? levels token with
  | some level =>
      let (stack, t) := reduce levels level stack t
      shift stack t token
  | none =>
      match t, token with
      | .column none q, .dot => some (stack, .qualified q)
      | _, _ => none

def step : List Frame × Phase → Token → Option (List Frame × Phase)
  | (stack, .want), token => begin? stack token
  | (stack, .got t), token => follow levels stack t token
  | (stack, .qualified q), .identifier name => some (stack, .got (.column (some q) name))
  | (stack, .qualified q), .link (.arithmetic .multiply) =>
      some (stack, .got (.column (some q) "*"))
  | (stack, .called name), .opening => some (.arguments name [] :: stack, .want)
  | (stack, .null operand negated), .null => some (stack, .got (.isNull operand negated))
  | (stack, .null operand false), .not => some (stack, .null operand true)
  | (stack, .denied operand), .like => some (.like operand true :: stack, .want)
  | (stack, .denied operand), .within => some (stack, .within operand true)
  | (stack, .denied operand), .between => some (.low operand true :: stack, .want)
  | (stack, .within operand negated), .opening => some (.items operand negated [] :: stack, .want)
  | (stack, .arms), .when => some (.test [] :: stack, .want)
  | (stack, .arms), .otherwise => some (.otherwise [] :: stack, .want)
  | _, _ => none

def run : List Frame × Phase → List Token → Option Tree
  | (stack, .got t), [] =>
      match reduce levels 0 stack t with
      | ([], whole) => some whole
      | _ => none
  | _, [] => none
  | state, token :: rest => (step levels state token).bind fun next => run next rest

/-- The tree of a query text with its parameters. -/
def parse (quote : Char) (sql : String) (params : List Bound) : Option Tree :=
  run levels ([], .want) (Token.ofText quote sql params)

end Parser
end ExprSql
