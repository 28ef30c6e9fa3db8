import ExprSql.Fragment.Dialect
import ExprSql.Fragment
import ExprSql.Fragment.Bound

/-!
Query text. A fragment becomes a list of pieces: fixed text, identifiers and bound parameters. A
dialect then writes the pieces, numbering the parameters from the left.
-/
namespace ExprSql

inductive Piece where
  | text (s : String)
  | identifier (name : String)
  | parameter (b : Bound)
  deriving DecidableEq

def Fragment.precedence : Fragment → Nat
  | .logical .or _ => 1
  | .logical .and _ => 2
  | .not _ => 3
  | .comparison .. | .isNull .. | .like .. | .inList .. | .between .. => 4
  | .bitwise .or _ | .bitwise .xor _ => 5
  | .bitwise .and _ => 6
  | .bitwise .shiftLeft _ | .bitwise .shiftRight _ => 7
  | .arithmetic .add _ | .arithmetic .subtract _ => 8
  | .arithmetic .multiply _ | .arithmetic .divide _ | .arithmetic .modulo _ => 9
  | .complement _ | .negate _ => 10
  | .value _ | .column _ | .case .. | .function .. => 11

namespace Piece

def grouped (ps : List Piece) : List Piece := .text "(" :: ps ++ [.text ")"]

/-- Groups an operand that binds no tighter than the operator above it. -/
def operand (parent : Nat) (f : Fragment) (ps : List Piece) : List Piece :=
  if f.precedence ≤ parent then grouped ps else ps

def first (parent : Nat) (f : Fragment) (ps : List Piece) : List Piece :=
  if f.precedence < parent then grouped ps else ps

def separated (items : List (List Piece)) : List Piece := [.text ", "].intercalate items

def ofColumn (c : Column) : List Piece :=
  let name := if c.isWildcard then .text "*" else .identifier c.name
  match c.qualifier with
  | some q => [.identifier q, .text ".", name]
  | none => [name]

def negatedIf (negated : Bool) (plain opposite : String) : Piece :=
  .text (if negated then opposite else plain)

end Piece

mutual

def Value.pieces : Value → Except Failure (List Piece)
  | .array items | .list items => do
      let items ← piecesOfEach items
      .ok (Piece.grouped (Piece.separated items))
  | v => do
      let b ← Bound.ofValue v
      .ok [.parameter b]

def Value.piecesOfEach : List Value → Except Failure (List (List Piece))
  | [] => .ok []
  | v :: vs => do
      let ps ← v.pieces
      let rest ← piecesOfEach vs
      .ok (ps :: rest)

end

namespace Fragment
open Piece

mutual

def pieces : Fragment → Except Failure (List Piece)
  | .value v => v.pieces
  | .column c => .ok (ofColumn c)
  | .comparison op left right => do
      let l ← left.pieces
      let r ← right.pieces
      .ok (operand 4 left l ++ .text s!" {op.sql} " :: operand 4 right r)
  | .isNull f negated => do
      let ps ← f.pieces
      .ok (operand 4 f ps ++ [negatedIf negated " IS NULL" " IS NOT NULL"])
  | .like f pattern negated => do
      let ps ← f.pieces
      let qs ← pattern.pieces
      .ok (operand 4 f ps ++ negatedIf negated " LIKE " " NOT LIKE " :: operand 4 pattern qs)
  | .inList f items negated => do
      let ps ← f.pieces
      let items ← itemPieces items
      .ok (operand 4 f ps ++ negatedIf negated " IN (" " NOT IN (" :: separated items ++ [.text ")"])
  | .between f low high negated => do
      let ps ← f.pieces
      let ls ← low.pieces
      let hs ← high.pieces
      .ok (operand 4 f ps ++ negatedIf negated " BETWEEN " " NOT BETWEEN " :: operand 4 low ls
        ++ .text " AND " :: operand 4 high hs)
  | .logical op operands => chainPieces op.sql (precedence (.logical op [])) operands
  | .arithmetic op operands => chainPieces op.symbol (precedence (.arithmetic op [])) operands
  | .bitwise op operands => chainPieces op.symbol (precedence (.bitwise op [])) operands
  | .not f => do
      let ps ← f.pieces
      .ok (.text "NOT " :: operand 3 f ps)
  | .complement f => do
      let ps ← f.pieces
      .ok (.text "~" :: operand 10 f ps)
  | .negate f => do
      let ps ← f.pieces
      .ok (.text "-" :: operand 10 f ps)
  | .case arms otherwise => do
      let ps ← armPieces arms
      let qs ← otherwise.pieces
      .ok (.text "CASE" :: ps ++ .text " ELSE " :: qs ++ [.text " END"])
  | .function name arguments => do
      let items ← argumentPieces arguments
      .ok (.text name :: grouped (separated items))

def chainPieces (symbol : String) (parent : Nat) : List Fragment → Except Failure (List Piece)
  | [] => .ok []
  | f :: fs => do
      let ps ← f.pieces
      let rest ← restPieces symbol parent fs
      .ok (first parent f ps ++ rest)

def restPieces (symbol : String) (parent : Nat) : List Fragment → Except Failure (List Piece)
  | [] => .ok []
  | f :: fs => do
      let ps ← f.pieces
      let rest ← restPieces symbol parent fs
      .ok (.text s!" {symbol} " :: operand parent f ps ++ rest)

def argumentPieces : List Fragment → Except Failure (List (List Piece))
  | [] => .ok []
  | f :: fs => do
      let ps ← f.pieces
      let rest ← argumentPieces fs
      .ok (ps :: rest)

/-- A collection among the items of a list gives one item per element. -/
def itemPieces : List Fragment → Except Failure (List (List Piece))
  | [] => .ok []
  | f :: fs => do
      let ps ←
        match f with
        | .value (.array vs) | .value (.list vs) => Value.piecesOfEach vs
        | f => do
            let ps ← f.pieces
            .ok [ps]
      let rest ← itemPieces fs
      .ok (ps ++ rest)

def armPieces : List (Fragment × Fragment) → Except Failure (List Piece)
  | [] => .ok []
  | (test, result) :: arms => do
      let ps ← test.pieces
      let qs ← result.pieces
      let rest ← armPieces arms
      .ok (.text " WHEN " :: ps ++ .text " THEN " :: qs ++ rest)

end
end Fragment

namespace Piece

def write (d : Dialect) : Nat → List Piece → List String
  | _, [] => []
  | count, .text s :: rest => s :: write d count rest
  | count, .identifier name :: rest => d.quoted name :: write d count rest
  | count, .parameter _ :: rest => d.placeholder (count + 1) :: write d (count + 1) rest

def bound? : Piece → Option Bound
  | .parameter b => some b
  | _ => none

end Piece

def Fragment.toSql (d : Dialect) (f : Fragment) : Except Failure (String × List Bound) := do
  let ps ← f.pieces
  .ok (String.join (Piece.write d 0 ps), ps.filterMap Piece.bound?)

end ExprSql
