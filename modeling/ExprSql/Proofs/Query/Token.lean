import ExprSql.Proofs.Query.Tree

/-!
Tokens of query text. Names between quotes are taken whole; outside them spaces part words, and
every sign but those of longer operators is a token by itself. Each placeholder takes the next
parameter.
-/
namespace ExprSql

inductive Token where
  | parameter (b : Option Bound)
  | identifier (name : String)
  | name (s : String)
  | link (op : Link)
  | comparison (op : Comparison)
  | is
  | null
  | not
  | like
  | within -- IN
  | between
  | case
  | when
  | result -- THEN
  | otherwise -- ELSE
  | finish -- END
  | tilde
  | opening
  | closing
  | comma
  | dot

namespace Token

def reserved : List (String × Token) :=
  [("AND", .link (.logical .and)), ("OR", .link (.logical .or)), ("NOT", .not), ("IS", .is),
    ("NULL", .null), ("LIKE", .like), ("IN", .within), ("BETWEEN", .between), ("CASE", .case),
    ("WHEN", .when), ("THEN", .result), ("ELSE", .otherwise), ("END", .finish),
    ("=", .comparison .equal), ("<>", .comparison .notEqual), ("<", .comparison .less),
    ("<=", .comparison .lessEqual), (">", .comparison .greater),
    (">=", .comparison .greaterEqual), ("<<", .link (.bitwise .shiftLeft)),
    (">>", .link (.bitwise .shiftRight))]

def signs : List (Char × Token) :=
  [('(', .opening), (')', .closing), (',', .comma), ('.', .dot), ('~', .tilde),
    ('+', .link (.arithmetic .add)), ('-', .link (.arithmetic .subtract)),
    ('*', .link (.arithmetic .multiply)), ('/', .link (.arithmetic .divide)),
    ('%', .link (.arithmetic .modulo)), ('&', .link (.bitwise .and)),
    ('|', .link (.bitwise .or)), ('^', .link (.bitwise .xor))]

def ofWord (s : String) : Token := (reserved.lookup s).getD (.name s)

end Token

inductive Lexeme where
  | word (cs : List Char)
  | sign (t : Token)
  | quoted (name : List Char)

/-- How far scanning has come: into a word, into a quoted name, or to a quote that may end it. -/
inductive Scan where
  | word (cs : List Char)
  | quoted (cs : List Char)
  | quote (cs : List Char)

namespace Scan

def start : Scan := .word []

def flush : List Char → List Lexeme
  | [] => []
  | cs => [.word cs]

def stepPlain (cs : List Char) (c : Char) : List Lexeme × List Char :=
  if c = ' ' then (flush cs, [])
  else
    match Token.signs.lookup c with
    | some t => (flush cs ++ [.sign t], [])
    | none => ([], cs ++ [c])

def stepWord (quote : Char) (cs : List Char) (c : Char) : List Lexeme × Scan :=
  if c = quote then (flush cs, .quoted [])
  else ((stepPlain cs c).1, .word (stepPlain cs c).2)

def step (quote : Char) : Scan → Char → List Lexeme × Scan
  | .word cs, c => stepWord quote cs c
  | .quoted cs, c => if c = quote then ([], .quote cs) else ([], .quoted (cs ++ [c]))
  | .quote cs, c =>
      if c = quote then ([], .quoted (cs ++ [quote]))
      else
        let (ls, next) := stepWord quote [] c
        (.quoted cs :: ls, next)

def finish : Scan → List Lexeme
  | .word cs => flush cs
  | .quoted _ => []
  | .quote cs => [.quoted cs]

def run (quote : Char) : Scan → List Char → List Lexeme
  | s, [] => s.finish
  | s, c :: cs => (s.step quote c).1 ++ run quote (s.step quote c).2 cs

end Scan

def isPlaceholder (cs : List Char) : Bool := cs == ['?'] || cs.head? == some '$'

def Token.ofLexemes : List Bound → List Lexeme → List Token
  | _, [] => []
  | bs, .quoted cs :: ls => .identifier (String.ofList cs) :: ofLexemes bs ls
  | bs, .sign t :: ls => t :: ofLexemes bs ls
  | bs, .word cs :: ls =>
      if isPlaceholder cs then .parameter bs.head? :: ofLexemes bs.tail ls
      else .ofWord (String.ofList cs) :: ofLexemes bs ls

def Token.ofText (quote : Char) (sql : String) (params : List Bound) : List Token :=
  ofLexemes params (Scan.run quote .start sql.toList)

end ExprSql
