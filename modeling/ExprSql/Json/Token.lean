namespace ExprSql.Json

/-- A character of a string literal, or a 16-bit unit written by number. -/
inductive Unit16 where
  | char (c : Char)
  | code (n : Nat)
  deriving DecidableEq, Repr

inductive Bracket where
  | square
  | curly
  deriving DecidableEq, Repr

inductive Token where
  | opening (b : Bracket)
  | closing (b : Bracket)
  | comma
  | colon
  | null
  | bool (b : Bool)
  | number (digits : List Char)
  | string (units : List Unit16)
  deriving DecidableEq, Repr

def isBlank (c : Char) : Bool := c == ' ' || c == '\t' || c == '\n' || c == '\r'

def dropDigits? (cs : List Char) : Option (List Char) :=
  if (cs.takeWhile Char.isDigit).isEmpty then none else some (cs.dropWhile Char.isDigit)

def isExponent (cs : List Char) : Bool :=
  let unsigned := match cs with
    | '+' :: rest | '-' :: rest => rest
    | rest => rest
  dropDigits? unsigned == some []

def isFraction (cs : List Char) : Bool :=
  match dropDigits? cs with
  | some [] => true
  | some (c :: rest) => (c == 'e' || c == 'E') && isExponent rest
  | none => false

def isMagnitude (cs : List Char) : Bool :=
  let rest? := match cs with
    | '0' :: rest => some rest
    | rest => dropDigits? rest
  match rest? with
  | some [] => true
  | some ('.' :: rest) => isFraction rest
  | some (c :: rest) => (c == 'e' || c == 'E') && isExponent rest
  | none => false

def isNumber : List Char → Bool
  | '-' :: rest => isMagnitude rest
  | cs => isMagnitude cs

def word? (cs : List Char) : Option Token :=
  if cs = "null".toList then some .null
  else if cs = "true".toList then some (.bool true)
  else if cs = "false".toList then some (.bool false)
  else if isNumber cs then some (.number cs)
  else none

def mark? : Char → Option Token
  | '[' => some (.opening .square)
  | ']' => some (.closing .square)
  | '\x7b' => some (.opening .curly)
  | '\x7d' => some (.closing .curly)
  | ',' => some .comma
  | ':' => some .colon
  | _ => none

def escape? : Char → Option Char
  | '"' => some '"'
  | '\\' => some '\\'
  | '/' => some '/'
  | 'b' => some '\x08'
  | 'f' => some '\x0c'
  | 'n' => some '\n'
  | 'r' => some '\r'
  | 't' => some '\t'
  | _ => none

def hexDigit? (c : Char) : Option Nat :=
  if c.isDigit then some (c.toNat - '0'.toNat)
  else if 'a' ≤ c ∧ c ≤ 'f' then some (c.toNat - 'a'.toNat + 10)
  else if 'A' ≤ c ∧ c ≤ 'F' then some (c.toNat - 'A'.toNat + 10)
  else none

inductive Place where
  | between
  | inWord (read : List Char)
  | inString (read : List Unit16)
  | afterEscape (read : List Unit16)
  | inCode (read : List Unit16) (digits value : Nat)

def advance (found : List Token) (place : Place) (c : Char) : Option (List Token × Place) :=
  let outside (found : List Token) : List Token × Place :=
    if isBlank c then (found, .between)
    else if c = '"' then (found, .inString [])
    else
      match mark? c with
      | some t => (t :: found, .between)
      | none => (found, .inWord [c])
  match place with
  | .between => some (outside found)
  | .inWord read =>
      if isBlank c || c == '"' || (mark? c).isSome then
        (word? read.reverse).map fun t => outside (t :: found)
      else some (found, .inWord (c :: read))
  | .inString read =>
      if c = '"' then some (.string read.reverse :: found, .between)
      else if c = '\\' then some (found, .afterEscape read)
      else if c.toNat < 0x20 then none
      else some (found, .inString (.char c :: read))
  | .afterEscape read =>
      if c = 'u' then some (found, .inCode read 0 0)
      else (escape? c).map fun d => (found, .inString (.char d :: read))
  | .inCode read digits value =>
      (hexDigit? c).map fun d =>
        let value := 16 * value + d
        if digits = 3 then (found, .inString (.code value :: read))
        else (found, .inCode read (digits + 1) value)

def tokens? (s : String) : Option (List Token) :=
  match s.toList.foldlM (fun (found, place) c => advance found place c) ([], .between) with
  | some (found, .between) => some found.reverse
  | some (found, .inWord read) => (word? read.reverse).map fun t => (t :: found).reverse
  | _ => none

def isHighSurrogate (n : Nat) : Bool := 0xD800 ≤ n && n ≤ 0xDBFF

def isLowSurrogate (n : Nat) : Bool := 0xDC00 ≤ n && n ≤ 0xDFFF

/-- The text of a literal. Units written by number have to pair up as UTF-16. -/
def text? : List Unit16 → Option (List Char)
  | [] => some []
  | .char c :: rest => (text? rest).map (c :: ·)
  | .code h :: .code l :: rest =>
      if isHighSurrogate h then
        if isLowSurrogate l then
          (text? rest).map (Char.ofNat (0x10000 + (h - 0xD800) * 0x400 + (l - 0xDC00)) :: ·)
        else none
      else if isLowSurrogate h then none
      else (text? (.code l :: rest)).map (Char.ofNat h :: ·)
  | .code h :: rest =>
      if isHighSurrogate h || isLowSurrogate h then none
      else (text? rest).map (Char.ofNat h :: ·)

end ExprSql.Json
