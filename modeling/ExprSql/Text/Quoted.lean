import ExprSql.Text.Printable

namespace ExprSql.Text

/-- A character between quotes; of the two quotes only the enclosing one is escaped. -/
def escaped (quote c : Char) : List Char :=
  if c = '\t' then ['\\', 't']
  else if c = '\r' then ['\\', 'r']
  else if c = '\n' then ['\\', 'n']
  else if c = '\\' then ['\\', '\\']
  else if c.toNat = 0 then ['\\', '0']
  else if c = quote then ['\\', c]
  else if isPrintable c then [c]
  else ['\\', 'u', '\x7b'] ++ Nat.toDigits 16 c.toNat ++ ['\x7d']

def quoted (s : String) : String :=
  String.ofList ('"' :: s.toList.flatMap (escaped '"') ++ ['"'])

def quotedChar (c : Char) : String := String.ofList ('\'' :: escaped '\'' c ++ ['\''])

end ExprSql.Text
