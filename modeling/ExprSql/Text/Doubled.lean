namespace ExprSql.Text

def doubled (quote : Char) (cs : List Char) : List Char :=
  cs.flatMap fun c => if c = quote then [quote, quote] else [c]

def enclosed (quote : Char) (s : String) : String :=
  String.ofList (quote :: doubled quote s.toList ++ [quote])

end ExprSql.Text
