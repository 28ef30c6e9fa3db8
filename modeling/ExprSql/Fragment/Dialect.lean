import ExprSql.Text.Doubled

namespace ExprSql

structure Dialect where
  name : String
  quote : Char := '"'
  placeholder : Nat → String := fun _ => "?"

namespace Dialect

def generic : Dialect where
  name := "generic"

def postgres : Dialect where
  name := "postgres"
  placeholder := fun n => s!"${n}"

def quoted (d : Dialect) (identifier : String) : String := Text.enclosed d.quote identifier

end Dialect
end ExprSql
