namespace ExprSql

structure Options where
  /-- Levels of nesting allowed; a chain of one operator family counts as one. -/
  maxDepth : Nat := 256
  /-- Refuse a null cast to a type that does not allow it, in place of giving the default. -/
  strictNull : Bool := false
  deriving DecidableEq, Repr

end ExprSql
