import ExprSql.Value

namespace ExprSql.Record

structure Field where
  name : String
  type : DataType
  /-- A member name given in place of the derived one. -/
  label : Option String := none
  skipped : Bool := false

def joinWords : (atStart : Bool) → List Char → List Char
  | _, [] => []
  | _, '_' :: cs => joinWords true cs
  | atStart, c :: cs => (if atStart then c.toUpper else c) :: joinWords false cs

/-- Removes the mark that lets a reserved word be a field name. -/
def unmarked : List Char → List Char
  | 'r' :: '#' :: cs => unmarked cs
  | cs => cs

def Field.member (f : Field) : String :=
  f.label.getD (String.ofList (joinWords true (unmarked f.name.toList)))

structure Schema where
  name : String
  fields : List Field

namespace Schema

def kept (s : Schema) : List Field := s.fields.filter (!·.skipped)

def type (s : Schema) : DataType := .record s.name

def memberNames (s : Schema) : List String := s.kept.map Field.member

def memberType? (s : Schema) (name : String) : Option DataType :=
  (s.kept.map fun f => (f.member, f.type)).lookup name

def record (s : Schema) (identity : Option Nat) (values : List Value) : Value :=
  .record identity s.name (s.memberNames.zip values)

end Schema
end ExprSql.Record
