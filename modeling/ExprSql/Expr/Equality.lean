import ExprSql.Expr

namespace ExprSql.Expr

mutual

def same : Expr → Expr → Bool
  | .constant v s, .constant w t => v.same w && s == t
  | .parameter m s, .parameter n t => m == n && s == t
  | .member a m, .member b n => sameOption a b && m == n
  | .construct s c as, .construct t d bs => s == t && c == d && sameList as bs
  | .array s as, .array t bs => s == t && sameList as bs
  | .arrayOfLength s a, .arrayOfLength t b => s == t && a.same b
  | .list s c as xs, .list t d bs ys => s == t && c == d && sameList as bs && sameAdditions xs ys
  | .call a m as, .call b n bs => sameOption a b && m == n && sameList as bs
  | .unary o a s m, .unary p b t n => o == p && a.same b && s == t && m == n
  | .binary o a a' s m, .binary p b b' t n => o == p && a.same b && a'.same b' && s == t && m == n
  | .conditional a x y s, .conditional b z w t => a.same b && x.same z && y.same w && s == t
  | .typeIs a s, .typeIs b t => a.same b && s == t
  | .thunk s _ x, .thunk t _ y => s == t && x.identity == y.identity
  | _, _ => false

def sameOption : Option Expr → Option Expr → Bool
  | none, none => true
  | some a, some b => a.same b
  | _, _ => false

def sameList : List Expr → List Expr → Bool
  | [], [] => true
  | a :: as, b :: bs => a.same b && sameList as bs
  | _, _ => false

def sameAdditions : List (Member × List Expr) → List (Member × List Expr) → Bool
  | [], [] => true
  | (m, as) :: xs, (n, bs) :: ys => m == n && sameList as bs && sameAdditions xs ys
  | _, _ => false

end

end ExprSql.Expr
