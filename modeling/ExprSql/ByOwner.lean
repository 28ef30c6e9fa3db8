/-!
Entries keyed by a declaring type and a name, grouped by the type. Inserting replaces, and a
group that loses its last entry goes with it.
-/
namespace ExprSql

variable {α : Type}

def putEntry (key : String) (value : α) (entries : List (String × α)) : List (String × α) :=
  (key, value) :: entries.filter (·.1 != key)

def dropEntry (key : String) (entries : List (String × α)) : List (String × α) :=
  entries.filter (·.1 != key)

abbrev ByOwner (α : Type) := List (String × List (String × α))

namespace ByOwner

def get? (m : ByOwner α) (owner name : String) : Option α :=
  (m.lookup owner).bind (·.lookup name)

def insert (m : ByOwner α) (owner name : String) (value : α) : ByOwner α :=
  putEntry owner (putEntry name value ((m.lookup owner).getD [])) m

def erase (m : ByOwner α) (owner name : String) : ByOwner α :=
  match m.lookup owner with
  | none => m
  | some group =>
      let rest := dropEntry name group
      if rest.isEmpty then dropEntry owner m else putEntry owner rest m

def keys (m : ByOwner α) : List (String × String) :=
  m.flatMap fun (owner, group) => group.map fun (name, _) => (owner, name)

def size (m : ByOwner α) : Nat := m.keys.length

end ByOwner
end ExprSql
