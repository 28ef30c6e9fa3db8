import Mathlib
import ExprSql.ByOwner

namespace ExprSql

variable {α : Type}

theorem lookup_cons_entry (name k : String) (value : α) (entries : List (String × α)) :
    ((name, value) :: entries).lookup k = if k = name then some value else entries.lookup k := by
  by_cases same : k = name
  · simp [same]
  · have other : (k == name) = false := by simp [same]
    simp [List.lookup, other, same]

theorem lookup_dropEntry (key k : String) (entries : List (String × α)) :
    (dropEntry key entries).lookup k = if k = key then none else entries.lookup k := by
  unfold dropEntry
  induction entries with
  | nil => simp
  | cons entry entries ih =>
    obtain ⟨name, value⟩ := entry
    by_cases dropped : name = key
    · subst dropped
      rw [List.filter_cons_of_neg (by simp), ih, lookup_cons_entry]
      by_cases same : k = name <;> simp [same]
    · rw [List.filter_cons_of_pos (by simp [dropped]), lookup_cons_entry, lookup_cons_entry, ih]
      by_cases same : k = name <;> simp [same, dropped]

theorem lookup_putEntry (key k : String) (value : α) (entries : List (String × α)) :
    (putEntry key value entries).lookup k = if k = key then some value else entries.lookup k := by
  have rest := lookup_dropEntry key k entries
  unfold dropEntry at rest
  unfold putEntry
  rw [lookup_cons_entry, rest]
  by_cases same : k = key <;> simp [same]

def Distinct (entries : List (String × α)) : Prop := (entries.map Prod.fst).Nodup

theorem distinct_dropEntry {entries : List (String × α)} (distinct : Distinct entries)
    (key : String) : Distinct (dropEntry key entries) :=
  List.Nodup.sublist (List.filter_sublist.map _) distinct

theorem distinct_putEntry {entries : List (String × α)} (distinct : Distinct entries)
    (key : String) (value : α) : Distinct (putEntry key value entries) := by
  refine List.nodup_cons.2 ⟨?_, distinct_dropEntry distinct key⟩
  simp

namespace ByOwner

theorem get?_insert (m : ByOwner α) (owner name o n : String) (value : α) :
    (m.insert owner name value).get? o n
      = if o = owner ∧ n = name then some value else m.get? o n := by
  unfold insert get?
  rw [lookup_putEntry]
  by_cases sameOwner : o = owner
  · subst sameOwner
    cases found : List.lookup o m with
    | none => by_cases sameName : n = name <;> simp [sameName, lookup_putEntry]
    | some group => by_cases sameName : n = name <;> simp [sameName, lookup_putEntry]
  · simp [sameOwner]

theorem get?_erase_group {m : ByOwner α} {owner : String} {group : List (String × α)}
    (found : m.lookup owner = some group) (name n : String) :
    (m.erase owner name).get? owner n = (dropEntry name group).lookup n := by
  simp only [erase, found]
  split
  · rename_i empty
    rw [List.isEmpty_iff.1 empty]
    simp [get?, lookup_dropEntry]
  · simp [get?, lookup_putEntry]

theorem get?_erase_other (m : ByOwner α) {owner o : String} (other : o ≠ owner) (name n : String) :
    (m.erase owner name).get? o n = m.get? o n := by
  unfold erase
  split
  · rfl
  · dsimp only
    split <;> simp [get?, lookup_putEntry, lookup_dropEntry, other]

theorem get?_erase (m : ByOwner α) (owner name o n : String) :
    (m.erase owner name).get? o n = if o = owner ∧ n = name then none else m.get? o n := by
  by_cases sameOwner : o = owner
  · subst sameOwner
    cases found : m.lookup o with
    | none => simp [erase, get?, found]
    | some group =>
      rw [get?_erase_group found, lookup_dropEntry]
      by_cases sameName : n = name <;> simp [get?, found, sameName]
  · rw [get?_erase_other m sameOwner, if_neg (fun same => sameOwner same.1)]

/-- No owner and no name of an owner stands twice, and no owner has an empty group. -/
structure Tidy (m : ByOwner α) : Prop where
  owners : Distinct m
  names : ∀ entry ∈ m, Distinct entry.2
  filled : ∀ entry ∈ m, entry.2 ≠ []

variable {m : ByOwner α}

theorem tidy_empty : Tidy ([] : ByOwner α) := ⟨List.nodup_nil, by simp, by simp⟩

theorem distinct_group (tidy : m.Tidy) (owner : String) :
    Distinct ((m.lookup owner).getD []) := by
  cases found : m.lookup owner with
  | none => exact List.nodup_nil
  | some group =>
    obtain ⟨before, after, rfl, -⟩ := List.lookup_eq_some_iff.1 found
    exact tidy.names (owner, group) (by simp)

theorem tidy_dropEntry (tidy : m.Tidy) (owner : String) : Tidy (dropEntry owner m) where
  owners := distinct_dropEntry tidy.owners owner
  names entry mem := tidy.names entry (List.mem_of_mem_filter mem)
  filled entry mem := tidy.filled entry (List.mem_of_mem_filter mem)

theorem tidy_putEntry (tidy : m.Tidy) (owner : String) {group : List (String × α)}
    (distinct : Distinct group) (filled : group ≠ []) : Tidy (putEntry owner group m) where
  owners := distinct_putEntry tidy.owners owner group
  names := List.forall_mem_cons.2 ⟨distinct, (tidy_dropEntry tidy owner).names⟩
  filled := List.forall_mem_cons.2 ⟨filled, (tidy_dropEntry tidy owner).filled⟩

theorem tidy_insert (tidy : m.Tidy) (owner name : String) (value : α) :
    Tidy (m.insert owner name value) :=
  tidy_putEntry tidy owner (distinct_putEntry (distinct_group tidy owner) name value)
    (List.cons_ne_nil _ _)

theorem tidy_erase (tidy : m.Tidy) (owner name : String) : Tidy (m.erase owner name) := by
  unfold erase
  split
  · exact tidy
  · rename_i group found
    have distinct : Distinct group := by
      have := distinct_group tidy owner
      rwa [found] at this
    dsimp only
    split
    · exact tidy_dropEntry tidy owner
    · rename_i left
      exact tidy_putEntry tidy owner (distinct_dropEntry distinct name)
        (fun empty => left (List.isEmpty_iff.2 empty))

end ByOwner
end ExprSql
