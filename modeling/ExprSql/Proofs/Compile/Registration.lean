import ExprSql.Compile.Registry
import ExprSql.Proofs.ByOwner

/-!
Registrations. After any changes a registry is one flat map of handlers by owner and name, and one
set of tables.
-/
namespace ExprSql.Registry

inductive Change where
  | register (owner name : String) (handler : Handler)
  | unregister (owner name : String)
  | clear
  | addTable (name : String)
  | removeTable (name : String)

def change (r : Registry) : Change → Registry × Option Bool
  | .register owner name h => (r.register owner name h, none)
  | .unregister owner name => ((r.unregister owner name).1, some (r.unregister owner name).2)
  | .clear => (r.clear, none)
  | .addTable name => (r.addTable name, none)
  | .removeTable name => ((r.removeTable name).1, some (r.removeTable name).2)

def after (changes : List Change) : Registry := changes.foldl (fun r c => (r.change c).1) {}

/-- One map of handlers by owner and name, and one set of tables. -/
structure Flat where
  handlers : String × String → Option Handler
  tables : Finset String

namespace Flat

def change (m : Flat) : Change → Flat × Option Bool
  | .register owner name h =>
      ({ m with handlers := Function.update m.handlers (owner, name) (some h) }, none)
  | .unregister owner name =>
      ({ m with handlers := Function.update m.handlers (owner, name) none },
        some (m.handlers (owner, name)).isSome)
  | .clear => ({ m with handlers := fun _ => none }, none)
  | .addTable name => ({ m with tables := insert name m.tables }, none)
  | .removeTable name => ({ m with tables := m.tables.erase name }, some (decide (name ∈ m.tables)))

def after (changes : List Change) : Flat :=
  changes.foldl (fun m c => (m.change c).1) ⟨fun _ => none, ∅⟩

end Flat

/-- The registry answers every question as the flat one does, and keeps nothing twice and no group
of handlers that is empty. -/
structure Shows (r : Registry) (m : Flat) : Prop where
  handlers : ∀ owner name, r.handler? owner name = m.handlers (owner, name)
  contains : ∀ owner name, r.contains owner name = (m.handlers (owner, name)).isSome
  tables : ∀ name, r.isTable name = decide (name ∈ m.tables)
  tidy : r.handlers.Tidy
  distinct : r.tables.Nodup

variable {r : Registry} {m : Flat}

theorem shows_of_handlers
    (handlers : ∀ owner name, r.handler? owner name = m.handlers (owner, name))
    (tables : ∀ name, r.isTable name = decide (name ∈ m.tables)) (tidy : r.handlers.Tidy)
    (distinct : r.tables.Nodup) : r.Shows m where
  handlers := handlers
  contains owner name := by rw [contains, handlers]
  tables := tables
  tidy := tidy
  distinct := distinct

theorem shows_register (shown : r.Shows m) (owner name : String) (h : Handler) :
    (r.register owner name h).Shows (m.change (.register owner name h)).1 := by
  refine shows_of_handlers (fun o n => ?_) shown.tables (ByOwner.tidy_insert shown.tidy ..)
    shown.distinct
  have before := shown.handlers o n
  simp only [handler?] at before
  simp only [handler?, register, ByOwner.get?_insert, before, Flat.change, Function.update_apply,
    Prod.mk.injEq]

theorem shows_unregister (shown : r.Shows m) (owner name : String) :
    (r.unregister owner name).1.Shows (m.change (.unregister owner name)).1 := by
  refine shows_of_handlers (fun o n => ?_) shown.tables (ByOwner.tidy_erase shown.tidy ..)
    shown.distinct
  have before := shown.handlers o n
  simp only [handler?] at before
  simp only [handler?, unregister, ByOwner.get?_erase, before, Flat.change, Function.update_apply,
    Prod.mk.injEq]

theorem shows_clear (shown : r.Shows m) : r.clear.Shows (m.change .clear).1 :=
  shows_of_handlers (fun _ _ => rfl) shown.tables ByOwner.tidy_empty shown.distinct

theorem mem_tables (shown : r.Shows m) (name : String) : name ∈ r.tables ↔ name ∈ m.tables := by
  simpa [isTable] using shown.tables name

theorem shows_addTable (shown : r.Shows m) (name : String) :
    (r.addTable name).Shows (m.change (.addTable name)).1 := by
  unfold addTable
  split
  · rename_i known
    have member : name ∈ m.tables := by simpa [shown.tables] using known
    have same : (m.change (.addTable name)).1 = m := by
      simp only [Flat.change, Finset.insert_eq_of_mem member]
    rw [same]
    exact shown
  · rename_i unknown
    have absent : name ∉ r.tables := by simpa [isTable] using unknown
    refine shows_of_handlers shown.handlers (fun other => ?_) shown.tidy ?_
    · simp [isTable, Flat.change, mem_tables shown, or_comm]
    · exact List.nodup_append_comm.1 (List.nodup_cons.2 ⟨absent, shown.distinct⟩)

theorem shows_removeTable (shown : r.Shows m) (name : String) :
    (r.removeTable name).1.Shows (m.change (.removeTable name)).1 := by
  refine shows_of_handlers shown.handlers (fun other => ?_) shown.tidy
    (shown.distinct.sublist List.filter_sublist)
  simp [isTable, removeTable, Flat.change, mem_tables shown, and_comm]

theorem shows_change (shown : r.Shows m) (c : Change) :
    (r.change c).1.Shows (m.change c).1 ∧ (r.change c).2 = (m.change c).2 := by
  cases c with
  | register owner name h => exact ⟨shows_register shown owner name h, rfl⟩
  | unregister owner name =>
    exact ⟨shows_unregister shown owner name, congrArg some (shown.contains owner name)⟩
  | clear => exact ⟨shows_clear shown, rfl⟩
  | addTable name => exact ⟨shows_addTable shown name, rfl⟩
  | removeTable name => exact ⟨shows_removeTable shown name, congrArg some (shown.tables name)⟩

theorem shows_after (changes : List Change) : (after changes).Shows (Flat.after changes) := by
  induction changes using List.reverseRecOn with
  | nil =>
    exact shows_of_handlers (fun _ _ => rfl) (fun _ => rfl) ByOwner.tidy_empty List.nodup_nil
  | append_singleton changes c ih =>
    simp only [after, Flat.after, List.foldl_append] at ih ⊢
    exact (shows_change ih c).1

/-- The change was made, and none after it undoes it. -/
def Lasts (made : Change) (undoes : Change → Prop) (changes : List Change) : Prop :=
  ∃ earlier later, changes = earlier ++ made :: later ∧ ∀ c ∈ later, ¬ undoes c

def Change.Concerns (owner name : String) : Change → Prop
  | .register o n _ | .unregister o n => o = owner ∧ n = name
  | .clear => True
  | .addTable _ | .removeTable _ => False

theorem lasts_nil {made : Change} {undoes : Change → Prop} : ¬ Lasts made undoes [] := by
  rintro ⟨earlier, later, split, -⟩
  simp at split

theorem lasts_append {made c : Change} {undoes : Change → Prop} {changes : List Change} :
    Lasts made undoes (changes ++ [c]) ↔ c = made ∨ ¬ undoes c ∧ Lasts made undoes changes := by
  constructor
  · rintro ⟨earlier, later, split, kept⟩
    rcases List.eq_nil_or_concat later with rfl | ⟨init, last, rfl⟩
    · exact .inl (List.singleton_inj.1 (List.append_inj' split rfl).2)
    · rw [List.concat_eq_append, ← List.cons_append, ← List.append_assoc] at split
      obtain ⟨rfl, same⟩ := List.append_inj' split rfl
      obtain ⟨rfl, -⟩ := List.cons.inj same
      refine .inr ⟨kept c (by simp), earlier, init, rfl, fun d mem => kept d (by simp [mem])⟩
  · rintro (rfl | ⟨keeps, earlier, later, rfl, kept⟩)
    · exact ⟨changes, [], rfl, by simp⟩
    · refine ⟨earlier, later ++ [c], by simp, fun d mem => ?_⟩
      rcases List.mem_append.1 mem with old | new
      · exact kept d old
      · exact List.mem_singleton.1 new ▸ keeps

namespace Flat

theorem key_ne {owner name o n : String} (other : ¬ (o = owner ∧ n = name)) :
    (owner, name) ≠ (o, n) := by
  intro same
  obtain ⟨rfl, rfl⟩ := Prod.mk.inj same
  exact other ⟨rfl, rfl⟩

theorem handler_change {c : Change} {owner name : String} {h : Handler} :
    (m.change c).1.handlers (owner, name) = some h ↔
      c = .register owner name h ∨
        ¬ c.Concerns owner name ∧ m.handlers (owner, name) = some h := by
  cases c with
  | register o n g =>
    by_cases same : o = owner ∧ n = name
    · obtain ⟨rfl, rfl⟩ := same
      simp [change, Change.Concerns]
    · have different : Change.register o n g ≠ .register owner name h := by
        rintro ⟨⟩
        exact same ⟨rfl, rfl⟩
      simp [change, Change.Concerns, Function.update_of_ne (key_ne same), same, different]
  | unregister o n =>
    by_cases same : o = owner ∧ n = name
    · obtain ⟨rfl, rfl⟩ := same
      simp [change, Change.Concerns]
    · simp [change, Change.Concerns, Function.update_of_ne (key_ne same), same]
  | clear => simp [change, Change.Concerns]
  | addTable n => simp [change, Change.Concerns]
  | removeTable n => simp [change, Change.Concerns]

theorem table_change {c : Change} {name : String} :
    name ∈ (m.change c).1.tables ↔
      c = .addTable name ∨ ¬ c = .removeTable name ∧ name ∈ m.tables := by
  cases c <;> simp [change, eq_comm]

theorem handler_after (changes : List Change) (owner name : String) (h : Handler) :
    (after changes).handlers (owner, name) = some h ↔
      Lasts (.register owner name h) (Change.Concerns owner name) changes := by
  induction changes using List.reverseRecOn with
  | nil => exact iff_of_false (by simp [after]) lasts_nil
  | append_singleton changes c ih =>
    rw [lasts_append, ← ih]
    simp only [after, List.foldl_append, List.foldl_cons, List.foldl_nil, handler_change]

theorem table_after (changes : List Change) (name : String) :
    name ∈ (after changes).tables ↔ Lasts (.addTable name) (· = .removeTable name) changes := by
  induction changes using List.reverseRecOn with
  | nil => exact iff_of_false (by simp [after]) lasts_nil
  | append_singleton changes c ih =>
    rw [lasts_append, ← ih]
    simp only [after, List.foldl_append, List.foldl_cons, List.foldl_nil, table_change]

end Flat

/-- At every point of any history the registry answers and changes as one map and one set do. -/
theorem registry_is_flat (changes : List Change) :
    (after changes).Shows (Flat.after changes) ∧
    (∀ c, ((after changes).change c).2 = ((Flat.after changes).change c).2) ∧
    (∀ owner name h, (after changes).handler? owner name = some h ↔
      Lasts (.register owner name h) (Change.Concerns owner name) changes) ∧
    (∀ name, (after changes).isTable name = true ↔
      Lasts (.addTable name) (· = .removeTable name) changes) := by
  have shown := shows_after changes
  refine ⟨shown, fun c => (shows_change shown c).2, fun owner name h => ?_, fun name => ?_⟩
  · rw [shown.handlers, Flat.handler_after]
  · rw [shown.tables, decide_eq_true_iff, Flat.table_after]

example (h : Handler) :
    (after [.register "Clock" "Now" h, .unregister "Clock" "Now"]).handlers = [] := rfl

end ExprSql.Registry
