import ExprSql.Compile
import ExprSql.Compile.Handlers
import ExprSql.Expr.Builder
import ExprSql.Proofs.Fragment.Scalars
import ExprSql.Proofs.Run.InOrder

/-!
Tests of membership in a list. The handler counts the operands of the call. A collection that is one
of these is taken apart where the test is rendered, and an empty one is then no element at all.
-/
namespace ExprSql

open Run

namespace Fragment

/-- An item that contributes no element. -/
def IsHollow (f : Fragment) : Prop := f = .value (.array []) ∨ f = .value (.list [])

theorem elements_hollow {f : Fragment} : f.elements = [] ↔ f.IsHollow := by
  unfold elements
  split <;> simp_all [IsHollow]

end Fragment

namespace Slot

variable (d : Dialect)

theorem write_append (count : Nat) (ss ts : List Slot) : write d count (ss ++ ts)
    = write d count ss ++ write d (count + (values ss).length) ts := by
  induction ss generalizing count with
  | nil => rfl
  | cons slot ss ih =>
    cases slot with
    | text s => simp [write, ih]
    | identifier name => simp [write, ih]
    | value v =>
      have later : count + (values (.value v :: ss)).length = count + 1 + (values ss).length := by
        rw [values_value, List.length_cons]
        omega
      rw [List.cons_append, write, write, ih, later, List.cons_append]

def Spells (ss : List Slot) (text : String) : Prop :=
  ∃ count, text = String.join (write d count ss)

theorem write_separated (count : Nat) (items : List (List Slot)) :
    ∃ texts, List.Forall₂ (Spells d) items texts ∧
      String.join (write d count (separated items)) = ", ".intercalate texts := by
  induction items generalizing count with
  | nil => exact ⟨[], .nil, rfl⟩
  | cons item items ih =>
    cases items with
    | nil =>
      refine ⟨[String.join (write d count item)], .cons ⟨count, rfl⟩ .nil, ?_⟩
      simp [separated_cons]
    | cons next items =>
      obtain ⟨texts, each, joined⟩ := ih (count + (values item).length)
      refine ⟨String.join (write d count item) :: texts, .cons ⟨count, rfl⟩ each, ?_⟩
      rw [separated_cons_cons, write_append, write, String.join_append, String.join_cons, joined,
        String.intercalate_cons_of_ne_nil]
      · simp [String.append_assoc]
      · rintro rfl
        cases each

end Slot

namespace Fragment

variable {d : Dialect} {f : Fragment} {items : List Fragment} {negated : Bool} {sql : String}
  {texts : List String} {params : List Bound}

/-- Query text that tests a fragment for membership in a list, with one text for each element. -/
structure Lists (d : Dialect) (f : Fragment) (items : List Fragment) (negated : Bool) (sql : String)
    (texts : List String) : Prop where
  each : List.Forall₂ (Slot.Spells d) ((items.flatMap elements).map layout) texts
  spelled : sql = String.join (Slot.write d 0 (Slot.operand 4 f f.layout)) ++
    (if negated then " NOT IN (" else " IN (") ++ ", ".intercalate texts ++ ")"

theorem rendered_lists (rendered : (inList f items negated).toSql d = .ok (sql, params)) :
    ∃ texts, Lists d f items negated sql texts := by
  obtain ⟨-, rfl⟩ := toSql_ok.mp rendered
  obtain ⟨texts, each, joined⟩ := Slot.write_separated d
    (0 + (Slot.values (Slot.operand 4 f f.layout)).length) ((items.flatMap elements).map layout)
  refine ⟨texts, each, ?_⟩
  rw [layout, itemLayouts_eq_elements, List.append_assoc, List.cons_append, Slot.write_append,
    Slot.negatedIf, Slot.write, Slot.write_append, String.join_append, String.join_cons,
    String.join_append, joined]
  simp [Slot.write, String.append_assoc]

theorem lists_nothing (lists : Lists d f items negated sql texts) :
    texts = [] ↔ ∀ item ∈ items, item.IsHollow := by
  have length := lists.each.length_eq
  rw [List.length_map] at length
  rw [← List.length_eq_zero_iff, ← length, List.length_eq_zero_iff, List.flatMap_eq_nil_iff]
  simp only [elements_hollow]

end Fragment

namespace Handler

variable {l : Level} {call : Call} {before mid after : Trace} {x last : Expr} {f : Fragment}
  {fs gs : List Fragment} {negated : Bool}

def spread (l : Level) : Expr → Run (List Fragment)
  | .array _ items => items.mapM l.fragment
  | e => do
      match ← l.operand e with
      | .value (.array vs) => pure (vs.map .value)
      | operand => pure [operand.toFragment]

theorem go_single (l : Level) (e : Expr) : operands.go l [e] = spread l e := by
  cases e <;> rfl

theorem go_concat (l : Level) (es : List Expr) (last : Expr) : operands.go l (es ++ [last])
    = es.mapM l.fragment >>= fun fs => spread l last >>= fun gs => pure (fs ++ gs) := by
  induction es with
  | nil => simp [go_single]
  | cons e es ih =>
    obtain ⟨next, rest, split⟩ : ∃ next rest, es ++ [last] = next :: rest := by
      cases es <;> simp
    have step : operands.go l (e :: next :: rest)
        = l.fragment e >>= fun f => operands.go l (next :: rest) >>= fun fs => pure (f :: fs) := by
      cases e <;> rfl
    rw [List.cons_append, split, step, ← split, ih, List.mapM_cons]
    simp only [bind_assoc, pure_bind, List.cons_append]

theorem gives_operands {es : List Expr}
    (split : call.target.toList ++ call.arguments = es ++ [last])
    (first : OneByOne l.fragment es before fs mid) (second : Gives (spread l last) mid gs after) :
    Gives (operands l call) before (fs ++ gs) after := by
  rw [operands, split, go_concat]
  simp only [gives_bind, gives_pure]
  exact ⟨fs, mid, gives_mapM.2 first, gs, after, second, rfl, rfl⟩

def EmptyArray (l : Level) (e : Expr) (before after : Trace) : Prop :=
  (∃ t, e = .array t []) ∧ before = after ∨
    (∀ t items, e ≠ .array t items) ∧ Gives (l.operand e) before (.value (.array [])) after

theorem spread_empty (empty : EmptyArray l last before after) :
    Gives (spread l last) before [] after := by
  rcases empty with ⟨⟨t, rfl⟩, rfl⟩ | ⟨evaluated, gives⟩
  · exact gives_pure.2 ⟨rfl, rfl⟩
  · rw [spread]
    · exact gives_bind.2 ⟨_, _, gives, gives_pure.2 ⟨rfl, rfl⟩⟩
    · exact evaluated

theorem membership_accepted {o : Operand} : Gives (membership negated l call) before o after ↔
    ∃ f items, Gives (operands l call) before (f :: items) after ∧ items ≠ [] ∧
      o = .fragment (.inList f items negated) := by
  constructor
  · intro gives
    obtain ⟨fs, mid, found, gives⟩ := gives_bind.1 gives
    rcases fs with _ | ⟨f, _ | ⟨item, items⟩⟩
    · exact absurd gives gives_throw
    · exact absurd gives gives_throw
    · obtain ⟨rfl, rfl⟩ := gives_pure.1 gives
      exact ⟨f, item :: items, found, by simp, rfl⟩
  · rintro ⟨f, items, found, listed, rfl⟩
    refine gives_bind.2 ⟨_, _, found, ?_⟩
    cases items with
    | nil => exact absurd rfl listed
    | cons item items => exact gives_pure.2 ⟨rfl, rfl⟩

theorem membership_refused (found : Gives (operands l call) before fs after)
    (short : fs.tail = []) : Fails (membership negated l call) before (.expression
      (if fs = [] then .noOperand call.method.label else .emptyList call.method.label)) after := by
  refine fails_bind.2 (.inr ⟨fs, after, found, ?_⟩)
  rcases fs with _ | ⟨f, _ | ⟨item, items⟩⟩
  · exact fails_throw.2 ⟨rfl, rfl⟩
  · exact fails_throw.2 ⟨rfl, rfl⟩
  · cases short

/-- A membership test that is accepted and rendered has an element for the operand to be tested
against, unless all that it lists are empty collections. A call without operands to list is refused,
and so is one that lists an empty array. -/
theorem membership_tested (l : Level) (call : Call) (negated : Bool) (before after : Trace) :
    (∀ o, Gives (membership negated l call) before o after → ∃ f items,
      Gives (operands l call) before (f :: items) after ∧ items ≠ [] ∧
        o = .fragment (.inList f items negated) ∧
        ∀ d sql params, (Fragment.inList f items negated).toSql d = .ok (sql, params) →
          ∃ texts, Fragment.Lists d f items negated sql texts ∧
            (texts = [] ↔ ∀ item ∈ items, item.IsHollow)) ∧
    (∀ fs, Gives (operands l call) before fs after → fs.tail = [] →
      Fails (membership negated l call) before (.expression
        (if fs = [] then .noOperand call.method.label else .emptyList call.method.label)) after) ∧
    ∀ x last f mid, call.target.toList ++ call.arguments = [x, last] →
      Gives (l.fragment x) before f mid → EmptyArray l last mid after →
        Fails (membership negated l call) before
          (.expression (.emptyList call.method.label)) after := by
  refine ⟨?_, fun fs found short => membership_refused found short, ?_⟩
  · intro o gives
    obtain ⟨f, items, found, listed, rfl⟩ := membership_accepted.1 gives
    refine ⟨f, items, found, listed, rfl, fun d sql params rendered => ?_⟩
    obtain ⟨texts, lists⟩ := Fragment.rendered_lists rendered
    exact ⟨texts, lists, Fragment.lists_nothing lists⟩
  · intro x last f mid split first empty
    have single : OneByOne l.fragment [x] before [f] mid := .cons first .nil
    exact membership_refused (gives_operands split single (spread_empty empty)) rfl

theorem identifiers_tested :
    let c : Compiler := ⟨{ tables := ["Person"] }, {}⟩
    let id := (Expr.parameter "p" (.record "Person")).access "Id" (.int .i32)
    let one : Expr := .ofValue (.int .i32 ⟨1, by decide⟩)
    let call : Call := ⟨none, ⟨"Sql", "In", .bool, true⟩, [id, .array (.int .i32) [one, one]]⟩
    ∃ f items sql params texts,
      Gives (membership false (c.level 2) call) [] (.fragment (.inList f items false)) [] ∧
        (Fragment.inList f items false).toSql .generic = .ok (sql, params) ∧
        Fragment.Lists .generic f items false sql texts ∧ texts ≠ [] := by
  intro c id one call
  have accepted : Gives (membership false (c.level 2) call) [] (.fragment (.inList
      (.column ⟨"Person", some "p", "Id"⟩) (List.replicate 2 (.value (.int .i32 ⟨1, by decide⟩)))
      false)) [] := rfl
  obtain ⟨f, items, -, -, same, tested⟩ := (membership_tested _ _ _ _ _).1 _ accepted
  cases same
  obtain ⟨texts, lists, empty⟩ := tested .generic _ _ rfl
  refine ⟨_, _, _, _, texts, accepted, rfl, lists, ?_⟩
  rw [ne_eq, empty]
  simp [Fragment.IsHollow]

/-- An empty list is no array: the call is accepted, and its test lists nothing. -/
theorem empty_list_accepted :
    let c : Compiler := ⟨{ tables := ["Person"] }, {}⟩
    let id := (Expr.parameter "p" (.record "Person")).access "Id" (.int .i32)
    let call : Call := ⟨none, ⟨"Sql", "In", .bool, true⟩, [id, .listOf (.int .i32) []]⟩
    ∃ f, Gives (membership false (c.level 2) call) [] (.fragment f) [] ∧
      f.toSql .generic = .ok ("\"p\".\"Id\" IN ()", []) := by
  intro c id call
  exact ⟨_, rfl, by rfl⟩

end Handler
end ExprSql
