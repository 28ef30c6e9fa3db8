import ExprSql.Proofs.Fragment.Fences
import ExprSql.Proofs.Fragment.Scalars
import ExprSql.Proofs.Text.Marks

/-!
Placeholders and parameters line up: as many of one as of the other, in the same order, whether a
dialect numbers its placeholders or not.
-/
namespace ExprSql

namespace Dialect

def Unnumbered (d : Dialect) : Prop := ∀ n, d.placeholder n = "?"

def Numbered (d : Dialect) : Prop := ∀ n, d.placeholder n = s!"${n}"

def backtick : Dialect where
  name := "backtick"
  quote := '`'

theorem generic_unnumbered : generic.Unnumbered := fun _ => rfl

theorem backtick_unnumbered : backtick.Unnumbered := fun _ => rfl

theorem postgres_numbered : postgres.Numbered := fun _ => rfl

end Dialect

namespace Slot

def Unmarked (quote : Char) (s : String) : Prop :=
  ∀ c ∈ s.toList, c ≠ quote ∧ c ≠ '?' ∧ c ≠ '$'

def chars (d : Dialect) (count : Nat) (ss : List Slot) : List Char :=
  (write d count ss).flatMap String.toList

variable {d d' : Dialect} {quote : Char} {ss : List Slot}

/-- A quote that neither a fixed text nor a mark contains. -/
structure Apart (quote : Char) : Prop where
  texts : ∀ s ∈ fixedTexts, quote ∉ s.toList
  question : quote ≠ '?'
  dollar : quote ≠ '$'
  digit : quote.isDigit = false

theorem doubleQuote_apart : Apart '"' := ⟨by decide, by decide, by decide, by decide⟩

theorem backtick_apart : Apart '`' := ⟨by decide, by decide, by decide, by decide⟩

theorem fixed_unmarked (apart : Apart quote) {s : String} (fixed : s ∈ fixedTexts) :
    Unmarked quote s := by
  have texts : ∀ s ∈ fixedTexts, '?' ∉ s.toList ∧ '$' ∉ s.toList := by decide
  obtain ⟨noQuestion, noDollar⟩ := texts s fixed
  intro c mem
  refine ⟨?_, ne_of_mem_of_not_mem mem noQuestion, ne_of_mem_of_not_mem mem noDollar⟩
  rintro rfl
  exact apart.texts s fixed mem

theorem chars_text (count : Nat) (s : String) (ss : List Slot) :
    chars d count (.text s :: ss) = s.toList ++ chars d count ss := rfl

theorem chars_identifier (count : Nat) (name : String) (ss : List Slot) :
    chars d count (.identifier name :: ss)
      = (Text.enclosed d.quote name).toList ++ chars d count ss := rfl

theorem chars_value (count : Nat) (v : Value) (ss : List Slot) :
    chars d count (.value v :: ss)
      = (d.placeholder (count + 1)).toList ++ chars d (count + 1) ss := rfl

theorem starts_of_fenced {slot : Slot} (fenced : Fenced (slot :: ss))
    (opens : slot.closed = false) : StartsFenced ss := by
  intro next mem
  rcases (List.isChain_cons.mp fenced).1 next mem with closed | fence
  · rw [opens] at closed
    cases closed
  · exact fence

theorem fence_char {s : String} (fence : (Slot.text s).fence = true) :
    ∃ c cs, s.toList = c :: cs ∧ c ∈ fences := by
  cases chars : s.toList with
  | nil => simp [Slot.fence, chars] at fence
  | cons c cs => exact ⟨c, cs, rfl, by simpa [Slot.fence, chars] using fence⟩

theorem fence_ahead (starts : StartsFenced ss) (count : Nat) :
    ∀ c ∈ (chars d count ss).head?, c ∈ fences := by
  cases ss with
  | nil => simp [chars, write]
  | cons slot ss =>
    have fence := starts slot rfl
    cases slot with
    | text s =>
      obtain ⟨c, cs, first, mem⟩ := fence_char fence
      intro e head
      rw [chars_text, first] at head
      cases head
      exact mem
    | identifier name => cases fence
    | value v => cases fence

theorem no_digit_ahead (starts : StartsFenced ss) (count : Nat) :
    ∀ c ∈ (chars d count ss).head?, c.isDigit = false := by
  have notDigits : fences.all (!·.isDigit) = true := by decide
  intro c head
  simpa using List.all_eq_true.mp notDigits c (fence_ahead starts count c head)

theorem count_outside (same : d.quote = quote) (unnumbered : d.Unnumbered)
    (apart : Apart quote) (texts : ∀ s, .text s ∈ ss → Unmarked quote s) (count : Nat) :
    (Text.outside quote false (chars d count ss)).count '?' = (values ss).length := by
  induction ss generalizing count with
  | nil => rfl
  | cons slot ss ih =>
    have tail := ih fun s mem => texts s (List.mem_cons_of_mem slot mem)
    cases slot with
    | text s =>
      have plain := texts s List.mem_cons_self
      have none : s.toList.count '?' = 0 :=
        List.count_eq_zero.mpr fun mem => (plain _ mem).2.1 rfl
      rw [chars_text, Text.outside_plain fun c mem => (plain c mem).1, List.count_append, tail,
        none]
      simp
    | identifier name =>
      obtain ⟨n, quoted⟩ := Text.outside_enclosed quote name (chars d count ss)
      have none : (List.replicate n quote).count '?' = 0 :=
        List.count_eq_zero.mpr fun mem => apart.question (List.eq_of_mem_replicate mem).symm
      rw [chars_identifier, same, quoted, List.count_append, tail, none]
      simp
    | value v =>
      rw [chars_value, unnumbered, Text.outside_plain (by simpa using apart.question.symm),
        List.count_append, tail]
      simp [Nat.add_comm]

theorem toList_numbered (numbered : d.Numbered) (n : Nat) :
    (d.placeholder n).toList = '$' :: (toString n).toList := by
  rw [numbered, String.toList_append]
  rfl

theorem digits_toString (n : Nat) : ∀ c ∈ (toString n).toList, c.isDigit = true := by
  intro c mem
  rw [Nat.toString_eq_ofList_toDigits, String.toList_ofList] at mem
  exact Nat.isDigit_of_mem_toDigits (by decide) (by decide) mem

theorem numbers_outside (same : d.quote = quote) (numbered : d.Numbered)
    (apart : Apart quote) (texts : ∀ s, .text s ∈ ss → Unmarked quote s)
    (fenced : Fenced ss) (count : Nat) :
    Text.numbers (Text.outside quote false (chars d count ss))
      = (List.range' (count + 1) (values ss).length).map fun n => (toString n).toList := by
  induction ss generalizing count with
  | nil => rfl
  | cons slot ss ih =>
    have tail := ih (fun s mem => texts s (List.mem_cons_of_mem slot mem)) fenced.tail
    cases slot with
    | text s =>
      have plain := texts s List.mem_cons_self
      rw [chars_text, Text.outside_plain fun c mem => (plain c mem).1,
        Text.numbers_plain fun c mem => (plain c mem).2.2, tail]
      rfl
    | identifier name =>
      obtain ⟨n, quoted⟩ := Text.outside_enclosed quote name (chars d count ss)
      have plain : ∀ c ∈ List.replicate n quote, c ≠ '$' :=
        fun c mem => List.eq_of_mem_replicate mem ▸ apart.dollar
      rw [chars_identifier, same, quoted, Text.numbers_plain plain, tail]
      rfl
    | value v =>
      have digits := digits_toString (count + 1)
      have plain : ∀ c ∈ '$' :: (toString (count + 1)).toList, c ≠ quote := by
        rintro c mem rfl
        rcases List.mem_cons.mp mem with rfl | mem
        · exact apart.dollar rfl
        · have digit := digits c mem
          rw [apart.digit] at digit
          cases digit
      have stops := no_digit_ahead (d := d) (starts_of_fenced fenced rfl) (count + 1)
      rw [← Text.outside_head quote] at stops
      rw [chars_value, toList_numbered numbered, Text.outside_plain plain,
        Text.numbers_mark digits stops, tail, values_value, List.length_cons, List.range'_succ,
        List.map_cons]

theorem unnumbered_chars (same : d.quote = quote) (numbered : d.Numbered) (same' : d'.quote = quote)
    (unnumbered : d'.Unnumbered) (apart : Apart quote)
    (texts : ∀ s, .text s ∈ ss → Unmarked quote s) (fenced : Fenced ss) (count : Nat) :
    Text.unnumbered quote .plain (chars d count ss) = chars d' count ss := by
  induction ss generalizing count with
  | nil => rfl
  | cons slot ss ih =>
    have tail := ih (fun s mem => texts s (List.mem_cons_of_mem slot mem)) fenced.tail
    cases slot with
    | text s =>
      have plain := texts s List.mem_cons_self
      rw [chars_text, chars_text,
        Text.unnumbered_plain fun c mem => ⟨(plain c mem).1, (plain c mem).2.2⟩, tail]
    | identifier name =>
      rw [chars_identifier, chars_identifier, same, same', Text.unnumbered_enclosed, tail]
    | value v =>
      have stops := no_digit_ahead (d := d) (starts_of_fenced fenced rfl) (count + 1)
      rw [chars_value, chars_value, toList_numbered numbered, unnumbered,
        Text.unnumbered_mark apart.dollar (digits_toString (count + 1)) stops, tail]
      rfl

end Slot

namespace Fragment

open Slot

theorem layout_unmarked {quote : Char} (apart : Apart quote) {f : Fragment}
    (named : f.Everywhere (NodeNamed (Unmarked quote))) :
    ∀ s, .text s ∈ f.layout → Unmarked quote s := by
  intro s mem
  rcases (layout_neat named).texts s mem with fixed | allowed
  · exact fixed_unmarked apart fixed
  · exact allowed

/-- Rendering succeeds when all scalars can be bound, binds them in order, and writes one mark for
each outside quoted names; numbered marks are numbered in that order too. -/
theorem placeholders_line_up (d : Dialect) {f : Fragment}
    (named : f.Everywhere (NodeNamed (Unmarked d.quote))) :
    ((∃ sql params, f.toSql d = .ok (sql, params)) ↔ ∀ v ∈ f.scalars, v.Bindable) ∧
    ∀ sql params, f.toSql d = .ok (sql, params) →
      List.Forall₂ Value.BoundAs f.scalars params ∧
      (Apart d.quote → d.Unnumbered →
        (Text.outside d.quote false sql.toList).count '?' = params.length) ∧
      (Apart d.quote → d.Numbered →
        Text.numbers (Text.outside d.quote false sql.toList)
            = (List.range' 1 params.length).map (fun n => (toString n).toList) ∧
          ∀ d' : Dialect, d'.quote = d.quote → d'.Unnumbered →
            f.toSql d'
              = .ok (String.ofList (Text.unnumbered d.quote .plain sql.toList), params)) := by
  have fenced := layout_fenced named
  refine ⟨toSql_succeeds_iff d f, ?_⟩
  intro sql params rendered
  obtain ⟨bound, rfl⟩ := toSql_ok.mp rendered
  have pairs := ((List.forall₂_and_left _ _).mp (all_bindable_of_bound bound)).2
  have count : params.length = (values f.layout).length := by
    rw [values_layout]
    exact pairs.length_eq.symm
  have written (d : Dialect) : (String.join (Slot.write d 0 f.layout)).toList
      = chars d 0 f.layout := String.toList_join
  rw [written, count]
  refine ⟨pairs, ?_, ?_⟩
  · intro apart unnumbered
    exact count_outside rfl unnumbered apart (layout_unmarked apart named) 0
  · intro apart numbered
    have texts := layout_unmarked apart named
    refine ⟨numbers_outside rfl numbered apart texts fenced 0, ?_⟩
    intro d' same unnumbered
    rw [unnumbered_chars rfl numbered same unnumbered apart texts fenced, ← written,
      String.ofList_toList]
    exact toSql_ok.mpr ⟨bound, rfl⟩

theorem marked_names_line_up :
    let f : Fragment := .logical .and
      [.comparison .equal (.function "lower" [.column ⟨"t", none, "a\"?$7"⟩])
        (.value (.string "x")),
        .inList (.column ⟨"t", none, "b"⟩)
          [.value (.array [.bool true, .list [.null]])] false]
    let sql := "lower(\"a\"\"?$7\") = $1 AND \"b\" IN ($2, ($3))"
    let params : List Bound := [.text "x", .bool true, .null]
    f.Everywhere (NodeNamed (Unmarked '"')) ∧ f.toSql .postgres = .ok (sql, params) ∧
      f.toSql .generic = .ok ("lower(\"a\"\"?$7\") = ? AND \"b\" IN (?, (?))", params) ∧
      Text.numbers (Text.outside '"' false sql.toList) = [['1'], ['2'], ['3']] := by
  intro f sql params
  have column (c : Column) : (Fragment.column c).Everywhere (NodeNamed (Unmarked '"')) :=
    .node trivial (by simp [children])
  have value (v : Value) : (Fragment.value v).Everywhere (NodeNamed (Unmarked '"')) :=
    .node trivial (by simp [children])
  have call : (Fragment.function "lower" [.column ⟨"t", none, "a\"?$7"⟩]).Everywhere
      (NodeNamed (Unmarked '"')) :=
    .node (by simp [NodeNamed, Unmarked]) (List.forall_mem_singleton.mpr (column _))
  have named : f.Everywhere (NodeNamed (Unmarked '"')) :=
    .node trivial (List.forall_mem_cons.mpr
      ⟨.node trivial (List.forall_mem_cons.mpr ⟨call, List.forall_mem_singleton.mpr (value _)⟩),
        List.forall_mem_singleton.mpr (.node trivial (List.forall_mem_cons.mpr
          ⟨column _, List.forall_mem_singleton.mpr (value _)⟩))⟩)
  have rendered : f.toSql .postgres = .ok (sql, params) := by rfl
  obtain ⟨-, lines⟩ := placeholders_line_up .postgres named
  obtain ⟨-, -, numbered⟩ := lines sql params rendered
  obtain ⟨numbers, replaced⟩ := numbered doubleQuote_apart Dialect.postgres_numbered
  have unmarked : String.ofList (Text.unnumbered '"' .plain sql.toList)
      = "lower(\"a\"\"?$7\") = ? AND \"b\" IN (?, (?))" := by decide
  have generic := replaced .generic rfl Dialect.generic_unnumbered
  change f.toSql .generic
    = .ok (String.ofList (Text.unnumbered '"' .plain sql.toList), params) at generic
  rw [unmarked] at generic
  exact ⟨named, rendered, generic, numbers⟩

end Fragment
end ExprSql
