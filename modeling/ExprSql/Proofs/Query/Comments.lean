import ExprSql.Proofs.Fragment.Minus
import ExprSql.Proofs.Query.Lexing

namespace ExprSql

namespace Text

def commentMarks : List String := ["--", "/*"]

/-- Two characters that begin no comment when one is written behind the other. -/
def Harmless (a b : Char) : Prop := ∀ mark ∈ commentMarks, mark.toList ≠ [a, b]

instance (a b : Char) : Decidable (Harmless a b) :=
  inferInstanceAs (Decidable (∀ mark ∈ commentMarks, mark.toList ≠ [a, b]))

variable {quote : Char} {cs rest : List Char}

theorem harmless_iff {a b : Char} :
    Harmless a b ↔ (a = '-' → b ≠ '-') ∧ (a = '/' → b ≠ '*') := by
  simp [Harmless, commentMarks, eq_comm]

theorem harmless_append (plain : ∀ c ∈ cs, c ≠ '-' ∧ c ≠ '/')
    (harmless : rest.IsChain Harmless) : (cs ++ rest).IsChain Harmless := by
  induction cs with
  | nil => exact harmless
  | cons c cs ih =>
    obtain ⟨notMinus, notSlash⟩ := plain c List.mem_cons_self
    have tail := ih fun d mem => plain d (List.mem_cons_of_mem c mem)
    refine List.isChain_cons.mpr ⟨fun d _ => harmless_iff.mpr ⟨?_, ?_⟩, tail⟩
    · exact fun same => absurd same notMinus
    · exact fun same => absurd same notSlash

theorem quoted_of_harmless (apart : quote ≠ '-' ∧ quote ≠ '/')
    (harmless : (outside quote false cs).IsChain Harmless) {mark : String}
    (known : mark ∈ commentMarks) {before : List Char}
    (found : cs = before ++ mark.toList ++ rest) : endsQuoted quote false before = true := by
  obtain ⟨a, b, same, notQuote⟩ : ∃ a b, mark.toList = [a, b] ∧ a ≠ quote := by
    rcases List.mem_cons.mp known with rfl | known
    · exact ⟨'-', '-', by decide, apart.1.symm⟩
    · obtain rfl := List.mem_singleton.mp known
      exact ⟨'/', '*', by decide, apart.2.symm⟩
  cases ends : endsQuoted quote false before with
  | true => rfl
  | false =>
    -- The first character of the mark is kept, and so is the second, whatever it is.
    rw [found, List.append_assoc, outside_append, ends, same, List.cons_append, outside,
      if_neg notQuote] at harmless
    have next : b ∈ (outside quote false (b :: rest)).head? := by
      rw [outside_head]
      rfl
    exact absurd same ((List.isChain_cons.mp harmless.right_of_append).1 b next mark known)

end Text

namespace Slot

def Uncommented (quote : Char) (s : String) : Prop :=
  ∀ c ∈ s.toList, c ≠ quote ∧ c ∉ ['-', '/', '*']

variable {d : Dialect} {quote : Char} {ss : List Slot} {s : String}

theorem quote_apart (apart : Apart quote) : quote ≠ '-' ∧ quote ≠ '/' := by
  constructor
  · rintro rfl
    exact apart.texts "-" (by decide) (by decide)
  · rintro rfl
    exact apart.texts " / " (by decide) (by decide)

theorem text_unquoted (apart : Apart quote) (known : s ∈ fixedTexts ∨ Uncommented quote s) :
    ∀ c ∈ s.toList, c ≠ quote := by
  rintro c mem rfl
  rcases known with fixed | uncommented
  · exact apart.texts s fixed mem
  · exact (uncommented c mem).1 rfl

theorem uncommented_plain (uncommented : Uncommented quote s) :
    ∀ c ∈ s.toList, c ≠ '-' ∧ c ≠ '/' := by
  intro c mem
  have clear := (uncommented c mem).2
  exact ⟨fun same => clear (by simp [same]), fun same => clear (by simp [same])⟩

theorem fixed_harmless (fixed : s ∈ fixedTexts) :
    s.toList.IsChain Text.Harmless ∧
      (s.toList.getLast? ≠ some '/' ∧ (s.toList.getLast? = some '-' → s = "-")) ∧
      (s ≠ "-" → ∃ c cs, s.toList = c :: cs ∧ c ≠ '-') := by
  have inside : ∀ s ∈ fixedTexts, s.toList.IsChain Text.Harmless := by decide
  have last : ∀ s ∈ fixedTexts,
      s.toList.getLast? ≠ some '/' ∧ (s.toList.getLast? = some '-' → s = "-") := by decide
  have first : ∀ s ∈ fixedTexts, s ≠ "-" → s.toList.head?.any (· != '-') = true := by decide
  refine ⟨inside s fixed, last s fixed, fun other => ?_⟩
  have begins := first s fixed other
  cases chars : s.toList with
  | nil => simp [chars] at begins
  | cons c cs => exact ⟨c, cs, rfl, by simpa [chars] using begins⟩

theorem mark_harmless (apart : Apart d.quote) (marks : d.Unnumbered ∨ d.Numbered) (n : Nat) :
    ∃ c cs, (d.placeholder n).toList = c :: cs ∧
      ∀ c ∈ (d.placeholder n).toList, c ≠ d.quote ∧ c ≠ '-' ∧ c ≠ '/' := by
  obtain ⟨word, mark⟩ := mark_word apart marks n
  have plain : ∀ c ∈ (d.placeholder n).toList, c ≠ d.quote ∧ c ≠ '-' ∧ c ≠ '/' := by
    intro c mem
    obtain ⟨notQuote, inside⟩ := word c mem
    refine ⟨notQuote, ?_, ?_⟩
    · rintro rfl
      exact absurd inside (by decide)
    · rintro rfl
      exact absurd inside (by decide)
  cases chars : (d.placeholder n).toList with
  | nil => simp [chars, isPlaceholder] at mark
  | cons c cs => exact ⟨c, cs, rfl, chars ▸ plain⟩

section Written

variable (apart : Apart d.quote) (marks : d.Unnumbered ∨ d.Numbered)
  (texts : ∀ s, .text s ∈ ss → s ∈ fixedTexts ∨ Uncommented d.quote s)
include apart marks texts

/-- Nothing is written with a minus sign first but a minus sign itself. -/
theorem unsigned_ahead (fenced : Fenced ss) (unsigned : ∀ slot ∈ ss.head?, slot ≠ minus)
    (count : Nat) :
    ∀ c ∈ (chars d count ss).head?, c ≠ '-' := by
  cases ss with
  | nil => simp [chars, write]
  | cons slot ss =>
    cases slot with
    | text s =>
      rcases texts s List.mem_cons_self with fixed | uncommented
      · have other : s ≠ "-" := by simpa [minus] using unsigned
        obtain ⟨c, cs, first, notMinus⟩ := (fixed_harmless fixed).2.2 other
        simpa [chars_text, first] using notMinus
      · cases first : s.toList with
        | nil =>
          -- A function without a name: the parenthesis behind it comes first.
          have starts := starts_of_fenced fenced (by simp [Slot.closed, first])
          have notFence : '-' ∉ fences := by decide
          rw [chars_text, first, List.nil_append]
          exact fun c head => ne_of_mem_of_not_mem (fence_ahead starts count c head) notFence
        | cons c cs =>
          have plain := uncommented_plain uncommented c (first ▸ List.mem_cons_self)
          simpa [chars_text, first] using plain.1
    | identifier name => simpa [chars_identifier, Text.enclosed] using (quote_apart apart).1
    | value v =>
      obtain ⟨c, cs, first, plain⟩ := mark_harmless apart marks (count + 1)
      have notMinus := (plain c (first ▸ List.mem_cons_self)).2.1
      simpa [chars_value, first] using notMinus

theorem harmless_chars (fenced : Fenced ss) (unstacked : Unstacked ss) (count : Nat) :
    (Text.outside d.quote false (chars d count ss)).IsChain Text.Harmless := by
  induction ss generalizing count with
  | nil => exact List.isChain_nil
  | cons slot ss ih =>
    have known := fun s mem => texts s (List.mem_cons_of_mem slot mem)
    obtain ⟨apartAhead, later⟩ := List.isChain_cons.mp unstacked
    have tail := ih known fenced.tail later
    cases slot with
    | text s =>
      have allowed := texts s List.mem_cons_self
      rw [chars_text, Text.outside_plain (text_unquoted apart allowed)]
      rcases allowed with fixed | uncommented
      · obtain ⟨inside, ⟨notSlash, alone⟩, -⟩ := fixed_harmless fixed
        refine List.isChain_append.mpr ⟨inside, tail count, ?_⟩
        intro a ends b begins
        rw [Text.outside_head] at begins
        refine Text.harmless_iff.mpr ⟨?_, ?_⟩
        · rintro rfl
          have unsigned := fun slot mem => apartAhead slot mem (congrArg Slot.text (alone ends))
          exact unsigned_ahead apart marks known fenced.tail unsigned count b begins
        · rintro rfl
          exact absurd ends notSlash
      · exact Text.harmless_append (uncommented_plain uncommented) (tail count)
    | identifier name =>
      obtain ⟨n, quoted⟩ := Text.outside_enclosed d.quote name (chars d count ss)
      have plain : ∀ c ∈ List.replicate n d.quote, c ≠ '-' ∧ c ≠ '/' :=
        fun c mem => List.eq_of_mem_replicate mem ▸ quote_apart apart
      rw [chars_identifier, quoted]
      exact Text.harmless_append plain (tail count)
    | value v =>
      obtain ⟨-, -, -, plain⟩ := mark_harmless apart marks (count + 1)
      rw [chars_value, Text.outside_plain fun c mem => (plain c mem).1]
      exact Text.harmless_append (fun c mem => (plain c mem).2) (tail (count + 1))

theorem endsQuoted_chars (count : Nat) :
    Text.endsQuoted d.quote false (chars d count ss) = false := by
  induction ss generalizing count with
  | nil => rfl
  | cons slot ss ih =>
    have tail := ih fun s mem => texts s (List.mem_cons_of_mem slot mem)
    cases slot with
    | text s =>
      have plain := text_unquoted apart (texts s List.mem_cons_self)
      rw [chars_text, Text.endsQuoted_append, Text.endsQuoted_plain plain, tail]
    | identifier name =>
      rw [chars_identifier, Text.endsQuoted_append, Text.endsQuoted_enclosed, tail]
    | value v =>
      obtain ⟨-, -, -, plain⟩ := mark_harmless apart marks (count + 1)
      rw [chars_value, Text.endsQuoted_append, Text.endsQuoted_plain fun c mem => (plain c mem).1,
        tail]

end Written

end Slot

namespace Fragment

open Slot

/-- Rendered text closes every quoted name, and the marks that begin a comment occur inside such
names only. -/
theorem rendered_without_comments {d : Dialect} (apart : Apart d.quote)
    (marks : d.Unnumbered ∨ d.Numbered) {f : Fragment}
    (named : f.Everywhere (NodeNamed (Uncommented d.quote))) {sql : String} {params : List Bound}
    (rendered : f.toSql d = .ok (sql, params)) :
    Text.endsQuoted d.quote false sql.toList = false ∧
    ∀ mark ∈ Text.commentMarks, ∀ before rest, sql.toList = before ++ mark.toList ++ rest →
      Text.endsQuoted d.quote false before = true := by
  obtain ⟨-, rfl⟩ := toSql_ok.mp rendered
  have written : (String.join (Slot.write d 0 f.layout)).toList = chars d 0 f.layout :=
    String.toList_join
  have texts := (layout_neat named).texts
  have other : f.Everywhere (NodeNamed (· ≠ "-")) := by
    refine everywhere_mono (fun f here => ?_) named
    cases f with
    | function name arguments =>
      rintro rfl
      exact (here '-' (by decide)).2 (by decide)
    | _ => trivial
  have harmless := harmless_chars apart marks texts (layout_fenced named) (layout_unstacked other) 0
  rw [written]
  refine ⟨endsQuoted_chars apart marks texts 0, ?_⟩
  intro mark known before rest found
  exact Text.quoted_of_harmless (quote_apart apart) harmless known found

/-- Negations and divisions in a row, of columns with the marks of comments in their names. -/
theorem stacked_signs_without_comments :
    let f : Fragment := .arithmetic .subtract
      [.negate (.negate (.column ⟨"t", some "a--", "b`/*"⟩)),
        .arithmetic .divide [.column ⟨"t", none, "*"⟩, .negate (.function "abs" [.value .null])]]
    let sql := "-(-`a--`.`b``/*`) - * / -abs(?)"
    Apart Dialect.backtick.quote ∧ Dialect.backtick.Unnumbered ∧
      f.Everywhere (NodeNamed (Uncommented '`')) ∧ f.toSql .backtick = .ok (sql, [.null]) ∧
      Text.endsQuoted '`' false sql.toList = false ∧
      ∀ mark ∈ Text.commentMarks, ∀ before rest, sql.toList = before ++ mark.toList ++ rest →
        Text.endsQuoted '`' false before = true := by
  intro f sql
  have column (c : Column) : (Fragment.column c).Everywhere (NodeNamed (Uncommented '`')) :=
    .node trivial (by simp [children])
  have call : (Fragment.function "abs" [.value .null]).Everywhere (NodeNamed (Uncommented '`')) :=
    .node (by simp [NodeNamed, Uncommented])
      (List.forall_mem_singleton.mpr (.node trivial (by simp [children])))
  have negation {g : Fragment} (inner : g.Everywhere (NodeNamed (Uncommented '`'))) :
      (Fragment.negate g).Everywhere (NodeNamed (Uncommented '`')) :=
    .node trivial (List.forall_mem_singleton.mpr inner)
  have quotient : (Fragment.arithmetic .divide
      [.column ⟨"t", none, "*"⟩, .negate (.function "abs" [.value .null])]).Everywhere
      (NodeNamed (Uncommented '`')) :=
    .node trivial (List.forall_mem_cons.mpr
      ⟨column _, List.forall_mem_singleton.mpr (negation call)⟩)
  have named : f.Everywhere (NodeNamed (Uncommented '`')) :=
    .node trivial (List.forall_mem_cons.mpr
      ⟨negation (negation (column _)), List.forall_mem_singleton.mpr quotient⟩)
  have rendered : f.toSql .backtick = .ok (sql, [.null]) := by rfl
  exact ⟨backtick_apart, Dialect.backtick_unnumbered, named, rendered,
    rendered_without_comments backtick_apart (.inl Dialect.backtick_unnumbered) named rendered⟩

end Fragment
end ExprSql
