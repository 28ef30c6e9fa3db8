import ExprSql.Proofs.Query.Lexing

namespace ExprSql

open Slot Scan

namespace Token

/-- A word that is not reserved, with nothing in it that is a quote, a space or a sign. -/
structure IsName (quote : Char) (name : String) : Prop where
  present : name.toList ≠ []
  whole : ∀ c ∈ name.toList, c ≠ quote ∧ c ≠ '"' ∧ parts c = false
  unmarked : isPlaceholder name.toList = false
  free : reserved.lookup name = none

variable {quote : Char} {name : String}

theorem name_of_identifier (apart : quote.isAlphanum = false ∧ quote ≠ '_')
    (present : name.toList ≠ []) (letters : ∀ c ∈ name.toList, c.isAlphanum = true ∨ c = '_')
    (free : reserved.lookup name = none) : IsName quote name where
  present := present
  free := free
  whole c mem := by
    have others : ('"' :: ' ' :: signs.map Prod.fst).all
        (fun c => c.isAlphanum = false ∧ c ≠ '_') = true := by decide
    have other (c : Char) (mem : c ∈ '"' :: ' ' :: signs.map Prod.fst) :
        c.isAlphanum = false ∧ c ≠ '_' := by
      simpa using List.all_eq_true.mp others c mem
    have clear (e : Char) (foreign : e.isAlphanum = false ∧ e ≠ '_') : c ≠ e := by
      rintro rfl
      rcases letters c mem with letter | underscore
      · rw [foreign.1] at letter
        cases letter
      · exact foreign.2 underscore
    refine ⟨clear quote apart, clear '"' (other '"' List.mem_cons_self), ?_⟩
    by_contra ends
    have sign := List.mem_cons_of_mem '"' (parts_mem (Bool.not_eq_false _ ▸ ends))
    exact clear c (other c sign) rfl
  unmarked := by
    cases chars : name.toList with
    | nil => exact absurd chars present
    | cons c cs =>
      have letter := letters c (chars ▸ List.mem_cons_self)
      have notQuestion : c ≠ '?' := by
        rintro rfl
        revert letter
        decide
      have notDollar : c ≠ '$' := by
        rintro rfl
        revert letter
        decide
      simp [isPlaceholder, notQuestion, notDollar]

theorem lexemes_name (isName : IsName quote name) : lexemes name.toList = [.word name.toList] :=
  lexemes_word (fun c mem => (isName.whole c mem).2.2) isName.present

theorem plain_name (isName : IsName quote name) : Plain quote name where
  outside c mem := ⟨(isName.whole c mem).1, (isName.whole c mem).2.1⟩
  unmarked := by
    rw [lexemes_name isName]
    exact List.forall_mem_singleton.mpr isName.unmarked

theorem tokens_name (isName : IsName quote name) : (text name).tokens = [.name name] := by
  rw [tokens_plain (plain_name isName), lexemes_name isName, ofLexemes, isName.unmarked,
    String.ofList_toList, ofWord, isName.free]
  rfl

end Token

namespace Fragment

/-- Can be read back: functions have names, chains have links and values are scalars. -/
def Readable (quote : Char) (f : Fragment) : Prop :=
  f.Everywhere (Parser.NodeReadable (Token.IsName quote))

variable {d : Dialect} {f : Fragment}

theorem named_of_readable (readable : f.Readable d.quote) :
    f.Everywhere (NodeNamed (Token.IsName d.quote)) := by
  refine everywhere_mono (fun f here => ?_) readable
  cases f with
  | function name arguments => exact here
  | _ => trivial

theorem tokens_of_rendered (apart : Apart d.quote) (marks : d.Unnumbered ∨ d.Numbered)
    (readable : f.Readable d.quote) {sql : String} {params : List Bound}
    (rendered : f.toSql d = .ok (sql, params)) :
    Token.ofText d.quote sql params = tokensOf f.layout := by
  obtain ⟨bound, rfl⟩ := toSql_ok.mp rendered
  have named := named_of_readable readable
  have texts (s : String) (mem : .text s ∈ f.layout) : Plain d.quote s := by
    rcases (layout_neat named).texts s mem with fixed | isName
    · exact fixed_plain apart fixed
    · exact Token.plain_name isName
  have written : (String.join (Slot.write d 0 f.layout)).toList = chars d 0 f.layout :=
    String.toList_join
  rw [← values_layout] at bound
  rw [Token.ofText, written]
  exact lexes rfl apart marks texts (layout_fenced named) 0 bound

theorem parse_rendered (apart : Apart d.quote) (marks : d.Unnumbered ∨ d.Numbered)
    (readable : f.Readable d.quote) {sql : String} {params : List Bound}
    (rendered : f.toSql d = .ok (sql, params)) :
    Parser.parse .rendering d.quote sql params = some f.normal := by
  have tokens : f.Everywhere
      (Parser.NodeReadable fun name => (text name).tokens = [.name name]) := by
    refine everywhere_mono (fun f here => ?_) readable
    cases f with
    | function name arguments => exact Token.tokens_name here
    | _ => exact here
  rw [Parser.parse, tokens_of_rendered apart marks readable rendered]
  exact Parser.run_layout tokens

/-- The text and the parameters of a fragment tell its tree: a parser that goes by the levels of
rendering finds it, and any other fragment that is written the same has that tree too. -/
theorem rendering_unambiguous (apart : Apart d.quote) (marks : d.Unnumbered ∨ d.Numbered)
    (readable : f.Readable d.quote) {sql : String} {params : List Bound}
    (rendered : f.toSql d = .ok (sql, params)) :
    Parser.parse .rendering d.quote sql params = some f.normal ∧
      ∀ g : Fragment, g.Readable d.quote → g.toSql d = .ok (sql, params) → g.normal = f.normal := by
  have parsed := parse_rendered apart marks readable rendered
  refine ⟨parsed, ?_⟩
  intro g readable' rendered'
  have parsed' := parse_rendered apart marks readable' rendered'
  rw [parsed] at parsed'
  exact (Option.some.inj parsed').symm

/-- A chain that begins with a chain is written as one chain, whatever quotes the dialect has. -/
theorem nested_chains_are_one :
    let called (table : String) : Fragment :=
      .comparison .equal (.function "lower" [.column ⟨table, none, "a"⟩]) (.value (.string "x"))
    let denied : Fragment := .not (.column ⟨"t", none, "b"⟩)
    let f : Fragment := .logical .and [.logical .and [called "t", denied], denied]
    let g : Fragment := .logical .and [called "u", denied, denied]
    let sql := "lower(\"a\") = $1 AND NOT \"b\" AND NOT \"b\""
    let ticked := "lower(`a`) = ? AND NOT `b` AND NOT `b`"
    f.Readable '"' ∧ g.Readable '"' ∧ f.Readable '`' ∧ g.Readable '`' ∧
      f.toSql .postgres = .ok (sql, [.text "x"]) ∧ g.toSql .postgres = .ok (sql, [.text "x"]) ∧
      f.toSql .backtick = .ok (ticked, [.text "x"]) ∧
      g.toSql .backtick = .ok (ticked, [.text "x"]) ∧
      Parser.parse .rendering '"' sql [.text "x"] = some f.normal ∧
      Parser.parse .rendering '`' ticked [.text "x"] = some f.normal ∧ g.normal = f.normal := by
  intro called denied f g sql ticked
  have readable (quote : Char) (apart : quote.isAlphanum = false ∧ quote ≠ '_') :
      f.Readable quote ∧ g.Readable quote := by
    have lower : Token.IsName quote "lower" :=
      Token.name_of_identifier apart (by decide) (by simp) (by decide)
    have column (c : Column) : (Fragment.column c).Readable quote :=
      .node trivial (by simp [children])
    have call (table : String) : (called table).Readable quote :=
      .node trivial (List.forall_mem_cons.mpr
        ⟨.node lower (List.forall_mem_singleton.mpr (column _)),
          List.forall_mem_singleton.mpr (.node rfl (by simp [children]))⟩)
    have other : denied.Readable quote :=
      .node trivial (List.forall_mem_singleton.mpr (column _))
    have inner : (Fragment.logical .and [called "t", denied]).Readable quote :=
      .node (Nat.le_refl 2)
        (List.forall_mem_cons.mpr ⟨call "t", List.forall_mem_singleton.mpr other⟩)
    have two : 2 ≤ [called "u", denied, denied].length := by simp
    exact ⟨.node (Nat.le_refl 2)
        (List.forall_mem_cons.mpr ⟨inner, List.forall_mem_singleton.mpr other⟩),
      .node two (List.forall_mem_cons.mpr
        ⟨call "u", List.forall_mem_cons.mpr ⟨other, List.forall_mem_singleton.mpr other⟩⟩)⟩
  obtain ⟨fQuoted, gQuoted⟩ := readable '"' (by decide)
  obtain ⟨fTicked, gTicked⟩ := readable '`' (by decide)
  have fRendered : f.toSql .postgres = .ok (sql, [.text "x"]) := by rfl
  have gRendered : g.toSql .postgres = .ok (sql, [.text "x"]) := by rfl
  have fTicks : f.toSql .backtick = .ok (ticked, [.text "x"]) := by rfl
  have gTicks : g.toSql .backtick = .ok (ticked, [.text "x"]) := by rfl
  obtain ⟨parsed, only⟩ := rendering_unambiguous doubleQuote_apart
    (.inr Dialect.postgres_numbered) fQuoted fRendered
  obtain ⟨parsedTicks, -⟩ := rendering_unambiguous backtick_apart
    (.inl Dialect.backtick_unnumbered) fTicked fTicks
  exact ⟨fQuoted, gQuoted, fTicked, gTicked, fRendered, gRendered, fTicks, gTicks, parsed,
    parsedTicks, only g gQuoted gRendered⟩

end Fragment
end ExprSql
