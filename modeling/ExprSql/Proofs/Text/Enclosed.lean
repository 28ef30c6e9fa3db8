import Mathlib.Data.Prod.Basic
import Mathlib.Logic.Function.Basic
import ExprSql.Fragment.Bound
import ExprSql.Fragment.Dialect

/-!
Reading names and literals back from between their quotes. The reader stops at the first quote that
is not doubled; it takes what writing encloses and nothing else.
-/
namespace ExprSql

namespace Text

/-- The text up to the quote that closes it, each doubled quote read as one, and what follows. -/
def readClosed (quote : Char) : List Char → Option (List Char × List Char)
  | [] => none
  | c :: cs =>
      if c = quote then
        match cs with
        | [] => some ([], [])
        | d :: rest =>
            if d = quote then (readClosed quote rest).map (Prod.map (quote :: ·) id)
            else some ([], d :: rest)
      else (readClosed quote cs).map (Prod.map (c :: ·) id)

def readQuoted (quote : Char) : List Char → Option (String × List Char)
  | [] => none
  | c :: cs => if c = quote then (readClosed quote cs).map (Prod.map String.ofList id) else none

variable {quote : Char} {cs name rest : List Char}

theorem doubled_quote (quote : Char) (cs : List Char) :
    doubled quote (quote :: cs) = quote :: quote :: doubled quote cs := by
  simp [doubled]

theorem doubled_other {c : Char} (other : c ≠ quote) (cs : List Char) :
    doubled quote (c :: cs) = c :: doubled quote cs := by
  simp [doubled, other]

theorem readClosed_other {c : Char} (other : c ≠ quote) (cs : List Char) :
    readClosed quote (c :: cs) = (readClosed quote cs).map (Prod.map (c :: ·) id) := by
  rw [readClosed.eq_def]
  simp only [if_neg other]

/-- However many quotes a name ends in, it is closed by the one behind them. -/
theorem readClosed_doubled (name : List Char) (stops : rest.head? ≠ some quote) :
    readClosed quote (doubled quote name ++ quote :: rest) = some (name, rest) := by
  induction name with
  | nil =>
    cases rest with
    | nil => simp [doubled, readClosed]
    | cons c rest =>
      have other : c ≠ quote := by simpa using stops
      simp [doubled, readClosed, other]
  | cons c name ih =>
    by_cases same : c = quote
    · subst same
      simp [doubled_quote, readClosed, ih]
    · simp [doubled_other same, readClosed_other same, ih]

example : readClosed '"' ['a', '"', '"', '"', '.'] = some (['a', '"'], ['.']) := by decide

theorem doubled_of_readClosed (read : readClosed quote cs = some (name, rest)) :
    cs = doubled quote name ++ quote :: rest ∧ rest.head? ≠ some quote := by
  fun_induction readClosed quote cs generalizing name with
  | case1 => cases read
  | case2 =>
    cases read
    simp [doubled]
  | case3 rest' ih =>
    obtain ⟨⟨name', last⟩, inner, same⟩ := Option.map_eq_some_iff.mp read
    cases same
    obtain ⟨written, stops⟩ := ih inner
    exact ⟨by rw [doubled_quote, written]; rfl, stops⟩
  | case4 d rest' other =>
    cases read
    simpa [doubled] using other
  | case5 c cs other ih =>
    obtain ⟨⟨name', last⟩, inner, same⟩ := Option.map_eq_some_iff.mp read
    cases same
    obtain ⟨written, stops⟩ := ih inner
    exact ⟨by rw [doubled_other other, written]; rfl, stops⟩

theorem readQuoted_iff {s : String} :
    readQuoted quote cs = some (s, rest) ↔
      cs = (enclosed quote s).toList ++ rest ∧ rest.head? ≠ some quote := by
  constructor
  · intro read
    cases cs with
    | nil => cases read
    | cons c cs =>
      rw [readQuoted] at read
      split at read
      · rename_i same
        subst same
        obtain ⟨⟨name, last⟩, inner, same⟩ := Option.map_eq_some_iff.mp read
        cases same
        obtain ⟨rfl, stops⟩ := doubled_of_readClosed inner
        exact ⟨by simp [enclosed], stops⟩
      · cases read
  · rintro ⟨rfl, stops⟩
    have inner := readClosed_doubled s.toList stops
    simp [enclosed, readQuoted, inner]

theorem enclosed_injective (quote : Char) : Function.Injective (enclosed quote) := by
  intro s t same
  have first : readQuoted quote (enclosed quote s).toList = some (s, []) :=
    readQuoted_iff.mpr ⟨by simp, by simp⟩
  have second : readQuoted quote (enclosed quote t).toList = some (t, []) :=
    readQuoted_iff.mpr ⟨by simp, by simp⟩
  rw [same, second] at first
  cases first
  rfl

end Text

/-- Quoting cannot be escaped from: a reader of quoted texts takes from a text exactly the name or
the literal that was quoted, unless a further quote follows, so no two are quoted alike. -/
theorem quoted_texts_read_back (d : Dialect) :
    (∀ text name rest, Text.readQuoted d.quote text = some (name, rest) ↔
      text = (d.quoted name).toList ++ rest ∧ rest.head? ≠ some d.quote) ∧
    (∀ text s rest, Text.readQuoted '\'' text = some (s, rest) ↔
      text = (Bound.text s).literal.toList ++ rest ∧ rest.head? ≠ some '\'') ∧
    Function.Injective d.quoted ∧ Function.Injective fun s => (Bound.text s).literal := by
  refine ⟨?_, ?_, Text.enclosed_injective d.quote, Text.enclosed_injective '\''⟩
  · intro text name rest
    exact Text.readQuoted_iff
  · intro text s rest
    exact Text.readQuoted_iff

end ExprSql
