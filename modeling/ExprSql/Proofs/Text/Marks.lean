import Mathlib
import ExprSql.Text.Doubled

namespace ExprSql.Text

/-- The characters outside quoted names, and the quotes. Two quotes in a name close and reopen. -/
def outside (quote : Char) : Bool → List Char → List Char
  | _, [] => []
  | quoted, c :: cs =>
      if c = quote then c :: outside quote (!quoted) cs
      else if quoted then outside quote quoted cs
      else c :: outside quote quoted cs

def endsQuoted (quote : Char) : Bool → List Char → Bool
  | quoted, [] => quoted
  | quoted, c :: cs => endsQuoted quote (if c = quote then !quoted else quoted) cs

def numbers : List Char → List (List Char)
  | [] => []
  | c :: cs => if c = '$' then cs.takeWhile Char.isDigit :: numbers cs else numbers cs

inductive Mode where
  | plain
  | quoted
  | number

/-- Replaces each dollar sign outside quoted names, with the digits behind it, by `?`. -/
def unnumbered (quote : Char) : Mode → List Char → List Char
  | _, [] => []
  | .quoted, c :: cs => c :: unnumbered quote (if c = quote then .plain else .quoted) cs
  | .number, c :: cs =>
      if c.isDigit then unnumbered quote .number cs
      else if c = quote then c :: unnumbered quote .quoted cs
      else if c = '$' then '?' :: unnumbered quote .number cs
      else c :: unnumbered quote .plain cs
  | .plain, c :: cs =>
      if c = quote then c :: unnumbered quote .quoted cs
      else if c = '$' then '?' :: unnumbered quote .number cs
      else c :: unnumbered quote .plain cs

variable {quote : Char} {cs rest : List Char}

theorem outside_plain (plain : ∀ c ∈ cs, c ≠ quote) :
    outside quote false (cs ++ rest) = cs ++ outside quote false rest := by
  induction cs with
  | nil => rfl
  | cons c cs ih =>
    have notQuote := plain c List.mem_cons_self
    have tail := ih fun d mem => plain d (List.mem_cons_of_mem c mem)
    simp [outside, notQuote, tail]

theorem outside_head (quote : Char) (cs : List Char) :
    (outside quote false cs).head? = cs.head? := by
  cases cs with
  | nil => rfl
  | cons c cs => by_cases same : c = quote <;> simp [outside, same]

theorem outside_doubled (quote : Char) (cs rest : List Char) :
    ∃ n, outside quote true (doubled quote cs ++ quote :: rest)
      = List.replicate n quote ++ outside quote false rest := by
  induction cs with
  | nil => exact ⟨1, by simp [doubled, outside]⟩
  | cons c cs ih =>
    obtain ⟨n, tail⟩ := ih
    unfold doubled at tail ⊢
    by_cases same : c = quote
    · exact ⟨n + 2, by simp [outside, same, tail, List.replicate_succ]⟩
    · exact ⟨n, by simp [outside, same, tail]⟩

theorem outside_enclosed (quote : Char) (name : String) (rest : List Char) :
    ∃ n, outside quote false ((enclosed quote name).toList ++ rest)
      = List.replicate n quote ++ outside quote false rest := by
  obtain ⟨n, tail⟩ := outside_doubled quote name.toList rest
  exact ⟨n + 1, by simp [enclosed, outside, tail, List.replicate_succ]⟩

theorem outside_append (quoted : Bool) (cs ds : List Char) :
    outside quote quoted (cs ++ ds)
      = outside quote quoted cs ++ outside quote (endsQuoted quote quoted cs) ds := by
  induction cs generalizing quoted with
  | nil => rfl
  | cons c cs ih =>
    by_cases same : c = quote
    · simp [outside, endsQuoted, same, ih]
    · cases quoted <;> simp [outside, endsQuoted, same, ih]

theorem endsQuoted_append (quoted : Bool) (cs ds : List Char) :
    endsQuoted quote quoted (cs ++ ds) = endsQuoted quote (endsQuoted quote quoted cs) ds := by
  induction cs generalizing quoted with
  | nil => rfl
  | cons c cs ih => simp [endsQuoted, ih]

theorem endsQuoted_plain (plain : ∀ c ∈ cs, c ≠ quote) (quoted : Bool) :
    endsQuoted quote quoted cs = quoted := by
  induction cs with
  | nil => rfl
  | cons c cs ih =>
    have notQuote := plain c List.mem_cons_self
    have tail := ih fun d mem => plain d (List.mem_cons_of_mem c mem)
    simp [endsQuoted, notQuote, tail]

theorem endsQuoted_doubled (quote : Char) (cs : List Char) :
    endsQuoted quote true (doubled quote cs) = true := by
  induction cs with
  | nil => rfl
  | cons c cs ih =>
    unfold doubled at ih ⊢
    by_cases same : c = quote
    · simp [endsQuoted, same, ih]
    · simp [endsQuoted, same, ih]

theorem endsQuoted_enclosed (quote : Char) (name : String) :
    endsQuoted quote false (enclosed quote name).toList = false := by
  simp [enclosed, endsQuoted, endsQuoted_append, endsQuoted_doubled]

theorem numbers_plain (plain : ∀ c ∈ cs, c ≠ '$') : numbers (cs ++ rest) = numbers rest := by
  induction cs with
  | nil => rfl
  | cons c cs ih =>
    have notDollar := plain c List.mem_cons_self
    have tail := ih fun d mem => plain d (List.mem_cons_of_mem c mem)
    simp [numbers, notDollar, tail]

theorem takeWhile_digits {ds : List Char} (digits : ∀ d ∈ ds, d.isDigit = true)
    (stops : ∀ c ∈ rest.head?, c.isDigit = false) :
    (ds ++ rest).takeWhile Char.isDigit = ds := by
  induction ds with
  | nil =>
    cases rest with
    | nil => rfl
    | cons c rest => simp [stops c (by simp)]
  | cons d ds ih =>
    have tail := ih fun e mem => digits e (List.mem_cons_of_mem d mem)
    simp [digits d List.mem_cons_self, tail]

theorem numbers_mark {ds : List Char} (digits : ∀ d ∈ ds, d.isDigit = true)
    (stops : ∀ c ∈ rest.head?, c.isDigit = false) :
    numbers ('$' :: ds ++ rest) = ds :: numbers rest := by
  have notDollar : ∀ d ∈ ds, d ≠ '$' := by
    rintro d mem rfl
    exact absurd (digits _ mem) (by decide)
  simp [numbers, takeWhile_digits digits stops, numbers_plain notDollar]

theorem unnumbered_plain (plain : ∀ c ∈ cs, c ≠ quote ∧ c ≠ '$') :
    unnumbered quote .plain (cs ++ rest) = cs ++ unnumbered quote .plain rest := by
  induction cs with
  | nil => rfl
  | cons c cs ih =>
    obtain ⟨notQuote, notDollar⟩ := plain c List.mem_cons_self
    have tail := ih fun d mem => plain d (List.mem_cons_of_mem c mem)
    simp [unnumbered, notQuote, notDollar, tail]

theorem unnumbered_doubled (quote : Char) (cs rest : List Char) :
    unnumbered quote .quoted (doubled quote cs ++ quote :: rest)
      = doubled quote cs ++ quote :: unnumbered quote .plain rest := by
  induction cs with
  | nil => simp [doubled, unnumbered]
  | cons c cs ih =>
    unfold doubled at ih ⊢
    by_cases same : c = quote
    · simp [unnumbered, same, ih]
    · simp [unnumbered, same, ih]

theorem unnumbered_enclosed (quote : Char) (name : String) (rest : List Char) :
    unnumbered quote .plain ((enclosed quote name).toList ++ rest)
      = (enclosed quote name).toList ++ unnumbered quote .plain rest := by
  simp [enclosed, unnumbered, unnumbered_doubled]

theorem unnumbered_mark (notDollar : quote ≠ '$') {ds : List Char}
    (digits : ∀ d ∈ ds, d.isDigit = true) (stops : ∀ c ∈ rest.head?, c.isDigit = false) :
    unnumbered quote .plain ('$' :: ds ++ rest) = '?' :: unnumbered quote .plain rest := by
  have skipped : unnumbered quote .number (ds ++ rest) = unnumbered quote .plain rest := by
    induction ds with
    | nil =>
      cases rest with
      | nil => rfl
      | cons c rest => simp [unnumbered, stops c (by simp)]
    | cons d ds ih =>
      have tail := ih fun e mem => digits e (List.mem_cons_of_mem d mem)
      simp [unnumbered, digits d List.mem_cons_self, tail]
  simp [unnumbered, notDollar.symm, skipped]

end ExprSql.Text
