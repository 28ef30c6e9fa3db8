import Mathlib

/-!
Patterns of a LIKE without an escape character: `%` stands for any text, `_` for any one character,
and every other character for itself.
-/
namespace ExprSql.Text

/-- Whether a pattern matches a text, trying every end that a `%` can leave. -/
def fits : List Char → List Char → Bool
  | [], s => s.isEmpty
  | c :: p, s =>
      if c = '%' then s.tails.any (fits p)
      else
        match s with
        | [] => false
        | d :: s => (c = '_' || c = d) && fits p s

def Literal (text : List Char) : Prop := ∀ c ∈ text, c ≠ '%' ∧ c ≠ '_'

instance (text : List Char) : Decidable (Literal text) :=
  inferInstanceAs (Decidable (∀ c ∈ text, c ≠ '%' ∧ c ≠ '_'))

variable {p q s : List Char} {c : Char}

theorem fits_percent : fits ('%' :: p) s = true ↔ ∃ rest, rest <:+ s ∧ fits p rest = true := by
  simp [fits]

theorem fits_cons (other : c ≠ '%') : fits (c :: p) s = true ↔
    ∃ d rest, s = d :: rest ∧ (c = '_' ∨ c = d) ∧ fits p rest = true := by
  cases s with
  | nil => simp [fits, other]
  | cons d s => simp [fits, other]

theorem fits_append : fits (p ++ q) s = true ↔
    ∃ left right, left ++ right = s ∧ fits p left = true ∧ fits q right = true := by
  induction p generalizing s with
  | nil => simp [fits]
  | cons c p ih =>
    rw [List.cons_append]
    by_cases percent : c = '%'
    · subst percent
      simp only [fits_percent, ih]
      constructor
      · rintro ⟨rest, ⟨skipped, rfl⟩, left, right, rfl, first, second⟩
        exact ⟨skipped ++ left, right, by simp, ⟨left, by simp, first⟩, second⟩
      · rintro ⟨left, right, rfl, ⟨rest, ⟨skipped, rfl⟩, first⟩, second⟩
        exact ⟨rest ++ right, ⟨skipped, by simp⟩, rest, right, rfl, first, second⟩
    · simp only [fits_cons percent, ih]
      constructor
      · rintro ⟨d, rest, rfl, same, left, right, rfl, first, second⟩
        exact ⟨d :: left, right, rfl, ⟨d, left, rfl, same, first⟩, second⟩
      · rintro ⟨left, right, rfl, ⟨d, rest, rfl, same, first⟩, second⟩
        exact ⟨d, rest ++ right, rfl, same, rest, right, rfl, first, second⟩

theorem fits_anything : fits ['%'] s = true :=
  fits_percent.2 ⟨[], s.nil_suffix, rfl⟩

theorem fits_itself : fits s s = true := by
  induction s with
  | nil => rfl
  | cons c s ih =>
    by_cases percent : c = '%'
    · subst percent
      exact fits_percent.2 ⟨s, s.suffix_cons '%', ih⟩
    · exact (fits_cons percent).2 ⟨c, s, rfl, .inr rfl, ih⟩

theorem fits_literal (literal : Literal p) : fits p s = true ↔ s = p := by
  induction p generalizing s with
  | nil => simp [fits]
  | cons c p ih =>
    obtain ⟨percent, underscore⟩ := literal c List.mem_cons_self
    have rest {s} := ih (s := s) fun d mem => literal d (List.mem_cons_of_mem c mem)
    simp only [fits_cons percent, underscore, rest, false_or]
    constructor
    · rintro ⟨d, rest, rfl, rfl, rfl⟩
      rfl
    · rintro rfl
      exact ⟨c, p, rfl, rfl, rfl⟩

/-- A pattern cannot ask for a `%` or a `_`: it matches as well what these are replaced by. -/
theorem fits_replaced {g : Char → Char} (kept : ∀ c, c ≠ '%' → c ≠ '_' → g c = c)
    (matched : fits p s = true) : fits p (s.map g) = true := by
  induction p generalizing s with
  | nil => simpa [fits] using matched
  | cons c p ih =>
    by_cases percent : c = '%'
    · subst percent
      obtain ⟨rest, suffix, tail⟩ := fits_percent.1 matched
      exact fits_percent.2 ⟨rest.map g, suffix.map g, ih tail⟩
    · obtain ⟨d, rest, rfl, same, tail⟩ := (fits_cons percent).1 matched
      refine (fits_cons percent).2 ⟨g d, rest.map g, rfl, ?_, ih tail⟩
      by_cases underscore : c = '_'
      · exact .inl underscore
      · obtain rfl := same.resolve_left underscore
        exact .inr (kept c percent underscore).symm

end ExprSql.Text
