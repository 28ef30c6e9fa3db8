import ExprSql.Compile
import ExprSql.Compile.Handlers
import ExprSql.Expr.Builder
import ExprSql.Proofs.Run
import ExprSql.Proofs.Text.Pattern

/-!
Tests of how a text starts, ends, and what it contains. The handler puts `%` around the needle and
leaves the needle as it is, so a `%` or a `_` of the needle acts as part of the pattern.
-/
namespace ExprSql

open Run Text

/-- The part, with more text before or after it where that is allowed. -/
def Around (before after : Bool) (part s : List Char) : Prop :=
  ∃ head tail, head ++ part ++ tail = s ∧ (before = true ∨ head = []) ∧ (after = true ∨ tail = [])

inductive TextTest where
  | startsWith
  | endsWith
  | contains

namespace TextTest

def handler : TextTest → Handler
  | .startsWith => Handler.startsWith
  | .endsWith => Handler.endsWith
  | .contains => Handler.contains

def Holds : TextTest → List Char → List Char → Prop
  | .startsWith, needle, s => needle <+: s
  | .endsWith, needle, s => needle <:+ s
  | .contains, needle, s => needle <:+: s

def moreBefore : TextTest → Bool
  | .startsWith => false
  | .endsWith | .contains => true

def moreAfter : TextTest → Bool
  | .startsWith | .contains => true
  | .endsWith => false

variable {t : TextTest} {needle part s : List Char}

theorem handler_matching (t : TextTest) :
    t.handler = Handler.matching t.moreBefore t.moreAfter := by
  cases t <;> rfl

theorem holds_around : t.Holds part s ↔ Around t.moreBefore t.moreAfter part s := by
  cases t with
  | startsWith => simp [Holds, Around, moreBefore, moreAfter, List.IsPrefix]
  | endsWith => simp [Holds, Around, moreBefore, moreAfter, List.IsSuffix]
  | contains => simp [Holds, Around, moreBefore, moreAfter, List.IsInfix]

theorem holds_itself : t.Holds s s := by
  cases t with
  | startsWith => exact s.prefix_rfl
  | endsWith => exact s.suffix_rfl
  | contains => exact s.infix_rfl

theorem holds_same_length (holds : t.Holds part s) (length : part.length = s.length) :
    part = s := by
  cases t with
  | startsWith => exact List.IsPrefix.eq_of_length holds length
  | endsWith => exact List.IsSuffix.eq_of_length holds length
  | contains => exact List.IsInfix.eq_of_length holds length

/-- Only a needle without `%` and `_` has a pattern that matches what its test says. -/
theorem literal_of_pattern {p : List Char} (same : ∀ s, fits p s = true ↔ t.Holds needle s) :
    Literal needle := by
  let blanked (c : Char) : Char := if c = '%' ∨ c = '_' then ' ' else c
  have matched : fits p needle = true := (same needle).2 holds_itself
  have replaced : fits p (needle.map blanked) = true :=
    fits_replaced (by simp +contextual [blanked]) matched
  have unchanged : needle = needle.map blanked :=
    holds_same_length ((same _).1 replaced) (by simp)
  intro c mem
  have kept : blanked c = c := by
    have each := List.map_eq_map_iff.1 ((List.map_id needle).trans unchanged) c mem
    exact each.symm
  constructor
  · rintro rfl
    exact absurd kept (by decide)
  · rintro rfl
    exact absurd kept (by decide)

end TextTest

namespace Handler

variable {before after : Bool} {needle : String} {s : List Char}

def surrounded (before after : Bool) (needle : String) : String :=
  (if before then "%" else "") ++ needle ++ (if after then "%" else "")

theorem pattern_literal : pattern before after (.value (.string needle))
    = .value (.string (surrounded before after needle)) :=
  rfl

theorem fits_optional (allowed : Bool) :
    fits (if allowed then "%" else "").toList s = true ↔ allowed = true ∨ s = [] := by
  cases allowed with
  | false => simp [fits]
  | true => simp [fits_anything]

theorem fits_surrounded : fits (surrounded before after needle).toList s = true ↔
    ∃ part, fits needle.toList part = true ∧ Around before after part s := by
  simp only [surrounded, String.toList_append, fits_append, fits_optional]
  constructor
  · rintro ⟨left, tail, rfl, ⟨head, part, rfl, front, middle⟩, back⟩
    exact ⟨part, middle, head, tail, rfl, front, back⟩
  · rintro ⟨part, middle, head, tail, rfl, front, back⟩
    exact ⟨head ++ part, tail, rfl, ⟨head, part, rfl, front, middle⟩, back⟩

theorem gives_matching {l : Level} {call : Call} {start finish : Trace} {f g : Fragment}
    (found : Gives (operands l call) start [f, g] finish) :
    Gives (matching before after l call) start (.fragment (.like f (pattern before after g) false))
      finish :=
  gives_bind.2 ⟨_, _, found, gives_pure.2 ⟨rfl, rfl⟩⟩

/-- A test of a text against a literal needle becomes a pattern that matches the texts in which the
test finds something that the needle itself matches as a pattern. All texts of which the test holds
are among them, and there are no others where the needle has no `%` and no `_`. For any other needle
no pattern at all would match as the test says. -/
theorem texts_tested (t : TextTest) (l : Level) (call : Call) (start finish : Trace) (f : Fragment)
    (needle : String)
    (found : Gives (operands l call) start [f, .value (.string needle)] finish) :
    ∃ pattern : String,
      Gives (t.handler l call) start (.fragment (.like f (.value (.string pattern)) false)) finish ∧
      (∀ s, fits pattern.toList s = true ↔
        ∃ part, fits needle.toList part = true ∧ t.Holds part s) ∧
      (∀ s, t.Holds needle.toList s → fits pattern.toList s = true) ∧
      (Literal needle.toList → ∀ s, fits pattern.toList s = true ↔ t.Holds needle.toList s) ∧
      ∀ p, (∀ s, fits p s = true ↔ t.Holds needle.toList s) → Literal needle.toList := by
  have meaning (s : List Char) :
      fits (surrounded t.moreBefore t.moreAfter needle).toList s = true ↔
        ∃ part, fits needle.toList part = true ∧ t.Holds part s := by
    simp only [fits_surrounded, TextTest.holds_around]
  refine ⟨surrounded t.moreBefore t.moreAfter needle, ?_, meaning, ?_, ?_, ?_⟩
  · rw [TextTest.handler_matching, ← pattern_literal]
    exact gives_matching found
  · intro s holds
    exact (meaning s).2 ⟨_, fits_itself, holds⟩
  · intro literal s
    simp [meaning, fits_literal literal]
  · intro p same
    exact TextTest.literal_of_pattern same

theorem names_with_jo :
    let c : Compiler := ⟨{ tables := ["Person"] }, {}⟩
    let name := (Expr.parameter "p" (.record "Person")).access "Name" .string
    let call : Call := ⟨some name, ⟨"String", "Contains", .bool, false⟩, [.ofValue (.string "jo")]⟩
    ∃ f pattern, Gives (TextTest.contains.handler (c.level 2) call) []
        (.fragment (.like f (.value (.string pattern)) false)) [] ∧
      ∀ s, fits pattern.toList s = true ↔ ['j', 'o'] <:+: s := by
  intro c name call
  have found : Gives (operands (c.level 2) call) []
      [.column ⟨"Person", some "p", "Name"⟩, .value (.string "jo")] [] := rfl
  obtain ⟨pattern, gives, -, -, accepted, -⟩ :=
    texts_tested .contains (c.level 2) call [] [] _ "jo" found
  exact ⟨_, pattern, gives, accepted (by simp [Literal])⟩

/-- A discount of fifty percent is found in fifty euros. -/
theorem euros_match_percent :
    let c : Compiler := ⟨{ tables := ["Person"] }, {}⟩
    let name := (Expr.parameter "p" (.record "Person")).access "Name" .string
    let call : Call :=
      ⟨some name, ⟨"String", "StartsWith", .bool, false⟩, [.ofValue (.string "50%")]⟩
    ∃ f pattern, Gives (startsWith (c.level 2) call) []
        (.fragment (.like f (.value (.string pattern)) false)) [] ∧
      fits pattern.toList "50 euros".toList = true ∧ ¬ "50%".toList <+: "50 euros".toList := by
  intro c name call
  exact ⟨_, "50%%", rfl, rfl, by decide⟩

end Handler
end ExprSql
