import ExprSql.Proofs.Fragment.Placeholders
import ExprSql.Proofs.Query.Parsing

/-!
Scanning inverts writing. The text of a fenced layout has the tokens of its slots, with the
parameters in the place of the values.
-/
namespace ExprSql

namespace Scan

def parts (c : Char) : Bool := c == ' ' || (Token.signs.lookup c).isSome

def plain (before : List Char) : List Char → List Lexeme × List Char
  | [] => ([], before)
  | c :: cs =>
      let (ls, next) := stepPlain before c
      (ls ++ (plain next cs).1, (plain next cs).2)

def lexemes (cs : List Char) : List Lexeme := (plain [] cs).1 ++ flush (plain [] cs).2

variable {quote : Char} {cs rest : List Char}

theorem run_plain (outside : ∀ c ∈ cs, c ≠ quote) (before rest : List Char) :
    run quote (.word before) (cs ++ rest)
      = (plain before cs).1 ++ run quote (.word (plain before cs).2) rest := by
  induction cs generalizing before with
  | nil => rfl
  | cons c cs ih =>
    have notQuote := outside c List.mem_cons_self
    have later := ih fun d mem => outside d (List.mem_cons_of_mem c mem)
    simp [run, step, stepWord, plain, notQuote, later]

theorem stepPlain_parts {c : Char} (ends : parts c = true) (before : List Char) :
    stepPlain before c = (flush before ++ (stepPlain [] c).1, []) := by
  unfold stepPlain
  by_cases space : c = ' '
  · simp only [if_pos space]
    rw [show flush [] = [] from rfl, List.append_nil]
  · cases sign : Token.signs.lookup c with
    | none => simp [parts, space, sign] at ends
    | some t =>
      simp only [if_neg space]
      rfl

theorem plain_append (before cs ds : List Char) :
    plain before (cs ++ ds) = ((plain before cs).1 ++ (plain (plain before cs).2 ds).1,
      (plain (plain before cs).2 ds).2) := by
  induction cs generalizing before with
  | nil => rfl
  | cons c cs ih => simp [plain, ih]

theorem plain_closed (closed : cs.getLast?.any parts = true) (before : List Char) :
    (plain before cs).2 = [] := by
  cases cs using List.reverseRecOn with
  | nil => cases closed
  | append_singleton cs c =>
    have ends : parts c = true := by simpa using closed
    rw [plain_append]
    simp only [plain]
    rw [stepPlain_parts ends]

theorem plain_word (whole : ∀ c ∈ cs, parts c = false) (before : List Char) :
    plain before cs = ([], before ++ cs) := by
  induction cs generalizing before with
  | nil => simp [plain]
  | cons c cs ih =>
    have inside := whole c List.mem_cons_self
    obtain ⟨notSpace, notSign⟩ : c ≠ ' ' ∧ Token.signs.lookup c = none := by
      simpa [parts] using inside
    have stepped : stepPlain before c = ([], before ++ [c]) := by
      rw [stepPlain, if_neg notSpace, notSign]
    have later := ih fun d mem => whole d (List.mem_cons_of_mem c mem)
    simp [plain, stepped, later]

theorem lexemes_word (whole : ∀ c ∈ cs, parts c = false) (present : cs ≠ []) :
    lexemes cs = [.word cs] := by
  rw [lexemes, plain_word whole]
  cases cs with
  | nil => exact absurd rfl present
  | cons c cs => rfl

/-- Nothing or a character that parts words comes next. -/
def Stops (quote : Char) (rest : List Char) : Prop :=
  ∀ c ∈ rest.head?, c ≠ quote ∧ parts c = true

theorem run_word (stops : Stops quote rest) (before : List Char) :
    run quote (.word before) rest = flush before ++ run quote start rest := by
  cases rest with
  | nil => simp [run, finish, start, flush]
  | cons c rest =>
    obtain ⟨notQuote, ends⟩ := stops c rfl
    have anew : (stepPlain [] c).2 = [] := congrArg Prod.snd (stepPlain_parts ends [])
    simp only [run, step, start, stepWord, if_neg notQuote]
    rw [stepPlain_parts ends before, anew, List.append_assoc]

theorem run_text (outside : ∀ c ∈ cs, c ≠ quote)
    (apart : cs.getLast?.any parts = true ∨ Stops quote rest) :
    run quote start (cs ++ rest) = lexemes cs ++ run quote start rest := by
  unfold lexemes
  refine (run_plain outside [] rest).trans ?_
  rcases apart with closed | stops
  · rw [plain_closed closed, show flush [] = [] from rfl, List.append_nil]
    rfl
  · rw [run_word stops, List.append_assoc]

theorem run_quoted (cs before rest : List Char) (stops : ∀ c ∈ rest.head?, c ≠ quote) :
    run quote (.quoted before) (Text.doubled quote cs ++ quote :: rest)
      = .quoted (before ++ cs) :: run quote start rest := by
  induction cs generalizing before with
  | nil =>
    cases rest with
    | nil => simp [Text.doubled, run, step, finish, start, flush]
    | cons c rest =>
      have notQuote := stops c rfl
      simp [Text.doubled, run, step, start, notQuote]
  | cons c cs ih =>
    unfold Text.doubled at ih ⊢
    by_cases same : c = quote
    · simp [run, step, same, ih]
    · simp [run, step, same, ih]

theorem run_enclosed (name : String) (stops : ∀ c ∈ rest.head?, c ≠ quote) :
    run quote start ((Text.enclosed quote name).toList ++ rest)
      = .quoted name.toList :: run quote start rest := by
  have inside := run_quoted name.toList [] rest stops
  simp [Text.enclosed, run, step, start, stepWord, flush] at inside ⊢
  exact inside

theorem parts_mem {c : Char} (ends : parts c = true) : c ∈ ' ' :: Token.signs.map Prod.fst := by
  rcases Bool.or_eq_true_iff.mp ends with space | sign
  · exact List.mem_cons.mpr (.inl (beq_iff_eq.mp space))
  · obtain ⟨sign, mem, same⟩ := List.lookup_isSome_iff.mp sign
    exact List.mem_cons_of_mem _ (List.mem_map.mpr ⟨sign, mem, (beq_iff_eq.mp same).symm⟩)

theorem parts_digit {c : Char} (digit : c.isDigit = true) : parts c = false := by
  have notDigits : (' ' :: Token.signs.map Prod.fst).all (!·.isDigit) = true := by decide
  by_contra ends
  have other := List.all_eq_true.mp notDigits c (parts_mem (Bool.not_eq_false _ ▸ ends))
  rw [digit] at other
  cases other

end Scan

def Lexeme.isMark : Lexeme → Bool
  | .word cs => isPlaceholder cs
  | _ => false

theorem Token.ofLexemes_append {ls : List Lexeme} (unmarked : ∀ l ∈ ls, l.isMark = false)
    (bs : List Bound) (ms : List Lexeme) :
    ofLexemes bs (ls ++ ms) = ofLexemes [] ls ++ ofLexemes bs ms := by
  induction ls with
  | nil => rfl
  | cons l ls ih =>
    have later := ih fun m mem => unmarked m (List.mem_cons_of_mem l mem)
    cases l with
    | word cs =>
      have notMark : isPlaceholder cs = false := unmarked _ List.mem_cons_self
      simp [ofLexemes, notMark, later]
    | sign t => simp [ofLexemes, later]
    | quoted cs => simp [ofLexemes, later]

namespace Slot

open Scan

variable {d : Dialect} {quote : Char} {ss : List Slot}

structure Plain (quote : Char) (s : String) : Prop where
  outside : ∀ c ∈ s.toList, c ≠ quote ∧ c ≠ '"'
  unmarked : ∀ l ∈ lexemes s.toList, l.isMark = false

theorem tokens_plain {s : String} (plain : Plain quote s) :
    (text s).tokens = Token.ofLexemes [] (lexemes s.toList) := by
  have stops : Stops '"' [] := by simp [Stops]
  have whole := run_text (fun c mem => (plain.outside c mem).2) (.inr stops)
  rw [List.append_nil, show run '"' start [] = [] from rfl, List.append_nil] at whole
  exact congrArg (Token.ofLexemes []) whole

theorem fixed_plain (apart : Apart quote) {s : String} (fixed : s ∈ fixedTexts) :
    Plain quote s where
  outside c mem := by
    constructor
    · rintro rfl
      exact apart.texts s fixed mem
    · rintro rfl
      exact doubleQuote_apart.texts s fixed mem
  unmarked := by
    have all : ∀ s ∈ fixedTexts, ∀ l ∈ lexemes s.toList, l.isMark = false := by decide
    exact all s fixed

theorem stops_of_starts (apart : Apart quote) (starts : StartsFenced ss) (count : Nat) :
    Stops quote (chars d count ss) := by
  have written : fences.all (fun c => fixedTexts.any fun t => t.toList.contains c) = true := by
    decide
  have all : fences.all parts = true := by decide
  intro c head
  have mem := fence_ahead starts count c head
  refine ⟨?_, List.all_eq_true.mp all c mem⟩
  rintro rfl
  obtain ⟨t, fixed, inside⟩ := List.any_eq_true.mp (List.all_eq_true.mp written c mem)
  exact apart.texts t fixed (List.contains_iff_mem.mp inside)

theorem closed_parts {s : String} (closed : (text s).closed = true) :
    s.toList.getLast?.any parts = true := by
  have all : ends.all parts = true := by decide
  cases last : s.toList.getLast? with
  | none => simp [Slot.closed, last] at closed
  | some c => exact List.all_eq_true.mp all c (by simpa [Slot.closed, last] using closed)

theorem mark_word (apart : Apart quote) (marks : d.Unnumbered ∨ d.Numbered) (n : Nat) :
    (∀ c ∈ (d.placeholder n).toList, c ≠ quote ∧ parts c = false) ∧
      isPlaceholder (d.placeholder n).toList = true := by
  rcases marks with unnumbered | numbered
  · rw [unnumbered]
    exact ⟨by simpa using ⟨apart.question.symm, by decide⟩, by decide⟩
  · rw [toList_numbered numbered]
    refine ⟨List.forall_mem_cons.mpr ⟨⟨apart.dollar.symm, by decide⟩, ?_⟩, by simp [isPlaceholder]⟩
    intro c mem
    have digit := digits_toString n c mem
    refine ⟨?_, parts_digit digit⟩
    rintro rfl
    rw [apart.digit] at digit
    cases digit

/-- The tokens of what is written are the tokens of the slots. -/
theorem lexes (same : d.quote = quote) (apart : Apart quote)
    (marks : d.Unnumbered ∨ d.Numbered) (texts : ∀ s, .text s ∈ ss → Plain quote s)
    (fenced : Fenced ss) (count : Nat) {bs : List Bound}
    (bound : (values ss).mapM Bound.ofValue = .ok bs) :
    Token.ofLexemes bs (run quote start (chars d count ss)) = tokensOf ss := by
  induction ss generalizing count bs with
  | nil => rfl
  | cons slot ss ih =>
    have tail := ih (fun s mem => texts s (List.mem_cons_of_mem slot mem)) fenced.tail
    cases slot with
    | text s =>
      have plain := texts s List.mem_cons_self
      have ends : s.toList.getLast?.any parts = true ∨ Stops quote (chars d count ss) := by
        cases closed : (text s).closed with
        | true => exact .inl (closed_parts closed)
        | false => exact .inr (stops_of_starts apart (starts_of_fenced fenced closed) count)
      rw [chars_text, run_text (fun c mem => (plain.outside c mem).1) ends,
        Token.ofLexemes_append plain.unmarked, tail count bound, tokensOf_cons, tokens_plain plain]
    | identifier name =>
      have stops := stops_of_starts (d := d) apart (starts_of_fenced fenced rfl) count
      rw [chars_identifier, same, run_enclosed name fun c mem => (stops c mem).1,
        Token.ofLexemes, tail count bound, String.ofList_toList]
      rfl
    | value v =>
      have stops := stops_of_starts (d := d) apart (starts_of_fenced fenced rfl) (count + 1)
      obtain ⟨word, mark⟩ := mark_word apart marks (count + 1)
      have present : (d.placeholder (count + 1)).toList ≠ [] := by
        rintro none
        simp [none, isPlaceholder] at mark
      obtain ⟨b, later, known, boundLater, rfl⟩ := mapM_cons_ok bound
      rw [chars_value, run_text (fun c mem => (word c mem).1) (.inr stops),
        lexemes_word (fun c mem => (word c mem).2) present, List.singleton_append, Token.ofLexemes,
        if_pos mark, List.tail_cons, tail (count + 1) boundLater, tokensOf_cons, tokens, known]
      rfl

end Slot
end ExprSql
