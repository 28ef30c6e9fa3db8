import ExprSql.Proofs.Fragment.Layout
import ExprSql.Proofs.Query.Parser

/-!
Parsing inverts laying out. From the tokens of a fragment's layout the parser builds the tree of
the fragment, whatever it was reading before and whatever may follow.
-/
namespace ExprSql

namespace Slot

def tokens : Slot → List Token
  | .text s => Token.ofText '"' s []
  | .identifier name => [.identifier name]
  | .value v => [.parameter (Bound.ofValue v).toOption]

def tokensOf (ss : List Slot) : List Token := ss.flatMap tokens

@[simp] theorem tokensOf_nil : tokensOf [] = [] := rfl

@[simp] theorem tokensOf_cons (slot : Slot) (ss : List Slot) :
    tokensOf (slot :: ss) = slot.tokens ++ tokensOf ss := List.flatMap_cons

@[simp] theorem tokensOf_append (ss ts : List Slot) :
    tokensOf (ss ++ ts) = tokensOf ss ++ tokensOf ts := List.flatMap_append

theorem tokensOf_text (s : String) (ss : List Slot) :
    tokensOf (.text s :: ss) = (text s).tokens ++ tokensOf ss := rfl

theorem tokens_open : (text "(").tokens = [.opening] := by rfl

theorem tokens_close : (text ")").tokens = [.closing] := by rfl

theorem tokens_comma : (text ", ").tokens = [.comma] := by rfl

theorem tokens_comparison (op : Comparison) :
    (text s!" {op.sql} ").tokens = [.comparison op] := by cases op <;> rfl

theorem tokensOf_grouped (ss : List Slot) :
    tokensOf (grouped ss) = .opening :: tokensOf ss ++ [.closing] := by
  simp [grouped, tokens_open, tokens_close]

end Slot

namespace Parser

open Slot

abbrev levels : Levels := .rendering

/-- The level up to which the innermost open node lets operators through. -/
def top : List Frame → Nat
  | [] => 0
  | frame :: _ => frame.level levels

/-- What comes next ends every operand whose level is not below `p`. -/
def Follows (p : Nat) (rest : List Token) : Prop :=
  ∀ token ∈ rest.head?, ∃ level, level ≤ p ∧ level? levels token = some level

theorem follows_cons {p level : Nat} {token : Token} {rest : List Token}
    (found : level? levels token = some level) (below : level ≤ p) : Follows p (token :: rest) := by
  intro next mem
  cases mem
  exact ⟨level, below, found⟩

theorem follows_mono {p q : Nat} {rest : List Token} (follows : Follows p rest) (le : p ≤ q) :
    Follows q rest := by
  intro token mem
  obtain ⟨level, below, found⟩ := follows token mem
  exact ⟨level, Nat.le_trans below le, found⟩

variable {stack : List Frame} {t whole : Tree} {rest : List Token} {f : Fragment}

theorem reduce_of_top {level : Nat} (low : top stack < level) :
    reduce levels level stack t = (stack, t) := by
  cases stack with
  | nil => rfl
  | cons frame stack =>
    have kept : ¬ level ≤ frame.level levels := Nat.not_le.mpr low
    unfold reduce
    split
    · rw [if_neg kept]
    · rfl

theorem step_got {token : Token} {level : Nat} (found : level? levels token = some level) :
    step levels (stack, .got t) token
      = shift (reduce levels level stack t).1 (reduce levels level stack t).2 token := by
  simp only [step, follow, found]

theorem run_cons (state : List Frame × Phase) (token : Token) (rest : List Token) :
    run levels state (token :: rest)
      = (step levels state token).bind fun next => run levels next rest := by
  obtain ⟨stack, phase⟩ := state
  cases phase <;> rfl

theorem run_step {state : List Frame × Phase} {token : Token} {next : List Frame × Phase}
    (read : step levels state token = some next) :
    run levels state (token :: rest) = run levels next rest := by
  rw [run_cons, read, Option.bind_some]

theorem run_shift {token : Token} {level : Nat} {next : List Frame × Phase}
    (found : level? levels token = some level) (low : top stack < level)
    (shifted : shift stack t token = some next) :
    run levels (stack, .got t) (token :: rest) = run levels next rest := by
  refine run_step ?_
  rw [step_got found, reduce_of_top low]
  exact shifted

theorem run_complete {frame : Frame} (complete : frame.complete t = some whole)
    (follows : Follows (frame.level levels) rest) :
    run levels (frame :: stack, .got t) rest = run levels (stack, .got whole) rest := by
  cases rest with
  | nil => simp [run, reduce, complete]
  | cons token rest =>
    obtain ⟨level, below, found⟩ := follows token rfl
    have reduced : reduce levels level (frame :: stack) t = reduce levels level stack whole := by
      simp [reduce, complete, below]
    rw [run_cons, run_cons, step_got found, step_got found, reduced]

/-- Reads the fragment's tokens as its tree, inside any open nodes that bind looser. -/
def Reads (f : Fragment) : Prop :=
  ∀ stack rest, top stack < f.precedence → Follows f.precedence rest →
    run levels (stack, .want) (tokensOf f.layout ++ rest) = run levels (stack, .got f.normal) rest

theorem run_grouped (reads : Reads f) (positive : 0 < f.precedence) :
    run levels (stack, .want) (tokensOf (grouped f.layout) ++ rest)
      = run levels (stack, .got f.normal) rest := by
  have opened : step levels (stack, .want) .opening = some (.group :: stack, .want) := rfl
  rw [tokensOf_grouped, List.append_assoc, List.cons_append, run_step opened]
  rw [List.singleton_append, reads (.group :: stack) _ positive (follows_cons rfl (Nat.zero_le _))]
  exact run_step rfl

theorem precedence_pos (f : Fragment) : 0 < f.precedence := by
  unfold Fragment.precedence
  split <;> decide

theorem run_operand (reads : Reads f) {parent : Nat} (loose : top stack ≤ parent)
    (follows : Follows parent rest) :
    run levels (stack, .want) (tokensOf (operand parent f f.layout) ++ rest)
      = run levels (stack, .got f.normal) rest := by
  unfold operand
  split
  · exact run_grouped reads (precedence_pos f)
  · rename_i tight
    exact reads _ _ (by omega) (follows_mono follows (by omega))

theorem run_first (reads : Reads f) {parent : Nat} (loose : top stack < parent)
    (follows : Follows parent rest) :
    run levels (stack, .want) (tokensOf (first parent f f.layout) ++ rest)
      = run levels (stack, .got f.normal) rest := by
  unfold first
  split
  · exact run_grouped reads (precedence_pos f)
  · rename_i tight
    exact reads _ _ (by omega) (follows_mono follows (by omega))

theorem run_last {frame : Frame} {level : Nat} (reads : Reads f)
    (same : frame.level levels = level) (complete : frame.complete f.normal = some whole)
    (follows : Follows level rest) :
    run levels (frame :: stack, .want) (tokensOf (operand level f f.layout) ++ rest)
      = run levels (stack, .got whole) rest := by
  have loose : top (frame :: stack) ≤ level := Nat.le_of_eq same
  rw [run_operand reads loose follows]
  exact run_complete complete (same ▸ follows)

theorem normalEach_eq_map (fs : List Fragment) :
    Fragment.normalEach fs = fs.map Fragment.normal := by
  induction fs with
  | nil => rfl
  | cons f fs ih => rw [Fragment.normalEach, ih, List.map_cons]

theorem shift_link {op : Link} (loose : top stack < levels.link op) :
    shift stack t (.link op) = some (.link t op :: stack, .want) := by
  dsimp only [shift]
  split
  · exact absurd (show 4 < 2 from loose) (by decide)
  · rfl

section Chain

variable {op : Link} {symbol : String} (linked : (text s!" {symbol} ").tokens = [.link op])
include linked

theorem follows_rest (follows : Follows (levels.link op) rest) (fs : List Fragment) :
    Follows (levels.link op)
      (tokensOf (Fragment.restLayout symbol (levels.link op) fs) ++ rest) := by
  cases fs with
  | nil => exact follows
  | cons f fs =>
    rw [Fragment.restLayout, List.cons_append, tokensOf_text, linked]
    exact follows_cons rfl (Nat.le_refl _)

theorem run_rest (loose : top stack < levels.link op) {fs : List Fragment}
    (each : ∀ f ∈ fs, Reads f) (follows : Follows (levels.link op) rest) (t : Tree) :
    run levels (stack, .got t)
        (tokensOf (Fragment.restLayout symbol (levels.link op) fs) ++ rest)
      = run levels (stack, .got ((fs.map Fragment.normal).foldl (Tree.extend op) t)) rest := by
  induction fs generalizing t with
  | nil => rfl
  | cons f fs ih =>
    have later := ih (fun g mem => each g (List.mem_cons_of_mem f mem)) (Tree.extend op t f.normal)
    have next := follows_rest linked follows fs
    have inner : (Frame.link t op).level levels = levels.link op := rfl
    rw [Fragment.restLayout, List.cons_append, tokensOf_text, linked, tokensOf_append,
      List.append_assoc, List.append_assoc, List.singleton_append,
      run_shift rfl loose (shift_link loose), run_last (each f List.mem_cons_self) inner rfl next,
      later]
    rfl

theorem run_chain (loose : top stack < levels.link op) {fs : List Fragment}
    (two : 2 ≤ fs.length) (each : ∀ f ∈ fs, Reads f) (follows : Follows (levels.link op) rest) :
    run levels (stack, .want)
        (tokensOf (Fragment.chainLayout symbol (levels.link op) fs) ++ rest)
      = run levels (stack, .got (.chain op (Tree.splice op (Fragment.normalEach fs)))) rest := by
  cases fs with
  | nil => simp at two
  | cons f fs =>
    have more : fs.map Fragment.normal ≠ [] := by
      rintro none
      simp [List.map_eq_nil_iff.mp none] at two
    have next := follows_rest linked follows fs
    rw [Fragment.chainLayout, tokensOf_append, List.append_assoc,
      run_first (each f List.mem_cons_self) loose next,
      run_rest linked loose (fun g mem => each g (List.mem_cons_of_mem f mem)) follows,
      Tree.foldl_extend op f.normal more, normalEach_eq_map, List.map_cons]

theorem chain_reads {fs : List Fragment} (same : f.precedence = levels.link op)
    (layout : f.layout = Fragment.chainLayout symbol (levels.link op) fs)
    (normal : f.normal = .chain op (Tree.splice op (Fragment.normalEach fs)))
    (two : 2 ≤ fs.length) (each : ∀ g ∈ fs, Reads g) : Reads f := by
  intro stack rest loose follows
  rw [same] at loose follows
  rw [layout, normal]
  exact run_chain linked loose two each follows

end Chain

section Lists

variable {frame : List Tree → Frame} {node : List Tree → Tree}

/-- A frame that collects the items of a list. -/
structure Collects (frame : List Tree → Frame) (node : List Tree → Tree) : Prop where
  level (before : List Tree) : (frame before).level levels = 0
  complete (before : List Tree) (t : Tree) : (frame before).complete t = none
  empty (stack : List Frame) :
    begin? (frame [] :: stack) .closing = some (stack, .got (node []))
  next (before : List Tree) (stack : List Frame) (t : Tree) :
    shift (frame before :: stack) t .comma = some (frame (before ++ [t]) :: stack, .want)
  last (before : List Tree) (stack : List Frame) (t : Tree) :
    shift (frame before :: stack) t .closing = some (stack, .got (node (before ++ [t])))

theorem items_collect (operand : Tree) (negated : Bool) :
    Collects (.items operand negated) (.inList operand · negated) :=
  ⟨fun _ => rfl, fun _ _ => rfl, fun _ => rfl, fun _ _ _ => rfl, fun _ _ _ => rfl⟩

theorem arguments_collect (name : String) :
    Collects (.arguments name) (.function name) :=
  ⟨fun _ => rfl, fun _ _ => rfl, fun _ => rfl, fun _ _ _ => rfl, fun _ _ _ => rfl⟩

theorem run_delimiter (frame : Frame) {token : Token} {level : Nat} {next : List Frame × Phase}
    (found : level? levels token = some level) (opens : frame.complete t = none)
    (shifted : shift (frame :: stack) t token = some next) :
    run levels (frame :: stack, .got t) (token :: rest) = run levels next rest := by
  refine run_step ?_
  rw [step_got found]
  simp only [reduce, opens]
  exact shifted

theorem follows_separated (p : Nat) (items : List (List Slot)) (rest : List Token) :
    Follows p (tokensOf (items.flatMap fun next => .text ", " :: next) ++ .closing :: rest) := by
  cases items with
  | nil => exact follows_cons rfl (Nat.zero_le _)
  | cons item items =>
    rw [List.flatMap_cons, List.cons_append, tokensOf_text, tokens_comma]
    exact follows_cons rfl (Nat.zero_le _)

theorem run_later (collects : Collects frame node) {fs : List Fragment}
    (each : ∀ f ∈ fs, Reads f) (before : List Tree) (t : Tree) :
    run levels (frame before :: stack, .got t)
        (tokensOf ((fs.map Fragment.layout).flatMap fun next => .text ", " :: next)
          ++ .closing :: rest)
      = run levels (stack, .got (node (before ++ t :: fs.map Fragment.normal))) rest := by
  induction fs generalizing before t with
  | nil =>
    exact run_delimiter (frame before) rfl (collects.complete before t)
      (collects.last before stack t)
  | cons f fs ih =>
    have later := ih (fun g mem => each g (List.mem_cons_of_mem f mem)) (before ++ [t]) f.normal
    have follows := follows_separated f.precedence (fs.map Fragment.layout) rest
    have loose : top (frame (before ++ [t]) :: stack) < f.precedence := by
      rw [top, collects.level]
      exact precedence_pos f
    rw [List.map_cons, List.flatMap_cons, List.cons_append, tokensOf_text, tokens_comma,
      tokensOf_append, List.append_assoc, List.append_assoc, List.singleton_append,
      run_delimiter (frame before) rfl (collects.complete before t) (collects.next before stack t),
      each f List.mem_cons_self _ _ loose follows, later]
    simp

theorem run_list (collects : Collects frame node) {fs : List Fragment}
    (each : ∀ f ∈ fs, Reads f) :
    run levels (frame [] :: stack, .want)
        (tokensOf (separated (fs.map Fragment.layout)) ++ .closing :: rest)
      = run levels (stack, .got (node (fs.map Fragment.normal))) rest := by
  cases fs with
  | nil => exact run_step (collects.empty stack)
  | cons f fs =>
    have follows := follows_separated f.precedence (fs.map Fragment.layout) rest
    have loose : top (frame [] :: stack) < f.precedence := by
      rw [top, collects.level]
      exact precedence_pos f
    rw [List.map_cons, separated_cons, tokensOf_append, List.append_assoc,
      each f List.mem_cons_self _ _ loose follows,
      run_later collects (fun g mem => each g (List.mem_cons_of_mem f mem))]
    simp

end Lists

section Arms

theorem tokens_when : (text " WHEN ").tokens = [.when] := by rfl

theorem tokens_then : (text " THEN ").tokens = [.result] := by rfl

theorem tokens_else : (text " ELSE ").tokens = [.otherwise] := by rfl

theorem follows_arms (p : Nat) (arms : List (Fragment × Fragment)) (rest : List Token) :
    Follows p (tokensOf (Fragment.armLayouts arms) ++ .otherwise :: rest) := by
  cases arms with
  | nil => exact follows_cons rfl (Nat.zero_le _)
  | cons arm arms =>
    rw [Fragment.armLayouts, List.append_assoc, List.cons_append, tokensOf_text, tokens_when]
    exact follows_cons rfl (Nat.zero_le _)

theorem tokens_arms (test result : Fragment) (arms : List (Fragment × Fragment))
    (rest : List Token) :
    tokensOf (Fragment.armLayouts ((test, result) :: arms)) ++ .otherwise :: rest
      = .when :: (tokensOf test.layout ++ .result :: (tokensOf result.layout
        ++ (tokensOf (Fragment.armLayouts arms) ++ .otherwise :: rest))) := by
  simp [Fragment.armLayouts, tokens_when, tokens_then]

theorem run_arm {test result : Fragment} (readsTest : Reads test) (readsResult : Reads result)
    {done : List (Tree × Tree)} (follows : Follows result.precedence rest) :
    run levels (.test done :: stack, .want)
        (tokensOf test.layout ++ .result :: (tokensOf result.layout ++ rest))
      = run levels (.result done test.normal :: stack, .got result.normal) rest := by
  rw [readsTest (.test done :: stack) _ (precedence_pos test) (follows_cons rfl (Nat.zero_le _)),
    run_delimiter (.test done) rfl rfl rfl]
  exact readsResult (.result done _ :: stack) _ (precedence_pos result) follows

theorem run_arms {arms : List (Fragment × Fragment)}
    (each : ∀ arm ∈ arms, Reads arm.1 ∧ Reads arm.2) (done : List (Tree × Tree)) (test t : Tree) :
    run levels (.result done test :: stack, .got t)
        (tokensOf (Fragment.armLayouts arms) ++ .otherwise :: rest)
      = run levels (.otherwise (done ++ (test, t) :: Fragment.normalArms arms) :: stack, .want)
          rest := by
  induction arms generalizing done test t with
  | nil => exact run_delimiter (.result done test) rfl rfl rfl
  | cons arm arms ih =>
    obtain ⟨next, result⟩ := arm
    obtain ⟨readsTest, readsResult⟩ := each _ List.mem_cons_self
    have later := ih (fun arm mem => each arm (List.mem_cons_of_mem _ mem)) (done ++ [(test, t)])
      next.normal result.normal
    have follows := follows_arms result.precedence arms rest
    rw [tokens_arms, run_delimiter (.result done test) rfl rfl rfl,
      run_arm readsTest readsResult follows, later]
    simp [Fragment.normalArms]

end Arms

/-- Chains have two operands or more, values are scalars, names read as names. -/
def NodeReadable (allowed : String → Prop) : Fragment → Prop
  | .value v => v.items? = none
  | .logical _ operands | .arithmetic _ operands | .bitwise _ operands => 2 ≤ operands.length
  | .function name _ => allowed name
  | _ => True

theorem argumentLayouts_eq_map (fs : List Fragment) :
    Fragment.argumentLayouts fs = fs.map Fragment.layout := by
  induction fs with
  | nil => rfl
  | cons f fs ih => rw [Fragment.argumentLayouts, ih, List.map_cons]

theorem itemLayouts_eq_map {fs : List Fragment}
    (scalars : ∀ f ∈ fs, ∀ v, f = .value v → v.items? = none) :
    Fragment.itemLayouts fs = fs.map Fragment.layout := by
  have single : ∀ f ∈ fs, f.elements = [f] := fun f mem => Fragment.elements_single (scalars f mem)
  rw [Fragment.itemLayouts_eq_elements, List.flatMap_congr single, List.flatMap_singleton']

theorem value_reads {v : Value} (scalar : v.items? = none) : Reads (.value v) := by
  intro stack rest loose follows
  have single : (Fragment.value v).layout = [.value v] := by
    rw [Fragment.layout]
    cases v with
    | array items => simp [Value.items?] at scalar
    | list items => simp [Value.items?] at scalar
    | _ => rfl
  rw [single]
  exact run_step rfl

theorem column_reads (c : Column) : Reads (.column c) := by
  intro stack rest loose follows
  rw [Fragment.layout, Fragment.normal]
  unfold ofColumn
  by_cases wild : c.isWildcard = true
  · have star : c.name = "*" := by simpa [Column.isWildcard] using wild
    cases c.qualifier with
    | none =>
      simp only [wild, if_true, star]
      exact run_step rfl
    | some q =>
      simp only [wild, if_true, star]
      rw [show tokensOf [.identifier q, .text ".", .text "*"]
        = [.identifier q, .dot, .link (.arithmetic .multiply)] from rfl]
      exact (run_step rfl).trans ((run_step rfl).trans (run_step rfl))
  · cases c.qualifier with
    | none =>
      simp only [wild]
      exact run_step rfl
    | some q =>
      simp only [wild]
      rw [if_neg (by simp), show tokensOf [.identifier q, .text ".", .identifier c.name]
        = [.identifier q, .dot, .identifier c.name] from rfl]
      exact (run_step rfl).trans ((run_step rfl).trans (run_step rfl))

section Nodes

variable {l r : Fragment}

theorem comparison_reads (op : Comparison) (left : Reads l) (right : Reads r) :
    Reads (.comparison op l r) := by
  intro stack rest loose follows
  have loose : top stack < 4 := loose
  rw [Fragment.layout, Fragment.normal, tokensOf_append, tokensOf_text, tokens_comparison,
    List.append_assoc, List.append_assoc, List.singleton_append,
    run_operand left (Nat.le_of_lt loose) (follows_cons rfl (Nat.le_refl 4)),
    run_shift rfl loose rfl]
  exact run_last right rfl rfl follows

theorem isNull_reads (negated : Bool) (operand : Reads f) : Reads (.isNull f negated) := by
  intro stack rest loose follows
  have loose : top stack < 4 := loose
  have written : tokensOf (Fragment.isNull f negated).layout
      = tokensOf (Slot.operand 4 f f.layout)
        ++ if negated then [.is, .not, .null] else [.is, .null] := by
    rw [Fragment.layout, tokensOf_append]
    cases negated <;> rfl
  rw [written, List.append_assoc, Fragment.normal]
  cases negated with
  | false =>
    refine (run_operand operand (Nat.le_of_lt loose) (follows_cons rfl (Nat.le_refl 4))).trans ?_
    exact (run_shift rfl loose rfl).trans (run_step rfl)
  | true =>
    refine (run_operand operand (Nat.le_of_lt loose) (follows_cons rfl (Nat.le_refl 4))).trans ?_
    exact (run_shift rfl loose rfl).trans ((run_step rfl).trans (run_step rfl))

theorem run_keyword {plain opposite : String} {token : Token} (negated : Bool)
    (next : Bool → List Frame × Phase) (operand : Reads f) (loose : top stack < 4)
    (written : (text plain).tokens = [token] ∧ (text opposite).tokens = [.not, token])
    (found : level? levels token = some 4)
    (plainNext : shift stack f.normal token = some (next false))
    (deniedNext : step levels (stack, .denied f.normal) token = some (next true)) :
    run levels (stack, .want) (tokensOf (Slot.operand 4 f f.layout)
        ++ ((negatedIf negated plain opposite).tokens ++ rest)) = run levels (next negated) rest := by
  obtain ⟨plainWritten, oppositeWritten⟩ := written
  cases negated with
  | false =>
    have tokens : (negatedIf false plain opposite).tokens = [token] := plainWritten
    rw [tokens, List.singleton_append,
      run_operand operand (Nat.le_of_lt loose) (follows_cons found (Nat.le_refl 4))]
    exact run_shift found loose plainNext
  | true =>
    have tokens : (negatedIf true plain opposite).tokens = [.not, token] := oppositeWritten
    rw [tokens]
    refine (run_operand operand (Nat.le_of_lt loose) (follows_cons rfl (Nat.le_refl 4))).trans ?_
    exact (run_shift rfl loose rfl).trans (run_step deniedNext)

theorem like_reads (negated : Bool) (operand : Reads l) (pattern : Reads r) :
    Reads (.like l r negated) := by
  intro stack rest loose follows
  have started (later : List Token) : run levels (stack, .want)
      (tokensOf (Slot.operand 4 l l.layout)
        ++ ((negatedIf negated " LIKE " " NOT LIKE ").tokens ++ later))
      = run levels (.like l.normal negated :: stack, .want) later := by
    exact run_keyword negated (fun b => (.like l.normal b :: stack, .want)) operand loose
      ⟨by rfl, by rfl⟩ rfl rfl rfl
  rw [Fragment.layout, Fragment.normal, tokensOf_append, tokensOf_cons, List.append_assoc,
    List.append_assoc, started]
  exact run_last pattern rfl rfl follows

theorem tokens_within (negated : Bool) :
    (negatedIf negated " IN (" " NOT IN (").tokens
      = (negatedIf negated " IN" " NOT IN").tokens ++ [.opening] := by
  cases negated <;> rfl

theorem inList_reads (negated : Bool) {fs : List Fragment} (operand : Reads f)
    (each : ∀ g ∈ fs, Reads g) (scalars : ∀ g ∈ fs, ∀ v, g = .value v → v.items? = none) :
    Reads (.inList f fs negated) := by
  intro stack rest loose follows
  have started (later : List Token) : run levels (stack, .want)
      (tokensOf (Slot.operand 4 f f.layout)
        ++ ((negatedIf negated " IN" " NOT IN").tokens ++ .opening :: later))
      = run levels (.items f.normal negated [] :: stack, .want) later := by
    have within : run levels (stack, .want) (tokensOf (Slot.operand 4 f f.layout)
        ++ ((negatedIf negated " IN" " NOT IN").tokens ++ .opening :: later))
        = run levels (stack, .within f.normal negated) (.opening :: later) := by
      exact run_keyword negated (fun b => (stack, .within f.normal b)) operand loose
        ⟨by rfl, by rfl⟩ rfl rfl rfl
    exact within.trans (run_step rfl)
  have written : tokensOf (Fragment.inList f fs negated).layout ++ rest
      = tokensOf (Slot.operand 4 f f.layout) ++ ((negatedIf negated " IN" " NOT IN").tokens
        ++ .opening :: (tokensOf (separated (fs.map Fragment.layout)) ++ .closing :: rest)) := by
    simp [Fragment.layout, tokens_within, tokens_close, itemLayouts_eq_map scalars]
  rw [written, started, run_list (items_collect f.normal negated) each, Fragment.normal,
    normalEach_eq_map]

theorem between_reads (negated : Bool) {low high : Fragment} (operand : Reads f) (first : Reads low)
    (last : Reads high) : Reads (.between f low high negated) := by
  intro stack rest loose follows
  have lower : top (.low f.normal negated :: stack) ≤ 4 := Nat.le_refl 4
  have started (later : List Token) : run levels (stack, .want)
      (tokensOf (Slot.operand 4 f f.layout)
        ++ ((negatedIf negated " BETWEEN " " NOT BETWEEN ").tokens ++ later))
      = run levels (.low f.normal negated :: stack, .want) later := by
    exact run_keyword negated (fun b => (.low f.normal b :: stack, .want)) operand loose
      ⟨by rfl, by rfl⟩ rfl rfl rfl
  have tokens : (text " AND ").tokens = [.link (.logical .and)] := by rfl
  rw [Fragment.layout, Fragment.normal, List.append_assoc, tokensOf_append, List.cons_append,
    tokensOf_cons, tokensOf_append, tokensOf_text, tokens, List.append_assoc, List.append_assoc,
    List.append_assoc, List.append_assoc, List.singleton_append, started,
    run_operand first lower (follows_cons rfl (by decide)), run_delimiter _ rfl rfl rfl]
  exact run_last last rfl rfl follows

theorem not_reads (operand : Reads f) : Reads (.not f) := by
  intro stack rest loose follows
  have tokens : (text "NOT ").tokens = [.not] := by rfl
  rw [Fragment.layout, Fragment.normal, tokensOf_text, tokens]
  exact (run_step rfl).trans (run_last operand rfl rfl follows)

theorem complement_reads (operand : Reads f) : Reads (.complement f) := by
  intro stack rest loose follows
  have tokens : (text "~").tokens = [.tilde] := by rfl
  rw [Fragment.layout, Fragment.normal, tokensOf_text, tokens]
  exact (run_step rfl).trans (run_last operand rfl rfl follows)

theorem negate_reads (operand : Reads f) : Reads (.negate f) := by
  intro stack rest loose follows
  have tokens : (text "-").tokens = [.link (.arithmetic .subtract)] := by rfl
  rw [Fragment.layout, Fragment.normal, tokensOf_text, tokens]
  exact (run_step rfl).trans (run_last operand rfl rfl follows)

theorem logical_reads (op : Connective) {fs : List Fragment} (two : 2 ≤ fs.length)
    (each : ∀ g ∈ fs, Reads g) : Reads (.logical op fs) := by
  have linked : (text s!" {op.sql} ").tokens = [.link (.logical op)] := by cases op <;> rfl
  have same : Fragment.precedence (.logical op fs) = levels.link (.logical op) := by
    cases op <;> rfl
  exact chain_reads linked same (by rw [Fragment.layout]; rfl) (by rw [Fragment.normal]) two each

theorem arithmetic_reads (op : Arithmetic) {fs : List Fragment} (two : 2 ≤ fs.length)
    (each : ∀ g ∈ fs, Reads g) : Reads (.arithmetic op fs) := by
  have linked : (text s!" {op.symbol} ").tokens = [.link (.arithmetic op)] := by cases op <;> rfl
  have same : Fragment.precedence (.arithmetic op fs) = levels.link (.arithmetic op) := by
    cases op <;> rfl
  exact chain_reads linked same (by rw [Fragment.layout]; rfl) (by rw [Fragment.normal]) two each

theorem bitwise_reads (op : Bitwise) {fs : List Fragment} (two : 2 ≤ fs.length)
    (each : ∀ g ∈ fs, Reads g) : Reads (.bitwise op fs) := by
  have linked : (text s!" {op.symbol} ").tokens = [.link (.bitwise op)] := by cases op <;> rfl
  have same : Fragment.precedence (.bitwise op fs) = levels.link (.bitwise op) := by
    cases op <;> rfl
  exact chain_reads linked same (by rw [Fragment.layout]; rfl) (by rw [Fragment.normal]) two each

theorem case_reads {arms : List (Fragment × Fragment)} {otherwise : Fragment}
    (each : ∀ arm ∈ arms, Reads arm.1 ∧ Reads arm.2) (last : Reads otherwise) :
    Reads (.case arms otherwise) := by
  intro stack rest loose follows
  have started (later : List Token) : run levels (stack, .want)
      (.case :: (tokensOf (Fragment.armLayouts arms) ++ .otherwise :: later))
      = run levels (.otherwise (Fragment.normalArms arms) :: stack, .want) later := by
    refine (run_step rfl).trans ?_
    cases arms with
    | nil => exact run_step rfl
    | cons arm arms =>
      obtain ⟨test, result⟩ := arm
      obtain ⟨readsTest, readsResult⟩ := each _ List.mem_cons_self
      rw [tokens_arms, run_step rfl, run_arm readsTest readsResult (follows_arms _ arms later),
        run_arms fun arm mem => each arm (List.mem_cons_of_mem _ mem)]
      rfl
  have tokens : (text "CASE").tokens = [.case] ∧ (text " END").tokens = [.finish] :=
    ⟨by rfl, by rfl⟩
  have written : tokensOf (Fragment.case arms otherwise).layout ++ rest
      = .case :: (tokensOf (Fragment.armLayouts arms)
        ++ .otherwise :: (tokensOf otherwise.layout ++ .finish :: rest)) := by
    simp [Fragment.layout, tokens, tokens_else]
  rw [written, started,
    last (.otherwise _ :: stack) _ (precedence_pos otherwise) (follows_cons rfl (Nat.zero_le _)),
    Fragment.normal]
  exact run_delimiter (.otherwise _) rfl rfl rfl

theorem function_reads {name : String} {fs : List Fragment}
    (tokens : (text name).tokens = [.name name]) (each : ∀ g ∈ fs, Reads g) :
    Reads (.function name fs) := by
  intro stack rest loose follows
  have written : tokensOf (Fragment.function name fs).layout ++ rest
      = .name name :: .opening :: (tokensOf (separated (fs.map Fragment.layout))
        ++ .closing :: rest) := by
    simp [Fragment.layout, tokens, tokensOf_grouped, argumentLayouts_eq_map]
  rw [written, Fragment.normal, normalEach_eq_map]
  refine (run_step rfl).trans ((run_step rfl).trans ?_)
  exact run_list (arguments_collect name) each

end Nodes

theorem fragment_reads
    (readable : f.Everywhere (NodeReadable fun name => (text name).tokens = [.name name])) :
    Reads f := by
  induction readable with
  | @node f here below reads =>
    cases f with
    | value v => exact value_reads here
    | column c => exact column_reads c
    | comparison op left right =>
      exact comparison_reads op (reads left (by simp [Fragment.children]))
        (reads right (by simp [Fragment.children]))
    | isNull operand negated => exact isNull_reads negated (reads operand List.mem_cons_self)
    | like operand pattern negated =>
      exact like_reads negated (reads operand (by simp [Fragment.children]))
        (reads pattern (by simp [Fragment.children]))
    | inList operand items negated =>
      refine inList_reads negated (reads operand List.mem_cons_self)
        (fun g mem => reads g (List.mem_cons_of_mem operand mem)) ?_
      rintro _ mem v rfl
      obtain ⟨scalar, -⟩ := below _ (List.mem_cons_of_mem operand mem)
      exact scalar
    | between operand low high negated =>
      exact between_reads negated (reads operand (by simp [Fragment.children]))
        (reads low (by simp [Fragment.children])) (reads high (by simp [Fragment.children]))
    | logical op operands => exact logical_reads op here reads
    | arithmetic op operands => exact arithmetic_reads op here reads
    | bitwise op operands => exact bitwise_reads op here reads
    | not operand => exact not_reads (reads operand List.mem_cons_self)
    | complement operand => exact complement_reads (reads operand List.mem_cons_self)
    | negate operand => exact negate_reads (reads operand List.mem_cons_self)
    | case arms otherwise =>
      refine case_reads (fun arm mem => ⟨reads _ ?_, reads _ ?_⟩) (reads _ ?_)
      · exact List.mem_append_left _ (List.mem_flatMap.mpr ⟨arm, mem, by simp⟩)
      · exact List.mem_append_left _ (List.mem_flatMap.mpr ⟨arm, mem, by simp⟩)
      · exact List.mem_append_right _ (List.mem_singleton.mpr rfl)
    | function name arguments => exact function_reads here reads

theorem run_layout
    (readable : f.Everywhere (NodeReadable fun name => (text name).tokens = [.name name])) :
    run levels ([], .want) (tokensOf f.layout) = some f.normal := by
  have reads := fragment_reads readable [] [] (precedence_pos f) (by simp [Follows])
  rw [List.append_nil] at reads
  rw [reads]
  rfl

end Parser
end ExprSql
