import ExprSql.Proofs.Fragment.Layout

/-!
Neat layouts: texts are the fixed ones and names of functions, and nothing written runs into what
is written next to it.
-/
namespace ExprSql

namespace Slot

def fixedTexts : List String :=
  ["(", ")", ", ", ".", "*", " = ", " <> ", " < ", " <= ", " > ", " >= ", " IS NULL",
    " IS NOT NULL", " LIKE ", " NOT LIKE ", " IN (", " NOT IN (", " BETWEEN ", " NOT BETWEEN ",
    " AND ", " OR ", " + ", " - ", " * ", " / ", " % ", " & ", " | ", " ^ ", " << ", " >> ",
    "NOT ", "~", "-", "CASE", " WHEN ", " THEN ", " ELSE ", " END"]

def ends : List Char := [' ', '(', ')', '.', '*', '~', '-']

def closed : Slot → Bool
  | .text s => s.toList.getLast?.any ends.contains
  | _ => false

def fences : List Char := [' ', ')', ',', '.', '(']

def fence : Slot → Bool
  | .text s => s.toList.head?.any fences.contains
  | _ => false

def Fenced (ss : List Slot) : Prop := ss.IsChain fun a b => a.closed = true ∨ b.fence = true

def StartsFenced (ss : List Slot) : Prop := ∀ s ∈ ss.head?, s.fence = true

/-- Keeps to the fixed texts and the allowed ones, and stays fenced before anything fenced. -/
structure Neat (allowed : String → Prop) (ss : List Slot) : Prop where
  texts : ∀ s, .text s ∈ ss → s ∈ fixedTexts ∨ allowed s
  fenced : ∀ rest, StartsFenced rest → Fenced rest → Fenced (ss ++ rest)

def IsSeparator (s : String) : Prop :=
  s ∈ fixedTexts ∧ (text s).closed = true ∧ (text s).fence = true

instance (s : String) : Decidable (IsSeparator s) := inferInstanceAs (Decidable (_ ∧ _ ∧ _))

variable {allowed : String → Prop} {ss ts : List Slot}

theorem neat_nil : Neat allowed [] := ⟨by simp, fun _ _ rest => rest⟩

theorem neat_closed {s : String} (fixed : s ∈ fixedTexts) (closed : (text s).closed = true)
    (neat : Neat allowed ss) : Neat allowed (.text s :: ss) where
  texts := by
    intro t mem
    rcases List.mem_cons.mp mem with same | mem
    · cases same
      exact .inl fixed
    · exact neat.texts t mem
  fenced rest starts fenced :=
    List.isChain_cons.mpr ⟨fun _ _ => .inl closed, neat.fenced rest starts fenced⟩

theorem neat_open {slot : Slot} (known : ∀ s, slot = .text s → s ∈ fixedTexts ∨ allowed s)
    (starts : StartsFenced ss) (neat : Neat allowed ss) : Neat allowed (slot :: ss) where
  texts := by
    intro t mem
    rcases List.mem_cons.mp mem with same | mem
    · exact known t same.symm
    · exact neat.texts t mem
  fenced rest restStarts fenced := by
    refine List.isChain_cons.mpr ⟨fun s mem => .inr ?_, neat.fenced rest restStarts fenced⟩
    cases ss with
    | nil => exact restStarts s mem
    | cons first ss => exact starts s mem

theorem starts_append (starts : StartsFenced ss) (tail : StartsFenced ts) :
    StartsFenced (ss ++ ts) := by
  cases ss with
  | nil => exact tail
  | cons first ss => exact starts

theorem starts_text {s : String} (fence : (text s).fence = true) :
    StartsFenced (.text s :: ss) := by
  intro slot mem
  cases mem
  exact fence

theorem neat_append (front : Neat allowed ss) (back : Neat allowed ts) (starts : StartsFenced ts) :
    Neat allowed (ss ++ ts) where
  texts := by
    intro t mem
    rcases List.mem_append.mp mem with mem | mem
    · exact front.texts t mem
    · exact back.texts t mem
  fenced rest restStarts fenced := by
    rw [List.append_assoc]
    exact front.fenced _ (starts_append starts restStarts) (back.fenced rest restStarts fenced)

theorem neat_separator {s : String} (separator : IsSeparator s) (front : Neat allowed ss)
    (back : Neat allowed ts) : Neat allowed (ss ++ .text s :: ts) :=
  neat_append front (neat_closed separator.1 separator.2.1 back) (starts_text separator.2.2)

theorem neat_last {s : String} (fixed : s ∈ fixedTexts) (fence : (text s).fence = true)
    (front : Neat allowed ss) : Neat allowed (ss ++ [.text s]) :=
  neat_append front (neat_open (by rintro _ ⟨⟩; exact .inl fixed) (by simp [StartsFenced]) neat_nil)
    (starts_text fence)

theorem neat_grouped (neat : Neat allowed ss) : Neat allowed (grouped ss) :=
  neat_closed (by decide) (by decide) (neat_last (by decide) (by decide) neat)

theorem neat_operand (parent : Nat) (f : Fragment) (neat : Neat allowed ss) :
    Neat allowed (operand parent f ss) := by
  unfold operand
  split
  · exact neat_grouped neat
  · exact neat

theorem neat_first (parent : Nat) (f : Fragment) (neat : Neat allowed ss) :
    Neat allowed (first parent f ss) := by
  unfold first
  split
  · exact neat_grouped neat
  · exact neat

theorem neat_separated {items : List (List Slot)} (each : ∀ item ∈ items, Neat allowed item) :
    Neat allowed (separated items) := by
  cases items with
  | nil => exact neat_nil
  | cons item items =>
    rw [separated_cons]
    have later (items : List (List Slot)) (each : ∀ item ∈ items, Neat allowed item) :
        Neat allowed (items.flatMap fun next => .text ", " :: next) ∧
          StartsFenced (items.flatMap fun next => .text ", " :: next) := by
      induction items with
      | nil => exact ⟨neat_nil, by simp [StartsFenced]⟩
      | cons next items ih =>
        obtain ⟨neat, starts⟩ := ih fun item mem => each item (List.mem_cons_of_mem next mem)
        rw [List.flatMap_cons]
        exact ⟨neat_append (neat_closed (by decide) (by decide) (each next List.mem_cons_self))
          neat starts, starts_text (by decide)⟩
    obtain ⟨neat, starts⟩ := later items fun item mem => each item (List.mem_cons_of_mem _ mem)
    exact neat_append (each item List.mem_cons_self) neat starts

theorem neat_single {slot : Slot} (known : ∀ s, slot = .text s → s ∈ fixedTexts ∨ allowed s) :
    Neat allowed [slot] :=
  neat_open known (by simp [StartsFenced]) neat_nil

theorem neat_identifier (name : String) : Neat allowed [.identifier name] :=
  neat_single (by rintro _ ⟨⟩)

theorem neat_ofColumn (c : Column) : Neat allowed (ofColumn c) := by
  have star : Neat allowed [.text "*"] := neat_closed (by decide) (by decide) neat_nil
  have name : Neat allowed [if c.isWildcard = true then .text "*" else .identifier c.name] := by
    split
    · exact star
    · exact neat_identifier c.name
  unfold ofColumn
  cases c.qualifier with
  | none => exact name
  | some q =>
    have dotted := neat_closed (s := ".") (by decide) (by decide) name
    exact neat_append (neat_identifier q) dotted (starts_text (by decide))

end Slot

open Slot

variable {allowed : String → Prop}

mutual

theorem Value.layout_neat (v : Value) : Neat allowed v.layout := by
  cases v with
  | array items | list items =>
    rw [Value.layout]
    exact neat_grouped (neat_separated (Value.layouts_neat items))
  | _ => exact neat_single (by rintro _ ⟨⟩)

theorem Value.layouts_neat (vs : List Value) :
    ∀ ss ∈ Value.layoutEach vs, Neat allowed ss := by
  cases vs with
  | nil => simp [Value.layoutEach]
  | cons v vs =>
    rw [Value.layoutEach]
    exact List.forall_mem_cons.mpr ⟨v.layout_neat, Value.layouts_neat vs⟩

end

namespace Fragment

def NodeNamed (allowed : String → Prop) : Fragment → Prop
  | .function name _ => allowed name
  | _ => True

theorem restLayout_neat {symbol : String} (separator : IsSeparator s!" {symbol} ") (parent : Nat)
    {fs : List Fragment} (each : ∀ f ∈ fs, Neat allowed f.layout) :
    Neat allowed (restLayout symbol parent fs) ∧ StartsFenced (restLayout symbol parent fs) := by
  induction fs with
  | nil => exact ⟨neat_nil, by simp [restLayout, StartsFenced]⟩
  | cons f fs ih =>
    obtain ⟨neat, starts⟩ := ih fun g mem => each g (List.mem_cons_of_mem f mem)
    have next := neat_operand parent f (each f List.mem_cons_self)
    rw [restLayout]
    exact ⟨neat_append (neat_closed separator.1 separator.2.1 next) neat starts,
      starts_text separator.2.2⟩

theorem chainLayout_neat {symbol : String} (separator : IsSeparator s!" {symbol} ") (parent : Nat)
    {fs : List Fragment} (each : ∀ f ∈ fs, Neat allowed f.layout) :
    Neat allowed (chainLayout symbol parent fs) := by
  cases fs with
  | nil => exact neat_nil
  | cons f fs =>
    obtain ⟨neat, starts⟩ :=
      restLayout_neat separator parent fun g mem => each g (List.mem_cons_of_mem f mem)
    exact neat_append (neat_first parent f (each f List.mem_cons_self)) neat starts

theorem argumentLayouts_neat {fs : List Fragment} (each : ∀ f ∈ fs, Neat allowed f.layout) :
    ∀ ss ∈ argumentLayouts fs, Neat allowed ss := by
  induction fs with
  | nil => simp [argumentLayouts]
  | cons f fs ih =>
    rw [argumentLayouts]
    exact List.forall_mem_cons.mpr ⟨each f List.mem_cons_self,
      ih fun g mem => each g (List.mem_cons_of_mem f mem)⟩

theorem itemLayouts_neat {fs : List Fragment} (each : ∀ f ∈ fs, Neat allowed f.layout) :
    ∀ ss ∈ itemLayouts fs, Neat allowed ss := by
  induction fs with
  | nil => simp [itemLayouts]
  | cons f fs ih =>
    rw [itemLayouts]
    refine List.forall_mem_append.mpr ⟨?_, ih fun g mem => each g (List.mem_cons_of_mem f mem)⟩
    unfold items
    split
    · exact Value.layouts_neat _
    · exact Value.layouts_neat _
    · exact List.forall_mem_singleton.mpr (each f List.mem_cons_self)

theorem armLayouts_neat {arms : List (Fragment × Fragment)}
    (each : ∀ arm ∈ arms, Neat allowed arm.1.layout ∧ Neat allowed arm.2.layout) :
    Neat allowed (armLayouts arms) ∧ StartsFenced (armLayouts arms) := by
  induction arms with
  | nil => exact ⟨neat_nil, by simp [armLayouts, StartsFenced]⟩
  | cons arm arms ih =>
    obtain ⟨test, result⟩ := arm
    obtain ⟨neat, starts⟩ := ih fun arm mem => each arm (List.mem_cons_of_mem _ mem)
    obtain ⟨testNeat, resultNeat⟩ := each _ List.mem_cons_self
    have next := neat_separator (s := " THEN ") (by decide) testNeat resultNeat
    have whole := neat_append (neat_closed (s := " WHEN ") (by decide) (by decide) next) neat starts
    rw [armLayouts]
    exact ⟨whole, starts_append (starts_text (by decide)) starts⟩

theorem separator_negatedIf {plain opposite : String} (negated : Bool)
    (first : IsSeparator plain) (second : IsSeparator opposite) {ss ts : List Slot}
    (front : Neat allowed ss) (back : Neat allowed ts) :
    Neat allowed (ss ++ negatedIf negated plain opposite :: ts) := by
  cases negated with
  | false => exact neat_separator first front back
  | true => exact neat_separator second front back

theorem layout_neat {f : Fragment} (named : f.Everywhere (NodeNamed allowed)) :
    Neat allowed f.layout := by
  induction named with
  | @node f here below neat =>
    cases f with
    | value v => exact v.layout_neat
    | column c => exact neat_ofColumn c
    | comparison op left right =>
      have l := neat_operand 4 left (neat left (by simp [children]))
      have r := neat_operand 4 right (neat right (by simp [children]))
      rw [layout]
      exact neat_separator (by cases op <;> decide) l r
    | isNull operand negated =>
      have o := neat_operand 4 operand (neat operand (by simp [children]))
      rw [layout]
      cases negated with
      | false => exact neat_last (by decide) (by decide) o
      | true => exact neat_last (by decide) (by decide) o
    | like operand pattern negated =>
      have o := neat_operand 4 operand (neat operand (by simp [children]))
      have p := neat_operand 4 pattern (neat pattern (by simp [children]))
      rw [layout]
      exact separator_negatedIf negated (by decide) (by decide) o p
    | inList operand items negated =>
      have o := neat_operand 4 operand (neat operand (by simp [children]))
      have each := itemLayouts_neat fun g mem => neat g (List.mem_cons_of_mem operand mem)
      have list := neat_last (s := ")") (by decide) (by decide) (neat_separated each)
      rw [layout, List.append_assoc]
      exact separator_negatedIf negated (by decide) (by decide) o list
    | between operand low high negated =>
      have o := neat_operand 4 operand (neat operand (by simp [children]))
      have l := neat_operand 4 low (neat low (by simp [children]))
      have h := neat_operand 4 high (neat high (by simp [children]))
      have bounds := neat_separator (s := " AND ") (by decide) l h
      rw [layout, List.append_assoc]
      exact separator_negatedIf negated (by decide) (by decide) o bounds
    | logical op operands =>
      rw [layout]
      exact chainLayout_neat (by cases op <;> decide) _ neat
    | arithmetic op operands =>
      rw [layout]
      exact chainLayout_neat (by cases op <;> decide) _ neat
    | bitwise op operands =>
      rw [layout]
      exact chainLayout_neat (by cases op <;> decide) _ neat
    | not operand =>
      rw [layout]
      exact neat_closed (by decide) (by decide)
        (neat_operand 3 operand (neat _ (by simp [children])))
    | complement operand =>
      rw [layout]
      exact neat_closed (by decide) (by decide)
        (neat_operand 10 operand (neat _ (by simp [children])))
    | negate operand =>
      rw [layout]
      exact neat_closed (by decide) (by decide)
        (neat_operand 10 operand (neat _ (by simp [children])))
    | case arms otherwise =>
      have each (arm : Fragment × Fragment) (mem : arm ∈ arms) :
          Neat allowed arm.1.layout ∧ Neat allowed arm.2.layout := by
        refine ⟨neat _ ?_, neat _ ?_⟩
        · exact List.mem_append_left _ (List.mem_flatMap.mpr ⟨arm, mem, by simp⟩)
        · exact List.mem_append_left _ (List.mem_flatMap.mpr ⟨arm, mem, by simp⟩)
      obtain ⟨armsNeat, starts⟩ := armLayouts_neat each
      have last := neat_last (s := " END") (by decide) (by decide)
        (neat otherwise (by simp [children]))
      have tail := neat_separator (s := " ELSE ") (by decide) armsNeat last
      rw [layout, List.append_assoc, List.cons_append]
      exact neat_open (by rintro _ ⟨⟩; exact .inl (by decide))
        (starts_append starts (starts_text (by decide))) tail
    | function name arguments =>
      have list := neat_grouped (neat_separated (argumentLayouts_neat neat))
      rw [layout]
      exact neat_open (by rintro _ ⟨⟩; exact .inr here) (starts_text (by decide)) list

theorem layout_fenced {f : Fragment} (named : f.Everywhere (NodeNamed allowed)) :
    Fenced f.layout := by
  have fenced := (layout_neat named).fenced [] (by simp [StartsFenced]) List.isChain_nil
  rwa [List.append_nil] at fenced

end Fragment
end ExprSql
