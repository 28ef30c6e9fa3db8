import ExprSql.Proofs.Expr.Sites
import ExprSql.Proofs.Run

/-!
The host calls of a run. A run makes calls of some of the sites it is allowed, in their order and
each at most once; a refusal ends it, and it knows the host by the answers to these calls alone.
-/
namespace ExprSql

/-- A call of host code, with the operands it is made with. -/
inductive Request where
  | thunk (description : String) (code : Thunk)
  | getter (m : Member) (target : Option Value)
  | method (m : Member) (target : Option Value) (arguments : List Value)

abbrev Reply := Value × Option Value

namespace Request

def site : Request → Site
  | .thunk description code => .thunk description code
  | .getter m _ => .getter m
  | .method m _ arguments => .method m arguments.length

/-- The answer of the bound code, if it takes such operands. -/
def answer? (b : Bindings) (before : Trace) : Request → Option (HostResult Reply)
  | .thunk _ code => some ((code.run before).map (·, none))
  | .getter m target =>
      match b.getters.get? m.owner m.name, target with
      | some (.static get), _ => some ((get before).map (·, none))
      | some (.member get), some v => some ((get before v).map (·, none))
      | _, _ => none
  | .method m target arguments =>
      match b.methods.get? m.owner m.name, target with
      | some (.static run), _ => some ((run before arguments).map (·, none))
      | some (.member run), some self =>
          some ((run before self arguments).map fun (v, self) => (v, some self))
      | _, _ => none

end Request

structure Exchange where
  request : Request
  answer : HostResult Reply

def Exchange.call (x : Exchange) : HostCall := x.request.site.call

/-- The host gives each of these answers, on the calls made until then. -/
def Heard (b : Bindings) : Trace → List Exchange → Prop
  | _, [] => True
  | before, x :: later =>
      x.request.answer? b before = some x.answer ∧ Heard b (before ++ [x.call]) later

/-- A refusal is the last exchange, and what the run fails with. -/
def Heeded {α : Type} : List Exchange → Except Failure α → Prop
  | [], _ => True
  | x :: later, result =>
      match x.answer with
      | .ok _ => Heeded later result
      | .error text =>
          later = [] ∧
            result = .error (.invocation x.request.site.label (.failed (.raised text)))

def Getter.isStatic : Getter → Bool
  | .static _ => true
  | .member _ => false

def HostMethod.isStatic : HostMethod → Bool
  | .static _ => true
  | .member _ => false

/-- The hosts differ in nothing but the code behind getters and methods. -/
structure Bindings.Alike (b b' : Bindings) : Prop where
  getters (owner name : String) : (b.getters.get? owner name).map Getter.isStatic
    = (b'.getters.get? owner name).map Getter.isStatic
  methods (owner name : String) : (b.methods.get? owner name).map HostMethod.isStatic
    = (b'.methods.get? owner name).map HostMethod.isStatic
  defaults : b.defaults = b'.defaults

section
variable {α : Type} {b b' : Bindings} {before : Trace} {made later : List Exchange}
  {owner name : String}

namespace Bindings.Alike

theorem refl (b : Bindings) : b.Alike b := ⟨fun _ _ => rfl, fun _ _ => rfl, rfl⟩

variable (alike : b.Alike b')
include alike

theorem no_getter (unbound : b.getters.get? owner name = none) :
    b'.getters.get? owner name = none := by
  simpa [unbound, eq_comm] using alike.getters owner name

theorem bound_getter {get : Getter} (bound : b.getters.get? owner name = some get) :
    ∃ get', b'.getters.get? owner name = some get' ∧ get'.isStatic = get.isStatic := by
  have same := alike.getters owner name
  rw [bound, Option.map_some, eq_comm, Option.map_eq_some_iff] at same
  exact same

theorem no_method (unbound : b.methods.get? owner name = none) :
    b'.methods.get? owner name = none := by
  simpa [unbound, eq_comm] using alike.methods owner name

theorem bound_method {run : HostMethod} (bound : b.methods.get? owner name = some run) :
    ∃ run', b'.methods.get? owner name = some run' ∧ run'.isStatic = run.isStatic := by
  have same := alike.methods owner name
  rw [bound, Option.map_some, eq_comm, Option.map_eq_some_iff] at same
  exact same

theorem has_method (owner name : String) : b'.hasMethod owner name = b.hasMethod owner name := by
  have same := congrArg Option.isSome (alike.methods owner name)
  simpa [hasMethod] using same.symm

end Bindings.Alike

theorem heard_append : Heard b before (made ++ later) ↔
    Heard b before made ∧ Heard b (before ++ made.map Exchange.call) later := by
  induction made generalizing before with
  | nil => simp [Heard]
  | cons x made ih => simp [Heard, ih, and_assoc]

theorem heeded_append {β : Type} {a : α} {result : Except Failure β}
    (earlier : Heeded made (.ok a : Except Failure α)) (next : Heeded later result) :
    Heeded (made ++ later) result := by
  induction made with
  | nil => exact next
  | cons x made ih =>
    rw [List.cons_append]
    unfold Heeded at earlier ⊢
    cases said : x.answer with
    | ok reply =>
      simp only [said] at earlier ⊢
      exact ih earlier
    | error text =>
      simp only [said] at earlier
      cases earlier.2

theorem heeded_error {β : Type} {e : Failure} (heeded : Heeded made (.error e : Except Failure α)) :
    Heeded made (.error e : Except Failure β) := by
  induction made with
  | nil => trivial
  | cons x made ih =>
    unfold Heeded at heeded ⊢
    cases said : x.answer with
    | ok reply =>
      simp only [said] at heeded ⊢
      exact ih heeded
    | error text =>
      simp only [said, Except.error.injEq] at heeded ⊢
      exact heeded

end

namespace Run

variable {α β : Type} {b : Bindings} {sites : List Site}

structure Account (b : Bindings) (sites : List Site) (x : Bindings → Run α) (before : Trace)
    (made : List Exchange) (result : Except Failure α) : Prop where
  heard : Heard b before made
  inOrder : (made.map (·.request.site)).Sublist sites
  heeded : Heeded made result
  -- the host's code enters through these answers and in no other way
  determined : ∀ b', b.Alike b' → Heard b' before made →
    outcome (x b') before = (result, before ++ made.map Exchange.call)

theorem Account.outcome_eq {x : Bindings → Run α} {before : Trace} {made : List Exchange}
    {result : Except Failure α} (account : Account b sites x before made result) :
    outcome (x b) before = (result, before ++ made.map Exchange.call) :=
  account.determined b (.refl b) account.heard

/-- Whatever came before, the run calls sites of the list, in its order and each at most once, and
nothing after a refusal. -/
def Calls (b : Bindings) (sites : List Site) (x : Bindings → Run α) : Prop :=
  ∀ before, ∃ made result, Account b sites x before made result

theorem calls_congr {x y : Bindings → Run α} (same : ∀ b', b.Alike b' → x b' = y b')
    (calls : Calls b sites y) : Calls b sites x := by
  intro before
  obtain ⟨made, result, account⟩ := calls before
  refine ⟨made, result, account.heard, account.inOrder, account.heeded, fun b' alike heard => ?_⟩
  rw [same b' alike]
  exact account.determined b' alike heard

theorem calls_quiet {x : Run α} (quiet : ∀ before, (outcome x before).2 = before) :
    Calls b sites fun _ => x := by
  intro before
  refine ⟨[], (outcome x before).1, trivial, List.nil_sublist _, trivial, fun b' _ _ => ?_⟩
  exact Prod.ext rfl (by simpa using quiet before)

theorem calls_pure (a : α) : Calls b sites fun _ => pure a := calls_quiet fun _ => rfl

theorem calls_throw (e : Failure) : Calls b sites fun _ => (throw e : Run α) :=
  calls_quiet fun _ => rfl

theorem calls_ofExcept (x : Except Failure α) : Calls b sites fun _ => ofExcept x := by
  cases x with
  | ok a => exact calls_pure a
  | error e => exact calls_throw e

theorem map_injective {reply : α → β} (injective : Function.Injective reply)
    {x y : HostResult α} (same : x.map reply = y.map reply) : x = y := by
  cases x <;> cases y <;> simp only [Except.map, reduceCtorEq, Except.ok.injEq] at same ⊢
  · exact congrArg _ (Except.error.inj same)
  · exact injective same

theorem calls_host {x : Bindings → Run β} (request : Request) {reply : α → Reply} (give : α → β)
    (injective : Function.Injective reply)
    (each : ∀ b', b.Alike b' → ∃ code : Trace → HostResult α,
      (∀ before, request.answer? b' before = some ((code before).map reply)) ∧
        x b' = host request.site.call request.site.label code >>= fun a => pure (give a)) :
    Calls b [request.site] x := by
  intro before
  obtain ⟨code, answers, same⟩ := each b (.refl b)
  have determined (b' : Bindings) (alike : b.Alike b')
      (heard : Heard b' before [⟨request, (code before).map reply⟩]) :
      outcome (x b') before = outcome (x b) before := by
    obtain ⟨code', answers', same'⟩ := each b' alike
    have said : code' before = code before :=
      map_injective injective (Option.some.inj ((answers' before).symm.trans heard.1))
    rw [same, same', outcome_bind, outcome_bind, outcome_host, outcome_host, said]
  refine ⟨[⟨request, (code before).map reply⟩], (outcome (x b) before).1,
    ⟨answers before, trivial⟩, List.Sublist.refl _, ?_,
    fun b' alike heard => (determined b' alike heard).trans ?_⟩
  all_goals
    rw [same, outcome_bind, outcome_host]
    cases said : code before <;> simp [Heeded, Except.map, Exchange.call, outcome_pure]

theorem calls_within {x : Bindings → Run α} {more : List Site} (within : sites.Sublist more)
    (calls : Calls b sites x) : Calls b more x := by
  intro before
  obtain ⟨made, result, account⟩ := calls before
  exact ⟨made, result, { account with inOrder := account.inOrder.trans within }⟩

theorem calls_bind_ensured {x : Bindings → Run α} {f : Bindings → α → Run β}
    {first second : List Site} {P : α → Prop} (earlier : Calls b first x)
    (ensured : Ensures (x b) P fun _ => True) (later : ∀ a, P a → Calls b second (f · a)) :
    Calls b (first ++ second) fun b' => x b' >>= f b' := by
  intro before
  obtain ⟨made, result, account⟩ := earlier before
  have done := account.outcome_eq
  cases result with
  | error e =>
    refine ⟨made, .error e, account.heard,
      account.inOrder.trans (List.sublist_append_left first second), heeded_error account.heeded,
      fun b' alike heard => ?_⟩
    rw [outcome_bind, account.determined b' alike heard]
  | ok a =>
    obtain ⟨next, result, account'⟩ := later a (ensured.1 before a _ done) (before ++ made.map _)
    refine ⟨made ++ next, result, heard_append.2 ⟨account.heard, account'.heard⟩, ?_,
      heeded_append account.heeded account'.heeded, fun b' alike heard => ?_⟩
    · rw [List.map_append]
      exact account.inOrder.append account'.inOrder
    · obtain ⟨heard, heard'⟩ := heard_append.1 heard
      rw [outcome_bind, account.determined b' alike heard]
      simpa using account'.determined b' alike heard'

theorem calls_bind {x : Bindings → Run α} {f : Bindings → α → Run β} {first second : List Site}
    (earlier : Calls b first x) (later : ∀ a, Calls b second (f · a)) :
    Calls b (first ++ second) fun b' => x b' >>= f b' :=
  calls_bind_ensured earlier (ensures_trivial (x b)) fun a _ => later a

theorem calls_then {x : Bindings → Run α} {f : Bindings → α → Run β} (earlier : Calls b sites x)
    (quiet : ∀ a, Calls b [] (f · a)) : Calls b sites fun b' => x b' >>= f b' := by
  simpa using calls_bind earlier quiet

theorem calls_mapM {γ : Type} {f : Bindings → γ → Run α} {each : γ → List Site}
    (calls : ∀ c, Calls b (each c) (f · c)) (cs : List γ) :
    Calls b (cs.flatMap each) fun b' => cs.mapM (f b') := by
  induction cs with
  | nil => exact calls_pure []
  | cons c cs ih =>
    simp only [List.mapM_cons]
    rw [List.flatMap_cons]
    exact calls_bind (calls c) fun a => calls_then ih fun as => calls_pure (a :: as)

theorem calls_mapM_bind {γ : Type} {g : Bindings → γ → Run α} {each : γ → List Site}
    {f : Bindings → List α → Run β} {second : List Site} (calls : ∀ c, Calls b (each c) (g · c))
    (cs : List γ) (later : ∀ as : List α, as.length = cs.length → Calls b second (f · as)) :
    Calls b (cs.flatMap each ++ second) fun b' => cs.mapM (g b') >>= f b' :=
  calls_bind_ensured (calls_mapM calls cs) (ensures_mapM fun c _ => ensures_trivial (g b c))
    fun as counted => later as counted.1

end Run
end ExprSql
