import ExprSql.Evaluate
import ExprSql.Proofs.Run.Calls

namespace ExprSql.Evaluator

open Run

def withHost (ev : Evaluator) (b : Bindings) : Evaluator := { ev with bindings := b }

variable (ev : Evaluator) {b : Bindings}

def untargeted (v : Value) : Reply := (v, none)

def targeted (given : Value × Value) : Reply := (given.1, some given.2)

theorem untargeted_injective : Function.Injective untargeted := fun _ _ same => congrArg Prod.fst same

theorem targeted_injective : Function.Injective targeted := by
  rintro ⟨v, self⟩ ⟨v', self'⟩ same
  cases same
  rfl

theorem read_calls (target : Option Value) (m : Member) :
    Calls b (m.getterSites b) fun b' => (ev.withHost b').read target m := by
  cases bound : b.getters.get? m.owner m.name with
  | none =>
    refine calls_congr (fun b' alike => ?_) (calls_ofExcept (intrinsic target m))
    simp only [read, withHost, alike.no_getter bound]
  | some get =>
    rw [Member.getterSites_bound bound]
    cases get with
    | static get =>
      refine calls_host (.getter m none) id untargeted_injective fun b' alike => ?_
      obtain ⟨get' | get', found, static⟩ := alike.bound_getter bound
      · refine ⟨get', fun before => by simp only [Request.answer?, found]; rfl, ?_⟩
        simp only [read, withHost, found]
        exact (bind_pure _).symm
      · cases static
    | member get =>
      cases present : target.filter (!·.isNull) with
      | none =>
        refine calls_congr (fun b' alike => ?_) (calls_throw (.nullTarget m.label))
        obtain ⟨get' | get', found, static⟩ := alike.bound_getter bound
        · cases static
        · simp only [read, withHost, found, present]
      | some v =>
        refine calls_host (.getter m (some v)) id untargeted_injective fun b' alike => ?_
        obtain ⟨get' | get', found, static⟩ := alike.bound_getter bound
        · cases static
        · refine ⟨fun trace => get' trace v,
            fun before => by simp only [Request.answer?, found]; rfl, ?_⟩
          simp only [read, withHost, found, present]
          exact (bind_pure _).symm

theorem unbound_calls {m : Member} (unbound : b.methods.get? m.owner m.name = none)
    (target : Option Value) (arguments : List Value) :
    Calls b (m.methodSites b arguments.length) fun b' =>
      (ev.withHost b').invoke m target arguments := by
  -- no such host has the method, so the run is that of an empty one
  refine calls_congr (y := fun _ => ({} : Evaluator).invoke m target arguments)
    (fun b' alike => ?_) ?_
  · simp only [invoke, withHost, alike.no_method unbound]
    rfl
  · simp only [invoke, ByOwner.get?, List.lookup_nil, Option.bind_none]
    split
    · exact calls_throw _
    · split
      · split
        · exact calls_pure _
        · exact calls_throw _
      · exact calls_throw _
      · exact calls_throw _

theorem invoke_calls (m : Member) (target : Option Value) (arguments : List Value) :
    Calls b (m.methodSites b arguments.length) fun b' =>
      (ev.withHost b').invoke m target arguments := by
  cases bound : b.methods.get? m.owner m.name with
  | none => exact unbound_calls ev bound target arguments
  | some code =>
    rw [Member.methodSites_bound _ bound]
    cases code with
    | static code =>
      refine calls_host (.method m none arguments) (·, target) untargeted_injective
        fun b' alike => ?_
      obtain ⟨code' | code', found, static⟩ := alike.bound_method bound
      · refine ⟨fun trace => code' trace arguments,
          fun before => by simp only [Request.answer?, found]; rfl, ?_⟩
        simp only [invoke, withHost, found]
        rfl
      · cases static
    | member code =>
      cases present : target.filter (!·.isNull) with
      | none =>
        refine calls_congr (fun b' alike => ?_) (calls_throw (.nullTarget m.label))
        obtain ⟨code' | code', found, static⟩ := alike.bound_method bound
        · cases static
        · simp only [invoke, withHost, found, present]
      | some self =>
        refine calls_host (.method m (some self) arguments) targeted targeted_injective
          fun b' alike => ?_
        obtain ⟨code' | code', found, static⟩ := alike.bound_method bound
        · cases static
        · refine ⟨fun trace => code' trace self arguments,
            fun before => by simp only [Request.answer?, found]; rfl, ?_⟩
          simp only [invoke, withHost, found, present]
          rfl

theorem apply_calls (op : UnaryOp) (operandType t : DataType) (method : Option Member)
    (v : Value) :
    Calls b (methodSites? b method 1) fun b' => (ev.withHost b').apply op operandType t method v := by
  cases method with
  | some m => exact calls_then (invoke_calls ev m none [v]) fun _ => calls_pure _
  | none =>
    refine calls_congr (y := fun _ => ev.apply op operandType t none v) (fun b' _ => rfl) ?_
    unfold apply
    cases op with
    | cast checked =>
      dsimp only
      split
      · exact calls_pure _
      · exact calls_ofExcept _
    | _ => exact calls_ofExcept _

theorem default_calls (t : DataType) : Calls b [] fun b' => (ev.withHost b').default t := by
  have quiet : Calls b [] fun _ => (ev.withHost b).default t := calls_quiet fun before => rfl
  refine calls_congr (fun b' alike => ?_) quiet
  simp only [default, withHost, Bindings.default, alike.defaults]

theorem construct_calls (t : DataType) (constructor : Option Member) (arguments : List Value) :
    Calls b (methodSites? b constructor arguments.length) fun b' =>
      (ev.withHost b').construct t constructor arguments := by
  have same (b' : Bindings) (alike : b.Alike b') :
      (constructor.filter fun m => b'.hasMethod m.owner m.name)
        = constructor.filter fun m => b.hasMethod m.owner m.name := by
    simp only [alike.has_method]
  cases bound : constructor.filter fun m => b.hasMethod m.owner m.name with
  | some m =>
    have invoked : Calls b (methodSites? b constructor arguments.length) fun b' =>
        (ev.withHost b').invoke m none arguments >>= fun given => pure given.1 := by
      rw [(Option.filter_eq_some_iff.mp bound).1]
      exact calls_then (invoke_calls ev m none arguments) fun given => calls_pure given.1
    refine calls_congr (fun b' alike => ?_) invoked
    simp only [construct, withHost, same b' alike, bound]
  | none =>
    have defaulted : Calls b (methodSites? b constructor arguments.length) fun b' =>
        if arguments.isEmpty then (ev.withHost b').default t
        else throw (.expression (.noConstructor t)) := by
      split
      · exact calls_within (List.nil_sublist _) (default_calls ev t)
      · exact calls_throw _
    refine calls_congr (fun b' alike => ?_) defaulted
    simp only [construct, withHost, same b' alike, bound]

section
variable {eval : Bindings → Expr → Run Value} (below : ∀ e : Expr, Calls b (e.sites b) (eval · e))
include below

theorem each_calls {α : Type} {after : List Site} {f : Bindings → List Value → Run α}
    (es : List Expr)
    (later : ∀ vs : List Value, vs.length = es.length → Calls b after (f · vs)) :
    Calls b (Expr.sitesOfEach b es ++ after) fun b' => es.mapM (eval b') >>= f b' := by
  rw [Expr.sitesOfEach_eq_flatMap]
  exact calls_mapM_bind below es later

theorem fill_calls (additions : List (Member × List Expr)) (collection : Value) :
    Calls b (Expr.sitesOfAdditions b additions) fun b' =>
      (ev.withHost b').fill (eval b') collection additions := by
  induction additions generalizing collection with
  | nil => exact calls_pure collection
  | cons addition rest ih =>
    obtain ⟨m, arguments⟩ := addition
    rw [Expr.sitesOfAdditions, List.append_assoc]
    refine each_calls below arguments fun vs counted => ?_
    rw [← counted]
    exact calls_bind (invoke_calls ev m (some collection) vs) fun _ => ih _

theorem target_calls {α : Type} {after : List Site} {f : Bindings → Option Value → Run α}
    (target : Expr) (later : ∀ v, Calls b after (f · (some v))) :
    Calls b (target.sites b ++ after) fun b' => (some target).mapM (eval b') >>= f b' := by
  have inner (b' : Bindings) :
      (some target).mapM (eval b') = eval b' target >>= fun v => pure (some v) := rfl
  simp only [inner, bind_assoc, pure_bind]
  exact calls_bind (below target) fun v => later v

theorem step_calls (e : Expr) :
    Calls b (e.sites b) fun b' => (ev.withHost b').step (eval b') e := by
  cases e with
  | constant v t => exact calls_pure v
  | parameter name t => exact calls_throw _
  | member target m =>
    cases target with
    | none => exact read_calls ev none m
    | some target => exact target_calls below target fun v => read_calls ev (some v) m
  | construct t constructor arguments =>
    refine each_calls below arguments fun vs counted => ?_
    rw [← counted]
    exact construct_calls ev t constructor vs
  | array t items =>
    rw [Expr.sites, ← List.append_nil (Expr.sitesOfEach b items)]
    exact each_calls below items fun vs _ => calls_pure (Value.array vs)
  | arrayOfLength t length =>
    refine calls_then (below length) fun n => ?_
    split
    · exact calls_then (default_calls ev t) fun v => calls_pure _
    · exact calls_throw _
  | list t constructor arguments additions =>
    rw [Expr.sites, List.append_assoc]
    refine each_calls below arguments fun vs counted => ?_
    rw [← counted]
    exact calls_bind (construct_calls ev t constructor vs) fun v =>
      fill_calls ev below additions v
  | call target m arguments =>
    have operands (v : Option Value) :
        Calls b (Expr.sitesOfEach b arguments ++ m.methodSites b arguments.length) fun b' =>
          arguments.mapM (eval b') >>= fun vs =>
            (ev.withHost b').invoke m v vs >>= fun result => pure result.1 := by
      refine each_calls below arguments fun vs counted => ?_
      rw [← counted]
      exact calls_then (invoke_calls ev m v vs) fun _ => calls_pure _
    cases target with
    | none => exact operands none
    | some target =>
      rw [Expr.sites, List.append_assoc]
      exact target_calls below target fun v => operands (some v)
  | unary op operand t method =>
    exact calls_bind (below operand) fun v => apply_calls ev op operand.type t method v
  | binary op left right t method =>
    rw [Expr.sites, List.append_assoc]
    cases method with
    | none =>
      refine calls_bind (below left) fun l => ?_
      split
      · exact calls_pure _
      · exact calls_bind (below right) fun r => calls_ofExcept _
    | some m =>
      refine calls_bind (below left) fun l => calls_bind (below right) fun r => ?_
      exact calls_then (invoke_calls ev m none [l, r]) fun _ => calls_pure _
  | conditional test whenTrue whenFalse t =>
    rw [Expr.sites, List.append_assoc]
    refine calls_bind (below test) fun v => ?_
    split
    · exact calls_within (List.sublist_append_left _ _) (below whenTrue)
    · exact calls_within (List.sublist_append_right _ _) (below whenFalse)
    · exact calls_throw _
  | typeIs operand t => exact calls_then (below operand) fun v => calls_pure _
  | thunk t description code =>
    refine calls_host (.thunk description code) id untargeted_injective fun b' _ => ?_
    exact ⟨code.run, fun before => rfl, (bind_pure _).symm⟩

end

theorem eval_calls (e : Expr) : Calls b (e.sites b) fun b' => (ev.withHost b').eval e := by
  have within (levels : Nat) :
      ∀ e : Expr, Calls b (e.sites b) fun b' => (ev.withHost b').evalWithin levels e := by
    induction levels with
    | zero => exact fun e => calls_throw (.tooDeep ev.options.maxDepth)
    | succ levels ih => exact fun e => step_calls ev ih e
  exact within ev.options.maxDepth e

end ExprSql.Evaluator
