import LiveSnippet.Proofs.Script.Rules

/-!
# What a script leaves behind

An interpreter is used again and again: by the code before the templates, then by one code span
after another. What one script does to it is what the next one finds. Names that a script declares
in blocks and functions are gone behind it, whether it ends well or fails. The steps that it makes
are not: they are counted for all scripts of an interpreter together, and when they are used up,
none of them runs any more.

## Main definitions

* `Use`, `Interpreter.after`: what is done with an interpreter from outside

## Main results

* `Ends.steps_le`, `Ends.depth_add_le`, `Ends.steps_le_maxSteps`: what the rules keep to
* `Interpreter.scopes_restored`: the local scopes behind evaluations and runs
* `Interpreter.ends_within_limits`: every script ends, within the limits of calls and of steps
-/

namespace LiveSnippet.Script

/-! ### Steps and calls -/

theorem Stmt.steps_finish {stmt : Stmt} {site : Site} {v : Value} {s u : Interpreter}
    {r : Result (List Value)} (h : stmt.finish? site v s = some (r, u)) : u.steps = s.steps := by
  have hdeclare : ∀ name w, (s.declare name w).steps = s.steps := by
    intro name w
    rw [Interpreter.declare]
    split <;> rfl
  have hassign : ∀ name w, (s.assign name w).steps = s.steps := by
    intro name w
    rw [Interpreter.assign]
    split <;> rfl
  cases stmt with
  | declare name value =>
    cases h
    exact hdeclare name v
  | assign name op value =>
    rw [finish?] at h
    split at h
    · cases h
      exact hassign name _
    · cases h
      rfl
  | branch condition yes no => cases h
  | function name params body =>
    cases h
    exact hdeclare name _
  | result value | expr value =>
    cases h
    rfl

namespace Ends

variable {task : Task} {s t : Interpreter} {k : Nat} {r : Result (List Value)}

/-- The count of steps never decreases. -/
theorem steps_le (h : Ends task s k r t) : s.steps ≤ t.steps := by
  induction h with
  | exprStopped | stmtStopped => exact Nat.le_succ _
  | exprsNil | stmtsNil | tooDeep => exact Nat.le_refl _
  | exprsFail _ ih | leave _ _ ih | body _ _ ih => exact ih
  | operandsFail _ _ ih | conclude _ _ _ ih | operandFails _ _ _ ih => exact Nat.le_of_succ_le ih
  | goOn _ _ _ _ ih ih' | call _ _ _ _ ih ih' | branch _ _ _ ih ih' =>
    exact (Nat.le_of_succ_le ih).trans ih'
  | exprsCons _ _ ih ih' | next _ _ ih ih' => exact ih.trans ih'
  | finish _ _ _ hfinish ih =>
    rw [Stmt.steps_finish hfinish]
    exact Nat.le_of_succ_le ih
  | finishBare _ _ hfinish =>
    rw [Stmt.steps_finish hfinish]
    exact Nat.le_succ _

theorem depth_add_max_le {d d' m k l : Nat} (hd : d' = d) (hk : d + k ≤ m) (hl : d' + l ≤ m) :
    d + max k l ≤ m := by omega

/-- No more calls are nested than the limit allows for. -/
theorem depth_add_le (h : Ends task s k r t) (hs : s.depth ≤ maxCallDepth) :
    s.depth + k ≤ maxCallDepth := by
  induction h with
  | exprStopped | exprsNil | stmtStopped | finishBare | stmtsNil | tooDeep => exact hs
  | operandsFail _ _ ih | conclude _ _ _ ih | exprsFail _ ih | operandFails _ _ _ ih
  | finish _ _ _ _ ih | leave _ _ ih => exact ih hs
  | goOn _ hfirst _ _ ih ih' | call _ hfirst _ _ ih ih' | exprsCons hfirst _ ih ih'
  | branch _ hfirst _ ih ih' | next hfirst _ ih ih' =>
    have hdepth := hfirst.restores.2
    exact depth_add_max_le hdepth (ih hs) (ih' (hdepth.trans_le hs))
  | @body decl site args s k r t hdepth _ ih =>
    have hbody : s.depth + 1 + k ≤ maxCallDepth := ih hdepth
    omega

/-- A task that begins within the budget of steps stays within it, or ends because it is used up. -/
theorem steps_le_maxSteps (h : Ends task s k r t) (hs : s.steps ≤ maxSteps) :
    t.steps ≤ maxSteps ∨ r = .error .stepsExhausted := by
  induction h with
  | exprStopped | stmtStopped => exact .inr rfl
  | exprsNil | stmtsNil | tooDeep => exact .inl hs
  | operandsFail hsteps _ ih | operandFails hsteps _ _ ih => exact ih hsteps
  | conclude hsteps _ _ ih => exact (ih hsteps).imp_right nofun
  | goOn hsteps _ _ _ ih ih' | call hsteps _ _ _ ih ih' | branch hsteps _ _ ih ih' =>
    rcases ih hsteps with ht | ht
    · exact ih' ht
    · cases ht
  | exprsFail _ ih | leave _ _ ih => exact ih hs
  | exprsCons _ _ ih ih' =>
    rcases ih hs with ht | ht
    · exact (ih' ht).imp_right fun hr => by rw [hr]; rfl
    · cases ht
  | finish hsteps _ _ hfinish ih =>
    rw [Stmt.steps_finish hfinish]
    exact .inl ((ih hsteps).resolve_right nofun)
  | finishBare hsteps _ hfinish =>
    rw [Stmt.steps_finish hfinish]
    exact .inl hsteps
  | next _ _ ih ih' =>
    rcases ih hs with ht | ht
    · exact ih' ht
    · cases ht
  | body _ _ ih => exact (ih hs).imp_right fun hr => by rw [hr]; rfl

end Ends

/-! ### Evaluations and runs by the rules -/

namespace Interpreter

variable {s : Interpreter}

/-- An evaluation goes by the rules. -/
theorem ends_evaluate_iff {e : Expr} {r : Result (List Value)} {t : Interpreter} :
    (∃ k, Ends (.expr e) s k r t) ↔
      (r, t) = ((s.evaluate e).1.map fun v => [v], (s.evaluate e).2) := by
  rw [ends_iff rfl, Moment.outcome_expr]
  exact eq_comm

theorem hoist_eq (s : Interpreter) (p : Program) :
    s.hoist p = { s with globals := (s.hoist p).globals } := by
  rw [hoist]
  generalize p.functions = fs
  induction fs generalizing s with
  | nil => rfl
  | cons f fs ih => exact ih (s.setGlobal f.2.name (.function f.2 [f.1, s.runs]))

/-- The interpreter when a run is over. -/
def runOver (s : Interpreter) : Interpreter := { s with runs := s.runs + 1 }

theorem runOver_injective : Function.Injective runOver := by
  rintro ⟨globals, locals, depth, steps, runs⟩ ⟨globals', locals', depth', steps', runs'⟩ h
  simp only [runOver, mk.injEq, Nat.add_right_cancel_iff] at h
  simpa using h

/-- A run goes by the rules, behind the functions that it makes known. -/
theorem ends_run_iff {p : Program} {r : Result (List Value)} {t : Interpreter} :
    (∃ k, Ends (.stmts [s.runs] 0 p.stmts) (s.hoist p) k r t) ↔
      (r, t.runOver) = ((s.run p).1.map Option.toList, (s.run p).2) := by
  have hcalls : maxCallDepth - s.depth = maxCallDepth - (s.hoist p).depth := by rw [hoist_eq]
  obtain ⟨hr, ht⟩ := s.run_eq p
  have hover : (s.run p).2 = (s.start p).outcome.2.runOver := ht
  rw [ends_iff hcalls, hr, hover]
  constructor
  · intro h
    have houtcome : (s.start p).outcome = (r, t) := h
    rw [houtcome]
  · intro h
    obtain ⟨hvalues, hstate⟩ := Prod.mk.inj h
    exact Prod.ext hvalues.symm (runOver_injective hstate).symm

theorem exists_ends_evaluate (s : Interpreter) (e : Expr) :
    ∃ k, Ends (.expr e) s k ((s.evaluate e).1.map fun v => [v]) (s.evaluate e).2 :=
  ends_evaluate_iff.mpr rfl

theorem exists_ends_run (s : Interpreter) (p : Program) :
    ∃ k t, Ends (.stmts [s.runs] 0 p.stmts) (s.hoist p) k ((s.run p).1.map Option.toList) t ∧
      (s.run p).2 = t.runOver := by
  obtain ⟨hr, ht⟩ := s.run_eq p
  obtain ⟨k, h⟩ := (ends_run_iff (s := s) (p := p) (t := (s.start p).outcome.2)).mpr
    (Prod.ext rfl ht.symm)
  exact ⟨k, _, h, ht⟩

end Interpreter

/-! ### One use after another -/

/-- What is done with an interpreter from outside. -/
inductive Use
  | run (p : Program)
  | evaluate (e : Expr)
  | define (name : Text) (value : Value)

namespace Interpreter

variable {s : Interpreter}

/-- The interpreter behind a use of it. -/
def use (s : Interpreter) : Use → Interpreter
  | .run p => (s.run p).2
  | .evaluate e => (s.evaluate e).2
  | .define name value => s.setGlobal name value

/-- The interpreter behind some uses of it. -/
def after (s : Interpreter) (uses : List Use) : Interpreter := uses.foldl use s

theorem evaluate_restores (s : Interpreter) (e : Expr) :
    (s.evaluate e).2.locals = s.locals ∧ (s.evaluate e).2.depth = s.depth := by
  obtain ⟨k, h⟩ := s.exists_ends_evaluate e
  exact h.restores

theorem run_restores (s : Interpreter) (p : Program) :
    (s.run p).2.locals.length = s.locals.length ∧ (s.run p).2.depth = s.depth := by
  obtain ⟨k, t, h, ht⟩ := s.exists_ends_run p
  have hrestores := h.restores
  rw [hoist_eq] at hrestores
  rw [ht]
  exact hrestores

/-- No call is under way, so that no local name is known. -/
structure Idle (s : Interpreter) : Prop where
  locals : s.locals = []
  depth : s.depth = 0

theorem Idle.run (h : s.Idle) (p : Program) : (s.run p).2.Idle := by
  obtain ⟨hlocals, hdepth⟩ := s.run_restores p
  rw [h.locals] at hlocals
  exact ⟨List.length_eq_zero_iff.mp hlocals, hdepth.trans h.depth⟩

theorem Idle.use (h : s.Idle) (u : Use) : (s.use u).Idle := by
  cases u with
  | run p => exact h.run p
  | evaluate e =>
    obtain ⟨hlocals, hdepth⟩ := s.evaluate_restores e
    exact ⟨hlocals.trans h.locals, hdepth.trans h.depth⟩
  | define name value => exact ⟨h.locals, h.depth⟩

theorem Idle.after (h : s.Idle) (uses : List Use) : (s.after uses).Idle := by
  induction uses generalizing s with
  | nil => exact h
  | cons u uses ih => exact ih (h.use u)

theorem Idle.lookup?_eq (h : s.Idle) (name : Text) : s.lookup? name = s.global? name := by
  rw [lookup?, h.locals]
  rfl

/-- **Scopes.** An evaluation, whether it gives a value or fails, leaves the local scopes and the
depth of calls as they were. Behind a run that began without local scopes there are none, so that
whatever is done next, and after any number of such uses, knows global names only. -/
theorem scopes_restored :
    (∀ (s : Interpreter) (e : Expr),
      (s.evaluate e).2.locals = s.locals ∧ (s.evaluate e).2.depth = s.depth) ∧
    ∀ s : Interpreter, s.locals = [] → s.depth = 0 →
      (∀ p : Program, (s.run p).2.locals = [] ∧ (s.run p).2.depth = 0) ∧
      ∀ (uses : List Use) (name : Text), (s.after uses).locals = [] ∧ (s.after uses).depth = 0 ∧
        (s.after uses).lookup? name = (s.after uses).global? name := by
  refine ⟨evaluate_restores, fun s hlocals hdepth => ?_⟩
  have hidle : s.Idle := ⟨hlocals, hdepth⟩
  refine ⟨fun p => ⟨(hidle.run p).locals, (hidle.run p).depth⟩, fun uses name => ?_⟩
  have hafter := hidle.after uses
  exact ⟨hafter.locals, hafter.depth, hafter.lookup?_eq name⟩

/-- The program `function f(a) { if (a) { let b = c } }; f(true)`. -/
def failing : Program :=
  ⟨[.function ['f'] [['a']] [.branch (.ident ['a']) [.declare ['b'] (some (.ident ['c']))] []],
    .expr (.call (.ident ['f']) [.literal (.bool true)])]⟩

/-- An error in a block of a function: neither the block nor the call leaves a scope behind, and
what is evaluated next does not know the parameter. -/
theorem scopes_restored_failing :
    (new.run failing).1 = .error (.undefinedName ['c']) ∧
      new.locals = [] ∧ new.depth = 0 ∧
      (new.run failing).2.locals = [] ∧ (new.run failing).2.depth = 0 ∧
      ((new.after [.run failing]).evaluate (.ident ['a'])).1 = .error (.undefinedName ['a']) ∧
      (new.after [.run failing]).lookup? ['a'] = (new.after [.run failing]).global? ['a'] := by
  obtain ⟨hrun, hafter⟩ := scopes_restored.2 new rfl rfl
  exact ⟨rfl, rfl, rfl, (hrun failing).1, (hrun failing).2, rfl,
    (hafter [.run failing] ['a']).2.2⟩

theorem steps_le_use (s : Interpreter) (u : Use) : s.steps ≤ (s.use u).steps := by
  cases u with
  | run p =>
    obtain ⟨k, t, h, ht⟩ := s.exists_ends_run p
    have hsteps := h.steps_le
    rw [hoist_eq] at hsteps
    change s.steps ≤ (s.run p).2.steps
    rw [ht]
    exact hsteps
  | evaluate e =>
    obtain ⟨k, h⟩ := s.exists_ends_evaluate e
    exact h.steps_le
  | define name value => exact Nat.le_refl _

theorem steps_le_after (s : Interpreter) (uses : List Use) : s.steps ≤ (s.after uses).steps := by
  induction uses generalizing s with
  | nil => exact Nat.le_refl _
  | cons u uses ih => exact (s.steps_le_use u).trans (ih (s.use u))

theorem eq_error_of_map {α β : Type} {r : Result α} {f : α → β} {x : RuntimeError}
    (h : r.map f = .error x) : r = .error x := by
  cases r with
  | error y =>
    cases h
    rfl
  | ok a => cases h

/-- An evaluation on an interpreter whose steps are used up fails. -/
theorem evaluate_exhausted (hs : maxSteps < s.steps) (e : Expr) :
    (s.evaluate e).1 = .error .stepsExhausted := by
  have hends : Ends (.expr e) s 0 (.error .stepsExhausted) s.ticked := .exprStopped hs.le
  exact eq_error_of_map (Prod.mk.inj (ends_evaluate_iff.mp ⟨0, hends⟩)).1.symm

/-- A run of a program that is not empty fails then, too. -/
theorem run_exhausted (hs : maxSteps < s.steps) {p : Program} (hp : p.stmts ≠ []) :
    (s.run p).1 = .error .stepsExhausted := by
  obtain ⟨stmt, stmts, hcons⟩ := List.exists_cons_of_ne_nil hp
  have hsteps : maxSteps ≤ (s.hoist p).steps := by
    rw [hoist_eq]
    exact hs.le
  have hends : Ends (.stmts [s.runs] 0 p.stmts) (s.hoist p) 0 (.error .stepsExhausted)
      (s.hoist p).ticked := by
    rw [hcons]
    exact .leave (.stmtStopped hsteps) nofun
  exact eq_error_of_map (Prod.mk.inj (ends_run_iff.mp ⟨0, hends⟩)).1.symm

/-- An evaluation that gives a value has not used up the steps. -/
theorem steps_evaluate_le {e : Expr} {v : Value} (h : (s.evaluate e).1 = .ok v) :
    (s.evaluate e).2.steps ≤ maxSteps := by
  have hs : s.steps ≤ maxSteps := by
    by_contra hs
    rw [evaluate_exhausted (Nat.lt_of_not_le hs)] at h
    cases h
  obtain ⟨k, hends⟩ := s.exists_ends_evaluate e
  rw [h] at hends
  exact (hends.steps_le_maxSteps hs).resolve_right nofun

theorem steps_run_le {p : Program} (hp : p.stmts ≠ []) {v : Option Value}
    (h : (s.run p).1 = .ok v) : (s.run p).2.steps ≤ maxSteps := by
  have hs : s.steps ≤ maxSteps := by
    by_contra hs
    rw [run_exhausted (Nat.lt_of_not_le hs) hp] at h
    cases h
  have hhoist : (s.hoist p).steps ≤ maxSteps := by
    rw [hoist_eq]
    exact hs
  obtain ⟨k, t, hends, ht⟩ := s.exists_ends_run p
  rw [h] at hends
  rw [ht]
  exact (hends.steps_le_maxSteps hhoist).resolve_right nofun

/-- **Limits.** Every expression and every program ends by the rules, in one way only, which is the
one that the interpreter gives; whatever is done on the way, no more calls are nested than the limit
allows for, and the count of steps never decreases. What ends well has not used up the steps. Once
they are used up, everything fails that is evaluated or run later on, an empty program apart. -/
theorem ends_within_limits (s : Interpreter) :
    (∀ e r t, (∃ k, Ends (.expr e) s k r t) ↔
      (r, t) = ((s.evaluate e).1.map fun v => [v], (s.evaluate e).2)) ∧
    (∀ p r t, (∃ k, Ends (.stmts [s.runs] 0 p.stmts) (s.hoist p) k r t) ↔
      (r, t.runOver) = ((s.run p).1.map Option.toList, (s.run p).2)) ∧
    (∀ task t k r u, Ends task t k r u →
      (t.depth ≤ maxCallDepth → t.depth + k ≤ maxCallDepth) ∧ t.steps ≤ u.steps) ∧
    (∀ e v, (s.evaluate e).1 = .ok v → (s.evaluate e).2.steps ≤ maxSteps) ∧
    (∀ p v, p.stmts ≠ [] → (s.run p).1 = .ok v → (s.run p).2.steps ≤ maxSteps) ∧
    (maxSteps < s.steps → ∀ uses,
      (∀ e, ((s.after uses).evaluate e).1 = .error .stepsExhausted) ∧
      ∀ p, p.stmts ≠ [] → ((s.after uses).run p).1 = .error .stepsExhausted) := by
  refine ⟨fun e r t => ends_evaluate_iff, fun p r t => ends_run_iff,
    fun task t k r u h => ⟨h.depth_add_le, h.steps_le⟩, fun e v => steps_evaluate_le,
    fun p v hp => steps_run_le hp, fun hs uses => ?_⟩
  have hafter : maxSteps < (s.after uses).steps := hs.trans_le (s.steps_le_after uses)
  exact ⟨evaluate_exhausted hafter, fun p hp => run_exhausted hafter hp⟩

/-- The program `function f() { return f() }; return f()`. -/
def recursing : Program :=
  ⟨[.function ['f'] [] [.result (some (.call (.ident ['f']) []))],
    .result (some (.call (.ident ['f']) []))]⟩

/-- A new interpreter whose steps are used up. -/
def spent : Interpreter := { new with steps := maxSteps + 1 }

/-- A function that always calls itself is stopped by the limit of calls, and any program by the
limit of steps. -/
theorem ends_within_limits_recursing :
    (∃ k t, Ends (.stmts [0] 0 recursing.stmts) (new.hoist recursing) k
      (.error (.callDepthExceeded ['f'])) t ∧ k ≤ maxCallDepth) ∧
    maxSteps < spent.steps ∧
    ((spent.after [.evaluate (.ident ['f'])]).run recursing).1 = .error .stepsExhausted := by
  have hrun : (new.run recursing).1 = .error (.callDepthExceeded ['f']) :=
    eq_error_of_map (f := fun _ => ()) (by decide +kernel)
  obtain ⟨t, ht⟩ : ∃ t : Interpreter, t.runOver = (new.run recursing).2 :=
    ⟨(new.start recursing).outcome.2, (new.run_eq recursing).2.symm⟩
  obtain ⟨-, hruns, hends, -⟩ := ends_within_limits new
  obtain ⟨k, hk⟩ :=
    (hruns recursing (.error (.callDepthExceeded ['f'])) t).mpr (by rw [hrun, ht]; rfl)
  have hdepth : (new.hoist recursing).depth = 0 := by rw [hoist_eq]; rfl
  have hnested := (hends _ _ k _ _ hk).1
  rw [hdepth, Nat.zero_add] at hnested
  have hspent : maxSteps < spent.steps := Nat.lt_succ_self maxSteps
  obtain ⟨-, -, -, -, -, hlater⟩ := ends_within_limits spent
  exact ⟨⟨k, t, hk, hnested (Nat.zero_le _)⟩, hspent, (hlater hspent _).2 recursing nofun⟩

end Interpreter

end LiveSnippet.Script
