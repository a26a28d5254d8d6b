import LiveSnippet.Proofs.Script.Moments

/-!
# The rules of evaluation

What a script comes to, told by rules. The interpreter recurs on the tree and on the calls that may
still be nested; the rules have no such bound. They know only what the script knows itself: a step
is refused when the steps are used up, and a call when the calls are nested too deep. That every
task comes to an end by the rules is therefore a fact about scripts, and not about the way in which
they are run here.

A function is reached through values, so the tree does not bound the evaluation. What does is the
number of calls that may still be nested, and within a call the size of what is left to be done.

## Main definitions

* `Ends`: the rules, with the number of calls that are nested in each other
* `Task.Restores`: what a task may do to the local scopes

## Main results

* `Ends.restores`: a task returns to the scopes and to the depth that it began with
* `exists_ends`: every task ends
* `ends_iff`: it ends in one way only, which is what the interpreter gives
-/

namespace LiveSnippet.Script

/-! ### The rules -/

/-- What an assignment of a value gives to a name. -/
def Interpreter.assigned (s : Interpreter) (op : AssignOp) (name : Text) (v : Value) :
    Result Value :=
  match op.binary? with
  | none => .ok v
  | some op' => (s.read name).bind fun old => old.combine op' v

/-- What a conclusion comes down to in a state; `none` if more is to be evaluated for it. -/
def Conclusion.result? (s : Interpreter) : Conclusion → Option (Result Value)
  | give v => some (.ok v)
  | fail e => some (.error e)
  | lookup name => some (s.read name)
  | perform o => some o.result
  | goOn _ => none
  | call .. => none

/-- How a statement ends in a state when its operand has a value; `none` if statements inside it are
to be executed. -/
def Stmt.finish? (site : Site) (v : Value) (s : Interpreter) :
    Stmt → Option (Result (List Value) × Interpreter)
  | declare name _ => some (.ok [], s.declare name v)
  | assign name op _ =>
    match s.assigned op name v with
    | .ok u => some (.ok [], s.assign name u)
    | .error e => some (.error e, s)
  | branch .. => none
  | function name params body => some (.ok [], s.declare name (.function ⟨name, params, body⟩ site))
  | result _ => some (.ok [v], s)
  | expr _ => some (.ok [], s)

theorem Stmt.eq_branch_of_finish? {stmt : Stmt} {site : Site} {v : Value} {s : Interpreter}
    (h : stmt.finish? site v s = none) : ∃ condition yes no, stmt = .branch condition yes no := by
  cases stmt with
  | branch condition yes no => exact ⟨condition, yes, no, rfl⟩
  | assign name op value =>
    rw [finish?] at h
    split at h <;> cases h
  | _ => cases h

/-- A task that begins in a state ends with values or with an error, and in another state. In
between, the given number of calls are nested in each other. -/
inductive Ends : Task → Interpreter → Nat → Result (List Value) → Interpreter → Prop
  | exprStopped {e s} (hsteps : maxSteps ≤ s.steps) :
    Ends (.expr e) s 0 (.error .stepsExhausted) s.ticked
  | operandsFail {e s k x t} (hsteps : s.steps < maxSteps)
    (hoperands : Ends (.exprs e.operands) s.ticked k (.error x) t) :
    Ends (.expr e) s k (.error x) t
  | conclude {e s k vs t r} (hsteps : s.steps < maxSteps)
    (hoperands : Ends (.exprs e.operands) s.ticked k (.ok vs) t)
    (hresult : (e.conclusion vs).result? t = some r) :
    Ends (.expr e) s k (r.map fun v => [v]) t
  | goOn {e s k vs t e' l r u} (hsteps : s.steps < maxSteps)
    (hoperands : Ends (.exprs e.operands) s.ticked k (.ok vs) t)
    (hgoOn : e.conclusion vs = .goOn e') (hrest : Ends (.expr e') t l r u) :
    Ends (.expr e) s (max k l) r u
  | call {e s k vs t decl site args l r u} (hsteps : s.steps < maxSteps)
    (hoperands : Ends (.exprs e.operands) s.ticked k (.ok vs) t)
    (hcall : e.conclusion vs = .call decl site args)
    (hcalled : Ends (.call decl site args) t l r u) :
    Ends (.expr e) s (max k l) r u
  | exprsNil {s} : Ends (.exprs []) s 0 (.ok []) s
  | exprsFail {e es s k x t} (hfirst : Ends (.expr e) s k (.error x) t) :
    Ends (.exprs (e :: es)) s k (.error x) t
  | exprsCons {e es s k v t l r u} (hfirst : Ends (.expr e) s k (.ok [v]) t)
    (hrest : Ends (.exprs es) t l r u) :
    Ends (.exprs (e :: es)) s (max k l) (r.map fun vs => v :: vs) u
  | stmtStopped {site stmt s} (hsteps : maxSteps ≤ s.steps) :
    Ends (.stmt site stmt) s 0 (.error .stepsExhausted) s.ticked
  | operandFails {site stmt e s k x t} (hsteps : s.steps < maxSteps) (he : stmt.operand? = some e)
    (hoperand : Ends (.expr e) s.ticked k (.error x) t) :
    Ends (.stmt site stmt) s k (.error x) t
  | finish {site stmt e s k v t r u} (hsteps : s.steps < maxSteps) (he : stmt.operand? = some e)
    (hoperand : Ends (.expr e) s.ticked k (.ok [v]) t)
    (hfinish : stmt.finish? site v t = some (r, u)) :
    Ends (.stmt site stmt) s k r u
  | finishBare {site stmt s r u} (hsteps : s.steps < maxSteps) (he : stmt.operand? = none)
    (hfinish : stmt.finish? site .null s.ticked = some (r, u)) :
    Ends (.stmt site stmt) s 0 r u
  | branch {site condition yes no s k v t l r u} (hsteps : s.steps < maxSteps)
    (hcondition : Ends (.expr condition) s.ticked k (.ok [v]) t)
    (hblock : Ends (.stmts ((if v.truthy then 0 else 1) :: site) 0 (if v.truthy then yes else no))
      { t with locals := [] :: t.locals } l r u) :
    Ends (.stmt site (.branch condition yes no)) s (max k l) r { u with locals := u.locals.tail }
  | stmtsNil {parent i s} : Ends (.stmts parent i []) s 0 (.ok []) s
  | leave {parent i stmt stmts s k r t} (hfirst : Ends (.stmt (i :: parent) stmt) s k r t)
    (hr : r ≠ .ok []) :
    Ends (.stmts parent i (stmt :: stmts)) s k r t
  | next {parent i stmt stmts s k t l r u} (hfirst : Ends (.stmt (i :: parent) stmt) s k (.ok []) t)
    (hrest : Ends (.stmts parent (i + 1) stmts) t l r u) :
    Ends (.stmts parent i (stmt :: stmts)) s (max k l) r u
  | tooDeep {decl site args s} (hdepth : maxCallDepth ≤ s.depth) :
    Ends (.call decl site args) s 0 (.error (.callDepthExceeded decl.name)) s
  | body {decl site args s k r t} (hdepth : s.depth < maxCallDepth)
    (hbody : Ends (.stmts site 0 decl.body)
      { s with locals := [Scope.ofParams decl.params args []], depth := s.depth + 1 } k r t) :
    Ends (.call decl site args) s (k + 1) (r.map fun vs => [vs.headD .null])
      { t with locals := s.locals, depth := t.depth - 1 }

/-! ### Scopes -/

namespace Interpreter

variable {s : Interpreter} {name : Text} {v : Value}

theorem length_locals_declare : (s.declare name v).locals.length = s.locals.length := by
  rw [declare]
  split
  · rfl
  · rename_i scope rest hlocals
    rw [hlocals]
    rfl

theorem length_assignLocal {scopes scopes' : List Scope}
    (h : assignLocal? name v scopes = some scopes') : scopes'.length = scopes.length := by
  induction scopes generalizing scopes' with
  | nil => cases h
  | cons scope scopes ih =>
    rw [assignLocal?] at h
    split_ifs at h
    · cases h
      rfl
    · obtain ⟨rest, hrest, rfl⟩ := Option.map_eq_some_iff.mp h
      exact congrArg (· + 1) (ih hrest)

theorem length_locals_assign : (s.assign name v).locals.length = s.locals.length := by
  rw [assign]
  split
  · rename_i locals hlocals
    exact length_assignLocal hlocals
  · rfl

theorem depth_declare : (s.declare name v).depth = s.depth := by
  rw [declare]
  split <;> rfl

theorem depth_assign : (s.assign name v).depth = s.depth := by
  rw [assign]
  split <;> rfl

end Interpreter

/-- What a task may do to the local scopes. A statement may change them, but each is still there
behind it; anything else leaves them as they are. -/
def Task.Restores : Task → List Scope → List Scope → Prop
  | stmt .., before, after => after.length = before.length
  | stmts .., before, after => after.length = before.length
  | _, before, after => after = before

theorem Stmt.restores_finish {stmt : Stmt} {site : Site} {v : Value} {s u : Interpreter}
    {r : Result (List Value)} (h : stmt.finish? site v s = some (r, u)) :
    u.locals.length = s.locals.length ∧ u.depth = s.depth := by
  cases stmt with
  | declare name value =>
    cases h
    exact ⟨Interpreter.length_locals_declare, Interpreter.depth_declare⟩
  | assign name op value =>
    rw [finish?] at h
    split at h
    · cases h
      exact ⟨Interpreter.length_locals_assign, Interpreter.depth_assign⟩
    · cases h
      exact ⟨rfl, rfl⟩
  | branch condition yes no => cases h
  | function name params body =>
    cases h
    exact ⟨Interpreter.length_locals_declare, Interpreter.depth_declare⟩
  | result value =>
    cases h
    exact ⟨rfl, rfl⟩
  | expr value =>
    cases h
    exact ⟨rfl, rfl⟩

/-- A task returns to the scopes and to the depth that it began with, whether it ends with values or
with an error. -/
theorem Ends.restores {task : Task} {s t : Interpreter} {k : Nat} {r : Result (List Value)}
    (h : Ends task s k r t) : task.Restores s.locals t.locals ∧ t.depth = s.depth := by
  induction h with
  | exprStopped | exprsNil | stmtStopped | stmtsNil | tooDeep => exact ⟨rfl, rfl⟩
  | operandsFail _ _ ih | conclude _ _ _ ih | exprsFail _ ih | leave _ _ ih => exact ih
  | goOn _ _ _ _ ih ih' | call _ _ _ _ ih ih' | exprsCons _ _ ih ih' =>
    exact ⟨ih'.1.trans ih.1, ih'.2.trans ih.2⟩
  | next _ _ ih ih' => exact ⟨Eq.trans ih'.1 ih.1, ih'.2.trans ih.2⟩
  | operandFails _ _ _ ih => exact ⟨congrArg List.length ih.1, ih.2⟩
  | finish _ _ _ hfinish ih =>
    obtain ⟨hlocals, hdepth⟩ := Stmt.restores_finish hfinish
    exact ⟨hlocals.trans (congrArg List.length ih.1), hdepth.trans ih.2⟩
  | finishBare _ _ hfinish =>
    obtain ⟨hlocals, hdepth⟩ := Stmt.restores_finish hfinish
    exact ⟨hlocals, hdepth⟩
  | @branch _ _ _ _ s _ _ t _ _ u _ _ _ ih ih' =>
    have hlength : u.locals.tail.length = t.locals.length := by
      rw [List.length_tail, show u.locals.length = t.locals.length + 1 from ih'.1]
      rfl
    exact ⟨hlength.trans (congrArg List.length ih.1), ih'.2.trans ih.2⟩
  | body _ _ ih => exact ⟨rfl, by rw [ih.2]; rfl⟩

/-- As many calls are left behind a task as in front of it. -/
theorem Ends.calls_eq {task : Task} {s t : Interpreter} {k n : Nat} {r : Result (List Value)}
    (h : Ends task s k r t) (hn : n = maxCallDepth - s.depth) : n = maxCallDepth - t.depth := by
  rw [h.restores.2, hn]

/-! ### The interpreter follows the rules -/

theorem Eval.run_map {α β : Type} (m : Eval α) (f : α → β) (s : Interpreter) :
    (m >>= fun a => pure (f a)).run s = ((m.run s).1.map f, (m.run s).2) := by
  rw [run_bind]
  rcases m.run s with ⟨e | a, t⟩ <;> rfl

theorem Eval.run_assigned (op : AssignOp) (name : Text) (v : Value) (s : Interpreter) :
    (Script.assigned op name v).run s = (s.assigned op name v, s) := by
  cases op with
  | set => rfl
  | _ =>
    rw [Script.assigned, run_bind, run_lookup, Interpreter.assigned]
    cases s.read name <;> rfl

theorem Eval.run_inFrame {α : Type} (frame : Scope) (m : Eval α) (s : Interpreter) :
    (inFrame frame m).run s =
      ((m.run { s with locals := [frame], depth := s.depth + 1 }).1,
        { (m.run { s with locals := [frame], depth := s.depth + 1 }).2 with
          locals := s.locals
          depth := (m.run { s with locals := [frame], depth := s.depth + 1 }).2.depth - 1 }) := rfl

theorem Conclusion.run_of_result? {c : Conclusion} {s : Interpreter} {r : Result Value}
    (h : c.result? s = some r) (caller : Caller) : (c.run caller).run s = (r, s) := by
  cases c with
  | lookup name =>
    cases h
    exact Eval.run_lookup name s
  | goOn e => cases h
  | call decl site args => cases h
  | _ =>
    cases h
    rfl

namespace Moment

variable {n : Nat} {s t : Interpreter}

theorem outcome_expr (n : Nat) (e : Expr) (s : Interpreter) :
    outcome ⟨n, .expr e, s⟩ =
      (((eval (callWith n) e).run s).1.map fun v => [v], ((eval (callWith n) e).run s).2) :=
  Eval.run_map _ _ s

theorem outcome_stmt (n : Nat) (site : Site) (stmt : Stmt) (s : Interpreter) :
    outcome ⟨n, .stmt site stmt, s⟩ =
      (((exec (callWith n) site stmt).run s).1.map Flow.values,
        ((exec (callWith n) site stmt).run s).2) :=
  Eval.run_map _ _ s

theorem outcome_stmts (n : Nat) (parent : Site) (i : Nat) (stmts : List Stmt) (s : Interpreter) :
    outcome ⟨n, .stmts parent i stmts, s⟩ =
      (((execAll (callWith n) parent i stmts).run s).1.map Flow.values,
        ((execAll (callWith n) parent i stmts).run s).2) :=
  Eval.run_map _ _ s

theorem outcome_call (n : Nat) (decl : FunctionDecl) (site : Site) (args : List Value)
    (s : Interpreter) :
    outcome ⟨n, .call decl site args, s⟩ =
      (((callWith n decl site args).run s).1.map fun v => [v],
        ((callWith n decl site args).run s).2) :=
  Eval.run_map _ _ s

/-- An expression whose operands have values comes to what its conclusion comes to. -/
theorem outcome_expr_of_operands {e : Expr} {vs : List Value} (hsteps : s.steps < maxSteps)
    (h : outcome ⟨n, .exprs e.operands, s.ticked⟩ = (.ok vs, t)) :
    outcome ⟨n, .expr e, s⟩ =
      ((((e.conclusion vs).run (callWith n)).run t).1.map fun v => [v],
        (((e.conclusion vs).run (callWith n)).run t).2) := by
  have hvs : (evalAll (callWith n) e.operands).run s.ticked = (.ok vs, t) := h
  rw [outcome_expr, eval_eq, Eval.run_tick_bind, if_pos hsteps, Eval.run_bind_of_ok hvs]

end Moment

/-- The two ways in which a computation can have ended. -/
theorem Eval.exists_run_of_map {α β : Type} {m : Eval α} {f : α → β} {s t : Interpreter} {b : β}
    (h : (m >>= fun a => pure (f a)).run s = (.ok b, t)) : ∃ a, f a = b ∧ m.run s = (.ok a, t) := by
  rw [run_map] at h
  rcases hrun : m.run s with ⟨e | a, t'⟩
  · rw [hrun] at h
    cases h
  · rw [hrun] at h
    cases h
    exact ⟨a, rfl, rfl⟩

theorem Eval.run_of_map_error {α β : Type} {m : Eval α} {f : α → β} {s t : Interpreter}
    {x : RuntimeError} (h : (m >>= fun a => pure (f a)).run s = (.error x, t)) :
    m.run s = (.error x, t) := by
  rw [run_map] at h
  rcases hrun : m.run s with ⟨e | a, t'⟩
  · rw [hrun] at h
    cases h
    rfl
  · rw [hrun] at h
    cases h

section Follows

variable {n : Nat} {s t u : Interpreter} {site : Site} {stmt : Stmt} {e : Expr} {v : Value}
  {r : Result (List Value)}

theorem eval_of_outcome (h : Moment.outcome ⟨n, .expr e, s⟩ = (.ok [v], t)) :
    (eval (callWith n) e).run s = (.ok v, t) := by
  obtain ⟨v', hv', hrun⟩ := Eval.exists_run_of_map h
  cases hv'
  exact hrun

/-- A statement with an operand ends as it does with the value of the operand. -/
theorem outcome_of_finish (hsteps : s.steps < maxSteps) (he : stmt.operand? = some e)
    (hrun : (eval (callWith n) e).run s.ticked = (.ok v, t))
    (hfinish : stmt.finish? site v t = some (r, u)) :
    Moment.outcome ⟨n, .stmt site stmt, s⟩ = (r, u) := by
  rw [Moment.outcome_stmt]
  cases stmt with
  | declare name value =>
    cases he
    cases hfinish
    rw [exec, Eval.run_tick_bind, if_pos hsteps, evalOption, Eval.run_bind_of_ok hrun]
    rfl
  | assign name op value =>
    cases he
    rw [exec, Eval.run_tick_bind, if_pos hsteps, Eval.run_bind_of_ok hrun, Eval.run_bind,
      Eval.run_assigned]
    rw [Stmt.finish?] at hfinish
    cases hassigned : t.assigned op name v with
    | error x =>
      rw [hassigned] at hfinish
      cases hfinish
      rfl
    | ok w =>
      rw [hassigned] at hfinish
      cases hfinish
      rfl
  | branch condition yes no => cases hfinish
  | function name params body => cases he
  | result value =>
    cases he
    cases hfinish
    rw [exec, Eval.run_tick_bind, if_pos hsteps, evalOption, Eval.run_bind_of_ok hrun]
    rfl
  | expr value =>
    cases he
    cases hfinish
    rw [exec, Eval.run_tick_bind, if_pos hsteps, Eval.run_bind_of_ok hrun]
    rfl

theorem outcome_of_finishBare (hsteps : s.steps < maxSteps) (he : stmt.operand? = none)
    (hfinish : stmt.finish? site .null s.ticked = some (r, u)) :
    Moment.outcome ⟨n, .stmt site stmt, s⟩ = (r, u) := by
  rw [Moment.outcome_stmt]
  cases stmt with
  | declare name value | result value =>
    cases he
    cases hfinish
    rw [exec, Eval.run_tick_bind, if_pos hsteps]
    rfl
  | function name params body =>
    cases hfinish
    rw [exec, Eval.run_tick_bind, if_pos hsteps]
    rfl
  | assign | branch | expr => cases he

theorem outcome_of_operandFails {x : RuntimeError} (hsteps : s.steps < maxSteps)
    (he : stmt.operand? = some e) (hrun : (eval (callWith n) e).run s.ticked = (.error x, t)) :
    Moment.outcome ⟨n, .stmt site stmt, s⟩ = (.error x, t) := by
  rw [Moment.outcome_stmt]
  cases stmt with
  | function name params body => cases he
  | declare name value | result value =>
    cases he
    rw [exec, Eval.run_tick_bind, if_pos hsteps, evalOption, Eval.run_bind, hrun]
    rfl
  | assign | branch | expr =>
    cases he
    rw [exec, Eval.run_tick_bind, if_pos hsteps, Eval.run_bind, hrun]
    rfl

theorem outcome_of_branch {condition : Expr} {yes no : List Stmt} (hsteps : s.steps < maxSteps)
    (hrun : (eval (callWith n) condition).run s.ticked = (.ok v, t))
    (hblock : Moment.outcome ⟨n, .stmts ((if v.truthy then 0 else 1) :: site) 0
      (if v.truthy then yes else no), { t with locals := [] :: t.locals }⟩ = (r, u)) :
    Moment.outcome ⟨n, .stmt site (.branch condition yes no), s⟩ =
      (r, { u with locals := u.locals.tail }) := by
  rw [Moment.outcome_stmts] at hblock
  rw [Moment.outcome_stmt, exec, Eval.run_tick_bind, if_pos hsteps, Eval.run_bind_of_ok hrun]
  cases htruthy : v.truthy with
  | true =>
    rw [htruthy] at hblock
    cases hblock
    rfl
  | false =>
    rw [htruthy] at hblock
    cases hblock
    rfl

end Follows

/-- What the body of a function comes to is what the call comes to. -/
theorem outcome_of_body {n : Nat} {decl : FunctionDecl} {site : Site} {args : List Value}
    {s t : Interpreter} {r : Result (List Value)}
    (hbody : Moment.outcome ⟨n, .stmts site 0 decl.body,
      { s with locals := [Scope.ofParams decl.params args []], depth := s.depth + 1 }⟩ = (r, t)) :
    Moment.outcome ⟨n + 1, .call decl site args, s⟩ =
      (r.map fun vs => [vs.headD .null], { t with locals := s.locals, depth := t.depth - 1 }) := by
  rw [Moment.outcome_call]
  cases r with
  | error x =>
    rw [callWith, Eval.run_inFrame, Eval.run_bind, Eval.run_of_map_error hbody]
    rfl
  | ok vs =>
    obtain ⟨flow, hflow, hrun⟩ := Eval.exists_run_of_map hbody
    rw [callWith, Eval.run_inFrame, Eval.run_bind_of_ok hrun, ← hflow]
    cases flow <;> rfl

/-- What ends by the rules ends so in the interpreter, with as many calls left as the depth says. -/
theorem Ends.outcome_eq {task : Task} {s t : Interpreter} {k n : Nat} {r : Result (List Value)}
    (h : Ends task s k r t) (hn : n = maxCallDepth - s.depth) :
    Moment.outcome ⟨n, task, s⟩ = (r, t) := by
  induction h generalizing n with
  | exprStopped hsteps =>
    rw [Moment.outcome_expr, eval_eq, Eval.run_tick_bind, if_neg (Nat.not_lt.mpr hsteps)]
    rfl
  | @operandsFail e s k x t hsteps _ ih =>
    have hrun : (evalAll (callWith n) e.operands).run s.ticked = (.error x, t) := ih hn
    rw [Moment.outcome_expr, eval_eq, Eval.run_tick_bind, if_pos hsteps, Eval.run_bind, hrun]
    rfl
  | conclude hsteps _ hresult ih =>
    rw [Moment.outcome_expr_of_operands hsteps (ih hn), Conclusion.run_of_result? hresult]
  | goOn hsteps hoperands hgoOn _ ih ih' =>
    rw [Moment.outcome_expr_of_operands hsteps (ih hn), hgoOn]
    exact (Moment.outcome_expr _ _ _).symm.trans (ih' (hoperands.calls_eq hn))
  | call hsteps hoperands hcall _ ih ih' =>
    rw [Moment.outcome_expr_of_operands hsteps (ih hn), hcall]
    exact (Moment.outcome_call _ _ _ _ _).symm.trans (ih' (hoperands.calls_eq hn))
  | exprsNil => rfl
  | @exprsFail e es s k x t _ ih =>
    change (evalAll (callWith n) (e :: es)).run s = _
    rw [evalAll, Eval.run_bind, Eval.run_of_map_error (ih hn)]
  | @exprsCons e es s k v t l r u hfirst _ ih ih' =>
    have hrest : (evalAll (callWith n) es).run t = (r, u) := ih' (hfirst.calls_eq hn)
    change (evalAll (callWith n) (e :: es)).run s = _
    rw [evalAll, Eval.run_bind_of_ok (eval_of_outcome (ih hn)), Eval.run_map, hrest]
  | @stmtStopped site stmt s hsteps =>
    rw [Moment.outcome_stmt]
    cases stmt <;> rw [exec, Eval.run_tick_bind, if_neg (Nat.not_lt.mpr hsteps)] <;> rfl
  | operandFails hsteps he _ ih =>
    exact outcome_of_operandFails hsteps he (Eval.run_of_map_error (ih hn))
  | finish hsteps he _ hfinish ih =>
    exact outcome_of_finish hsteps he (eval_of_outcome (ih hn)) hfinish
  | finishBare hsteps he hfinish => exact outcome_of_finishBare hsteps he hfinish
  | branch hsteps hcondition _ ih ih' =>
    exact outcome_of_branch hsteps (eval_of_outcome (ih hn)) (ih' (hcondition.calls_eq hn))
  | stmtsNil => rfl
  | @leave parent i stmt stmts s k r t _ hr ih =>
    rw [Moment.outcome_stmts, execAll]
    cases r with
    | error x =>
      rw [Eval.run_bind, Eval.run_of_map_error (ih hn)]
      rfl
    | ok vs =>
      obtain ⟨flow, hflow, hrun⟩ := Eval.exists_run_of_map (ih hn)
      rw [Eval.run_bind_of_ok hrun]
      cases flow with
      | next => exact absurd (congrArg Except.ok hflow.symm) hr
      | returned v =>
        rw [← hflow]
        rfl
  | @next parent i stmt stmts s k t l r u hfirst _ ih ih' =>
    obtain ⟨flow, hflow, hrun⟩ := Eval.exists_run_of_map (ih hn)
    rw [Moment.outcome_stmts, execAll, Eval.run_bind_of_ok hrun]
    cases flow with
    | next => exact (Moment.outcome_stmts _ _ _ _ _).symm.trans (ih' (hfirst.calls_eq hn))
    | returned v => cases hflow
  | tooDeep hdepth =>
    rw [hn, Nat.sub_eq_zero_of_le hdepth]
    rfl
  | @body decl site args s k r t hdepth _ ih =>
    obtain ⟨m, rfl⟩ : ∃ m, n = m + 1 := Nat.exists_eq_add_one.mpr (by omega)
    have hm : m = maxCallDepth - (s.depth + 1) := by omega
    exact outcome_of_body (ih hm)

/-! ### Every task ends -/

namespace Moment

/-- A moment with as many calls left as the depth says ends by the rules. -/
def Finishes (m : Moment) : Prop :=
  m.calls = maxCallDepth - m.state.depth → ∃ k r t, Ends m.task m.state k r t

variable {n : Nat} {s : Interpreter} {site parent : Site} {i : Nat}

theorem finishes_expr {e : Expr} (ih : ∀ m, Leads ⟨n, .expr e, s⟩ m → m.Finishes) :
    Finishes ⟨n, .expr e, s⟩ := by
  intro hn
  by_cases hsteps : s.steps < maxSteps
  · obtain ⟨k, r, t, hoperands⟩ := ih _ (.operands hsteps) hn
    cases r with
    | error x => exact ⟨k, _, _, .operandsFail hsteps hoperands⟩
    | ok vs =>
      have hvs := hoperands.outcome_eq hn
      have hcalls := hoperands.calls_eq hn
      cases hc : e.conclusion vs with
      | goOn e' =>
        obtain ⟨l, r, u, hrest⟩ := ih _ (.goOn hsteps hvs hc) hcalls
        exact ⟨_, r, u, .goOn hsteps hoperands hc hrest⟩
      | call decl site args =>
        obtain ⟨l, r, u, hcalled⟩ := ih _ (.call hsteps hvs hc) hcalls
        exact ⟨_, r, u, .call hsteps hoperands hc hcalled⟩
      | give | fail | lookup | perform =>
        exact ⟨k, _, t, .conclude hsteps hoperands (by rw [hc]; rfl)⟩
  · exact ⟨0, _, _, .exprStopped (Nat.le_of_not_lt hsteps)⟩

theorem finishes_exprs {es : List Expr} (ih : ∀ m, Leads ⟨n, .exprs es, s⟩ m → m.Finishes) :
    Finishes ⟨n, .exprs es, s⟩ := by
  intro hn
  cases es with
  | nil => exact ⟨0, _, _, .exprsNil⟩
  | cons e es =>
    obtain ⟨k, r, t, hfirst⟩ := ih _ .expr hn
    cases r with
    | error x => exact ⟨k, _, t, .exprsFail hfirst⟩
    | ok vs =>
      obtain ⟨v, rfl, hv⟩ := Eval.exists_run_of_map (hfirst.outcome_eq hn)
      obtain ⟨l, r, u, hrest⟩ := ih _ (.exprs hv) (hfirst.calls_eq hn)
      exact ⟨_, _, u, .exprsCons hfirst hrest⟩

theorem finishes_stmt {stmt : Stmt} (ih : ∀ m, Leads ⟨n, .stmt site stmt, s⟩ m → m.Finishes) :
    Finishes ⟨n, .stmt site stmt, s⟩ := by
  intro hn
  by_cases hsteps : s.steps < maxSteps
  · cases he : stmt.operand? with
    | none =>
      cases hfinish : stmt.finish? site .null s.ticked with
      | some end' => exact ⟨0, end'.1, end'.2, .finishBare hsteps he hfinish⟩
      | none =>
        obtain ⟨condition, yes, no, rfl⟩ := Stmt.eq_branch_of_finish? hfinish
        cases he
    | some e =>
      obtain ⟨k, r, t, hoperand⟩ := ih _ (.operand hsteps he) hn
      cases r with
      | error x => exact ⟨k, _, t, .operandFails hsteps he hoperand⟩
      | ok vs =>
        obtain ⟨v, rfl, hv⟩ := Eval.exists_run_of_map (hoperand.outcome_eq hn)
        cases hfinish : stmt.finish? site v t with
        | some end' => exact ⟨k, end'.1, end'.2, .finish hsteps he hoperand hfinish⟩
        | none =>
          obtain ⟨condition, yes, no, rfl⟩ := Stmt.eq_branch_of_finish? hfinish
          cases he
          obtain ⟨l, r, u, hblock⟩ := ih _ (.branch hsteps hv) (hoperand.calls_eq hn)
          exact ⟨_, r, _, .branch hsteps hoperand hblock⟩
  · exact ⟨0, _, _, .stmtStopped (Nat.le_of_not_lt hsteps)⟩

theorem finishes_stmts {stmts : List Stmt}
    (ih : ∀ m, Leads ⟨n, .stmts parent i stmts, s⟩ m → m.Finishes) :
    Finishes ⟨n, .stmts parent i stmts, s⟩ := by
  intro hn
  cases stmts with
  | nil => exact ⟨0, _, _, .stmtsNil⟩
  | cons stmt stmts =>
    obtain ⟨k, r, t, hfirst⟩ := ih _ .stmt hn
    by_cases hr : r = .ok []
    · subst hr
      obtain ⟨flow, hflow, hrun⟩ := Eval.exists_run_of_map (hfirst.outcome_eq hn)
      cases flow with
      | next =>
        obtain ⟨l, r, u, hrest⟩ := ih _ (.stmts hrun) (hfirst.calls_eq hn)
        exact ⟨_, r, u, .next hfirst hrest⟩
      | returned v => cases hflow
    · exact ⟨k, r, t, .leave hfirst hr⟩

theorem finishes_call {decl : FunctionDecl} {args : List Value}
    (ih : ∀ m, Leads ⟨n, .call decl site args, s⟩ m → m.Finishes) :
    Finishes ⟨n, .call decl site args, s⟩ := by
  intro hn
  replace hn : n = maxCallDepth - s.depth := hn
  by_cases hdepth : s.depth < maxCallDepth
  · obtain ⟨n', rfl⟩ : ∃ n', n = n' + 1 := Nat.exists_eq_add_one.mpr (by omega)
    have hn' : n' = maxCallDepth - (s.depth + 1) := by omega
    obtain ⟨k, r, t, hbody⟩ := ih _ .body hn'
    exact ⟨_, _, _, .body hdepth hbody⟩
  · exact ⟨0, _, _, .tooDeep (Nat.le_of_not_lt hdepth)⟩

theorem finishes (m : Moment) : m.Finishes := by
  -- By induction on the moments to which a moment leads: fewer calls may be nested in them, or less
  -- is to be done.
  induction m using wellFounded_leads.induction with
  | _ m ih =>
    obtain ⟨n, task, s⟩ := m
    cases task with
    | expr e => exact finishes_expr ih
    | exprs es => exact finishes_exprs ih
    | stmt site stmt => exact finishes_stmt ih
    | stmts parent i stmts => exact finishes_stmts ih
    | call decl site args => exact finishes_call ih

end Moment

/-- **Termination.** Every task ends, whatever the functions that it calls. -/
theorem exists_ends (task : Task) (s : Interpreter) : ∃ k r t, Ends task s k r t :=
  Moment.finishes ⟨maxCallDepth - s.depth, task, s⟩ rfl

/-- **The interpreter follows the rules.** By them a task ends in one way only, which is the one
that the interpreter gives. -/
theorem ends_iff {task : Task} {s t : Interpreter} {n : Nat} {r : Result (List Value)}
    (hn : n = maxCallDepth - s.depth) :
    (∃ k, Ends task s k r t) ↔ Moment.outcome ⟨n, task, s⟩ = (r, t) := by
  constructor
  · rintro ⟨k, h⟩
    exact h.outcome_eq hn
  · intro h
    obtain ⟨k, r', t', h'⟩ := exists_ends task s
    obtain ⟨rfl, rfl⟩ := Prod.mk.inj ((h'.outcome_eq hn).symm.trans h)
    exact ⟨k, h'⟩

end LiveSnippet.Script
