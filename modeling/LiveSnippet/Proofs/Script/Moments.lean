import LiveSnippet.Proofs.Script.Strings
import Mathlib.Logic.Relation
import Mathlib.Order.WellFounded

/-!
# The moments of a run

A run of a script comes to evaluate expressions and to execute statements one after another, each in
the state that what came before has left. Such a moment leads to others: an expression to its
operands, to one of its branches or to a call, a statement to its parts, a call to its body. Every
evaluation that belongs to a run is found at one of its moments.

An expression is evaluated in two stages. First its operands are, from left to right; then their
values tell how to go on. This is the form in which the evaluation is taken apart here.

## Main definitions

* `Expr.operands`, `Expr.conclusion`: the two stages of an evaluation
* `Moment`, `Moment.outcome`: what is evaluated in a state, and what comes of it
* `Moment.Leads`, `Moment.Comes`: from a moment to the next ones, and to all that follow
* `Moment.Performs`: the operations of a moment

## Main results

* `eval_eq`: the evaluation in two stages
* `Moment.wellFounded_leads`: every way from a moment to others ends
* `Interpreter.run_eq`: a run is the outcome of its first moment
-/

namespace LiveSnippet.Script

/-! ### Evaluation in two stages -/

/-- How an evaluation goes on when the operands have their values. -/
inductive Conclusion
  | give (v : Value)
  | fail (e : RuntimeError)
  | lookup (name : Text)
  | perform (o : Operation)
  /-- Another expression gives the value. -/
  | goOn (e : Expr)
  | call (decl : FunctionDecl) (site : Site) (args : List Value)

/-- A value is called. -/
def Value.concludeCall (callee : Value) (args : List Value) (name : Text) : Conclusion :=
  match callee with
  | builtin b => .perform (.builtin b args)
  | function decl site => .call decl site args
  | _ => .fail (.notAFunction name)

namespace Expr

/-- The expressions that are evaluated first, from left to right. -/
def operands : Expr → List Expr
  | literal _ => []
  | list items => items
  | ident _ => []
  | member receiver _ => [receiver]
  | index receiver subscript => [receiver, subscript]
  | call (.member receiver _) args => receiver :: args
  | call callee args => callee :: args
  | unary _ operand => [operand]
  | binary .and left _ => [left]
  | binary .or left _ => [left]
  | binary _ left right => [left, right]
  | conditional condition _ _ => [condition]

/-- How the evaluation goes on with the values of the operands. -/
def conclusion : Expr → List Value → Conclusion
  | literal l, _ => .give l.toValue
  | list _, vs => .give (.list vs)
  | ident name, _ => .lookup name
  | member _ name, v :: _ => .perform (.property v name)
  | index _ _, v :: i :: _ => .perform (.subscript v i)
  | call (.member _ name) _, .map entries :: args =>
    (Value.entry entries name).concludeCall args name
  | call (.member _ name) _, v :: args => .perform (.method v name args)
  | call callee _, f :: args => f.concludeCall args callee.calleeName
  | unary op _, v :: _ => .perform (.unary op v)
  | binary .and _ right, v :: _ => if v.truthy then .goOn right else .give v
  | binary .or _ right, v :: _ => if v.truthy then .give v else .goOn right
  | binary op _ _, a :: b :: _ => .perform (.combine op a b)
  | conditional _ yes no, c :: _ => .goOn (if c.truthy then yes else no)
  -- There is a value for each operand, so that nothing comes here.
  | _, _ => .give .null

end Expr

/-- What a conclusion comes down to. -/
def Conclusion.run (caller : Caller) : Conclusion → Eval Value
  | give v => return v
  | fail e => throw e
  | lookup name => Eval.lookup name
  | perform o => ExceptT.mk (pure o.result)
  | goOn e => eval caller e
  | call decl site args => caller decl site args

theorem callValue_eq (caller : Caller) (callee : Value) (args : List Value) (name : Text) :
    callValue caller callee args name = (callee.concludeCall args name).run caller := by
  cases callee <;> rfl

/-- The evaluation in two stages. -/
theorem eval_eq (caller : Caller) (e : Expr) :
    eval caller e = (do
      Eval.tick
      let vs ← evalAll caller e.operands
      (e.conclusion vs).run caller) := by
  cases e with
  | literal l => simp [eval, evalAll, Expr.operands, Expr.conclusion, Conclusion.run]
  | list items => simp [eval, Expr.operands, Expr.conclusion, Conclusion.run]
  | ident name => simp [eval, evalAll, Expr.operands, Expr.conclusion, Conclusion.run]
  | member receiver name =>
    simp [eval, evalAll, Expr.operands, Expr.conclusion, Conclusion.run, Operation.result]
  | index receiver subscript =>
    simp [eval, evalAll, Expr.operands, Expr.conclusion, Conclusion.run, Operation.result]
  | call callee args =>
    cases callee with
    | member receiver name =>
      simp only [eval, evalAll, Expr.operands, bind_assoc, pure_bind]
      refine bind_congr fun _ => bind_congr fun v => bind_congr fun vs => ?_
      cases v <;> simp [Expr.conclusion, Conclusion.run, Operation.result, callValue_eq]
    | _ => simp [eval, evalAll, Expr.operands, Expr.conclusion, callValue_eq]
  | unary op operand =>
    cases op
    all_goals simp only [eval, evalAll, Expr.operands, bind_assoc, pure_bind]
    all_goals rfl
  | binary op left right =>
    cases op
    -- The right operand is not among the operands here: it may not be evaluated at all.
    case or | and =>
      simp only [eval, evalAll, Expr.operands, bind_assoc, pure_bind]
      refine bind_congr fun _ => bind_congr fun v => ?_
      rw [Expr.conclusion]
      split_ifs <;> rfl
    all_goals simp only [eval, evalAll, Expr.operands, bind_assoc, pure_bind]
    all_goals rfl
  | conditional condition yes no =>
    simp only [eval, evalAll, Expr.operands, bind_assoc, pure_bind]
    refine bind_congr fun _ => bind_congr fun v => ?_
    rw [Expr.conclusion]
    split_ifs <;> rfl

/-! ### Runs of computations -/

namespace Eval

variable {α β : Type}

theorem run_bind (m : Eval α) (f : α → Eval β) (s : Interpreter) :
    (m >>= f).run s =
      match m.run s with
      | (.ok a, t) => (f a).run t
      | (.error e, t) => (.error e, t) := by
  have hbind : (m >>= f).run s = ExceptT.bindCont f (m.run s).1 (m.run s).2 := rfl
  rw [hbind]
  rcases m.run s with ⟨e | a, t⟩ <;> rfl

theorem run_bind_of_ok {m : Eval α} {f : α → Eval β} {s t : Interpreter} {a : α}
    (h : m.run s = (.ok a, t)) : (m >>= f).run s = (f a).run t := by
  rw [run_bind, h]

end Eval

/-- The interpreter after one more step. -/
def Interpreter.ticked (s : Interpreter) : Interpreter := { s with steps := s.steps + 1 }

theorem Eval.run_tick_bind {α : Type} (m : Eval α) (s : Interpreter) :
    (Eval.tick >>= fun _ => m).run s =
      if s.steps < maxSteps then m.run s.ticked else (.error .stepsExhausted, s.ticked) := by
  have htick : Eval.tick.run s =
      if s.steps < maxSteps then (.ok ⟨⟩, s.ticked) else (.error .stepsExhausted, s.ticked) := by
    change (if maxSteps < s.ticked.steps then throw .stepsExhausted else pure ⟨⟩ : Eval Unit).run
      s.ticked = _
    by_cases h : s.steps < maxSteps
    · have hle : ¬maxSteps < s.ticked.steps := Nat.not_lt.mpr h
      rw [if_neg hle, if_pos h]
      rfl
    · have hlt : maxSteps < s.ticked.steps := Nat.lt_succ_of_le (Nat.le_of_not_lt h)
      rw [if_pos hlt, if_neg h]
      rfl
  rw [run_bind, htick]
  split_ifs <;> rfl

/-- What a name stands for. -/
def Interpreter.read (s : Interpreter) (name : Text) : Result Value :=
  (s.lookup? name).elim (.error (.undefinedName name)) .ok

theorem Eval.run_lookup (name : Text) (s : Interpreter) :
    (lookup name).run s = (s.read name, s) := by
  have hget : (get : Eval Interpreter).run s = (.ok s, s) := rfl
  rw [lookup, run_bind_of_ok hget, Interpreter.read]
  cases s.lookup? name <;> rfl

/-! ### Moments -/

/-- The values that a statement returns. -/
def Flow.values : Flow → List Value
  | next => []
  | returned v => [v]

/-- What is to be done. -/
inductive Task
  | expr (e : Expr)
  | exprs (es : List Expr)
  | stmt (site : Site) (stmt : Stmt)
  | stmts (parent : Site) (i : Nat) (stmts : List Stmt)
  | call (decl : FunctionDecl) (site : Site) (args : List Value)

/-- Does what is to be done. -/
def Task.run (caller : Caller) : Task → Eval (List Value)
  | expr e => do return [← eval caller e]
  | exprs es => evalAll caller es
  | stmt site first => do return (← exec caller site first).values
  | stmts parent i rest => do return (← execAll caller parent i rest).values
  | call decl site args => do return [← caller decl site args]

/-- What is to be done in a state, with some more calls that may be nested. -/
structure Moment where
  calls : Nat
  task : Task
  state : Interpreter

/-- The expression whose value a statement needs first. -/
def Stmt.operand? : Stmt → Option Expr
  | declare _ value => value
  | assign _ _ value => some value
  | branch condition _ _ => some condition
  | function .. => none
  | result value => value
  | expr value => some value

/-- The operation by which an assignment combines the old value with the new one. -/
def AssignOp.binary? : AssignOp → Option BinaryOp
  | set => none
  | add => some .add
  | sub => some .sub
  | mul => some .mul

namespace Moment

/-- The values of what is done, and the interpreter behind it. -/
def outcome (m : Moment) : Result (List Value) × Interpreter :=
  (m.task.run (callWith m.calls)).run m.state

/-- What the values of the operands of an expression are, and the interpreter behind them. -/
def operandValues (n : Nat) (e : Expr) (s : Interpreter) : Result (List Value) × Interpreter :=
  (evalAll (callWith n) e.operands).run s.ticked

/-- The first moment leads to the second one, which is a part of it. -/
inductive Leads : Moment → Moment → Prop
  | operands {n s e} (hsteps : s.steps < maxSteps) :
    Leads ⟨n, .expr e, s⟩ ⟨n, .exprs e.operands, s.ticked⟩
  | goOn {n s t e e' vs} (hsteps : s.steps < maxSteps) (hvs : operandValues n e s = (.ok vs, t))
    (he : e.conclusion vs = .goOn e') : Leads ⟨n, .expr e, s⟩ ⟨n, .expr e', t⟩
  | call {n s t e vs decl site args} (hsteps : s.steps < maxSteps)
    (hvs : operandValues n e s = (.ok vs, t)) (he : e.conclusion vs = .call decl site args) :
    Leads ⟨n, .expr e, s⟩ ⟨n, .call decl site args, t⟩
  | body {n s decl site args} :
    Leads ⟨n + 1, .call decl site args, s⟩ ⟨n, .stmts site 0 decl.body,
      { s with locals := [Scope.ofParams decl.params args []], depth := s.depth + 1 }⟩
  | expr {n s e es} : Leads ⟨n, .exprs (e :: es), s⟩ ⟨n, .expr e, s⟩
  | exprs {n s t e es v} (hv : (eval (callWith n) e).run s = (.ok v, t)) :
    Leads ⟨n, .exprs (e :: es), s⟩ ⟨n, .exprs es, t⟩
  | operand {n s site stmt e} (hsteps : s.steps < maxSteps) (he : stmt.operand? = some e) :
    Leads ⟨n, .stmt site stmt, s⟩ ⟨n, .expr e, s.ticked⟩
  | branch {n s t site condition yes no v} (hsteps : s.steps < maxSteps)
    (hv : (eval (callWith n) condition).run s.ticked = (.ok v, t)) :
    Leads ⟨n, .stmt site (.branch condition yes no), s⟩
      ⟨n, .stmts ((if v.truthy then 0 else 1) :: site) 0 (if v.truthy then yes else no),
        { t with locals := [] :: t.locals }⟩
  | stmt {n s parent i stmt stmts} :
    Leads ⟨n, .stmts parent i (stmt :: stmts), s⟩ ⟨n, .stmt (i :: parent) stmt, s⟩
  | stmts {n s t parent i stmt stmts}
    (hflow : (exec (callWith n) (i :: parent) stmt).run s = (.ok .next, t)) :
    Leads ⟨n, .stmts parent i (stmt :: stmts), s⟩ ⟨n, .stmts parent (i + 1) stmts, t⟩

/-- The first moment comes to the second one, step by step. -/
def Comes : Moment → Moment → Prop := Relation.ReflTransGen Leads

/-- The operations of a moment: the one that concludes an evaluation, and the one that combines two
values in an assignment. -/
inductive Performs : Moment → Operation → Prop
  | conclude {n s t e vs o} (hsteps : s.steps < maxSteps) (hvs : operandValues n e s = (.ok vs, t))
    (he : e.conclusion vs = .perform o) : Performs ⟨n, .expr e, s⟩ o
  | assign {n s t site name op value op' v old} (hsteps : s.steps < maxSteps)
    (hv : (eval (callWith n) value).run s.ticked = (.ok v, t)) (hop : op.binary? = some op')
    (hold : t.lookup? name = some old) :
    Performs ⟨n, .stmt site (.assign name op value), s⟩ (.combine op' old v)

end Moment

/-! ### Ways from a moment -/

theorem sum_map_sizeOf_le {α : Type} [SizeOf α] (l : List α) : (l.map sizeOf).sum ≤ sizeOf l := by
  induction l with
  | nil => exact Nat.zero_le _
  | cons a l ih =>
    rw [List.map_cons, List.sum_cons, List.cons.sizeOf_spec]
    omega

theorem Expr.sum_operands_lt (e : Expr) : (e.operands.map sizeOf).sum < sizeOf e := by
  cases e with
  | list items =>
    have := sum_map_sizeOf_le items
    simp only [operands, list.sizeOf_spec]
    omega
  | call callee args =>
    have := sum_map_sizeOf_le args
    cases callee
    all_goals
      simp [operands]
      omega
  | binary op left right =>
    cases op
    all_goals
      simp [operands]
      try omega
  | _ =>
    simp [operands]
    try omega

theorem Expr.sizeOf_goOn_lt {e e' : Expr} {vs : List Value} (h : e.conclusion vs = .goOn e') :
    sizeOf e' < sizeOf e := by
  have hcall : ∀ f args name, Value.concludeCall f args name ≠ .goOn e' := by
    intro f args name
    cases f <;> exact Conclusion.noConfusion
  cases e with
  | call callee args =>
    cases callee with
    | member receiver name =>
      rcases vs with _ | ⟨v, vs⟩
      · cases h
      · cases v with
        | map entries => exact absurd h (hcall _ _ _)
        | _ => cases h
    | _ =>
      rcases vs with _ | ⟨f, vs⟩
      · cases h
      · exact absurd h (hcall _ _ _)
  | binary op left right =>
    rcases vs with _ | ⟨v, vs⟩
    · cases op <;> cases h
    · cases op with
      | or | and =>
        rw [conclusion] at h
        split_ifs at h
        cases h
        simp
      | _ => rcases vs with _ | ⟨w, vs⟩ <;> cases h
  | conditional condition yes no =>
    rcases vs with _ | ⟨c, vs⟩
    · cases h
    · cases h
      rw [conditional.sizeOf_spec]
      split_ifs <;> omega
  | index receiver subscript => rcases vs with _ | ⟨v, _ | ⟨i, vs⟩⟩ <;> cases h
  | _ => rcases vs with _ | ⟨v, vs⟩ <;> cases h

theorem Stmt.sizeOf_operand_lt {stmt : Stmt} {e : Expr} (h : stmt.operand? = some e) :
    sizeOf e < sizeOf stmt := by
  cases stmt with
  | function => cases h
  | expr value =>
    cases h
    simp
  | _ =>
    cases h
    simp
    try omega

/-- A bound for the moments to which what is to be done leads without a call. -/
noncomputable def Task.weight : Task → Nat
  -- A list weighs more than each of its members, and less than what it is the list of operands of.
  | expr e => 2 * sizeOf e
  | exprs es => 2 * (es.map sizeOf).sum + 1
  | stmt _ first => 2 * sizeOf first
  | stmts _ _ rest => 2 * (rest.map sizeOf).sum + 1
  | call .. => 0

namespace Moment

/-- A moment leads to others with fewer calls left or less to be done. -/
theorem Leads.lt {m m' : Moment} (h : m.Leads m') :
    Prod.Lex (· < ·) (· < ·) (m'.calls, m'.task.weight) (m.calls, m.task.weight) := by
  have hexpr : ∀ e : Expr, 0 < sizeOf e := fun e => by cases e <;> simp
  have hstmt : ∀ stmt : Stmt, 0 < sizeOf stmt := fun stmt => by cases stmt <;> simp
  cases h with
  | body => exact .left _ _ (Nat.lt_succ_self _)
  | @operands n s e _ =>
    have := e.sum_operands_lt
    exact .right _ (show 2 * _ + 1 < 2 * _ by omega)
  | goOn _ _ he =>
    have := Expr.sizeOf_goOn_lt he
    exact .right _ (show 2 * _ < 2 * _ by omega)
  | @call n s t e vs decl site args _ _ _ =>
    have := hexpr e
    exact .right _ (show 0 < 2 * _ by omega)
  | @expr n s e es =>
    exact .right _ (show 2 * _ < 2 * (sizeOf e + (es.map sizeOf).sum) + 1 by omega)
  | @exprs n s t e es v _ =>
    have := hexpr e
    exact .right _ (show 2 * _ + 1 < 2 * (sizeOf e + (es.map sizeOf).sum) + 1 by omega)
  | operand _ he =>
    have := Stmt.sizeOf_operand_lt he
    exact .right _ (show 2 * _ < 2 * _ by omega)
  | @branch n s t site condition yes no v _ _ =>
    have hyes := sum_map_sizeOf_le yes
    have hno := sum_map_sizeOf_le no
    refine .right _ (show 2 * _ + 1 < 2 * sizeOf (Stmt.branch condition yes no) from ?_)
    rw [Stmt.branch.sizeOf_spec]
    split_ifs <;> omega
  | @stmt n s parent i stmt stmts =>
    exact .right _ (show 2 * _ < 2 * (sizeOf stmt + (stmts.map sizeOf).sum) + 1 by omega)
  | @stmts n s t parent i stmt stmts _ =>
    have := hstmt stmt
    exact .right _ (show 2 * _ + 1 < 2 * (sizeOf stmt + (stmts.map sizeOf).sum) + 1 by omega)

/-- Every way from a moment to others ends. -/
theorem wellFounded_leads : WellFounded fun m' m : Moment => m.Leads m' :=
  Subrelation.wf (fun h => Leads.lt h)
    (InvImage.wf (fun m : Moment => (m.calls, m.task.weight)) (Prod.lex Nat.lt_wfRel Nat.lt_wfRel).wf)

end Moment

/-! ### Runs -/

/-- The first moment of a run. -/
def Interpreter.start (s : Interpreter) (p : Program) : Moment :=
  ⟨maxCallDepth - s.depth, .stmts [s.runs] 0 p.stmts, s.hoist p⟩

/-- A run is the outcome of its first moment. -/
theorem Interpreter.run_eq (s : Interpreter) (p : Program) :
    (s.run p).1.map Option.toList = (s.start p).outcome.1 ∧
      (s.run p).2 = { (s.start p).outcome.2 with runs := (s.start p).outcome.2.runs + 1 } := by
  have houtcome : (s.start p).outcome =
      (execAll s.caller [s.runs] 0 p.stmts >>= fun flow => pure flow.values).run (s.hoist p) := rfl
  rw [houtcome, Eval.run_bind, Interpreter.run]
  rcases (execAll s.caller [s.runs] 0 p.stmts).run (s.hoist p) with ⟨e | flow | v, t⟩ <;>
    exact ⟨rfl, rfl⟩

end LiveSnippet.Script
