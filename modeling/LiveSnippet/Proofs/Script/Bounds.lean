import LiveSnippet.Proofs.Script.Moments

/-!
# Bounds on the strings of a run

The strings of a run stay within the limit as long as those do that are built without a check. Every
value of a run comes from the literals of the script, from the names that the interpreter knows, or
from an operation; so from the first moment of a run on, all that is evaluated and all that is stored
is bounded until an unchecked operation gives a string that is too long.

## Main definitions

* `Interpreter.Bounded`: the interpreter knows no string that is too long
* `Eval.Keeps`: what a computation gives, and that it leaves the interpreter bounded
* `Moment.StartsBounded`, `Moment.EndsBounded`

## Main results

* `Moment.Leads.startsBounded`: one step keeps the bound
* `Moment.endsBounded`: all that is evaluated from a moment on is bounded
* `Interpreter.run_bounded_iff`: exactly which runs are bounded
-/

namespace LiveSnippet.Script

/-! ### Bounded interpreters -/

/-- No value of the scope holds a string that is too long. -/
def Scope.Bounded (scope : Scope) : Prop := ∀ e ∈ scope, e.2.Bounded

theorem Scope.Bounded.put {scope : Scope} (h : scope.Bounded) (name : Text) {v : Value}
    (hv : v.Bounded) : (scope.put name v).Bounded := by
  induction scope with
  | nil => exact List.forall_mem_singleton.mpr hv
  | cons e scope ih =>
    obtain ⟨he, hscope⟩ := List.forall_mem_cons.mp h
    rw [Scope.put]
    split_ifs
    · exact List.forall_mem_cons.mpr ⟨hv, hscope⟩
    · exact List.forall_mem_cons.mpr ⟨he, ih hscope⟩

theorem Scope.bounded_ofParams (params : List Text) {args : List Value} {scope : Scope}
    (hargs : ∀ v ∈ args, v.Bounded) (h : scope.Bounded) :
    (Scope.ofParams params args scope).Bounded := by
  induction params generalizing args scope with
  | nil => exact h
  | cons p params ih =>
    have hhead : (args.head?.getD .null).Bounded := by
      cases args with
      | nil => exact Value.bounded_null
      | cons v args => exact hargs v List.mem_cons_self
    exact ih (fun v hv => hargs v (List.mem_of_mem_tail hv)) (h.put p hhead)

namespace Interpreter

/-- The interpreter knows no string that is too long. -/
structure Bounded (s : Interpreter) : Prop where
  globals : Scope.Bounded s.globals
  locals : ∀ scope ∈ s.locals, Scope.Bounded scope

variable {s : Interpreter} {name : Text} {v : Value}

theorem Bounded.lookup (h : s.Bounded) (hv : s.lookup? name = some v) : v.Bounded := by
  rw [lookup?, Option.or_eq_some_iff] at hv
  rcases hv with hv | ⟨-, hv⟩
  · obtain ⟨scope, hscope, hv⟩ := List.exists_of_findSome?_eq_some hv
    exact Value.bounded_of_lookup (h.locals scope hscope) hv
  · exact Value.bounded_of_lookup h.globals hv

theorem Bounded.setGlobal (h : s.Bounded) (name : Text) (hv : v.Bounded) :
    (s.setGlobal name v).Bounded := ⟨h.globals.put name hv, h.locals⟩

theorem Bounded.declare (h : s.Bounded) (name : Text) (hv : v.Bounded) :
    (s.declare name v).Bounded := by
  rw [Interpreter.declare]
  split
  · exact h.setGlobal name hv
  · rename_i scope rest hlocals
    have hall := h.locals
    rw [hlocals, List.forall_mem_cons] at hall
    exact ⟨h.globals, List.forall_mem_cons.mpr ⟨hall.1.put name hv, hall.2⟩⟩

theorem bounded_assignLocal {scopes scopes' : List Scope} (hv : v.Bounded)
    (h : ∀ scope ∈ scopes, Scope.Bounded scope) (h' : assignLocal? name v scopes = some scopes') :
    ∀ scope ∈ scopes', Scope.Bounded scope := by
  induction scopes generalizing scopes' with
  | nil => cases h'
  | cons scope scopes ih =>
    obtain ⟨hscope, hscopes⟩ := List.forall_mem_cons.mp h
    rw [assignLocal?] at h'
    split_ifs at h'
    · cases h'
      exact List.forall_mem_cons.mpr ⟨hscope.put name hv, hscopes⟩
    · obtain ⟨rest, hrest, rfl⟩ := Option.map_eq_some_iff.mp h'
      exact List.forall_mem_cons.mpr ⟨hscope, ih hscopes hrest⟩

theorem Bounded.assign (h : s.Bounded) (name : Text) (hv : v.Bounded) :
    (s.assign name v).Bounded := by
  rw [Interpreter.assign]
  split
  · rename_i locals hlocals
    exact ⟨h.globals, bounded_assignLocal hv h.locals hlocals⟩
  · exact h.setGlobal name hv

theorem Bounded.ticked (h : s.Bounded) : s.ticked.Bounded := ⟨h.globals, h.locals⟩

/-- The functions of a program bring in its literals only. -/
theorem Bounded.hoist (h : s.Bounded) {p : Program} (hp : Script.Bounded p.literals) :
    (s.hoist p).Bounded := by
  rw [Program.literals, Stmt.bounded_literalsOfAll] at hp
  have hfunctions : ∀ f ∈ p.functions, Script.Bounded (Stmt.literalsOfAll f.2.body) := by
    intro f hf
    obtain ⟨⟨stmt, i⟩, hmem, hstmt⟩ := List.mem_filterMap.mp hf
    cases stmt with
    | function name params body =>
      cases hstmt
      exact hp _ (List.fst_mem_of_mem_zipIdx hmem)
    | _ => cases hstmt
  rw [Interpreter.hoist]
  generalize p.functions = fs at hfunctions
  induction fs generalizing s with
  | nil => exact h
  | cons f fs ih =>
    obtain ⟨hf, hfs⟩ := List.forall_mem_cons.mp hfunctions
    exact ih (h.setGlobal f.2.name hf) hfs

end Interpreter

/-! ### Computations that keep the bound -/

namespace Eval

variable {α β : Type} {P : α → Prop} {Q : β → Prop} {m : Eval α} {s : Interpreter}

/-- The computation leaves the interpreter bounded, and what it gives has a property. -/
def Keeps (m : Eval α) (s : Interpreter) (P : α → Prop) : Prop :=
  (m.run s).2.Bounded ∧ ∀ a, (m.run s).1 = .ok a → P a

theorem keeps_pure {a : α} (hs : s.Bounded) (ha : P a) : Keeps (pure a) s P := by
  refine ⟨hs, fun b hb => ?_⟩
  cases hb
  exact ha

theorem keeps_throw (e : RuntimeError) (hs : s.Bounded) : Keeps (throw e : Eval α) s P :=
  ⟨hs, fun _ hb => by cases hb⟩

theorem keeps_result {r : Result α} (hs : s.Bounded) (hr : ∀ a, r = .ok a → P a) :
    Keeps (ExceptT.mk (pure r)) s P := ⟨hs, hr⟩

theorem Keeps.bind {f : α → Eval β} (hm : m.Keeps s P)
    (hf : ∀ a t, m.run s = (.ok a, t) → t.Bounded → P a → (f a).Keeps t Q) :
    (m >>= f).Keeps s Q := by
  obtain ⟨hbounded, hgives⟩ := hm
  rw [Keeps, run_bind]
  rcases hrun : m.run s with ⟨e | a, t⟩
  · rw [hrun] at hbounded
    exact ⟨hbounded, fun _ hb => by cases hb⟩
  · rw [hrun] at hbounded hgives
    exact hf a t hrun hbounded (hgives a rfl)

theorem keeps_tick_bind (hs : s.Bounded) (h : s.steps < maxSteps → m.Keeps s.ticked P) :
    (Eval.tick >>= fun _ => m).Keeps s P := by
  rw [Keeps, run_tick_bind]
  split_ifs with hsteps
  · exact h hsteps
  · exact ⟨hs.ticked, fun _ hb => by cases hb⟩

theorem keeps_map {f : α → β} : Keeps (m >>= fun a => pure (f a)) s Q ↔ m.Keeps s fun a => Q (f a) := by
  rw [Keeps, Keeps, run_bind]
  rcases m.run s with ⟨e | a, t⟩
  · exact and_congr_right' ⟨fun _ _ hb => (by cases hb), fun _ _ hb => (by cases hb)⟩
  · refine and_congr_right' ⟨fun h b hb => ?_, fun h b hb => ?_⟩
    · cases hb
      exact h _ rfl
    · cases hb
      exact h _ rfl

/-- Looking up a name changes nothing. -/
theorem keeps_lookup {P : Value → Prop} {name : Text} (hs : s.Bounded)
    (h : ∀ v, s.lookup? name = some v → P v) : (lookup name).Keeps s P := by
  rw [Keeps, run_lookup]
  refine ⟨hs, fun v hv => h v ?_⟩
  rw [Interpreter.read] at hv
  cases hlookup : s.lookup? name with
  | none =>
    rw [hlookup] at hv
    cases hv
  | some u =>
    rw [hlookup] at hv
    exact congrArg some (Except.ok.inj hv)

theorem Keeps.inScope (h : m.Keeps { s with locals := [] :: s.locals } P) :
    (Eval.inScope m).Keeps s P := by
  obtain ⟨ht, hgives⟩ := h
  exact ⟨⟨ht.globals, fun scope hscope => ht.locals scope (List.mem_of_mem_tail hscope)⟩, hgives⟩

theorem Keeps.inFrame {frame : Scope} (hs : s.Bounded)
    (h : m.Keeps { s with locals := [frame], depth := s.depth + 1 } P) :
    (Eval.inFrame frame m).Keeps s P := ⟨⟨h.1.globals, hs.locals⟩, h.2⟩

end Eval

/-! ### Literals of parts -/

/-- What a conclusion brings in. -/
def Conclusion.Bounded : Conclusion → Prop
  | give v => v.Bounded
  | fail _ => True
  | lookup _ => True
  | perform o => ∀ v ∈ o.operands, v.Bounded
  | goOn e => Script.Bounded e.literals
  | call decl _ args => Script.Bounded (Stmt.literalsOfAll decl.body) ∧ ∀ v ∈ args, v.Bounded

theorem Value.bounded_concludeCall {callee : Value} {args : List Value} (hcallee : callee.Bounded)
    (hargs : ∀ v ∈ args, v.Bounded) (name : Text) : (callee.concludeCall args name).Bounded := by
  cases callee with
  | builtin b => exact hargs
  | function decl site => exact ⟨hcallee, hargs⟩
  | _ => trivial

namespace Expr

variable {e : Expr}

theorem bounded_operands (h : Script.Bounded e.literals) :
    Script.Bounded (literalsOfAll e.operands) := by
  cases e with
  | call callee args =>
    cases callee <;> simp_all [literals, operands, literalsOfAll]
  | binary op left right => cases op <;> simp_all [literals, operands, literalsOfAll]
  | _ => simp_all [literals, operands, literalsOfAll]

theorem bounded_conclusion (h : Script.Bounded e.literals) {vs : List Value}
    (hvs : ∀ v ∈ vs, v.Bounded) : (e.conclusion vs).Bounded := by
  cases e with
  | literal l =>
    cases l with
    | string s => exact h
    | _ => exact bounded_nil
  | list items => exact Value.bounded_list.mpr hvs
  | ident name => trivial
  | call callee args =>
    rcases vs with _ | ⟨f, vs⟩
    · cases callee <;> exact Value.bounded_null
    · obtain ⟨hf, hargs⟩ := List.forall_mem_cons.mp hvs
      cases callee with
      | member receiver name =>
        cases f with
        | map entries => exact Value.bounded_concludeCall (Value.bounded_entry hf name) hargs name
        | _ => exact hvs
      | _ => exact Value.bounded_concludeCall hf hargs _
  | binary op left right =>
    rcases vs with _ | ⟨a, vs⟩
    · cases op <;> exact Value.bounded_null
    · rw [literals, bounded_append] at h
      have ha := hvs a List.mem_cons_self
      cases op with
      | or | and =>
        rw [conclusion]
        split_ifs
        all_goals first | exact h.2 | exact ha
      | _ =>
        rcases vs with _ | ⟨b, vs⟩
        · exact Value.bounded_null
        · exact fun v hv => hvs v ((List.prefix_append [a, b] vs).subset hv)
  | conditional condition yes no =>
    rcases vs with _ | ⟨c, vs⟩
    · exact Value.bounded_null
    · rw [literals, bounded_append, bounded_append] at h
      rw [conclusion, Conclusion.Bounded]
      split_ifs
      exacts [h.2.1, h.2.2]
  | index receiver subscript =>
    rcases vs with _ | ⟨v, _ | ⟨i, vs⟩⟩
    · exact Value.bounded_null
    · exact Value.bounded_null
    · exact fun u hu => hvs u ((List.prefix_append [v, i] vs).subset hu)
  | member receiver name | unary op operand =>
    rcases vs with _ | ⟨v, vs⟩
    · exact Value.bounded_null
    · exact fun u hu => hvs u ((List.prefix_append [v] vs).subset hu)

end Expr

theorem Stmt.bounded_operand {stmt : Stmt} (h : Script.Bounded stmt.literals) {e : Expr}
    (he : stmt.operand? = some e) : Script.Bounded e.literals := by
  cases stmt <;> simp_all [operand?, literals]

/-! ### Moments -/

/-- Nothing that is to be done brings in a string that is too long. -/
def Task.Bounded : Task → Prop
  | expr e => Script.Bounded e.literals
  | exprs es => Script.Bounded (Expr.literalsOfAll es)
  | stmt _ first => Script.Bounded first.literals
  | stmts _ _ rest => Script.Bounded (Stmt.literalsOfAll rest)
  | call decl _ args => Script.Bounded (Stmt.literalsOfAll decl.body) ∧ ∀ v ∈ args, v.Bounded

namespace Moment

variable {m m' : Moment} {n i : Nat} {s t : Interpreter}

/-- Neither what is to be done nor the interpreter brings in a string that is too long. -/
structure StartsBounded (m : Moment) : Prop where
  task : m.task.Bounded
  state : m.state.Bounded

/-- The interpreter is left bounded, and so are the values of what is done. -/
def EndsBounded (m : Moment) : Prop :=
  (m.task.run (callWith m.calls)).Keeps m.state fun vs => ∀ v ∈ vs, v.Bounded

theorem endsBounded_expr {e : Expr} :
    EndsBounded ⟨n, .expr e, s⟩ ↔ (eval (callWith n) e).Keeps s Value.Bounded := by
  refine Eval.keeps_map.trans ?_
  simp only [List.forall_mem_singleton]

theorem endsBounded_exprs {es : List Expr} :
    EndsBounded ⟨n, .exprs es, s⟩ ↔
      (evalAll (callWith n) es).Keeps s fun vs => ∀ v ∈ vs, v.Bounded := Iff.rfl

theorem endsBounded_stmt {site : Site} {stmt : Stmt} :
    EndsBounded ⟨n, .stmt site stmt, s⟩ ↔
      (exec (callWith n) site stmt).Keeps s fun flow => ∀ v ∈ flow.values, v.Bounded :=
  Eval.keeps_map

theorem endsBounded_stmts {parent : Site} {stmts : List Stmt} :
    EndsBounded ⟨n, .stmts parent i stmts, s⟩ ↔
      (execAll (callWith n) parent i stmts).Keeps s fun flow => ∀ v ∈ flow.values, v.Bounded :=
  Eval.keeps_map

theorem endsBounded_call {decl : FunctionDecl} {site : Site} {args : List Value} :
    EndsBounded ⟨n, .call decl site args, s⟩ ↔
      (callWith n decl site args).Keeps s Value.Bounded := by
  refine Eval.keeps_map.trans ?_
  simp only [List.forall_mem_singleton]

/-- A moment leads to bounded ones, if those that come before them end bounded. -/
theorem Leads.startsBounded (h : m.Leads m') (hm : m.StartsBounded)
    (hends : ∀ m'', m.Leads m'' → m''.StartsBounded → m''.EndsBounded) : m'.StartsBounded := by
  obtain ⟨htask, hstate⟩ := hm
  have hoperands : ∀ {n s e vs t}, m = ⟨n, .expr e, s⟩ → s.steps < maxSteps →
      operandValues n e s = (.ok vs, t) → (e.conclusion vs).Bounded ∧ t.Bounded := by
    rintro n s e vs t rfl hsteps hvs
    obtain ⟨ht, hgives⟩ := hends _ (.operands hsteps) ⟨Expr.bounded_operands htask, hstate.ticked⟩
    rw [operandValues] at hvs
    rw [Task.run, hvs] at ht hgives
    exact ⟨Expr.bounded_conclusion htask (hgives vs rfl), ht⟩
  cases h with
  | operands hsteps => exact ⟨Expr.bounded_operands htask, hstate.ticked⟩
  | goOn hsteps hvs he =>
    obtain ⟨hconclusion, ht⟩ := hoperands rfl hsteps hvs
    rw [he] at hconclusion
    exact ⟨hconclusion, ht⟩
  | call hsteps hvs he =>
    obtain ⟨hconclusion, ht⟩ := hoperands rfl hsteps hvs
    rw [he] at hconclusion
    exact ⟨hconclusion, ht⟩
  | body =>
    refine ⟨htask.1, hstate.globals, List.forall_mem_singleton.mpr ?_⟩
    exact Scope.bounded_ofParams _ htask.2 (List.forall_mem_nil _)
  | expr =>
    rw [Task.Bounded, Expr.literalsOfAll, bounded_append] at htask
    exact ⟨htask.1, hstate⟩
  | exprs hv =>
    rw [Task.Bounded, Expr.literalsOfAll, bounded_append] at htask
    have ht := (endsBounded_expr.mp (hends _ .expr ⟨htask.1, hstate⟩)).1
    rw [hv] at ht
    exact ⟨htask.2, ht⟩
  | operand hsteps he => exact ⟨Stmt.bounded_operand htask he, hstate.ticked⟩
  | @branch _ _ _ site condition yes no v hsteps hv =>
    have hcondition : Script.Bounded condition.literals := Stmt.bounded_operand htask rfl
    have ht := (endsBounded_expr.mp
      (hends _ (.operand hsteps rfl) ⟨hcondition, hstate.ticked⟩)).1
    rw [hv] at ht
    rw [Task.Bounded, Stmt.literals, bounded_append, bounded_append] at htask
    refine ⟨?_, ht.globals, List.forall_mem_cons.mpr ⟨List.forall_mem_nil _, ht.locals⟩⟩
    rw [Task.Bounded]
    split_ifs
    exacts [htask.2.1, htask.2.2]
  | stmt =>
    rw [Task.Bounded, Stmt.literalsOfAll, bounded_append] at htask
    exact ⟨htask.1, hstate⟩
  | stmts hflow =>
    rw [Task.Bounded, Stmt.literalsOfAll, bounded_append] at htask
    have ht := (endsBounded_stmt.mp (hends _ .stmt ⟨htask.1, hstate⟩)).1
    rw [hflow] at ht
    exact ⟨htask.2, ht⟩

theorem endsBounded_of_expr {e : Expr} (hm : StartsBounded ⟨n, .expr e, s⟩)
    (hends : ∀ m', Leads ⟨n, .expr e, s⟩ m' → m'.EndsBounded)
    (hgives : ∀ o v, Performs ⟨n, .expr e, s⟩ o → o.result = .ok v → v.Bounded) :
    EndsBounded ⟨n, .expr e, s⟩ := by
  rw [endsBounded_expr, eval_eq]
  refine Eval.keeps_tick_bind hm.state fun hsteps => ?_
  refine Eval.Keeps.bind (hends _ (.operands hsteps)) fun vs t hvs ht hbounded => ?_
  have hconclusion := Expr.bounded_conclusion hm.task hbounded
  cases he : e.conclusion vs with
  | give v =>
    rw [he] at hconclusion
    exact Eval.keeps_pure ht hconclusion
  | fail error => exact Eval.keeps_throw error ht
  | lookup name => exact Eval.keeps_lookup ht fun v hv => ht.lookup hv
  | perform o => exact Eval.keeps_result ht fun v hv => hgives o v (.conclude hsteps hvs he) hv
  | goOn e' => exact endsBounded_expr.mp (hends _ (.goOn hsteps hvs he))
  | call decl site args => exact endsBounded_call.mp (hends _ (.call hsteps hvs he))

theorem endsBounded_of_exprs {es : List Expr} (hs : s.Bounded)
    (hends : ∀ m', Leads ⟨n, .exprs es, s⟩ m' → m'.EndsBounded) :
    EndsBounded ⟨n, .exprs es, s⟩ := by
  rw [endsBounded_exprs]
  cases es with
  | nil => exact Eval.keeps_pure hs (List.forall_mem_nil _)
  | cons e es =>
    rw [evalAll]
    refine (endsBounded_expr.mp (hends _ .expr)).bind fun v t hv ht hbounded => ?_
    refine (endsBounded_exprs.mp (hends _ (.exprs hv))).bind fun vs t' _ ht' hvs => ?_
    exact Eval.keeps_pure ht' (List.forall_mem_cons.mpr ⟨hbounded, hvs⟩)

/-- The value that an assignment gives to a name. -/
theorem keeps_assigned {op : AssignOp} {name : Text} {v : Value} (hs : s.Bounded) (hv : v.Bounded)
    (hgives : ∀ op' old u, op.binary? = some op' → s.lookup? name = some old →
      (Operation.combine op' old v).result = .ok u → u.Bounded) :
    (assigned op name v).Keeps s Value.Bounded := by
  cases op with
  | set => exact Eval.keeps_pure hs hv
  | _ =>
    refine (Eval.keeps_lookup (P := fun old => s.lookup? name = some old) hs fun _ h => h).bind
      fun old t hrun ht hold => ?_
    refine Eval.keeps_result ht fun u hu => hgives _ old u rfl hold hu

theorem endsBounded_of_stmt {site : Site} {stmt : Stmt} (hm : StartsBounded ⟨n, .stmt site stmt, s⟩)
    (hends : ∀ m', Leads ⟨n, .stmt site stmt, s⟩ m' → m'.EndsBounded)
    (hgives : ∀ o v, Performs ⟨n, .stmt site stmt, s⟩ o → o.result = .ok v → v.Bounded) :
    EndsBounded ⟨n, .stmt site stmt, s⟩ := by
  rw [endsBounded_stmt]
  have hoption : ∀ value : Option Expr, stmt.operand? = value → s.steps < maxSteps →
      (evalOption (callWith n) value).Keeps s.ticked Value.Bounded := by
    intro value hvalue hsteps
    cases value with
    | none => exact Eval.keeps_pure hm.state.ticked Value.bounded_null
    | some e => exact endsBounded_expr.mp (hends _ (.operand hsteps hvalue))
  cases stmt with
  | declare name value =>
    rw [exec]
    refine Eval.keeps_tick_bind hm.state fun hsteps => ?_
    refine (hoption value rfl hsteps).bind fun v t _ ht hv => ?_
    exact ⟨ht.declare name hv, fun flow hflow => by cases hflow; exact List.forall_mem_nil _⟩
  | assign name op value =>
    rw [exec]
    refine Eval.keeps_tick_bind hm.state fun hsteps => ?_
    refine (hoption (some value) rfl hsteps).bind fun v t hrun ht hv => ?_
    have hassigned : (assigned op name v).Keeps t Value.Bounded :=
      keeps_assigned ht hv fun op' old u hop hold hu =>
        hgives _ u (.assign hsteps hrun hop hold) hu
    refine hassigned.bind fun u t' _ ht' hu => ?_
    exact ⟨ht'.assign name hu, fun flow hflow => by cases hflow; exact List.forall_mem_nil _⟩
  | branch condition yes no =>
    rw [exec]
    refine Eval.keeps_tick_bind hm.state fun hsteps => ?_
    refine (hoption (some condition) rfl hsteps).bind fun v t hv ht _ => ?_
    have hblock := (endsBounded_stmts.mp (hends _ (.branch hsteps hv))).inScope
    cases hc : v.truthy <;> rw [hc] at hblock <;> exact hblock
  | function name params body =>
    rw [exec]
    refine Eval.keeps_tick_bind hm.state fun hsteps => ?_
    refine ⟨hm.state.ticked.declare name hm.task, fun flow hflow => ?_⟩
    cases hflow
    exact List.forall_mem_nil _
  | result value =>
    rw [exec]
    refine Eval.keeps_tick_bind hm.state fun hsteps => ?_
    refine (hoption value rfl hsteps).bind fun v t _ ht hv => ?_
    exact Eval.keeps_pure ht (List.forall_mem_singleton.mpr hv)
  | expr value =>
    rw [exec]
    refine Eval.keeps_tick_bind hm.state fun hsteps => ?_
    refine (hoption (some value) rfl hsteps).bind fun v t _ ht hv => ?_
    exact Eval.keeps_pure ht (List.forall_mem_nil _)

theorem endsBounded_of_stmts {parent : Site} {stmts : List Stmt} (hs : s.Bounded)
    (hends : ∀ m', Leads ⟨n, .stmts parent i stmts, s⟩ m' → m'.EndsBounded) :
    EndsBounded ⟨n, .stmts parent i stmts, s⟩ := by
  rw [endsBounded_stmts]
  cases stmts with
  | nil => exact Eval.keeps_pure hs (List.forall_mem_nil _)
  | cons stmt stmts =>
    rw [execAll]
    refine (endsBounded_stmt.mp (hends _ .stmt)).bind fun flow t hflow ht hbounded => ?_
    cases flow with
    | next => exact endsBounded_stmts.mp (hends _ (.stmts hflow))
    | returned v => exact Eval.keeps_pure ht hbounded

theorem endsBounded_of_call {decl : FunctionDecl} {site : Site} {args : List Value} (hs : s.Bounded)
    (hends : ∀ m', Leads ⟨n, .call decl site args, s⟩ m' → m'.EndsBounded) :
    EndsBounded ⟨n, .call decl site args, s⟩ := by
  rw [endsBounded_call]
  cases n with
  | zero => exact Eval.keeps_throw _ hs
  | succ n =>
    refine Eval.Keeps.inFrame hs ?_
    refine (endsBounded_stmts.mp (hends _ .body)).bind fun flow t _ ht hbounded => ?_
    cases flow with
    | next => exact Eval.keeps_pure ht Value.bounded_null
    | returned v => exact Eval.keeps_pure ht (hbounded v (List.mem_singleton_self v))

/-- No unchecked operation gives a string that is too long, from the moment on. -/
def Harmless (m : Moment) : Prop :=
  ∀ m' o v, m.Comes m' → m'.Performs o → o.unchecked = true → o.result = .ok v → v.Bounded

theorem Harmless.of_comes (h : m.Harmless) (hcomes : m.Comes m') : m'.Harmless :=
  fun m'' o v hcomes' => h m'' o v (Relation.ReflTransGen.trans hcomes hcomes')

/-- The values that an operation of the moment is given are bounded. -/
theorem Performs.bounded_operands {o : Operation} (h : m.Performs o) (hm : m.StartsBounded)
    (hends : ∀ m', m.Leads m' → m'.EndsBounded) : ∀ v ∈ o.operands, v.Bounded := by
  cases h with
  | @conclude n s t e vs o hsteps hvs he =>
    have hgives := (endsBounded_exprs.mp (hends _ (.operands hsteps))).2 vs
    rw [operandValues] at hvs
    rw [hvs] at hgives
    have hconclusion := Expr.bounded_conclusion hm.task (hgives rfl)
    rw [he] at hconclusion
    exact hconclusion
  | @assign n s t site name op value op' v old hsteps hv hop hold =>
    obtain ⟨ht, hgives⟩ := endsBounded_expr.mp (hends _ (.operand hsteps rfl))
    rw [hv] at ht hgives
    exact List.forall_mem_cons.mpr
      ⟨ht.lookup hold, List.forall_mem_singleton.mpr (hgives v rfl)⟩

/-- What an operation concludes an evaluation with is the value of the expression. -/
theorem eval_of_performs {e : Expr} {o : Operation} {v : Value}
    (h : Performs ⟨n, .expr e, s⟩ o) (hv : o.result = .ok v) :
    ∃ t, (eval (callWith n) e).run s = (.ok v, t) := by
  cases h with
  | @conclude _ _ t _ vs _ hsteps hvs he =>
    refine ⟨t, ?_⟩
    rw [eval_eq, Eval.run_tick_bind, if_pos hsteps, Eval.run_bind_of_ok hvs, he, Conclusion.run, hv]
    rfl

/-- **All that is evaluated.** From a bounded moment on, all ends bounded as long as no unchecked
operation gives a string that is too long. -/
theorem endsBounded (m : Moment) (hm : m.StartsBounded) (hharmless : m.Harmless) :
    m.EndsBounded := by
  -- By induction on the ways from the moment. The moments to which it leads are not known to start
  -- bounded: that depends on how those before them end.
  induction m using wellFounded_leads.induction with
  | _ m ih =>
    have hends : ∀ m', m.Leads m' → m'.StartsBounded → m'.EndsBounded := fun m' hleads hm' =>
      ih m' hleads hm' (hharmless.of_comes (Relation.ReflTransGen.single hleads))
    have hends' : ∀ m', m.Leads m' → m'.EndsBounded := fun m' hleads =>
      hends m' hleads (hleads.startsBounded hm hends)
    have hgives : ∀ o v, m.Performs o → o.result = .ok v → v.Bounded := by
      intro o v hperforms hv
      cases hchecked : o.unchecked with
      | true => exact hharmless m o v Relation.ReflTransGen.refl hperforms hchecked hv
      | false => exact Operation.bounded_result (hperforms.bounded_operands hm hends') hchecked hv
    obtain ⟨n, task, s⟩ := m
    cases task with
    | expr e => exact endsBounded_of_expr hm hends' hgives
    | exprs es => exact endsBounded_of_exprs hm.state hends'
    | stmt site stmt => exact endsBounded_of_stmt hm hends' hgives
    | stmts parent i stmts => exact endsBounded_of_stmts hm.state hends'
    | call decl site args => exact endsBounded_of_call hm.state hends'

/-- All moments that follow a bounded one start bounded, as long as no unchecked operation gives a
string that is too long. -/
theorem Comes.startsBounded (h : m.Comes m') (hm : m.StartsBounded) (hharmless : m.Harmless) :
    m'.StartsBounded := by
  induction h with
  | refl => exact hm
  | @tail m₁ m₂ hcomes hleads ih =>
    refine hleads.startsBounded ih fun m'' hleads' hm'' => m''.endsBounded hm'' ?_
    exact hharmless.of_comes (hcomes.tail hleads')

end Moment

/-! ### Runs -/

/-- **Strings of a run.** For a bounded interpreter and a program whose literals are not too long,
all values that a run gives or stores are bounded if and only if no unchecked operation of the run
gives a string that is too long. What puts texts together fails exactly if the text is too long. -/
theorem Interpreter.run_bounded_iff (s : Interpreter) (p : Program) (hs : s.Bounded)
    (hp : Script.Bounded p.literals) :
    ((∀ m, (s.start p).Comes m → m.EndsBounded) ↔
      ∀ m o v, (s.start p).Comes m → m.Performs o → o.unchecked = true → o.result = .ok v →
        v.Bounded) ∧
      ∀ (o : Operation) (t : Text), o.joins? = some t →
        o.result = if maxStringBytes < t.byteSize then .error (.stringTooLong t.byteSize)
          else .ok (.string t) := by
  refine ⟨⟨fun hall m o v hcomes hperforms hunchecked hv => ?_, fun hharmless m hcomes => ?_⟩,
    fun o t ht => (Operation.joined_result ht).trans (build_eq t)⟩
  · obtain ⟨n, task, s'⟩ := m
    cases task with
    | expr e =>
      obtain ⟨t, heval⟩ := Moment.eval_of_performs hperforms hv
      have hgives := (Moment.endsBounded_expr.mp (hall _ hcomes)).2
      rw [heval] at hgives
      exact hgives v rfl
    | _ =>
      cases hperforms <;> cases hunchecked
  · have hstart : (s.start p).StartsBounded := ⟨hp, hs.hoist hp⟩
    exact m.endsBounded (hcomes.startsBounded hstart hharmless)
      (Moment.Harmless.of_comes hharmless hcomes)

/-- A new interpreter knows functions only. -/
theorem Interpreter.bounded_new : new.Bounded :=
  ⟨(by decide +kernel : ∀ e ∈ Builtin.globals, Script.Bounded e.2.texts), List.forall_mem_nil _⟩

/-- An interpreter that knows a text by the name `a`. -/
def Interpreter.knowing (a : Text) : Interpreter := new.setGlobal ['a'] (.string a)

/-- The program `return a + a`. -/
def joining : Program := ⟨[.result (some (.binary .add (.ident ['a']) (.ident ['a'])))]⟩

/-- The program `return String([a, a])`. -/
def doubling : Program :=
  ⟨[.result (some (.call (.ident "String".toList) [.list [.ident ['a'], .ident ['a']]]))]⟩

theorem Interpreter.bounded_knowing {a : Text} (ha : a.byteSize ≤ maxStringBytes) :
    (knowing a).Bounded := bounded_new.setGlobal ['a'] (Value.bounded_string.mpr ha)

theorem Interpreter.run_doubling (a : Text) :
    ((knowing a).run doubling).1 = .ok (some (.string (Text.join [','] [a, a]))) := rfl

/-- A string of `x` characters is as long as it has characters. -/
theorem byteSize_replicate_x (n : Nat) : Text.byteSize (List.replicate n 'x') = n := by
  induction n with
  | zero => rfl
  | succ n ih =>
    rw [List.replicate_succ, Text.byteSize_cons, ih]
    exact Nat.add_comm 1 n

/-- The longest string joined with itself: nothing unchecked is done, and putting the two together
fails. -/
theorem Interpreter.run_bounded_joining :
    let a : Text := List.replicate maxStringBytes 'x'
    let s := Interpreter.knowing a
    s.Bounded ∧ Script.Bounded joining.literals ∧
      ((∀ m, (s.start joining).Comes m → m.EndsBounded) ↔
        ∀ m o v, (s.start joining).Comes m → m.Performs o → o.unchecked = true →
          o.result = .ok v → v.Bounded) ∧
      (Operation.combine .add (.string a) (.string a)).result =
        .error (.stringTooLong (2 * maxStringBytes)) := by
  intro a s
  have ha : a.byteSize = maxStringBytes := byteSize_replicate_x maxStringBytes
  have hs : s.Bounded := bounded_knowing ha.le
  have hliterals : Script.Bounded joining.literals := by decide
  obtain ⟨hiff, hjoined⟩ := Interpreter.run_bounded_iff s joining hs hliterals
  refine ⟨hs, hliterals, hiff, ?_⟩
  have hlong : (a ++ a).byteSize = 2 * maxStringBytes := by rw [Text.byteSize_append, ha, two_mul]
  rw [hjoined (.combine .add (.string a) (.string a)) (a ++ a) rfl, hlong, if_pos (by decide)]

/-- The longest string, twice in a list that is converted: the run gives a string that is twice as
long. -/
theorem Interpreter.not_bounded_doubling :
    let a : Text := List.replicate maxStringBytes 'x'
    let s := Interpreter.knowing a
    s.Bounded ∧ Script.Bounded doubling.literals ∧
      ∃ t : Text, (s.run doubling).1 = .ok (some (.string t)) ∧
        t.byteSize = 2 * maxStringBytes + 1 ∧ ¬∀ m, (s.start doubling).Comes m → m.EndsBounded := by
  intro a s
  have ha : a.byteSize = maxStringBytes := byteSize_replicate_x maxStringBytes
  have hsize : (Text.join [','] [a, a]).byteSize = 2 * maxStringBytes + 1 := by
    have hflatten : Text.byteSize [a, a].flatten = 2 * maxStringBytes := by
      rw [List.flatten_cons, List.flatten_singleton, Text.byteSize_append, ha, two_mul]
    rw [Text.byteSize_join, hflatten]
    rfl
  refine ⟨bounded_knowing ha.le, by decide, _, run_doubling a, hsize, fun hall => ?_⟩
  have houtcome : ((s.run doubling).1.map Option.toList) = (s.start doubling).outcome.1 :=
    (run_eq s doubling).1
  rw [run_doubling] at houtcome
  have hbounded := (hall _ Relation.ReflTransGen.refl).2 _ houtcome.symm _ (List.mem_singleton_self _)
  rw [Value.bounded_string, hsize] at hbounded
  exact absurd hbounded (by decide)

end LiveSnippet.Script
