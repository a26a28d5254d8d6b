import LiveSnippet.Script.Method
import LiveSnippet.Script.Parser

/-!
# Interpreter of the script language

Expressions and statements are evaluated by recursion on the tree. A call of a function leaves the
tree, so the evaluator is given the meaning of calls, and `callWith` ties the knot by recursion on
the calls that may still be nested: none is left after `maxCallDepth` of them. What is not bounded by
the tree and the nesting is bounded by the count of steps.

An error ends the evaluation, but not the interpreter: what was done before the error remains.

## Main definitions

* `Interpreter`: global names, local scopes, call depth and steps
* `eval`, `exec`: the meaning of expressions and statements
* `Interpreter.run`, `Interpreter.evaluate`: runs a program, evaluates an expression
-/

namespace LiveSnippet.Script

/-- Names and their values. -/
abbrev Scope := List (Text × Value)

namespace Scope

/-- Gives a name a value. -/
def put (name : Text) (value : Value) : Scope → Scope
  | [] => [(name, value)]
  | (n, v) :: rest => if n = name then (name, value) :: rest else (n, v) :: put name value rest

/-- Whether a scope has a name. -/
def has (scope : Scope) (name : Text) : Bool := (scope.lookup name).isSome

/-- The scope of a call: the parameters with the arguments, null for those that are missing. -/
def ofParams : List Text → List Value → Scope → Scope
  | [], _, scope => scope
  | p :: params, args, scope => ofParams params args.tail (scope.put p (args.head?.getD .null))

end Scope

/-- The most calls of functions that may be nested. -/
def maxCallDepth : Nat := 64

/-- The most steps that an interpreter makes. -/
def maxSteps : Nat := 1000000

/-- The state of an evaluation. -/
structure Interpreter where
  globals : Scope
  /-- The local scopes of the current call, the innermost first. -/
  locals : List Scope
  /-- The calls that are nested. -/
  depth : Nat
  /-- The steps made. -/
  steps : Nat
  /-- The programs run. -/
  runs : Nat

/-- A computation on an interpreter. Its effects remain when it fails. -/
abbrev Eval (α : Type) := ExceptT RuntimeError (StateM Interpreter) α

namespace Interpreter

/-- The value of a name: that of the innermost scope that has it. -/
def lookup? (s : Interpreter) (name : Text) : Option Value :=
  (s.locals.findSome? (·.lookup name)).or (s.globals.lookup name)

/-- Gives a name a value in the innermost scope. -/
def declare (s : Interpreter) (name : Text) (value : Value) : Interpreter :=
  match s.locals with
  | [] => { s with globals := s.globals.put name value }
  | scope :: rest => { s with locals := scope.put name value :: rest }

/-- Gives a name a value in the first of the scopes that has it; `none` if none of them has. -/
def assignLocal? (name : Text) (value : Value) : List Scope → Option (List Scope)
  | [] => none
  | scope :: rest =>
    if scope.has name then some (scope.put name value :: rest)
    else (assignLocal? name value rest).map (scope :: ·)

/-- Gives a name a value in the innermost scope that has it, else as a global name. -/
def assign (s : Interpreter) (name : Text) (value : Value) : Interpreter :=
  match assignLocal? name value s.locals with
  | some locals => { s with locals }
  | none => { s with globals := s.globals.put name value }

end Interpreter

namespace Eval

/-- Counts a step. -/
def tick : Eval Unit := do
  modify fun s => { s with steps := s.steps + 1 }
  if maxSteps < (← get).steps then throw .stepsExhausted

/-- The value of a name. -/
def lookup (name : Text) : Eval Value := do
  match (← get).lookup? name with
  | some value => return value
  | none => throw (.undefinedName name)

/-- Runs `body` with a new innermost scope and drops the scope, also when it fails. -/
def inScope {α : Type} (body : Eval α) : Eval α := fun s =>
  let (outcome, t) := body { s with locals := [] :: s.locals }
  (outcome, { t with locals := t.locals.tail })

/-- Runs `body` as a call, in which `frame` is the only local scope, and returns to the scopes of the
caller, also when it fails. -/
def inFrame {α : Type} (frame : Scope) (body : Eval α) : Eval α := fun s =>
  let (outcome, t) := body { s with locals := [frame], depth := s.depth + 1 }
  (outcome, { t with locals := s.locals, depth := t.depth - 1 })

end Eval

/-- The meaning of calls of declared functions. -/
abbrev Caller := FunctionDecl → Site → List Value → Eval Value

/-- Calls a value. The name is what the script calls it by. -/
def callValue (caller : Caller) (callee : Value) (args : List Value) (name : Text) : Eval Value :=
  match callee with
  | .builtin b => liftExcept (b.call args)
  | .function decl site => caller decl site args
  | _ => throw (.notAFunction name)
where
  /-- An outcome that does not touch the interpreter. -/
  liftExcept (r : Result Value) : Eval Value := ExceptT.mk (pure r)

/-- The value of a constant. -/
def Literal.toValue : Literal → Value
  | .null => .null
  | .bool b => .bool b
  | .number x => .number x
  | .string s => .string s

/-- What an expression is called by in errors: its name if it is one. -/
def Expr.calleeName : Expr → Text
  | .ident name => name
  | _ => "expression".toList

mutual

/-- The value of an expression. -/
def eval (caller : Caller) : Expr → Eval Value
  | .literal l => do
    Eval.tick
    return l.toValue
  | .list items => do
    Eval.tick
    return .list (← evalAll caller items)
  | .ident name => do
    Eval.tick
    Eval.lookup name
  | .member receiver name => do
    Eval.tick
    let r ← eval caller receiver
    ExceptT.mk (pure (r.property name))
  | .index receiver subscript => do
    Eval.tick
    let r ← eval caller receiver
    let i ← eval caller subscript
    ExceptT.mk (pure (r.subscript i))
  | .call (.member receiver name) args => do
    Eval.tick
    let r ← eval caller receiver
    let args ← evalAll caller args
    match r with
    | .map entries => callValue caller (Value.entry entries name) args name
    | r => ExceptT.mk (pure (r.callMethod name args))
  | .call callee args => do
    Eval.tick
    let f ← eval caller callee
    let args ← evalAll caller args
    callValue caller f args callee.calleeName
  | .unary op operand => do
    Eval.tick
    let v ← eval caller operand
    match op with
    | .neg => return .number (-v.toNumber)
    | .plus => return .number v.toNumber
    | .not => return .bool !v.truthy
  | .binary op left right => do
    Eval.tick
    let a ← eval caller left
    match op with
    | .and => if a.truthy then eval caller right else return a
    | .or => if a.truthy then return a else eval caller right
    | op =>
      let b ← eval caller right
      ExceptT.mk (pure (a.combine op b))
  | .conditional condition yes no => do
    Eval.tick
    if (← eval caller condition).truthy then eval caller yes else eval caller no

/-- The values of expressions, from left to right. -/
def evalAll (caller : Caller) : List Expr → Eval (List Value)
  | [] => return []
  | e :: rest => do
    let v ← eval caller e
    return v :: (← evalAll caller rest)

end

/-- How a statement ends: it lets the next one follow, or returns a value. -/
inductive Flow
  | next
  | returned (value : Value)

/-- The value of an expression that may be missing. -/
def evalOption (caller : Caller) : Option Expr → Eval Value
  | some e => eval caller e
  | none => return .null

/-- The value that an assignment gives to a name. -/
def assigned (op : AssignOp) (name : Text) (value : Value) : Eval Value :=
  match op with
  | .set => return value
  | .add => do ExceptT.mk (pure ((← Eval.lookup name).combine .add value))
  | .sub => do ExceptT.mk (pure ((← Eval.lookup name).combine .sub value))
  | .mul => do ExceptT.mk (pure ((← Eval.lookup name).combine .mul value))

mutual

/-- Executes the statement at a site. -/
def exec (caller : Caller) (site : Site) : Stmt → Eval Flow
  | .declare name value => do
    Eval.tick
    let v ← evalOption caller value
    modify (·.declare name v)
    return .next
  | .assign name op value => do
    Eval.tick
    let v ← assigned op name (← eval caller value)
    modify (·.assign name v)
    return .next
  | .branch condition yes no => do
    Eval.tick
    if (← eval caller condition).truthy then Eval.inScope (execAll caller (0 :: site) 0 yes)
    else Eval.inScope (execAll caller (1 :: site) 0 no)
  | .function name params body => do
    Eval.tick
    modify (·.declare name (.function ⟨name, params, body⟩ site))
    return .next
  | .result value => do
    Eval.tick
    return .returned (← evalOption caller value)
  | .expr value => do
    Eval.tick
    let _ ← eval caller value
    return .next

/-- Executes statements from the `i`-th on until one returns. -/
def execAll (caller : Caller) (parent : Site) (i : Nat) : List Stmt → Eval Flow
  | [] => return .next
  | stmt :: rest => do
    match ← exec caller (i :: parent) stmt with
    | .returned v => return .returned v
    | .next => execAll caller parent (i + 1) rest

end

/-- Calls of functions, as many of which may be nested as the first argument says. -/
def callWith : Nat → Caller
  | 0 => fun decl _ _ => throw (.callDepthExceeded decl.name)
  | n + 1 => fun decl site args => Eval.inFrame (Scope.ofParams decl.params args []) do
    match ← execAll (callWith n) site 0 decl.body with
    | .returned v => return v
    | .next => return .null

namespace Interpreter

/-- An interpreter that has run nothing. -/
def new : Interpreter := ⟨Builtin.globals, [], 0, 0, 0⟩

/-- Defines a global name. -/
def setGlobal (s : Interpreter) (name : Text) (value : Value) : Interpreter :=
  { s with globals := s.globals.put name value }

/-- The value of a global name. -/
def global? (s : Interpreter) (name : Text) : Option Value := s.globals.lookup name

/-- The meaning of calls in the current state. -/
def caller (s : Interpreter) : Caller := callWith (maxCallDepth - s.depth)

/-- Makes the functions of a program known. -/
def hoist (s : Interpreter) (p : Program) : Interpreter :=
  p.functions.foldl (fun s f => s.setGlobal f.2.name (.function f.2 [f.1, s.runs])) s

/-- The value of an expression. -/
def evaluate (s : Interpreter) (e : Expr) : Result Value × Interpreter := (eval s.caller e).run s

/-- Runs a program: the value that its top level returns, if it returns one. -/
def run (s : Interpreter) (p : Program) : Result (Option Value) × Interpreter :=
  let (flow, t) := (execAll s.caller [s.runs] 0 p.stmts).run (s.hoist p)
  let t := { t with runs := t.runs + 1 }
  match flow with
  | .ok (.returned v) => (.ok (some v), t)
  | .ok .next => (.ok none, t)
  | .error e => (.error e, t)

end Interpreter

end LiveSnippet.Script
