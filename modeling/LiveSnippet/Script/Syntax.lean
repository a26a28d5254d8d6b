import LiveSnippet.Text.Basic

/-!
# Syntax of the script language

Expressions, statements and programs as trees. Trees carry no places, so two scripts that differ in
layout only have the same tree.

## Main definitions

* `BinaryOp`, `BinaryOp.leftPower`, `BinaryOp.rightPower`: the operators and how tightly they bind
* `Expr`, `Stmt`, `FunctionDecl`, `Program`
* `Program.functions`: the functions that a program declares at its top level
-/

namespace LiveSnippet.Script

/-- The binary operators, the loosest first. -/
inductive BinaryOp
  | or
  | and
  | equal
  | notEqual
  | less
  | lessEqual
  | greater
  | greaterEqual
  | add
  | sub
  | mul
  | div
  | rem
deriving DecidableEq, Repr

namespace BinaryOp

/-- How tightly the operator binds the operand before it. -/
def leftPower : BinaryOp → Nat
  | or => 3
  | and => 5
  | equal | notEqual => 7
  | less | lessEqual | greater | greaterEqual => 9
  | add | sub => 11
  | mul | div | rem => 13

/-- How tightly the operator binds the operand behind it. It is more than on the left, so that
operators of one kind associate to the left. -/
def rightPower (op : BinaryOp) : Nat := op.leftPower + 1

end BinaryOp

/-- The power of the conditional operator, looser than any binary operator. -/
def conditionalPower : Nat := 2

/-- The power with which a prefixed operator takes its operand: tighter than any binary operator.
Calls, indices and properties bind tighter still. -/
def unaryPower : Nat := 15

/-- The operators in front of an operand. -/
inductive UnaryOp
  | neg
  | plus
  | not
deriving DecidableEq, Repr

/-- How an assignment combines the old value with the new. -/
inductive AssignOp
  | set
  | add
  | sub
  | mul
deriving DecidableEq, Repr

/-- A constant. -/
inductive Literal
  | null
  | bool (value : Bool)
  | number (value : Float)
  | string (value : Text)
deriving DecidableEq, Repr

/-- An expression. -/
inductive Expr
  | literal (value : Literal)
  | list (items : List Expr)
  | ident (name : Text)
  | member (receiver : Expr) (name : Text)
  | index (receiver subscript : Expr)
  | call (callee : Expr) (args : List Expr)
  | unary (op : UnaryOp) (operand : Expr)
  | binary (op : BinaryOp) (left right : Expr)
  | conditional (condition yes no : Expr)
deriving Repr

/-- A statement. -/
inductive Stmt
  | declare (name : Text) (value : Option Expr)
  | assign (name : Text) (op : AssignOp) (value : Expr)
  | branch (condition : Expr) (yes no : List Stmt)
  | function (name : Text) (params : List Text) (body : List Stmt)
  | result (value : Option Expr)
  | expr (value : Expr)
deriving Repr

/-- A function with a name. -/
structure FunctionDecl where
  name : Text
  params : List Text
  body : List Stmt
deriving Repr

/-- The statements of a script. -/
structure Program where
  stmts : List Stmt
deriving Repr

namespace Program

/-- The functions declared at the top level, each with the index of its statement. They are known
before the first statement runs. -/
def functions (p : Program) : List (Nat × FunctionDecl) :=
  p.stmts.zipIdx.filterMap fun (stmt, i) =>
    match stmt with
    | .function name params body => some (i, ⟨name, params, body⟩)
    | _ => none

end Program

end LiveSnippet.Script
