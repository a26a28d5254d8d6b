import LiveSnippet.Script.Syntax
import LiveSnippet.Script.Token
import LiveSnippet.Script.Value

/-!
# Programs as tokens

A program is written as tokens with as few parentheses as possible. An expression stands at a
position that demands a power: it is put in parentheses if it binds more loosely than that. Operators
of one kind associate to the left and conditionals to the right, so a binary operator demands its own
power on its left and one more on its right, and a conditional demands more than its own power of its
condition only.

Every statement is followed by a line feed or a semicolon, whichever is chosen at its site. Branches
and function bodies stand between braces, and there is no `else` in front of no statements.

## Main definitions

* `Expr.power`, `Expr.tokens`, `Expr.tokensAt`: expressions, bare and at a position
* `Separator`: what follows a statement
* `Stmt.tokens`, `Program.tokens`
-/

namespace LiveSnippet.Script

/-- The power of calls, indices and properties, and of whatever needs no parentheses anywhere. -/
def postfixPower : Nat := 20

/-- The token of a constant. -/
def Literal.token : Literal → Token
  | null => .nullWord
  | bool true => .trueWord
  | bool false => .falseWord
  | number x => .number x
  | string s => .string s

/-- The token of an operator in front of an operand. -/
def UnaryOp.token : UnaryOp → Token
  | neg => .minus
  | plus => .plus
  | not => .bang

/-- The token of an operator between operands. -/
def BinaryOp.token : BinaryOp → Token
  | or => .orOr
  | and => .andAnd
  | equal => .equal
  | notEqual => .notEqual
  | less => .less
  | lessEqual => .lessEqual
  | greater => .greater
  | greaterEqual => .greaterEqual
  | add => .plus
  | sub => .minus
  | mul => .star
  | div => .slash
  | rem => .percent

/-- The token of an assignment. -/
def AssignOp.token : AssignOp → Token
  | set => .assign
  | add => .plusAssign
  | sub => .minusAssign
  | mul => .starAssign

/-- Lists of tokens with commas between them. -/
def separateByCommas : List (List Token) → List Token
  | [] => []
  | [ts] => ts
  | ts :: rest => ts ++ .comma :: separateByCommas rest

namespace Expr

/-- How tightly an expression holds together. -/
def power : Expr → Nat
  | unary .. => unaryPower
  | binary op .. => op.leftPower
  | conditional .. => conditionalPower
  | _ => postfixPower

/-- The tokens of an expression at a position that demands a power, given those of the bare
expression. -/
def guarded (power : Nat) (e : Expr) (ts : List Token) : List Token :=
  if e.power < power then .leftParen :: ts ++ [.rightParen] else ts

mutual

/-- The tokens of a bare expression. -/
def tokens : Expr → List Token
  | literal l => [l.token]
  | list items => .leftBracket :: separateByCommas (tokensOfAll items) ++ [.rightBracket]
  | ident name => [.ident name]
  | member receiver name => guarded postfixPower receiver receiver.tokens ++ [.dot, .ident name]
  | index receiver subscript =>
    guarded postfixPower receiver receiver.tokens ++
      .leftBracket :: subscript.tokens ++ [.rightBracket]
  | call callee args =>
    guarded postfixPower callee callee.tokens ++
      .leftParen :: separateByCommas (tokensOfAll args) ++ [.rightParen]
  | unary op operand => op.token :: guarded unaryPower operand operand.tokens
  | binary op left right =>
    guarded op.leftPower left left.tokens ++ op.token :: guarded op.rightPower right right.tokens
  | conditional condition yes no =>
    guarded (conditionalPower + 1) condition condition.tokens ++
      .question :: yes.tokens ++ .colon :: guarded conditionalPower no no.tokens

/-- The tokens of each of some expressions. -/
def tokensOfAll : List Expr → List (List Token)
  | [] => []
  | e :: rest => e.tokens :: tokensOfAll rest

end

/-- The tokens of an expression at a position that demands a power. -/
def tokensAt (power : Nat) (e : Expr) : List Token := guarded power e e.tokens

end Expr

/-- What follows a statement. -/
inductive Separator
  | newline
  | semicolon
deriving DecidableEq, Repr

/-- The token of a separator. -/
def Separator.token : Separator → Token
  | newline => .newline
  | semicolon => .semicolon

namespace Stmt

variable (ends : Site → Separator)

mutual

/-- The tokens of a statement at a site, without its separator. -/
def tokens (site : Site) : Stmt → List Token
  | declare name none => [.letWord, .ident name]
  | declare name (some value) => .letWord :: .ident name :: .assign :: value.tokens
  | assign name op value => .ident name :: op.token :: value.tokens
  | branch condition yes no =>
    .ifWord :: .leftParen :: condition.tokens ++ .rightParen :: .leftBrace ::
      tokensOfAll (0 :: site) 0 yes ++ .rightBrace ::
        if no.isEmpty then []
        else .elseWord :: .leftBrace :: tokensOfAll (1 :: site) 0 no ++ [.rightBrace]
  | function name params body =>
    .functionWord :: .ident name :: .leftParen ::
      separateByCommas (params.map fun param => [.ident param]) ++
        .rightParen :: .leftBrace :: tokensOfAll site 0 body ++ [.rightBrace]
  | result none => [.returnWord]
  | result (some value) => .returnWord :: value.tokens
  | expr value => value.tokens

/-- The tokens of statements from the `i`-th on, each with its separator. -/
def tokensOfAll (parent : Site) (i : Nat) : List Stmt → List Token
  | [] => []
  | stmt :: rest =>
    tokens (i :: parent) stmt ++ (ends (i :: parent)).token :: tokensOfAll parent (i + 1) rest

end

end Stmt

/-- The tokens of a program, up to the end of the input. -/
def Program.tokens (ends : Site → Separator) (p : Program) : List Token :=
  Stmt.tokensOfAll ends [] 0 p.stmts ++ [.eof]

end LiveSnippet.Script
