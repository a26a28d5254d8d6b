import LiveSnippet.Script.Parser

/-!
# Parsing by positions

The same grammar, read from a fixed list of tokens by a position in it. Here nothing goes right just
because of how the state is built. Wherever the parser moves, there has to be a token; a bracket is
only closed if one is open; a statement only begins if none is open; and a recursion only ends by
itself. Where one of these fails, the parser stops with a fault, which is not an error of the
script.

## Main definitions

* `Fault`, `Stop`: what must not happen, and how the parser stops
* `Indexed`: a step of this parser
* `Indexed.program`, `Indexed.expression`: what scripts consist of
-/

namespace LiveSnippet.Script

/-- What must not happen while tokens are parsed. -/
inductive Fault
  /-- The position leaves the tokens. -/
  | pastEnd
  /-- A bracket is closed while none is open. -/
  | unopened
  /-- A statement begins between brackets. -/
  | betweenBrackets
  /-- A recursion is cut off. -/
  | bound
deriving DecidableEq, Repr

/-- How the parser stops without a result. -/
inductive Stop
  | error (e : ParseError)
  | fault (f : Fault)
deriving DecidableEq, Repr

/-- The tokens, the position among them, and the number of open brackets. -/
structure IndexedState where
  tokens : List Located
  pos : Nat
  nesting : Nat
deriving DecidableEq, Repr

/-- A step of the parser by positions. -/
abbrev Indexed (α : Type) := StateT IndexedState (Except Stop) α

namespace Indexed

/-- Stops with a fault. -/
def stop {α : Type} (f : Fault) : Indexed α := throw (.fault f)

/-- The token at the position. -/
def current : Indexed Located := do
  let s ← get
  match s.tokens[s.pos]? with
  | some t => return t
  | none => stop .pastEnd

/-- Moves to a position, at which there has to be a token. -/
def moveTo (pos : Nat) : Indexed Unit := do
  let s ← get
  if pos < s.tokens.length then set { s with pos } else stop .pastEnd

/-- Moves to the next token. -/
def next : Indexed Unit := do moveTo ((← get).pos + 1)

/-- Passes over line feeds if brackets are open. -/
def settle : Indexed Unit := do
  let s ← get
  if s.nesting ≠ 0 then
    moveTo (s.pos + ((s.tokens.drop s.pos).takeWhile (·.token = .newline)).length)

/-- The current token. -/
def peek : Indexed Token := do
  settle
  return (← current).token

/-- Whether the current token is `token`. -/
def check (token : Token) : Indexed Bool := return (← peek) = token

/-- Consumes the current token, unless it is `eof`. -/
def advance : Indexed Located := do
  settle
  let t ← current
  unless t.token = .eof do
    next
  return t

/-- Consumes the current token if it is `token`. -/
def eat (token : Token) : Indexed Bool := do
  if ← check token then
    let _ ← advance
    return true
  return false

/-- Fails at the current token. -/
def fail {α : Type} (what : Expectation) : Indexed α := do
  settle
  throw (.error ⟨(← current).place, .expected what⟩)

/-- Consumes the current token, which must be `token`. -/
def expect (token : Token) (what : Expectation) : Indexed Unit := do
  unless ← eat token do
    fail what

/-- Consumes the current token, which must be an identifier. -/
def name (what : Expectation) : Indexed Text := do
  match ← peek with
  | .ident name =>
    let _ ← advance
    return name
  | _ => fail what

/-- Opens a bracket between which line feeds mean nothing. -/
def openBracket : Indexed Unit := modify fun s => { s with nesting := s.nesting + 1 }

/-- Closes the innermost such bracket. -/
def closeBracket : Indexed Unit := do
  let s ← get
  if s.nesting = 0 then stop .unopened else set { s with nesting := s.nesting - 1 }

/-- Where a statement begins, no bracket is open. -/
def beginStatement : Indexed Unit := do
  if (← get).nesting ≠ 0 then stop .betweenBrackets

/-- Consumes tokens as long as `skips` holds, fewer than `n` of them. -/
def skipWhile (skips : Token → Bool) : Nat → Indexed Unit
  | 0 => stop .bound
  | n + 1 => do
    if skips (← peek) then
      let _ ← advance
      skipWhile skips n

/-- The number of tokens from the position on. -/
def remaining : Indexed Nat := return (← get).tokens.length - (← get).pos

/-- Consumes line feeds and semicolons. -/
def skipSeparators : Indexed Unit := do
  skipWhile (fun t => t = .newline || t = .semicolon) (← remaining)

/-- Consumes line feeds. -/
def skipNewlines : Indexed Unit := do
  skipWhile (· = .newline) (← remaining)

mutual

/-- An expression whose operators bind at least as tightly as `power`. -/
def expr (depth : Nat) (power : Nat) : Indexed Expr :=
  match depth with
  | 0 => stop .bound
  | depth + 1 => do
    let left ← operand depth
    operators depth power left

/-- Takes in operators behind `left` as long as they bind at least as tightly as `power`. -/
def operators (depth : Nat) (power : Nat) (left : Expr) : Indexed Expr :=
  match depth with
  | 0 => stop .bound
  | depth + 1 => do
    match ← peek with
    | .leftParen =>
      let _ ← advance
      let args ← items depth .rightParen .closeParen
      operators depth power (.call left args)
    | .leftBracket =>
      let _ ← advance
      openBracket
      let subscript ← expr depth 0
      closeBracket
      expect .rightBracket .closeBracket
      operators depth power (.index left subscript)
    | .dot =>
      let _ ← advance
      let property ← name .propertyName
      operators depth power (.member left property)
    | .question =>
      if conditionalPower < power then return left
      let _ ← advance
      openBracket
      let yes ← expr depth 0
      expect .colon .conditionalColon
      closeBracket
      let no ← expr depth conditionalPower
      operators depth power (.conditional left yes no)
    | token =>
      match binaryOp? token with
      | none => return left
      | some op =>
        if op.leftPower < power then return left
        let _ ← advance
        let right ← expr depth op.rightPower
        operators depth power (.binary op left right)

/-- A constant, a name, a list, an expression in parentheses, or an operator with its operand. -/
def operand (depth : Nat) : Indexed Expr :=
  match depth with
  | 0 => stop .bound
  | depth + 1 => do
    let token ← advance
    match token.token with
    | .number value => return .literal (.number value)
    | .string value => return .literal (.string value)
    | .trueWord => return .literal (.bool true)
    | .falseWord => return .literal (.bool false)
    | .nullWord => return .literal .null
    | .ident name => return .ident name
    | .leftParen =>
      openBracket
      let inner ← expr depth 0
      closeBracket
      expect .rightParen .closeParen
      return inner
    | .leftBracket => return .list (← items depth .rightBracket .closeBracket)
    | .minus => return .unary .neg (← expr depth unaryPower)
    | .plus => return .unary .plus (← expr depth unaryPower)
    | .bang => return .unary .not (← expr depth unaryPower)
    | _ => throw (.error ⟨token.place, .expected .expression⟩)

/-- Expressions separated by commas, behind an opening bracket and up to the closing one. -/
def items (depth : Nat) (closing : Token) (what : Expectation) : Indexed (List Expr) :=
  match depth with
  | 0 => stop .bound
  | depth + 1 => do
    openBracket
    let exprs ← itemsUpTo depth closing
    closeBracket
    expect closing what
    return exprs

/-- Expressions separated by commas. The list ends before the closing bracket or where a comma is
missing. -/
def itemsUpTo (depth : Nat) (closing : Token) : Indexed (List Expr) :=
  match depth with
  | 0 => stop .bound
  | depth + 1 => do
    if ← check closing then return []
    let item ← expr depth 0
    if ← eat .comma then return item :: (← itemsUpTo depth closing)
    return [item]

end

/-- Names separated by commas, up to a closing parenthesis, fewer than `n` of them. -/
def params : Nat → Indexed (List Text)
  | 0 => stop .bound
  | n + 1 => do
    if ← check .rightParen then return []
    let param ← name .parameterName
    if ← eat .comma then return param :: (← params n)
    return [param]

/-- The assignment operator right behind the current token. -/
def upcomingAssign : Indexed (Option AssignOp) := do
  let s ← get
  return s.tokens[s.pos + 1]?.bind fun t => assignOp? t.token

/-- Whether the token in front of the current one is a closing brace. -/
def behindBrace : Indexed Bool := do
  let s ← get
  return s.pos ≠ 0 && s.tokens[s.pos - 1]?.map (·.token) = some .rightBrace

mutual

/-- Statements up to `closing` or the end. A separator stands between two statements unless the
first one ends in a closing brace. -/
def statements (depth : Nat) (closing : Token) : Indexed (List Stmt) :=
  match depth with
  | 0 => stop .bound
  | depth + 1 => do
    skipSeparators
    let token ← peek
    if token = closing || token = .eof then return []
    let stmt ← statement depth
    unless ← behindBrace do
      unless Parse.endsStatement closing (← peek) do
        fail .endOfStatement
    return stmt :: (← statements depth closing)

/-- Statements between braces. -/
def block (depth : Nat) : Indexed (List Stmt) :=
  match depth with
  | 0 => stop .bound
  | depth + 1 => do
    expect .leftBrace .openBrace
    let stmts ← statements depth .rightBrace
    expect .rightBrace .closeBrace
    return stmts

/-- The block or the single statement that a condition guards. -/
def branch (depth : Nat) : Indexed (List Stmt) :=
  match depth with
  | 0 => stop .bound
  | depth + 1 => do
    skipNewlines
    if ← check .leftBrace then block depth
    else return [← statement depth]

/-- A statement. -/
def statement (depth : Nat) : Indexed Stmt :=
  match depth with
  | 0 => stop .bound
  | depth + 1 => do
    beginStatement
    match ← peek with
    | .letWord =>
      let _ ← advance
      let target ← name .variableName
      if ← eat .assign then return .declare target (some (← expr depth 0))
      return .declare target none
    | .ifWord =>
      let _ ← advance
      expect .leftParen .conditionParen
      openBracket
      let condition ← expr depth 0
      closeBracket
      expect .rightParen .closeParen
      let yes ← branch depth
      let saved := (← get).pos
      skipSeparators
      if ← eat .elseWord then return .branch condition yes (← branch depth)
      moveTo saved
      return .branch condition yes []
    | .functionWord =>
      let _ ← advance
      let function ← name .functionName
      expect .leftParen .openParen
      openBracket
      let params ← params (← remaining)
      closeBracket
      expect .rightParen .closeParen
      skipNewlines
      return .function function params (← block depth)
    | .returnWord =>
      let _ ← advance
      if Parse.endsStatement .rightBrace (← peek) then return .result none
      return .result (some (← expr depth 0))
    | .ident target =>
      match ← upcomingAssign with
      | some op =>
        let _ ← advance
        let _ ← advance
        return .assign target op (← expr depth 0)
      | none => return .expr (← expr depth 0)
    | _ => return .expr (← expr depth 0)

end

/-- A whole script. -/
def program (depth : Nat) : Indexed Program := return ⟨← statements depth .eof⟩

/-- A whole expression. Separators may stand around it. -/
def expression (depth : Nat) : Indexed Expr := do
  skipSeparators
  let expr ← expr depth 0
  skipSeparators
  expect .eof .endOfExpression
  return expr

end Indexed

end LiveSnippet.Script
