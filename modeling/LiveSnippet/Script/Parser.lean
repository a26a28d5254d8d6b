import LiveSnippet.Script.Lexer
import LiveSnippet.Script.Syntax

/-!
# Parser of the script language

Statements are parsed by recursive descent and expressions by binding powers: an expression is read
with a least power, and takes in the operators that bind at least as tightly.

Line feeds end a statement, but mean nothing between brackets. The parser counts the brackets that
are open; while there are any, it passes over line feeds whenever it looks at the next token.

The parsing functions recurse on a bound for the depth of the recursion. Along every chain of calls
there are fewer than eight calls for each token consumed, so `depthBound` is never reached.

## Main definitions

* `ParserState`: the tokens still to read
* `parseTokens`, `parseProgram`, `parseExpression`
-/

namespace LiveSnippet.Script

/-- The state of the parser. There always is a current token; when the input has been read it is
`eof`. -/
structure ParserState where
  /-- The token before the current one. -/
  previous : Option Token
  current : Located
  /-- The tokens behind the current one. -/
  rest : List Located
  /-- The number of open brackets between which line feeds mean nothing. -/
  nesting : Nat
deriving Repr

namespace ParserState

/-- Moves to the next token. The last token is never left. -/
def next (s : ParserState) : ParserState :=
  match s.rest with
  | [] => s
  | t :: rest => { s with previous := some s.current.token, current := t, rest }

/-- The state at the first token of `rest` that is not a line feed, where `current` and `previous`
stand in front of `rest`. -/
def skipNewlinesFrom (nesting : Nat) (previous : Option Token) (current : Located) :
    List Located → ParserState
  | [] => ⟨previous, current, [], nesting⟩
  | t :: rest =>
    if current.token = .newline then skipNewlinesFrom nesting (some .newline) t rest
    else ⟨previous, current, t :: rest, nesting⟩

/-- Passes over line feeds if brackets are open. -/
def settle (s : ParserState) : ParserState :=
  if s.nesting = 0 then s else skipNewlinesFrom s.nesting s.previous s.current s.rest

/-- The state before the first token. -/
def ofTokens : List Located → ParserState
  | [] => ⟨none, ⟨.eof, Place.first⟩, [], 0⟩
  | t :: rest => ⟨none, t, rest, 0⟩

end ParserState

/-- A step of the parser. -/
abbrev Parse (α : Type) := StateT ParserState (Except ParseError) α

namespace Parse

/-- The current token. -/
def peek : Parse Token := do
  modify ParserState.settle
  return (← get).current.token

/-- Whether the current token is `token`. -/
def check (token : Token) : Parse Bool := return (← peek) = token

/-- Consumes the current token, unless it is `eof`. -/
def advance : Parse Located := do
  let _ ← peek
  let s ← get
  unless s.current.token = .eof do
    set s.next
  return s.current

/-- Consumes the current token if it is `token`. -/
def eat (token : Token) : Parse Bool := do
  if ← check token then
    let _ ← advance
    return true
  return false

/-- Fails at the current token. -/
def fail {α : Type} (what : Expectation) : Parse α := do
  let _ ← peek
  throw ⟨(← get).current.place, .expected what⟩

/-- Consumes the current token, which must be `token`. -/
def expect (token : Token) (what : Expectation) : Parse Unit := do
  unless ← eat token do
    fail what

/-- Consumes the current token, which must be an identifier. -/
def name (what : Expectation) : Parse Text := do
  match ← peek with
  | .ident name =>
    let _ ← advance
    return name
  | _ => fail what

/-- Opens a bracket between which line feeds mean nothing. -/
def openBracket : Parse Unit := modify fun s => { s with nesting := s.nesting + 1 }

/-- Closes the innermost such bracket. -/
def closeBracket : Parse Unit := modify fun s => { s with nesting := s.nesting - 1 }

/-- Consumes tokens as long as `skips` holds, at most `n` of them. -/
def skipWhile (skips : Token → Bool) : Nat → Parse Unit
  | 0 => return
  | n + 1 => do
    if skips (← peek) then
      let _ ← advance
      skipWhile skips n

/-- The number of tokens still to read, and hence a bound for those that can be skipped. -/
def remaining : Parse Nat := return (← get).rest.length + 1

/-- Consumes line feeds and semicolons. -/
def skipSeparators : Parse Unit := do
  skipWhile (fun t => t = .newline || t = .semicolon) (← remaining)

/-- Consumes line feeds. -/
def skipNewlines : Parse Unit := do
  skipWhile (· = .newline) (← remaining)

end Parse

/-- The binary operator that a token denotes. -/
def binaryOp? : Token → Option BinaryOp
  | .orOr => some .or
  | .andAnd => some .and
  | .equal => some .equal
  | .notEqual => some .notEqual
  | .less => some .less
  | .lessEqual => some .lessEqual
  | .greater => some .greater
  | .greaterEqual => some .greaterEqual
  | .plus => some .add
  | .minus => some .sub
  | .star => some .mul
  | .slash => some .div
  | .percent => some .rem
  | _ => none

/-- The assignment that a token denotes. -/
def assignOp? : Token → Option AssignOp
  | .assign => some .set
  | .plusAssign => some .add
  | .minusAssign => some .sub
  | .starAssign => some .mul
  | _ => none

namespace Parse

mutual

/-- An expression whose operators bind at least as tightly as `power`. -/
def expr (depth : Nat) (power : Nat) : Parse Expr :=
  match depth with
  | 0 => fail .expression
  | depth + 1 => do
    let left ← operand depth
    operators depth power left

/-- Takes in operators behind `left` as long as they bind at least as tightly as `power`. -/
def operators (depth : Nat) (power : Nat) (left : Expr) : Parse Expr :=
  match depth with
  | 0 => fail .expression
  | depth + 1 => do
    match ← peek with
    | .leftParen =>
      let _ ← advance
      let args ← items depth .rightParen .closeParen
      operators depth power (.call left args)
    | .leftBracket =>
      let _ ← advance
      openBracket
      let subscript ← expr depth 0
      closeBracket
      expect .rightBracket .closeBracket
      operators depth power (.index left subscript)
    | .dot =>
      let _ ← advance
      let property ← name .propertyName
      operators depth power (.member left property)
    | .question =>
      if conditionalPower < power then return left
      let _ ← advance
      openBracket
      let yes ← expr depth 0
      expect .colon .conditionalColon
      closeBracket
      let no ← expr depth conditionalPower
      operators depth power (.conditional left yes no)
    | token =>
      match binaryOp? token with
      | none => return left
      | some op =>
        if op.leftPower < power then return left
        let _ ← advance
        let right ← expr depth op.rightPower
        operators depth power (.binary op left right)

/-- A constant, a name, a list, an expression in parentheses, or an operator with its operand. -/
def operand (depth : Nat) : Parse Expr :=
  match depth with
  | 0 => fail .expression
  | depth + 1 => do
    let token ← advance
    match token.token with
    | .number value => return .literal (.number value)
    | .string value => return .literal (.string value)
    | .trueWord => return .literal (.bool true)
    | .falseWord => return .literal (.bool false)
    | .nullWord => return .literal .null
    | .ident name => return .ident name
    | .leftParen =>
      openBracket
      let inner ← expr depth 0
      closeBracket
      expect .rightParen .closeParen
      return inner
    | .leftBracket => return .list (← items depth .rightBracket .closeBracket)
    | .minus => return .unary .neg (← expr depth unaryPower)
    | .plus => return .unary .plus (← expr depth unaryPower)
    | .bang => return .unary .not (← expr depth unaryPower)
    | _ => throw ⟨token.place, .expected .expression⟩

/-- Expressions separated by commas, behind an opening bracket and up to the closing one. -/
def items (depth : Nat) (closing : Token) (what : Expectation) : Parse (List Expr) :=
  match depth with
  | 0 => fail .expression
  | depth + 1 => do
    openBracket
    let exprs ← itemsUpTo depth closing
    closeBracket
    expect closing what
    return exprs

/-- Expressions separated by commas. The list ends before the closing bracket or where a comma is
missing. -/
def itemsUpTo (depth : Nat) (closing : Token) : Parse (List Expr) :=
  match depth with
  | 0 => fail .expression
  | depth + 1 => do
    if ← check closing then return []
    let item ← expr depth 0
    if ← eat .comma then return item :: (← itemsUpTo depth closing)
    return [item]

end

/-- Names separated by commas, up to a closing parenthesis, at most `n` of them. -/
def params : Nat → Parse (List Text)
  | 0 => return []
  | n + 1 => do
    if ← check .rightParen then return []
    let param ← name .parameterName
    if ← eat .comma then return param :: (← params n)
    return [param]

/-- The assignment operator right behind the current token. -/
def upcomingAssign : Parse (Option AssignOp) := do
  return (← get).rest.head?.bind fun t => assignOp? t.token

/-- Whether a statement may end before this token. -/
def endsStatement (closing : Token) (token : Token) : Bool :=
  token = .newline || token = .semicolon || token = .eof || token = closing

mutual

/-- Statements up to `closing` or the end. A separator stands between two statements unless the
first one ends in a closing brace. -/
def statements (depth : Nat) (closing : Token) : Parse (List Stmt) :=
  match depth with
  | 0 => fail .expression
  | depth + 1 => do
    skipSeparators
    let token ← peek
    if token = closing || token = .eof then return []
    let stmt ← statement depth
    unless (← get).previous = some .rightBrace do
      unless endsStatement closing (← peek) do
        fail .endOfStatement
    return stmt :: (← statements depth closing)

/-- Statements between braces. -/
def block (depth : Nat) : Parse (List Stmt) :=
  match depth with
  | 0 => fail .expression
  | depth + 1 => do
    expect .leftBrace .openBrace
    let stmts ← statements depth .rightBrace
    expect .rightBrace .closeBrace
    return stmts

/-- The block or the single statement that a condition guards. -/
def branch (depth : Nat) : Parse (List Stmt) :=
  match depth with
  | 0 => fail .expression
  | depth + 1 => do
    skipNewlines
    if ← check .leftBrace then block depth
    else return [← statement depth]

/-- A statement. -/
def statement (depth : Nat) : Parse Stmt :=
  match depth with
  | 0 => fail .expression
  | depth + 1 => do
    match ← peek with
    | .letWord =>
      let _ ← advance
      let target ← name .variableName
      if ← eat .assign then return .declare target (some (← expr depth 0))
      return .declare target none
    | .ifWord =>
      let _ ← advance
      expect .leftParen .conditionParen
      openBracket
      let condition ← expr depth 0
      closeBracket
      expect .rightParen .closeParen
      let yes ← branch depth
      let saved ← get
      skipSeparators
      if ← eat .elseWord then return .branch condition yes (← branch depth)
      set saved
      return .branch condition yes []
    | .functionWord =>
      let _ ← advance
      let function ← name .functionName
      expect .leftParen .openParen
      openBracket
      let params ← params (← remaining)
      closeBracket
      expect .rightParen .closeParen
      skipNewlines
      return .function function params (← block depth)
    | .returnWord =>
      let _ ← advance
      if endsStatement .rightBrace (← peek) then return .result none
      return .result (some (← expr depth 0))
    | .ident target =>
      match ← upcomingAssign with
      | some op =>
        let _ ← advance
        let _ ← advance
        return .assign target op (← expr depth 0)
      | none => return .expr (← expr depth 0)
    | _ => return .expr (← expr depth 0)

end

end Parse

/-- A bound for the depth of the recursion on a list of tokens. -/
def depthBound (tokens : List Located) : Nat := 8 * tokens.length + 8

/-- The statements that a list of tokens spells. -/
def parseTokens (tokens : List Located) : Except ParseError (List Stmt) :=
  (Parse.statements (depthBound tokens) .eof).run' (ParserState.ofTokens tokens)

/-- The program that a script spells. -/
def parseProgram (source : Text) : Except ParseError Program := do
  return ⟨← parseTokens (← tokenize source)⟩

/-- The expression that a script spells. Separators may stand around it. -/
def parseExpression (source : Text) : Except ParseError Expr := do
  let tokens ← tokenize source
  let parse : Parse Expr := do
    Parse.skipSeparators
    let expr ← Parse.expr (depthBound tokens) 0
    Parse.skipSeparators
    Parse.expect .eof .endOfExpression
    return expr
  parse.run' (ParserState.ofTokens tokens)

end LiveSnippet.Script
