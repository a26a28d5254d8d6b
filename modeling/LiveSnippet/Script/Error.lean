import LiveSnippet.Script.Token

/-!
# Errors of scripts

A script fails to parse at a place, or fails while it runs.

## Main definitions

* `ParseError`: what is wrong with the text of a script, and where
* `RuntimeError`: why an evaluation failed
* `ScriptError`: either of them
-/

namespace LiveSnippet.Script

/-- What the parser expected to find. -/
inductive Expectation
  | expression
  | endOfExpression
  | endOfStatement
  | variableName
  | functionName
  | parameterName
  | propertyName
  | conditionParen
  | openParen
  | closeParen
  | closeBracket
  | openBrace
  | closeBrace
  | conditionalColon
deriving DecidableEq, Repr

namespace Expectation

/-- The expectation in words. -/
def describe : Expectation → String
  | expression => "expression"
  | endOfExpression => "end of expression"
  | endOfStatement => "end of statement"
  | variableName => "variable name"
  | functionName => "function name"
  | parameterName => "parameter name"
  | propertyName => "property name after '.'"
  | conditionParen => "'(' after 'if'"
  | openParen => "'('"
  | closeParen => "')'"
  | closeBracket => "']'"
  | openBrace => "'\x7b'"
  | closeBrace => "'\x7d'"
  | conditionalColon => "':' in conditional expression"

end Expectation

/-- What is wrong with the text of a script. -/
inductive Problem
  | unexpectedCharacter (c : Char)
  | unterminatedComment
  | unterminatedString
  | invalidNumber (literal : Text)
  | expected (what : Expectation)
deriving DecidableEq, Repr

namespace Problem

/-- The problem in words. -/
def message : Problem → String
  | unexpectedCharacter c => s!"unexpected character '{c}'"
  | unterminatedComment => "unterminated block comment"
  | unterminatedString => "unterminated string literal"
  | invalidNumber literal => s!"invalid number literal '{String.ofList literal}'"
  | expected what => s!"expected {what.describe}"

end Problem

/-- A problem and its place. -/
structure ParseError where
  place : Place
  problem : Problem
deriving DecidableEq, Repr

namespace ParseError

/-- The error as shown to a user. -/
def message (e : ParseError) : String :=
  s!"parse error at {e.place.line}:{e.place.column}: {e.problem.message}"

end ParseError

/-- Why an evaluation failed. -/
inductive RuntimeError
  /-- A string of this many bytes would be too long. -/
  | stringTooLong (bytes : Nat)
  | stepsExhausted
  | callDepthExceeded (function : Text)
  | undefinedName (name : Text)
  | notAFunction (name : Text)
  /-- A property of null was read. -/
  | propertyOfNull (name : Text)
  /-- An index of null was read; the index is given as text. -/
  | indexOfNull (index : Text)
  /-- A value of this type has no methods, or not this one. -/
  | noMethod (typeName : String) (method : Text)
  /-- A value of this type has no length. -/
  | noLength (typeName : String)
  /-- A string cannot be repeated this often; the count is given as text. -/
  | invalidRepeatCount (count : Text)
  /-- A string cannot be padded to this width, which is given as text. -/
  | invalidPadWidth (width : Text)
deriving DecidableEq, Repr

/-- The longest string, in bytes, that a script may build. -/
def maxStringBytes : Nat := Nat.pow 2 20

namespace RuntimeError

/-- The error as shown to a user. -/
def message : RuntimeError → String
  | stringTooLong bytes => s!"string of {bytes} bytes exceeds the {maxStringBytes} byte limit"
  | stepsExhausted => "evaluation step budget exhausted"
  | callDepthExceeded function => s!"call depth limit exceeded in {String.ofList function}"
  | undefinedName name => s!"{String.ofList name} is not defined"
  | notAFunction name => s!"{String.ofList name} is not a function"
  | propertyOfNull name => s!"cannot read property '{String.ofList name}' of null"
  | indexOfNull index => s!"cannot read index {String.ofList index} of null"
  | noMethod typeName method => s!"{typeName} has no method '{String.ofList method}'"
  | noLength typeName => s!"len() of {typeName}"
  | invalidRepeatCount count => s!"invalid repeat count {String.ofList count}"
  | invalidPadWidth width => s!"invalid pad width {String.ofList width}"

end RuntimeError

/-- A failure of a script. -/
inductive ScriptError
  | parse (error : ParseError)
  | runtime (error : RuntimeError)
deriving DecidableEq, Repr

namespace ScriptError

/-- The error as shown to a user. -/
def message : ScriptError → String
  | parse e => e.message
  | runtime e => e.message

end ScriptError

end LiveSnippet.Script
