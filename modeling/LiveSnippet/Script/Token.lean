import LiveSnippet.Text.Basic

/-!
# Tokens of the script language

A token carries the place of its first character: its line and column, both counted from one, the
column in characters.

## Main definitions

* `Place`, `Place.after`, `Place.afterText`
* `Token`, `Located`
-/

namespace LiveSnippet.Script

/-- A place in a script. -/
structure Place where
  line : Nat
  column : Nat
deriving DecidableEq, Repr, Inhabited

namespace Place

/-- Where a script begins. -/
def first : Place := ⟨1, 1⟩

/-- The place after a character. -/
def after (p : Place) (c : Char) : Place :=
  if c = '\n' then ⟨p.line + 1, 1⟩ else ⟨p.line, p.column + 1⟩

/-- The place after a text. -/
def afterText (p : Place) (text : Text) : Place := text.foldl after p

end Place

/-- The words of the script language. -/
inductive Token
  | number (value : Float)
  | string (value : Text)
  | ident (name : Text)
  | letWord
  | ifWord
  | elseWord
  | functionWord
  | returnWord
  | trueWord
  | falseWord
  | nullWord
  | leftParen
  | rightParen
  | leftBracket
  | rightBracket
  | leftBrace
  | rightBrace
  | comma
  | dot
  | semicolon
  | newline
  | question
  | colon
  | plus
  | minus
  | star
  | slash
  | percent
  | bang
  | assign
  | plusAssign
  | minusAssign
  | starAssign
  | equal
  | notEqual
  | less
  | lessEqual
  | greater
  | greaterEqual
  | andAnd
  | orOr
  | eof
deriving DecidableEq, Repr

/-- A token and the place of its first character. -/
structure Located where
  token : Token
  place : Place
deriving DecidableEq, Repr

end LiveSnippet.Script
