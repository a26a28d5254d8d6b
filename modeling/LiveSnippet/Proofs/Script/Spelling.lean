import LiveSnippet.Script.Lexer
import LiveSnippet.Text.Position

/-!
# How tokens are written

A script is written token by token. Most tokens have one word or sign, some have two or three. A
number may be any text of digits, points and underscores with at most one exponent that stands for a
number once the underscores are dropped. A string stands between quotes of one of three kinds; what
would end it or mean something else there is escaped, and everything else may be.

Between two tokens there is a blank, and behind it any mix of blanks and block comments. In front of
a line feed the gap may end in a line comment.

## Main definitions

* `Escape`, `StringBody`: what stands between the quotes of a string
* `NumberWord`: texts of numbers
* `keywords`, `marks`: the words and signs with a meaning of their own
* `Written`: the ways to write a token
* `Filler`, `Gap`: what may stand in front of a token
* `PrintedToken`, `source`, `located`: written tokens, the script that they make up, and the places
  of the tokens in it
-/

namespace LiveSnippet.Script

/-! ### Strings and numbers -/

/-- The letters that stand for another character behind a backslash. -/
def escapeLetters : List (Char × Char) := [('\n', 'n'), ('\t', 't'), ('\r', 'r'), ('\x00', '0')]

/-- The character is written as a backslash with another character behind it. -/
inductive Escape : Char → Char → Prop
  | letter {c e : Char} (h : (c, e) ∈ escapeLetters) : Escape c e
  | itself {c : Char} (h : c ∉ escapeLetters.map Prod.snd) : Escape c c

/-- The string is written as the text between two quotes. A backslash and the quote have to be
escaped, and a line feed unless the quote is a backtick. -/
inductive StringBody (quote : Char) : Text → Text → Prop
  | nil : StringBody quote [] []
  | plain {c : Char} {value body : Text} (hslash : c ≠ '\\') (hquote : c ≠ quote)
    (hfeed : c = '\n' → quote = '\x60') (h : StringBody quote value body) :
    StringBody quote (c :: value) (c :: body)
  | escaped {c e : Char} {value body : Text} (hescape : Escape c e)
    (h : StringBody quote value body) : StringBody quote (c :: value) ('\\' :: e :: body)

/-- Digits, points and underscores. -/
def isNumberChar (c : Char) : Bool := c.isDigit || c = '.' || c = '_'

/-- The exponent of a number: a mark, a sign or none, and what a number consists of. -/
inductive Exponent : Text → Prop
  | none : Exponent []
  | mark {e : Char} {sign digits : Text} (he : e = 'e' ∨ e = 'E')
    (hsign : sign = [] ∨ sign = ['+'] ∨ sign = ['-'])
    (hdigits : ∀ c ∈ digits, isNumberChar c = true) : Exponent (e :: (sign ++ digits))

/-- The text is a number: it begins with a digit, or with a point and a digit, and denotes the value
without its underscores. -/
inductive NumberWord : Text → Float → Prop
  | mk {body exponent : Text} {value : Float}
    (hbegin : (∃ d rest, body = d :: rest ∧ d.isDigit = true) ∨
      ∃ d rest, body = '.' :: d :: rest ∧ d.isDigit = true)
    (hbody : ∀ c ∈ body, isNumberChar c = true) (hexponent : Exponent exponent)
    (hvalue : Decimal.read? ((body ++ exponent).filter (· ≠ '_')) = some value) :
    NumberWord (body ++ exponent) value

/-! ### Words and signs -/

/-- The words that are not identifiers. -/
def keywords : List (Text × Token) :=
  [("let".toList, .letWord), ("const".toList, .letWord), ("var".toList, .letWord),
    ("if".toList, .ifWord), ("else".toList, .elseWord), ("function".toList, .functionWord),
    ("return".toList, .returnWord), ("true".toList, .trueWord), ("false".toList, .falseWord),
    ("null".toList, .nullWord), ("undefined".toList, .nullWord)]

/-- The signs. The equality signs may have one more `=`. -/
def marks : List (Text × Token) :=
  [(['('], .leftParen), ([')'], .rightParen), (['['], .leftBracket), ([']'], .rightBracket),
    (['\x7b'], .leftBrace), (['\x7d'], .rightBrace), ([','], .comma), (['.'], .dot),
    ([';'], .semicolon), (['\n'], .newline), (['?'], .question), ([':'], .colon), (['+'], .plus),
    (['-'], .minus), (['*'], .star), (['/'], .slash), (['%'], .percent), (['!'], .bang),
    (['='], .assign), (['+', '='], .plusAssign), (['-', '='], .minusAssign),
    (['*', '='], .starAssign), (['=', '='], .equal), (['=', '=', '='], .equal),
    (['!', '='], .notEqual), (['!', '=', '='], .notEqual), (['<'], .less), (['<', '='], .lessEqual),
    (['>'], .greater), (['>', '='], .greaterEqual), (['&', '&'], .andAnd), (['|', '|'], .orOr)]

/-- The ways to write a token. -/
inductive Written : Token → Text → Prop
  | number {word : Text} {value : Float} (h : NumberWord word value) : Written (.number value) word
  | string {quote : Char} {value body : Text} (hquote : quote ∈ ['"', '\'', '\x60'])
    (h : StringBody quote value body) : Written (.string value) (quote :: (body ++ [quote]))
  | ident {c : Char} {rest : Text} (hc : isIdentStart c = true)
    (hrest : ∀ d ∈ rest, isIdentContinue d = true) (hword : c :: rest ∉ keywords.map Prod.fst) :
    Written (.ident (c :: rest)) (c :: rest)
  | keyword {token : Token} {word : Text} (h : (word, token) ∈ keywords) : Written token word
  | mark {token : Token} {word : Text} (h : (word, token) ∈ marks) : Written token word

/-! ### Gaps -/

/-- A mix of blanks and block comments. -/
inductive Filler : Text → Prop
  | nil : Filler []
  | blank {c : Char} {filler : Text} (hc : c ∈ [' ', '\t', '\r']) (h : Filler filler) :
    Filler (c :: filler)
  | comment {comment filler : Text} (hcomment : ¬ ['*', '/'] <:+: comment) (h : Filler filler) :
    Filler ('/' :: '*' :: (comment ++ '*' :: '/' :: filler))

/-- What may stand in front of a token. -/
inductive Gap : Token → Text → Prop
  | filler {token : Token} {filler : Text} (h : Filler filler) : Gap token filler
  | lineComment {filler comment : Text} (h : Filler filler) (hcomment : '\n' ∉ comment) :
    Gap .newline (filler ++ '/' :: '/' :: comment)

/-- The text begins with a blank. -/
def BeginsBlank (text : Text) : Prop := ∃ c rest, text = c :: rest ∧ c ∈ [' ', '\t', '\r']

/-! ### Scripts -/

/-- A token as it is written, with what stands in front of it. -/
structure PrintedToken where
  gap : Text
  token : Token
  word : Text
  isGap : Gap token gap
  isWord : Written token word

/-- The script that written tokens make up. -/
def source (ps : List PrintedToken) : Text := ps.flatMap fun p => p.gap ++ p.word

/-- The place behind a text: its line and column count from one. -/
def placeBehind (text : Text) : Place := ⟨text.extent.breaks + 1, text.extent.last + 1⟩

/-- The tokens with the places at which they are written, behind the text in front of them. -/
def located (before : Text) : List PrintedToken → List Located
  | [] => []
  | p :: ps => ⟨p.token, placeBehind (before ++ p.gap)⟩ :: located (before ++ p.gap ++ p.word) ps

end LiveSnippet.Script
