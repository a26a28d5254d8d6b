import LiveSnippet.Decimal.Notation
import LiveSnippet.Script.Error
import LiveSnippet.Unicode.Alphanumeric

/-!
# Lexer of the script language

Spaces, tabs, carriage returns and comments separate tokens and are dropped; line feeds are tokens.
Every scanner starts at a place and returns the place behind what it consumed, with the rest of the
text. No scanner returns more text than it was given, so the lexer ends.

## Main definitions

* `Cursor`: a place and the text from there on
* `skipTrivia`, `scanToken`: what stands before a token, and one token
* `tokenize`: the tokens of a script, the last of which is `eof`
-/

namespace LiveSnippet.Script

/-- A place in a script and the text from there on. -/
structure Cursor where
  place : Place
  rest : Text
deriving DecidableEq, Repr

/-- Passes over the rest of a line, up to its line feed. -/
def skipLine (place : Place) : Text → Cursor
  | [] => ⟨place, []⟩
  | c :: rest => if c = '\n' then ⟨place, c :: rest⟩ else skipLine (place.after c) rest

/-- Passes over a block comment, behind its opening. -/
def skipBlock (place : Place) : Text → Except ParseError Cursor
  | [] => .error ⟨place, .unterminatedComment⟩
  | c :: rest =>
    if c = '*' && rest.head? = some '/' then .ok ⟨(place.after '*').after '/', rest.tail⟩
    else skipBlock (place.after c) rest

theorem length_skipLine_le (place : Place) (text : Text) :
    (skipLine place text).rest.length ≤ text.length := by
  induction text generalizing place with
  | nil => exact Nat.le_refl _
  | cons c rest ih =>
    unfold skipLine
    split
    · exact Nat.le_refl _
    · exact Nat.le_succ_of_le (ih _)

theorem length_skipBlock_le {place : Place} {text : Text} {cursor : Cursor}
    (h : skipBlock place text = .ok cursor) : cursor.rest.length ≤ text.length := by
  induction text generalizing place with
  | nil => cases h
  | cons c rest ih =>
    unfold skipBlock at h
    split at h
    · cases h
      simp only [List.length_tail, List.length_cons]
      omega
    · exact Nat.le_succ_of_le (ih h)

/-- Whether a character only separates tokens. -/
def isBlank (c : Char) : Bool := c = ' ' || c = '\t' || c = '\r'

/-- Passes over blanks and comments. -/
def skipTrivia (place : Place) (text : Text) : Except ParseError Cursor :=
  match text with
  | [] => .ok ⟨place, []⟩
  | c :: rest =>
    if isBlank c then skipTrivia (place.after c) rest
    else if c = '/' && rest.head? = some '/' then
      let cursor := skipLine ((place.after '/').after '/') rest.tail
      skipTrivia cursor.place cursor.rest
    else if c = '/' && rest.head? = some '*' then
      match _h : skipBlock ((place.after '/').after '*') rest.tail with
      | .ok cursor => skipTrivia cursor.place cursor.rest
      | .error e => .error e
    else .ok ⟨place, c :: rest⟩
termination_by text.length
decreasing_by
  · simp
  · have := length_skipLine_le ((place.after '/').after '/') rest.tail
    simp only [List.length_tail, List.length_cons] at this ⊢
    omega
  · have := length_skipBlock_le _h
    simp only [List.length_tail, List.length_cons] at this ⊢
    omega

theorem length_skipTrivia_le {place : Place} {text : Text} {cursor : Cursor}
    (h : skipTrivia place text = .ok cursor) : cursor.rest.length ≤ text.length := by
  fun_induction skipTrivia place text with
  | case1 => cases h; exact Nat.le_refl _
  | case2 place c rest _ ih => exact Nat.le_succ_of_le (ih h)
  | case3 place c rest _ _ _ ih =>
    have hline := length_skipLine_le ((place.after '/').after '/') rest.tail
    have hrest : cursor.rest.length ≤ _ := Nat.le_trans (ih h) hline
    simp only [List.length_tail, List.length_cons] at *
    omega
  | case4 place c rest _ _ _ cur hb ih =>
    have := length_skipBlock_le hb
    have := ih h
    simp only [List.length_tail, List.length_cons] at *
    omega
  | case5 => cases h
  | case6 => cases h; exact Nat.le_refl _

/-- Whether a character may begin an identifier. -/
def isIdentStart (c : Char) : Bool := Unicode.isAlphabetic c || c = '_' || c = '$'

/-- Whether a character may continue an identifier. -/
def isIdentContinue (c : Char) : Bool := Unicode.isAlphanumeric c || c = '_' || c = '$'

/-- The rest of a number literal and what follows it. Digits, points and underscores belong to it,
and one exponent mark with a sign right behind it. -/
def numberTail (hasExponent : Bool) : Text → Text × Text
  | [] => ([], [])
  | c :: rest =>
    if c.isDigit || c = '.' || c = '_' then
      let (tail, after) := numberTail hasExponent rest
      (c :: tail, after)
    else if (c = 'e' || c = 'E') && !hasExponent then
      match rest with
      | [] => ([c], [])
      | s :: rest' =>
        if s = '+' || s = '-' then
          let (tail, after) := numberTail true rest'
          (c :: s :: tail, after)
        else
          let (tail, after) := numberTail true (s :: rest')
          (c :: tail, after)
    else ([], c :: rest)

theorem numberTail_append (hasExponent : Bool) (text : Text) :
    (numberTail hasExponent text).1 ++ (numberTail hasExponent text).2 = text := by
  fun_induction numberTail hasExponent text <;> simp_all

theorem length_numberTail_le (hasExponent : Bool) (text : Text) :
    (numberTail hasExponent text).2.length ≤ text.length := by
  have h := congrArg List.length (numberTail_append hasExponent text)
  simp only [List.length_append] at h
  omega

/-- The number that a literal denotes once its underscores are dropped. -/
def numberToken (literal : Text) : Except Problem Token :=
  let digits := literal.filter (· ≠ '_')
  match Decimal.read? digits with
  | some value => .ok (.number value)
  | none => .error (.invalidNumber digits)

/-- The character that an escape stands for. -/
def unescape (c : Char) : Char :=
  if c = 'n' then '\n'
  else if c = 't' then '\t'
  else if c = 'r' then '\r'
  else if c = '0' then '\x00'
  else c

/-- The rest of a string literal; `done` holds the characters of its value so far, last first. Only
a backtick string may contain line feeds that are not escaped. -/
def stringTail (quote : Char) (place : Place) (done : Text) :
    Text → Except ParseError (Text × Cursor)
  | [] => .error ⟨place, .unterminatedString⟩
  | c :: rest =>
    if c = '\n' && quote ≠ '\x60' then .error ⟨place.after c, .unterminatedString⟩
    else if c = quote then .ok (done.reverse, ⟨place.after c, rest⟩)
    else if c = '\\' then
      match rest with
      | [] => .error ⟨place.after c, .unterminatedString⟩
      | e :: rest => stringTail quote ((place.after c).after e) (unescape e :: done) rest
    else stringTail quote (place.after c) (c :: done) rest

theorem length_stringTail_le {quote : Char} {place : Place} {done text value : Text}
    {cursor : Cursor} (h : stringTail quote place done text = .ok (value, cursor)) :
    cursor.rest.length ≤ text.length := by
  fun_induction stringTail quote place done text with
  | case1 => cases h
  | case2 => cases h
  | case3 => cases h; simp
  | case4 => cases h
  | case5 => rename_i ih; have := ih h; simp only [List.length_cons]; omega
  | case6 => rename_i ih; have := ih h; simp only [List.length_cons]; omega

/-- The keyword or identifier that a word is. -/
def wordToken (word : Text) : Token :=
  if word = "let".toList || word = "const".toList || word = "var".toList then .letWord
  else if word = "if".toList then .ifWord
  else if word = "else".toList then .elseWord
  else if word = "function".toList then .functionWord
  else if word = "return".toList then .returnWord
  else if word = "true".toList then .trueWord
  else if word = "false".toList then .falseWord
  else if word = "null".toList || word = "undefined".toList then .nullWord
  else .ident word

/-- The operator or punctuation mark that begins with `c`, and how many characters of `rest` belong
to it. -/
def symbol? (c : Char) (rest : Text) : Option (Token × Nat) :=
  let equals := (rest.takeWhile (· = '=')).length
  match c with
  | '\n' => some (.newline, 0)
  | '(' => some (.leftParen, 0)
  | ')' => some (.rightParen, 0)
  | '[' => some (.leftBracket, 0)
  | ']' => some (.rightBracket, 0)
  | '\x7b' => some (.leftBrace, 0)
  | '\x7d' => some (.rightBrace, 0)
  | ',' => some (.comma, 0)
  | ';' => some (.semicolon, 0)
  | '?' => some (.question, 0)
  | ':' => some (.colon, 0)
  | '%' => some (.percent, 0)
  | '.' => some (.dot, 0)
  | '/' => some (.slash, 0)
  | '+' => if equals = 0 then some (.plus, 0) else some (.plusAssign, 1)
  | '-' => if equals = 0 then some (.minus, 0) else some (.minusAssign, 1)
  | '*' => if equals = 0 then some (.star, 0) else some (.starAssign, 1)
  | '<' => if equals = 0 then some (.less, 0) else some (.lessEqual, 1)
  | '>' => if equals = 0 then some (.greater, 0) else some (.greaterEqual, 1)
  | '!' => if equals = 0 then some (.bang, 0) else some (.notEqual, min equals 2)
  | '=' => if equals = 0 then some (.assign, 0) else some (.equal, min equals 2)
  | '&' => if rest.head? = some '&' then some (.andAnd, 1) else none
  | '|' => if rest.head? = some '|' then some (.orOr, 1) else none
  | _ => none

/-- Whether a token that begins with `c` is a number. -/
def startsNumber (c : Char) (rest : Text) : Bool :=
  c.isDigit || c = '.' && rest.head?.any Char.isDigit

/-- The token that begins with `c`, and the cursor behind it. -/
def scanToken (place : Place) (c : Char) (rest : Text) : Except ParseError (Token × Cursor) :=
  if startsNumber c rest then
    let literal := c :: (numberTail false rest).1
    match numberToken literal with
    | .ok token => .ok (token, ⟨place.afterText literal, (numberTail false rest).2⟩)
    | .error problem => .error ⟨place.afterText literal, problem⟩
  else if c = '"' || c = '\'' || c = '\x60' then
    match stringTail c (place.after c) [] rest with
    | .ok (value, cursor) => .ok (.string value, cursor)
    | .error e => .error e
  else if isIdentStart c then
    let word := c :: rest.takeWhile isIdentContinue
    .ok (wordToken word, ⟨place.afterText word, rest.dropWhile isIdentContinue⟩)
  else
    match symbol? c rest with
    | some (token, n) => .ok (token, ⟨place.afterText (c :: rest.take n), rest.drop n⟩)
    | none => .error ⟨place, .unexpectedCharacter c⟩

theorem length_scanToken_le {place : Place} {c : Char} {rest : Text} {token : Token}
    {cursor : Cursor} (h : scanToken place c rest = .ok (token, cursor)) :
    cursor.rest.length ≤ rest.length := by
  unfold scanToken at h
  dsimp only at h
  split at h
  · split at h
    · cases h
      exact length_numberTail_le _ _
    · cases h
  · split at h
    · split at h
      · rename_i hs
        cases h
        exact length_stringTail_le hs
      · cases h
    · split at h
      · cases h
        exact (List.dropWhile_suffix _).length_le
      · split at h
        · cases h
          simp
        · cases h

/-- The tokens from a place on. -/
def tokensFrom (place : Place) (text : Text) : Except ParseError (List Located) :=
  match _h : skipTrivia place text with
  | .error e => .error e
  | .ok ⟨start, []⟩ => .ok [⟨.eof, start⟩]
  | .ok ⟨start, c :: rest⟩ =>
    match _h' : scanToken start c rest with
    | .error e => .error e
    | .ok (token, cursor) => (tokensFrom cursor.place cursor.rest).map (⟨token, start⟩ :: ·)
termination_by text.length
decreasing_by
  have := length_skipTrivia_le _h
  have := length_scanToken_le _h'
  simp only [List.length_cons] at *
  omega

/-- The tokens of a script, the last of which is `eof`. -/
def tokenize (source : Text) : Except ParseError (List Located) := tokensFrom Place.first source

end LiveSnippet.Script
