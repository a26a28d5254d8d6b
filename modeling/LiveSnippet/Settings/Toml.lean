import LiveSnippet.Text.Basic

/-!
# TOML documents of scalars

The part of TOML that settings need: documents whose entries are integers and strings. A document
with anything else in it is refused as a whole, whether it is TOML or not.

## Main definitions

* `Toml.Scalar`
* `Toml.readInteger?`: integers in base 2, 8, 10 and 16
* `Toml.basicString?`, `Toml.literalString?` and their multi-line forms
* `Toml.parse?`: the entries of a document in order
-/

namespace LiveSnippet.Toml

/-- The value of an entry. -/
inductive Scalar
  | integer (value : Int)
  | string (text : Text)
deriving DecidableEq, Repr

/-- Whether a character may not stand in a comment or on a line of a string. -/
def isControl (c : Char) : Bool := c.toNat < 0x20 && c ≠ '\t' || c.toNat = 0x7F

/-- Whether a character is white space within a line. -/
def isSpace (c : Char) : Bool := c = ' ' || c = '\t'

/-- Whether a character may stand in a key without quotes. -/
def isBareKeyChar (c : Char) : Bool := c.isAlphanum || c = '_' || c = '-'

/-- What follows a line break, if a text begins with one. -/
def afterBreak? : Text → Option Text
  | '\n' :: rest => some rest
  | '\r' :: '\n' :: rest => some rest
  | _ => none

/-- The value of a digit in a base of 16 at most. -/
def digitValue? (base : Nat) (c : Char) : Option Nat :=
  let value :=
    if c.isDigit then c.toNat - '0'.toNat
    else if 'a' ≤ c ∧ c ≤ 'f' then c.toNat - 'a'.toNat + 10
    else if 'A' ≤ c ∧ c ≤ 'F' then c.toNat - 'A'.toNat + 10
    else base
  if value < base then some value else none

/-- The number that digits spell, read on from `value`. An underscore may stand between two digits;
`needsDigit` says that a digit must follow. -/
def digitsFrom (base value : Nat) (needsDigit : Bool) : Text → Option Nat
  | [] => if needsDigit then none else some value
  | '_' :: rest => if needsDigit then none else digitsFrom base value true rest
  | c :: rest => (digitValue? base c).bind fun d => digitsFrom base (base * value + d) false rest

/-- The number that digits of a base spell. -/
def digits? (base : Nat) (text : Text) : Option Nat := digitsFrom base 0 true text

/-- A decimal number, which has no zero in front. -/
def decimal? : Text → Option Nat
  | ['0'] => some 0
  | '0' :: _ => none
  | text => digits? 10 text

/-- An integer. Only decimal numbers have signs. -/
def readInteger? : Text → Option Int
  | '0' :: 'x' :: digits => (digits? 16 digits).map Int.ofNat
  | '0' :: 'o' :: digits => (digits? 8 digits).map Int.ofNat
  | '0' :: 'b' :: digits => (digits? 2 digits).map Int.ofNat
  | '+' :: digits => (decimal? digits).map Int.ofNat
  | '-' :: digits => (decimal? digits).map fun n => -(n : Int)
  | digits => (decimal? digits).map Int.ofNat

/-- The character with the code that hexadecimal digits spell. -/
def codedChar? (digits : Text) : Option Char := do
  let n ← digits.foldlM (fun n c => (digitValue? 16 c).map (16 * n + ·)) 0
  if h : n.isValidChar then some (Char.ofNatAux n h) else none

/-- The character that an escape without a code stands for. -/
def escaped? (c : Char) : Option Char :=
  if c = 'b' then some '\x08'
  else if c = 't' then some '\t'
  else if c = 'n' then some '\n'
  else if c = 'f' then some '\x0c'
  else if c = 'r' then some '\r'
  else if c = 'e' then some '\x1b'
  else if c = '"' then some '"'
  else if c = '\\' then some '\\'
  else none

/-- The character of the escape behind a backslash, and what follows it. -/
def escape? : Text → Option (Char × Text)
  | 'x' :: rest =>
    if rest.length < 2 then none else (codedChar? (rest.take 2)).map (·, rest.drop 2)
  | 'u' :: rest =>
    if rest.length < 4 then none else (codedChar? (rest.take 4)).map (·, rest.drop 4)
  | 'U' :: rest =>
    if rest.length < 8 then none else (codedChar? (rest.take 8)).map (·, rest.drop 8)
  | c :: rest => (escaped? c).map (·, rest)
  | [] => none

/-- What follows a backslash that ends a line of a string: all white space and line breaks are
passed over. -/
def afterContinuation? (text : Text) : Option Text :=
  (afterBreak? (text.dropWhile isSpace)).map fun rest =>
    rest.dropWhile fun c => isSpace c || c = '\n' || c = '\r'

/-- The rest of a string between double quotes and what follows it; `done` holds its characters so
far, last first. Every step takes a character, of which `fuel` counts those left. -/
def basicString? (fuel : Nat) (done : Text) (text : Text) : Option (Text × Text) :=
  match fuel, text with
  | _, '"' :: rest => some (done.reverse, rest)
  | fuel + 1, '\\' :: rest =>
    (escape? rest).bind fun (c, rest) => basicString? fuel (c :: done) rest
  | fuel + 1, c :: rest => if isControl c then none else basicString? fuel (c :: done) rest
  | _, _ => none

/-- The rest of a string between triple quotes of the kind `quote`, and what follows it, at a place
where three quotes or more end the string: up to two of them belong to it. -/
def closeMultiline (quote : Char) (done text : Text) : Text × Text :=
  let count := min 2 ((text.takeWhile (· = quote)).length - 3)
  (done.reverse ++ List.replicate count quote, text.drop (count + 3))

/-- Like `basicString?`, for a string between triple quotes, which may hold line breaks. -/
def multilineBasicString? (fuel : Nat) (done : Text) (text : Text) : Option (Text × Text) :=
  match fuel, text with
  | _, '"' :: '"' :: '"' :: rest => some (closeMultiline '"' done ('"' :: '"' :: '"' :: rest))
  | fuel + 1, '\\' :: rest =>
    match afterContinuation? rest with
    | some rest => multilineBasicString? fuel done rest
    | none => (escape? rest).bind fun (c, rest) => multilineBasicString? fuel (c :: done) rest
  | fuel + 1, '\n' :: rest => multilineBasicString? fuel ('\n' :: done) rest
  | fuel + 1, '\r' :: '\n' :: rest => multilineBasicString? fuel ('\n' :: '\r' :: done) rest
  | fuel + 1, c :: rest => if isControl c then none else multilineBasicString? fuel (c :: done) rest
  | _, _ => none

/-- The rest of a string between single quotes, in which nothing is escaped. -/
def literalString? (done : Text) : Text → Option (Text × Text)
  | '\'' :: rest => some (done.reverse, rest)
  | c :: rest => if isControl c then none else literalString? (c :: done) rest
  | [] => none

/-- Like `literalString?`, for a string between triple quotes. -/
def multilineLiteralString? (done : Text) : Text → Option (Text × Text)
  | '\'' :: '\'' :: '\'' :: rest =>
    some (closeMultiline '\'' done ('\'' :: '\'' :: '\'' :: rest))
  | '\n' :: rest => multilineLiteralString? ('\n' :: done) rest
  | '\r' :: '\n' :: rest => multilineLiteralString? ('\n' :: '\r' :: done) rest
  | c :: rest => if isControl c then none else multilineLiteralString? (c :: done) rest
  | [] => none

/-- A key and what follows it. -/
def key? : Text → Option (Text × Text)
  | '"' :: rest => basicString? rest.length [] rest
  | '\'' :: rest => literalString? [] rest
  | text =>
    let key := text.takeWhile isBareKeyChar
    if key.isEmpty then none else some (key, text.dropWhile isBareKeyChar)

/-- A value and what follows it. The first line break of a multi-line string is no part of it. -/
def scalar? : Text → Option (Scalar × Text)
  | '"' :: '"' :: '"' :: rest =>
    let rest := (afterBreak? rest).getD rest
    (multilineBasicString? rest.length [] rest).map fun (s, rest) => (.string s, rest)
  | '\'' :: '\'' :: '\'' :: rest =>
    (multilineLiteralString? [] ((afterBreak? rest).getD rest)).map fun (s, rest) =>
      (.string s, rest)
  | '"' :: rest => (basicString? rest.length [] rest).map fun (s, rest) => (.string s, rest)
  | '\'' :: rest => (literalString? [] rest).map fun (s, rest) => (.string s, rest)
  | text =>
    let isPart := fun c => isBareKeyChar c || c = '+'
    (readInteger? (text.takeWhile isPart)).map fun n => (.integer n, text.dropWhile isPart)

/-- What follows the end of a line, with a comment in front of it if there is one. -/
def lineEnd? (text : Text) : Option Text :=
  let text := text.dropWhile isSpace
  let rest := if text.head? = some '#' then text.dropWhile fun c => !isControl c else text
  if rest.isEmpty then some [] else afterBreak? rest

/-- An entry and what follows its line. -/
def entry? (text : Text) : Option ((Text × Scalar) × Text) := do
  let (key, rest) ← key? text
  match rest.dropWhile isSpace with
  | '=' :: rest =>
    let (value, rest) ← scalar? (rest.dropWhile isSpace)
    return ((key, value), ← lineEnd? rest)
  | _ => none

/-- The entries of a text. Every line takes a character at least, of which `fuel` counts those
left. -/
def entriesFrom? (fuel : Nat) (text : Text) : Option (List (Text × Scalar)) :=
  match fuel, text.dropWhile isSpace with
  | _, [] => some []
  | 0, _ => none
  | fuel + 1, c :: rest =>
    match lineEnd? (c :: rest) with
    | some rest => entriesFrom? fuel rest
    | none => do
      let (entry, rest) ← entry? (c :: rest)
      return entry :: (← entriesFrom? fuel rest)

/-- The entries of a document in order. A byte order mark at its start means nothing. -/
def parse? (text : Text) : Option (List (Text × Scalar)) :=
  let text := if text.head? = some '\ufeff' then text.tail else text
  entriesFrom? text.length text

end LiveSnippet.Toml
