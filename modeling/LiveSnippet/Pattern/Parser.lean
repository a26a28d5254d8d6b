import LiveSnippet.Pattern.BracketClass
import LiveSnippet.Pattern.Property
import LiveSnippet.Pattern.Syntax
import LiveSnippet.Unicode.Alphanumeric

/-!
# Parser of patterns

Reads the notation of patterns. The functions recurse on a bound for the depth of the recursion,
which the length of the pattern provides; a pattern that is not well-formed gives `none`.

## Main definitions

* `Options`: what inline flags switch on and off
* `Regex.parse?`: the expression that a text spells, and its number of groups
-/

namespace LiveSnippet.Pattern

/-- The options that hold at a place of a pattern. -/
structure Options where
  /-- `i`: case does not matter. -/
  ignoreCase : Bool
  /-- `m`: the line anchors match at every line. -/
  multiline : Bool
  /-- `s`: the point matches line feeds. -/
  dotAll : Bool
  /-- `x`: blanks and comments in the pattern mean nothing. -/
  ignoreSpace : Bool
  /-- `U`: quantifiers are lazy unless marked. -/
  swapGreed : Bool
deriving DecidableEq, Repr

/-- The state of the parser. -/
structure ParserState where
  rest : Text
  options : Options
  /-- The groups opened so far. -/
  groups : Nat
  /-- The groups with a name. -/
  names : List (Text × Nat)
  /-- The groups closed so far, with the extents of their texts. -/
  closed : List (Nat × Extent)
  /-- Whether a group was referred to by number. -/
  numbered : Bool
  /-- References by number must be less than this. -/
  backrefLimit : Nat

/-- A step of the parser. -/
abbrev Parse (α : Type) := StateT ParserState Option α

namespace Parse

/-- What follows a comment, behind its opening. -/
def dropComment : Text → Option Text
  | [] => none
  | c :: rest =>
    if c = ')' then some rest
    else if c = '\\' then
      match rest with
      | [] => none
      | _ :: rest => dropComment rest
    else dropComment rest

/-- Whether a character means nothing where blanks mean nothing. -/
def isPatternBlank (c : Char) : Bool := c = ' ' || c = '\r' || c = '\n' || c = '\t'

/-- What follows comments, and blanks if they mean nothing; `n` bounds their number. -/
def dropSpace (ignoreSpace : Bool) : Nat → Text → Option Text
  | 0, text => some text
  | n + 1, text =>
    match text with
    | '(' :: '?' :: '#' :: rest => (dropComment rest).bind (dropSpace ignoreSpace n)
    | c :: rest =>
      if ignoreSpace && c = '#' then
        dropSpace ignoreSpace n ((rest.dropWhile (· ≠ '\n')).drop 1)
      else if ignoreSpace && isPatternBlank c then
        dropSpace ignoreSpace n rest
      else some text
    | [] => some []

/-- Passes over comments and blanks. -/
def skipSpace : Parse Unit := do
  let s ← get
  let rest ← dropSpace s.options.ignoreSpace (s.rest.length + 1) s.rest
  set { s with rest }

/-- The next character, if there is one. -/
def peek? : Parse (Option Char) := return (← get).rest.head?

/-- Consumes a character. -/
def next : Parse Char := do
  let s ← get
  match s.rest with
  | [] => failure
  | c :: rest =>
    set { s with rest }
    return c

/-- Consumes a text if it stands next. -/
def eat (text : Text) : Parse Bool := do
  let s ← get
  match text.isPrefixOf? s.rest with
  | some rest =>
    set { s with rest }
    return true
  | none => return false

/-- Consumes a text, which must stand next. -/
def expect (text : Text) : Parse Unit := do
  unless ← eat text do
    failure

/-- Consumes characters as long as `p` holds of them. -/
def takeWhile (p : Char → Bool) : Parse Text := do
  let s ← get
  set { s with rest := s.rest.dropWhile p }
  return s.rest.takeWhile p

/-- The largest number that may be written: any more digits are no number. -/
def maxNumber : Nat := Nat.pow 2 64 - 1

/-- A decimal number, if one stands next. -/
def decimal? : Parse (Option Nat) := do
  let s ← get
  match Text.toNat? (s.rest.takeWhile Char.isDigit) with
  | some n =>
    if n ≤ maxNumber then
      set { s with rest := s.rest.dropWhile Char.isDigit }
      return some n
    return none
  | none => return none

/-- Consumes a closing parenthesis. -/
def closeParen : Parse Unit := do
  skipSpace
  expect [')']

/-- The bounds between the braces of a quantifier. Nothing is consumed if they are not well-formed.
The largest number stands for no bound. -/
def bounds? : Parse (Option (Nat × Option Nat)) := do
  let saved ← get
  let attempt : Parse (Nat × Option Nat) := do
    expect ['\x7b']
    skipSpace
    let least ← decimal?
    if least.isNone && (← peek?) ≠ some ',' then failure
    skipSpace
    let most ← if ← eat [','] then do
        skipSpace
        decimal?
      else pure least
    skipSpace
    expect ['\x7d']
    return (least.getD 0, most.filter (· < maxNumber))
  match attempt saved with
  | some (found, s) =>
    set s
    return some found
  | none => return none

/-- Whether a character may stand in the name of a group. -/
def isNameChar (c : Char) : Bool := Unicode.isAlphanumeric c || c = '_'

/-- A name between two marks. -/
def name (opening closing : Text) : Parse Text := do
  expect opening
  let name ← takeWhile isNameChar
  if name.isEmpty then failure
  expect closing
  return name

/-- The group at a distance from the last one that was opened. The last one is at distance one
behind, and the next one at distance one ahead. -/
def groupAt? (groups : Nat) (behind : Bool) (distance : Nat) : Option Nat :=
  if behind && distance ≠ 0 then
    if distance ≤ groups + 1 then some (groups + 1 - distance) else none
  else some (groups + distance)

/-- The group that a name, a number or, if `relative` allows it, a distance between two marks refers
to. -/
def namedGroup (opening closing : Text) (relative : Bool) : Parse Nat := do
  expect opening
  let s ← get
  let word ← takeWhile isNameChar
  if !word.isEmpty then
    expect closing
    match s.names.lookup word, Text.toNat? word with
    | some group, _ => return group
    | none, some n => return n
    | none, none => failure
  else if relative then
    let behind ← eat ['-']
    unless behind do
      expect ['+']
    let some distance ← decimal? | failure
    expect closing
    groupAt? s.groups behind distance
  else failure

/-- The group whose number stands next. -/
def numberedGroup : Parse Nat := do
  let some n ← decimal? | failure
  unless n < (← get).backrefLimit do
    failure
  modify fun s => { s with numbered := true }
  return n

/-- The text of a group again. -/
def backref (group : Nat) : Parse Regex := do
  let s ← get
  return .backref group s.options.ignoreCase ((s.closed.lookup group).getD .unknown)

/-- Whether a character is a hexadecimal digit. -/
def isHexDigit (c : Char) : Bool := CharSet.hexDigits.contains c

/-- The value of hexadecimal digits. -/
def hexValue (digits : Text) : Nat :=
  digits.foldl (fun n c =>
    16 * n + (if c.isDigit then c.toNat - '0'.toNat else c.toLower.toNat - 'a'.toNat + 10)) 0

/-- The character of a code point. -/
def ofCode? (n : Nat) : Option Char := if n.isValidChar then some (Char.ofNat n) else none

/-- A character by its code: exactly `digits` hexadecimal digits, or up to eight between braces. -/
def hexChar (digits : Nat) : Parse Char := do
  let s ← get
  let fixed := s.rest.take digits
  if fixed.length = digits && fixed.all isHexDigit then
    set { s with rest := s.rest.drop digits }
    ofCode? (hexValue fixed)
  else
    expect ['\x7b']
    let inner ← takeWhile (· ≠ '\x7d')
    expect ['\x7d']
    let digits := if s.options.ignoreSpace then inner.filter (!isPatternBlank ·) else inner
    if digits.isEmpty || 8 < digits.length || !digits.all isHexDigit then failure
    ofCode? (hexValue digits)

/-- A class of characters by its name, behind `\p` or `\P`. Case variants belong to the class itself,
not to its complement. -/
def unicodeClass (negated : Bool) : Parse CharSet := do
  let description ← if ← eat ['\x7b'] then do
      let description ← takeWhile (· ≠ '\x7d')
      expect ['\x7d']
      pure description
    else pure [← next]
  let (set, others) ← propertySet? description
  let set := CharSet.withCase (← get).options.ignoreCase set
  return CharSet.negateIf (negated != others) set

/-- What an escape denotes that may also stand in a class. -/
inductive Escape
  /-- A character that is given by its code. -/
  | coded (c : Char)
  /-- A character that stands for itself only. -/
  | plain (c : Char)
  | members (s : CharSet)
  /-- The hexadecimal digits, or all other characters. -/
  | hexDigit (negated : Bool)

/-- The class of an escape letter that stands for several characters. -/
def classEscape? (c : Char) : Option Escape :=
  match c with
  | 'd' => some (.members CharSet.digit)
  | 'D' => some (.members CharSet.digit.compl)
  | 'w' => some (.members CharSet.word)
  | 'W' => some (.members CharSet.word.compl)
  | 's' => some (.members CharSet.space)
  | 'S' => some (.members CharSet.space.compl)
  | 'h' => some (.hexDigit false)
  | 'H' => some (.hexDigit true)
  | _ => none

/-- The character of an escape letter that stands for one character. -/
def charEscape? (c : Char) : Option Char :=
  match c with
  | 'a' => some '\x07'
  | 'b' => some '\x08'
  | 'f' => some '\x0c'
  | 'n' => some '\n'
  | 'r' => some '\r'
  | 't' => some '\t'
  | 'v' => some '\x0b'
  | 'e' => some '\x1b'
  | c => if c.isAlphanum then none else some c

/-- What a backslash and `c` denote in a class and outside. -/
def simpleEscape (c : Char) : Parse Escape := do
  match classEscape? c with
  | some escape => return escape
  | none =>
    match c with
    | 'x' => return .coded (← hexChar 2)
    | 'u' => return .coded (← hexChar 4)
    | 'U' => return .coded (← hexChar 8)
    | 'p' => return .members (← unicodeClass false)
    | 'P' => return .members (← unicodeClass true)
    | c => return .plain (← charEscape? c)

/-- What a backslash and what follows it denote in a class. The letters of anchors and references
stand for themselves there. -/
def classEscape : Parse (List ClassToken) := do
  let c ← next
  if ['A', 'B', 'G', 'K', 'k', 'z'].contains c then return [.ofEscaped c]
  match ← simpleEscape c with
  | .coded c | .plain c => return [.ofEscaped c]
  | .members s => return [.members s]
  | .hexDigit false => return ClassToken.ofText "[0-9A-Fa-f]".toList
  | .hexDigit true => return ClassToken.ofText "[^0-9A-Fa-f]".toList

/-- The most brackets of classes that may be open. -/
def maxBrackets : Nat := 249

/-- The tokens of a class up to the bracket that closes it: `brackets` is the number of brackets that
are open. -/
def classTokens (brackets : Nat) : Nat → Parse (List ClassToken)
  | 0 => failure
  | n + 1 => do
    match ← next with
    | '\\' => return (← classEscape) ++ (← classTokens brackets n)
    | '[' =>
      if maxBrackets ≤ brackets then failure
      return .raw '[' :: (← classTokens (brackets + 1) n)
    | ']' =>
      if brackets ≤ 1 then return [.raw ']']
      return .raw ']' :: (← classTokens (brackets - 1) n)
    | c => return .raw c :: (← classTokens brackets n)

/-- A class, behind its opening bracket. A closing bracket in front belongs to the class. -/
def bracketClass : Parse CharSet := do
  let negation : Text := if ← eat ['^'] then ['^'] else []
  let bracket : Text := if ← eat [']'] then [']'] else []
  let s ← get
  let tokens ← classTokens 1 s.rest.length
  ClassToken.read? s.options.ignoreCase (ClassToken.ofText (negation ++ bracket) ++ tokens)

/-- One character, without regard to case if the options say so. -/
def literal (c : Char) : Parse Regex :=
  return .set (CharSet.withCase (← get).options.ignoreCase (CharSet.single c))

/-- The names of the assertions on words that stand between braces. -/
def wordAssertions : List (Text × Assertion) :=
  [("\x7bstart\x7d".toList, .wordStart), ("\x7bend\x7d".toList, .wordEnd),
    ("\x7bstart-half\x7d".toList, .wordStartHalf), ("\x7bend-half\x7d".toList, .wordEndHalf)]

/-- Whether the bounds of a quantifier stand next. -/
def boundsFollow : Parse Bool := do
  let saved ← get
  let bounds ← bounds?
  set saved
  return bounds.isSome

/-- The assertion that `\b` denotes. An opening brace behind it begins the bounds of a quantifier or
the name of another assertion. -/
def wordBoundary : Parse Assertion := do
  if (← peek?) ≠ some '\x7b' || (← boundsFollow) then return .wordBoundary
  for (text, assertion) in wordAssertions do
    if ← eat text then return assertion
  failure

/-- What a backslash and what follows it denote. -/
def escape : Parse Regex := do
  let c ← next
  let options := (← get).options
  if c.isDigit then
    modify fun s => { s with rest := c :: s.rest }
    return ← backref (← numberedGroup)
  match c with
  | 'k' =>
    let quoted := (← peek?) = some '\''
    let group ← if quoted then namedGroup ['\''] ['\''] true else namedGroup ['<'] ['>'] true
    backref group
  | 'A' => return .assert .textStart
  | 'z' => return .assert .textEnd
  | 'Z' => return .assert .textEndLoose
  | 'b' => return .assert (← wordBoundary)
  | 'B' =>
    if (← peek?) = some '\x7b' && !(← boundsFollow) then failure
    return .assert .notWordBoundary
  | '<' => return .assert .wordStart
  | '>' => return .assert .wordEnd
  | 'G' => return .assert .searchStart
  | 'K' => return .keepOut
  | 'O' => return .set CharSet.any
  | 'N' => return .set CharSet.notLineFeed
  | c =>
    match ← simpleEscape c with
    | .coded c => literal c
    | .plain c => return .set (CharSet.single c)
    | .members set => return .set (CharSet.withCase options.ignoreCase set)
    | .hexDigit negated => return .set (CharSet.negateIf negated CharSet.hexDigits)

/-- Sets or clears the option of a flag letter. -/
def Options.put? (o : Options) (value : Bool) : Char → Option Options
  | 'i' => some { o with ignoreCase := value }
  | 'm' => some { o with multiline := value }
  | 's' => some { o with dotAll := value }
  | 'x' => some { o with ignoreSpace := value }
  | 'U' => some { o with swapGreed := value }
  | 'u' => if value then some o else none
  | _ => none

/-- The flag letters behind `(?`, up to the colon or parenthesis that ends them. `start` is the
length of what followed `(?`: neither nothing nor a minus sign alone may stand in front of the
parenthesis, nor a minus sign alone in front of the colon. -/
def flags (start : Nat) (negated : Bool) : Nat → Parse Char
  | 0 => failure
  | n + 1 => do
    skipSpace
    let read := start - (← get).rest.length
    let c ← next
    match c with
    | '-' => if negated then failure else flags start true n
    | ')' => if read = 0 || negated && read = 1 then failure else return c
    | ':' => if negated && read = 1 then failure else return c
    | c =>
      let s ← get
      let options ← Options.put? s.options (!negated) c
      set { s with options }
      flags start negated n

/-- The quantifier that stands next: its bounds. -/
def quantifier? : Parse (Option (Nat × Option Nat)) := do
  match ← peek? with
  | some '?' =>
    let _ ← next
    return some (0, some 1)
  | some '*' =>
    let _ ← next
    return some (0, none)
  | some '+' =>
    let _ ← next
    return some (1, none)
  | some '\x7b' => bounds?
  | _ => return none

/-- The most groups that may be nested. -/
def maxNesting : Nat := 64

mutual

/-- Alternatives. -/
def alternatives (depth nesting : Nat) : Parse Regex :=
  match depth with
  | 0 => failure
  | depth + 1 => do
    let first ← sequence depth nesting
    skipSpace
    match ← otherAlternatives depth nesting with
    | [] =>
      let s ← get
      if s.numbered && !s.names.isEmpty then failure
      return first
    | others => return .alt (first :: others)

/-- The alternatives behind the first one. -/
def otherAlternatives (depth nesting : Nat) : Parse (List Regex) :=
  match depth with
  | 0 => failure
  | depth + 1 => do
    unless ← eat ['|'] do
      return []
    let next ← sequence depth nesting
    skipSpace
    return next :: (← otherAlternatives depth nesting)

/-- Pieces one after the other. -/
def sequence (depth nesting : Nat) : Parse Regex := return .join (← pieces depth nesting)

/-- The pieces up to the end of the alternative. -/
def pieces (depth nesting : Nat) : Parse (List Regex) :=
  match depth with
  | 0 => failure
  | depth + 1 => do
    let before := (← get).rest.length
    if before = 0 then return []
    let first ← piece depth nesting
    if (← get).rest.length = before then return []
    return first :: (← pieces depth nesting)

/-- An atom with its quantifier. -/
def piece (depth nesting : Nat) : Parse Regex :=
  match depth with
  | 0 => failure
  | depth + 1 => do
    let r ← atom depth nesting
    skipSpace
    match ← quantifier? with
    | none => return r
    | some (least, most) =>
      unless r.isRepeatable do
        failure
      skipSpace
      let lazy ← eat ['?']
      let r : Regex := .repeat r least most (lazy == (← get).options.swapGreed)
      if ← eat ['+'] then return .atomic r
      return r

/-- A character, a class, an escape, an anchor or a group. -/
def atom (depth nesting : Nat) : Parse Regex :=
  match depth with
  | 0 => failure
  | depth + 1 => do
    skipSpace
    let options := (← get).options
    match ← peek? with
    | none => return .empty
    | some c =>
      if c = '+' || c = '*' || c = '?' || c = '|' || c = ')' then return .empty
      let _ ← next
      match c with
      | '.' => return .set (if options.dotAll then CharSet.any else CharSet.notLineFeed)
      | '^' => return .assert (if options.multiline then .lineStart else .textStart)
      | '$' => return .assert (if options.multiline then .lineEnd else .textEnd)
      | '(' => group depth (nesting + 1)
      | '[' => return .set (← bracketClass)
      | '\\' => escape
      | c => literal c

/-- A group, behind its opening parenthesis. -/
def group (depth nesting : Nat) : Parse Regex :=
  match depth with
  | 0 => failure
  | depth + 1 => do
    if maxNesting ≤ nesting then failure
    skipSpace
    let enclosed : Parse Regex := do
      let r ← alternatives depth nesting
      closeParen
      return r
    let capture := fun (name : Option Text) => do
      let index := (← get).groups + 1
      modify fun s => { s with
        groups := index
        names := name.elim s.names fun name => (name, index) :: s.names }
      let r ← enclosed
      modify fun s => { s with closed := (index, r.extent) :: s.closed }
      return .group index r
    if ← eat ['?', '='] then return .look false false (← enclosed)
    if ← eat ['?', '!'] then return .look false true (← enclosed)
    if ← eat ['?', '<', '='] then return .look true false (← enclosed)
    if ← eat ['?', '<', '!'] then return .look true true (← enclosed)
    if ← eat ['?', '>'] then return .atomic (← enclosed)
    if ← eat ['?', 'P', '='] then return ← backref (← namedGroup [] [')'] false)
    if ← eat ['?', 'P'] then return ← capture (some (← name ['<'] ['>']))
    if ← eat ['?', '\''] then return ← capture (some (← name [] ['\'']))
    if ← eat ['?', '<'] then return ← capture (some (← name [] ['>']))
    if ← eat ['?', '('] then return ← conditional depth nesting
    if ← eat ['?'] then return ← flagGroup depth nesting
    capture none

/-- Flags, behind `(?`: for the rest of the pattern, or for the group that follows them. -/
def flagGroup (depth nesting : Nat) : Parse Regex :=
  match depth with
  | 0 => failure
  | depth + 1 => do
    let s ← get
    let stop ← flags s.rest.length false (s.rest.length + 1)
    if stop = ')' then return .empty
    let r ← alternatives depth nesting
    expect [')']
    modify fun state => { state with options := s.options }
    return r

/-- A condition, behind `(?(`, and the parenthesis that closes it. A reference to a group asks whether
the group is set. -/
def condition (depth nesting : Nat) : Parse Regex :=
  match depth with
  | 0 => failure
  | depth + 1 => do
    let some c ← peek? | failure
    if c = '\'' then return .groupSet (← namedGroup ['\''] ['\'', ')'] true)
    if c = '<' then return .groupSet (← namedGroup ['<'] ['>', ')'] true)
    if c = '+' || c = '-' || c.isDigit then return .groupSet (← namedGroup [] [')'] true)
    let r ← alternatives depth nesting
    closeParen
    match r with
    | .backref index .. => return .groupSet index
    | r => return r

/-- A conditional, behind `(?(`. A condition on a group may stand alone; where both branches are
empty, the condition alone must match. -/
def conditional (depth nesting : Nat) : Parse Regex :=
  match depth with
  | 0 => failure
  | depth + 1 => do
    let test ← condition depth nesting
    let before := (← get).rest.length
    let branches ← alternatives depth nesting
    let missing := (← get).rest.length == before
    closeParen
    if missing then
      match test with
      | .groupSet _ => return test
      | _ => failure
    match branches with
    | .empty | .alt [.empty, .empty] => return test
    | .alt [yes, no] => return .conditional test yes no
    | .alt (yes :: others) => return .conditional test yes (.alt others)
    | yes => return .conditional test yes .empty

end

end Parse

/-- A bound for the depth of the recursion. -/
def depthBound (text : Text) : Nat := 8 * text.length + 16

/-- The expression that a text spells, with its number of groups. The line anchors match at every
line. -/
def Regex.parse? (text : Text) : Option (Regex × Nat) := do
  let options : Options := ⟨false, true, false, false, false⟩
  let start : ParserState := ⟨text, options, 0, [], [], false, (text.byteSize + 4) / 2⟩
  let (r, s) ← Parse.alternatives (depthBound text) 0 start
  if s.rest.isEmpty && r.references.all (fun n => 0 < n && n ≤ s.groups) then some (r, s.groups)
  else none

end LiveSnippet.Pattern
