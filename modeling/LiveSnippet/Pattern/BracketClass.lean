import LiveSnippet.Pattern.CharSet
import LiveSnippet.Text.Basic

/-!
# Classes between brackets

A class lists characters, ranges, other classes and their combinations between brackets. Its end is
found first, by counting the brackets that are not escaped; what stands up to there must then read
as one class.

## Main definitions

* `ClassToken`: what a class is written with
* `ClassToken.read?`: the set that tokens spell
-/

namespace LiveSnippet.Pattern

/-- A character of a class as it stands there, or what an escape denotes. -/
inductive ClassToken
  | raw (c : Char)
  /-- A character without a meaning of its own. -/
  | literal (c : Char)
  | members (s : CharSet)
deriving DecidableEq, Repr

/-- A way to combine the parts of a class. -/
inductive ClassOp
  | union
  | inter
  | diff
  | symmDiff

/-- Combines the part of a class before an operator with the part behind it. -/
def ClassOp.apply (ignoreCase : Bool) (op : ClassOp) (a b : CharSet) : CharSet :=
  let a' := CharSet.withCase ignoreCase a
  let b' := CharSet.withCase ignoreCase b
  match op with
  | union => a.union b
  | inter => a'.inter b'
  | diff => a'.diff b'
  | symmDiff => a'.symmDiff b'

namespace ClassToken

/-- The token of a character that an escape denotes. Only characters that could have a meaning of
their own lose it. -/
def ofEscaped (c : Char) : ClassToken :=
  if ['[', ']', '^', '-', '&', '~'].contains c then literal c else raw c

/-- The tokens of a text as it stands. -/
def ofText (text : Text) : List ClassToken := text.map raw

/-- What follows the tokens of `text`, if they stand in front. -/
def after? (text : Text) (tokens : List ClassToken) : Option (List ClassToken) :=
  (ofText text).isPrefixOf? tokens

/-- The letters in front. -/
def letters : List ClassToken → Text
  | raw c :: rest => if c.isAlpha then c :: letters rest else []
  | _ => []

/-- An ASCII class between colons, behind its opening bracket, and what follows it. -/
def ascii? (ignoreCase : Bool) (tokens : List ClassToken) :
    Option (CharSet × List ClassToken) := do
  let rest ← after? [':'] tokens
  let (negated, rest) := match after? ['^'] rest with
    | some rest => (true, rest)
    | none => (false, rest)
  let name := letters rest
  let set ← CharSet.ascii? (String.ofList name)
  let rest ← after? [':', ']'] (rest.drop name.length)
  return (CharSet.negateIf negated (CharSet.withCase ignoreCase set), rest)

/-- A character, a range or a set, and what follows it. -/
def item? : List ClassToken → Option (CharSet × List ClassToken)
  | [] => none
  | first :: rest =>
    let isRange := rest.head? == some (raw '-') && rest[1]? != some (raw ']')
      && rest[1]? != some (raw '-')
    match first, isRange, rest with
    | members s, false, _ => some (s, rest)
    | raw a, false, _ | literal a, false, _ => some (CharSet.single a, rest)
    | raw a, true, _ :: raw b :: rest | raw a, true, _ :: literal b :: rest
    | literal a, true, _ :: raw b :: rest | literal a, true, _ :: literal b :: rest =>
      if a ≤ b then some (CharSet.range a b, rest) else none
    | _, _, _ => none

/-- The operator in front, and what follows it. -/
def op? (tokens : List ClassToken) : Option (ClassOp × List ClassToken) :=
  (after? ['&', '&'] tokens).map (.inter, ·) <|> (after? ['-', '-'] tokens).map (.diff, ·) <|>
    (after? ['~', '~'] tokens).map (.symmDiff, ·)

mutual

/-- A class behind its opening bracket, and what follows it. -/
def body? (ignoreCase : Bool) : Nat → List ClassToken → Option (CharSet × List ClassToken)
  | 0, _ => none
  | depth + 1, tokens => do
    let (negated, tokens) := match after? ['^'] tokens with
      | some rest => (true, rest)
      | none => (false, tokens)
    let rest := tokens.dropWhile (· == raw '-')
    let (start, rest) := match rest.length == tokens.length, after? [']'] rest with
      | true, some rest => (CharSet.single ']', rest)
      | true, none => (CharSet.none, rest)
      | false, _ => (CharSet.single '-', rest)
    let (set, rest) ← items? ignoreCase depth CharSet.none .union start rest
    return (CharSet.negateIf negated (CharSet.withCase ignoreCase set), rest)

/-- The rest of a class, and what follows it: `before` and `op` are the part in front of the last
operator and that operator, `part` is the part behind it so far. -/
def items? (ignoreCase : Bool) :
    Nat → CharSet → ClassOp → CharSet → List ClassToken → Option (CharSet × List ClassToken)
  | 0, _, _, _, _ => none
  | depth + 1, before, op, part, tokens =>
    match after? [']'] tokens, op? tokens, after? ['['] tokens with
    | some rest, _, _ => some (op.apply ignoreCase before part, rest)
    | none, some (next, rest), _ =>
      items? ignoreCase depth (op.apply ignoreCase before part) next CharSet.none rest
    | none, none, some rest => do
      let (set, rest) ← ascii? ignoreCase rest <|> body? ignoreCase depth rest
      items? ignoreCase depth before op (part.union set) rest
    | none, none, none => do
      let (set, rest) ← item? tokens
      items? ignoreCase depth before op (part.union set) rest

end

/-- The set that the tokens behind an opening bracket spell, the closing bracket included. -/
def read? (ignoreCase : Bool) (tokens : List ClassToken) : Option CharSet := do
  let (set, rest) ← body? ignoreCase (2 * tokens.length + 2) tokens
  if rest.isEmpty then some set else none

end ClassToken

end LiveSnippet.Pattern
