import LiveSnippet.Pattern.CharSet

/-!
# Syntax of patterns

A pattern is a regular expression with groups, back-references and assertions. Greediness and the
order of alternatives matter: of all matches from one start, the first one in the order of the
choices counts.

An expression is plain if its matches depend on the places reached alone, and hard otherwise.

## Main definitions

* `Assertion`, `Regex`
* `Extent`, `Regex.extent`: how many characters the matches have
* `Regex.isHard`: whether matching needs more than the set of places reached
* `Regex.isRepeatable`: whether a quantifier may follow
-/

namespace LiveSnippet.Pattern

/-- A condition on a place in the text. -/
inductive Assertion
  | textStart
  | textEnd
  /-- The end of the text, or in front of the line feeds there. -/
  | textEndLoose
  | lineStart
  | lineEnd
  | wordBoundary
  | notWordBoundary
  | wordStart
  | wordEnd
  /-- No word character is in front. -/
  | wordStartHalf
  /-- No word character follows. -/
  | wordEndHalf
  /-- Not behind the place where the search began. -/
  | searchStart
deriving DecidableEq, Repr

/-- Whether an assertion looks at one neighbour only, for a line feed or the end of the text. -/
def Assertion.isPlain : Assertion → Bool
  | textStart | textEnd | lineStart | lineEnd => true
  | _ => false

/-- The number of characters of the matches of an expression, as far as it is known. -/
structure Extent where
  /-- No match has fewer characters. -/
  least : Nat
  /-- Whether no match has more. -/
  fixed : Bool
deriving DecidableEq, Repr

namespace Extent

/-- The extent of expressions that consume nothing. -/
def zero : Extent := ⟨0, true⟩

/-- The extent of the text of a group that is not closed yet. -/
def unknown : Extent := ⟨0, false⟩

/-- The extent of two expressions one after the other. -/
def add (a b : Extent) : Extent := ⟨a.least + b.least, a.fixed && b.fixed⟩

/-- The extent of two alternatives. -/
def either (a b : Extent) : Extent :=
  ⟨min a.least b.least, a.fixed && b.fixed && a.least == b.least⟩

/-- The extent of a number of rounds. -/
def rounds (a : Extent) (least : Nat) (most : Option Nat) : Extent :=
  ⟨a.least * least, a.fixed && most == some least⟩

end Extent

/-- A regular expression. -/
inductive Regex
  | empty
  | set (s : CharSet)
  | assert (a : Assertion)
  /-- Expressions one after the other. -/
  | concat (rs : List Regex)
  | alt (rs : List Regex)
  | repeat (r : Regex) (least : Nat) (most : Option Nat) (greedy : Bool)
  | group (index : Nat) (r : Regex)
  /-- The text of a group again. Its extent is known if the group is closed in front. -/
  | backref (index : Nat) (ignoreCase : Bool) (extent : Extent)
  /-- Matches the empty text where `r` matches behind or ahead of it, or where it does not. -/
  | look (behind negated : Bool) (r : Regex)
  /-- Takes the first match of `r` and no other. -/
  | atomic (r : Regex)
  /-- Forgets what was matched so far. -/
  | keepOut
  /-- Matches the empty text if a group has begun. -/
  | groupSet (index : Nat)
  /-- Goes on with `yes` behind the first match of `r`, or with `no` if there is none. -/
  | conditional (r yes no : Regex)
deriving Repr

namespace Regex

mutual

/-- How many characters the matches have. -/
def extent : Regex → Extent
  | set _ => ⟨1, true⟩
  | concat rs => extentAll rs
  | alt rs => extentAny rs
  | .repeat r least most _ => r.extent.rounds least most
  | group _ r | atomic r => r.extent
  | backref _ _ e => e
  | conditional r yes no =>
    let first := r.extent.add yes.extent
    let second := no.extent
    ⟨r.extent.least + min yes.extent.least second.least, (first.either second).fixed⟩
  | empty | assert _ | look .. | keepOut | groupSet _ => .zero

/-- How many characters the matches of expressions one after the other have. -/
def extentAll : List Regex → Extent
  | [] => .zero
  | r :: rs => r.extent.add (extentAll rs)

/-- How many characters the matches of alternatives have. -/
def extentAny : List Regex → Extent
  | [] => .zero
  | [r] => r.extent
  | r :: rs => r.extent.either (extentAny rs)

end

mutual

/-- The groups that an expression refers to. -/
def references : Regex → List Nat
  | concat rs | alt rs => referencesAll rs
  | .repeat r .. | group _ r | look _ _ r | atomic r => r.references
  | backref i .. | groupSet i => [i]
  | conditional r yes no => r.references ++ yes.references ++ no.references
  | empty | set _ | assert _ | keepOut => []

/-- The groups that expressions refer to. -/
def referencesAll : List Regex → List Nat
  | [] => []
  | r :: rs => r.references ++ referencesAll rs

end

mutual

/-- The groups within an expression. -/
def groups : Regex → List Nat
  | concat rs | alt rs => groupsAll rs
  | .repeat r .. | look _ _ r | atomic r => r.groups
  | group i r => i :: r.groups
  | conditional r yes no => r.groups ++ yes.groups ++ no.groups
  | empty | set _ | assert _ | keepOut | backref .. | groupSet _ => []

/-- The groups within expressions. -/
def groupsAll : List Regex → List Nat
  | [] => []
  | r :: rs => r.groups ++ groupsAll rs

end

mutual

/-- Whether matching needs to know how a place was reached: for back-references to the groups in
`references`, for what looks around or gives up choices, and for words. -/
def isHard (references : List Nat) : Regex → Bool
  | empty | set _ => false
  | assert a => !a.isPlain
  | concat rs | alt rs => anyHard references rs
  | .repeat r .. => r.isHard references
  | group i r => references.contains i || r.isHard references
  | backref .. | look .. | atomic _ | keepOut | groupSet _ | conditional .. => true

/-- Whether one of the expressions is hard. -/
def anyHard (references : List Nat) : List Regex → Bool
  | [] => false
  | r :: rs => r.isHard references || anyHard references rs

end

/-- Whether a quantifier may stand behind the expression. -/
def isRepeatable : Regex → Bool
  | empty | look .. | keepOut | groupSet _ | assert .searchStart => false
  | _ => true

/-- Expressions one after the other, of which those that are empty do not count. -/
def join (rs : List Regex) : Regex :=
  match rs.filter fun | empty => false | _ => true with
  | [] => empty
  | [r] => r
  | rs => concat rs

end Regex

end LiveSnippet.Pattern
