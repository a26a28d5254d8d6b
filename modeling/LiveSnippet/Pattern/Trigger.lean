import LiveSnippet.Pattern.Parser
import LiveSnippet.Pattern.Search

/-!
# Pattern triggers

A pattern trigger must match up to the end of the text before the cursor. A search gives the match
with the least start only, which may end too early; so the search is begun again behind the start of
every match that does not end at the end of the text. Neither this nor the compilation of template
files depends on how patterns are compiled and searched for, so both are parameters.

## Main definitions

* `TextPattern`
* `Compiler`, `TextPattern.compile?`: how patterns are compiled
* `Searcher`, `TextPattern.search?`: how a text is searched
* `firstAtEnd`: the first match that ends at the end, for any way to search
* `TextPattern.capturesAtEndBy?`, `TextPattern.capturesAtEnd?`
-/

namespace LiveSnippet.Pattern

/-- The first match that ends at `size`, among those that `search` finds from `origin` on. -/
def firstAtEnd {α : Type} (span : α → Nat × Nat) (search : Nat → Option α) (size origin : Nat) :
    Option α :=
  if size < origin then none
  else match search origin with
    | none => none
    | some found =>
      if (span found).2 = size then some found
      else firstAtEnd span search size (max origin (span found).1 + 1)
termination_by size + 1 - origin

/-- A compiled pattern. -/
structure TextPattern where
  /-- The pattern as its author wrote it. -/
  source : Text
  program : Program
deriving Repr

/-- A way to compile patterns; `none` if a pattern is not well-formed. -/
abbrev Compiler := Text → Option TextPattern

/-- A way to search: the match of a pattern in a text that has the least start from an index on. -/
abbrev Searcher := TextPattern → Text → Nat → Option Captures

/-- Whether a pattern ends in an anchor that is not escaped. -/
def endsWithAnchor (source : Text) : Bool :=
  match source.reverse with
  | '$' :: rest => (rest.takeWhile (· = '\\')).length % 2 == 0
  | _ => false

/-- The pattern with an anchor at its end. -/
def anchored (source : Text) : Text :=
  if endsWithAnchor source then source else "(?:".toList ++ source ++ ")$".toList

namespace TextPattern

/-- Compiles a pattern. -/
def compile? : Compiler := fun source => do
  let (r, groups) ← Regex.parse? (anchored source)
  return ⟨source, ← Program.ofRegex? r groups⟩

/-- The span of the whole match. -/
def wholeSpan (c : Captures) : Nat × Nat := (c.head?.join).getD (0, 0)

/-- Searches with the program of a pattern. A search that is given up finds nothing. -/
def search? : Searcher := fun p text => p.program.search? text.toArray

/-- The first match that ends at the end of the text, given how to search. -/
def capturesAtEndBy? (searcher : Searcher) (p : TextPattern) (text : Text) : Option Captures :=
  firstAtEnd wholeSpan (searcher p text) text.length 0

/-- The first match that ends at the end of the text. -/
def capturesAtEnd? (p : TextPattern) (text : Text) : Option Captures :=
  p.capturesAtEndBy? search? text

end TextPattern

end LiveSnippet.Pattern
