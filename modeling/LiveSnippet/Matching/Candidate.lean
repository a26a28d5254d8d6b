import LiveSnippet.Matching.Context
import LiveSnippet.Template.Compiled

/-!
# Candidates for expansion

A template is a candidate if its trigger, or the beginning of a literal trigger, stands before the
cursor. The first automatic template whose trigger stands there as a whole wins; without one, all
candidates are offered in the order of their templates. Matching does not depend on how patterns are
searched for, so the way to do so is a parameter.

## Main definitions

* `MatchRequest`, `Candidate`, `MatchOutcome`
* `Pattern.Engine`: how patterns are searched for
* `Template.candidate?`: what one template offers
* `matchTemplatesBy`, `matchTemplates`: the outcome for a list of templates
-/

namespace LiveSnippet

/-- Where, and in which scopes, to look for triggers. -/
structure MatchRequest where
  position : Position
  /-- The scopes around the cursor, the innermost last. -/
  scopes : List Text
  /-- The number of lines before the cursor's line that multi-line patterns see. -/
  lookbackLines : Nat
deriving DecidableEq, Repr

/-- A template that can be expanded at the cursor. -/
structure Candidate where
  template : Template
  /-- The literal trigger, or what a pattern matched. -/
  label : Text
  /-- What the expansion replaces. It ends at the cursor. -/
  span : Span
  /-- What the groups of a pattern matched, the whole match first. -/
  groups : List Text
  /-- Whether all of the trigger was found. -/
  complete : Bool

namespace Candidate

/-- Whether the template expands without being asked. -/
def isAutomatic (c : Candidate) : Bool := c.complete && c.template.flags.automatic

end Candidate

/-- What the templates offer at the cursor. -/
inductive MatchOutcome
  /-- An automatic template matched. -/
  | automatic (candidate : Candidate)
  /-- The candidates in the order of their templates. -/
  | candidates (list : List Candidate)

namespace MatchOutcome

/-- All candidates of an outcome. -/
def toList : MatchOutcome → List Candidate
  | automatic c => [c]
  | candidates cs => cs

end MatchOutcome

namespace Pattern

/-- A way to search for patterns: the match of a pattern that ends at the end of a text. -/
abbrev Engine := TextPattern → Text → Option Captures

/-- The text of a group; empty if the group took no part in the match. -/
def groupText (text : Text) : Option (Nat × Nat) → Text
  | some (start, stop) => (text.take stop).drop start
  | none => []

end Pattern

namespace Template

/-- The candidate for a literal trigger. -/
def literalCandidate? (t : Template) (trigger : Text) (c : Context) : Option Candidate :=
  (c.literal? trigger t.flags.matchMode).map fun (count, complete) =>
    ⟨t, trigger, c.spanBefore count, [], complete⟩

/-- The candidate for a pattern that is matched against a text which begins on line `firstLine` and
ends at the cursor. -/
def patternCandidate? (engine : Pattern.Engine) (t : Template) (p : Pattern.TextPattern)
    (firstLine : Nat) (text : Text) (cursor : Position) : Option Candidate :=
  (engine p text).map fun captures =>
    let start := Position.advance ⟨firstLine, 0⟩ (text.take (Pattern.TextPattern.wholeSpan captures).1) 0
    let groups := captures.map (Pattern.groupText text)
    ⟨t, groups.headD [], ⟨start, cursor⟩, groups, true⟩

/-- The candidate that a template offers, if it may be used in the scopes. -/
def candidate? (engine : Pattern.Engine) (t : Template) (c : Context) (scopes : List Text) :
    Option Candidate :=
  if t.accepts scopes then
    match t.trigger with
    | .literal trigger => t.literalCandidate? trigger c
    | .pattern p =>
      if t.flags.multiline then t.patternCandidate? engine p c.firstLine c.lookback c.position
      else t.patternCandidate? engine p c.position.line c.line c.position
  else none

end Template

/-- The outcome for templates, after the candidates in `found`, which stand last first. -/
def matchFrom (candidate? : Template → Option Candidate) (found : List Candidate) :
    List Template → MatchOutcome
  | [] => .candidates found.reverse
  | t :: rest =>
    match candidate? t with
    | none => matchFrom candidate? found rest
    | some c => if c.isAutomatic then .automatic c else matchFrom candidate? (c :: found) rest

/-- The outcome for templates at a place in a document, given how patterns are searched for. -/
def matchTemplatesBy (engine : Pattern.Engine) (d : Document) (templates : List Template)
    (r : MatchRequest) : MatchOutcome :=
  let context := Context.of d r.position r.lookbackLines
  matchFrom (·.candidate? engine context r.scopes) [] templates

/-- The outcome for templates at a place in a document. -/
def matchTemplates (d : Document) (templates : List Template) (r : MatchRequest) : MatchOutcome :=
  matchTemplatesBy Pattern.TextPattern.capturesAtEnd? d templates r

end LiveSnippet
