import LiveSnippet.Session.Diagnostic
import LiveSnippet.Session.Layout
import LiveSnippet.Template.Compiled
import LiveSnippet.Text.Document

/-!
# Expansions

An expansion is a template that has been put into a document and is kept in step with it: where its
parts are, what they hold, and which placeholder is selected.

## Main definitions

* `ExpansionRequest`, `Expansion`, `Expansion.new`
* `Expansion.selected?`, `Expansion.next`, `Expansion.prev`: the selected placeholder
-/

namespace LiveSnippet

/-- What is known when a template is expanded. -/
structure ExpansionRequest where
  /-- Where the text will stand. -/
  position : Position
  /-- What the trigger captured. -/
  matchGroups : List Text
  /-- The text that was selected. -/
  selectedText : Text
  workspaceId : Text
  fileId : Text
deriving DecidableEq, Repr

/-- A template in a document. -/
structure Expansion where
  template : Template
  matchGroups : List Text
  workspaceId : Text
  fileId : Text
  /-- All of the expansion. -/
  range : TrackedSpan
  parts : List Part
  /-- The placeholders in the order in which they are visited. -/
  placeholderIds : List Nat
  /-- The index of the selected placeholder; `none` when the last or first one has been left. -/
  active : Option Nat
  /-- Whether corrective edits have been issued that are not yet seen in the document. -/
  blockChanged : Bool
  /-- The text that was put into the document, with its markers. -/
  snippet : Text

namespace Expansion

/-- The input of a generator for given placeholder texts. -/
def input (x : Expansion) (placeholderTexts : List Text) : GeneratorInput :=
  ⟨placeholderTexts, x.matchGroups, x.workspaceId, x.fileId⟩

/-- The diagnostic for a generator that failed. -/
def diagnose (t : Template) (e : GeneratorError) : Diagnostic := ⟨t.name, e.message⟩

/-- Lays out the output of a generator as an expansion whose first placeholder is selected. -/
def place (t : Template) (r : ExpansionRequest) (indent : Nat) (output : GeneratorOutput) :
    Expansion :=
  let l := Layout.ofOutput r.position indent r.selectedText output
  { template := t
    matchGroups := r.matchGroups
    workspaceId := r.workspaceId
    fileId := r.fileId
    range := .of r.position l.cursor
    parts := l.parts
    placeholderIds := l.placeholderIds
    active := some 0
    blockChanged := false
    snippet := l.snippet }

/-- Expands a template with empty placeholders. If its generator fails, the expansion has no parts
and no text. -/
def new (t : Template) (r : ExpansionRequest) (d : Document) : Expansion × Option Diagnostic :=
  let indent := (d.lineIndent r.position.line).length
  let texts := List.replicate t.placeholderCount []
  match t.generator.invoke ⟨texts, r.matchGroups, r.workspaceId, r.fileId⟩ with
  | .ok output => (place t r indent output, none)
  | .error e => (place t r indent ⟨[], []⟩, some (diagnose t e))

/-- The selected placeholder. -/
def selected? (x : Expansion) : Option Nat := x.active.bind (x.placeholderIds[·]?)

/-- The span of a placeholder. -/
def placeholderSpan? (x : Expansion) (id : Nat) : Option Span :=
  (x.parts.find? (·.kind == .placeholder id)).map (·.range.span)

/-- The span of the selected placeholder. -/
def selectedSpan? (x : Expansion) : Option Span := x.selected?.bind x.placeholderSpan?

/-- Whether there is nothing to keep in step. -/
def isInert (x : Expansion) : Bool := x.parts.isEmpty

/-- Whether a position lies in the expansion. -/
def contains (x : Expansion) (p : Position) : Bool := x.range.span.contains p

/-- Whether there is a placeholder selected at which the session goes on. The session ends at the
placeholder 0. -/
def goesOn (x : Expansion) : Bool := x.selected?.any (· ≠ 0)

/-- Selects the next placeholder. -/
def next (x : Expansion) : Expansion :=
  { x with active := (x.active.map (· + 1)).filter (· < x.placeholderIds.length) }

/-- Selects the placeholder before the selected one. -/
def prev (x : Expansion) : Expansion :=
  { x with active := x.active.bind fun i => if i = 0 then none else some (i - 1) }

end Expansion

end LiveSnippet
