import LiveSnippet.Pattern.Trigger
import LiveSnippet.Template.Flags
import LiveSnippet.Template.Generator

/-!
# Compiled templates

## Main definitions

* `Trigger`, `Trigger.label`
* `Template`, `Template.name`, `Template.accepts`
-/

namespace LiveSnippet

/-- What makes a template eligible for expansion. -/
inductive Trigger
  | literal (text : Text)
  | pattern (p : Pattern.TextPattern)

namespace Trigger

/-- The text of a literal trigger, or a pattern as its author wrote it. -/
def label : Trigger → Text
  | literal text => text
  | pattern p => p.source

/-- Whether the trigger is a pattern. -/
def isPattern : Trigger → Bool
  | literal _ => false
  | pattern _ => true

end Trigger

/-- A compiled template. -/
structure Template where
  trigger : Trigger
  /-- Empty if the header has none. -/
  description : Text
  flags : Flags
  priority : Int
  /-- The number of markers in the literal text of the body. -/
  placeholderCount : Nat
  contextFilter : Option ScopeFilter
  generator : Generator
  /-- The line of the header in its file, counted from one. -/
  line : Nat

namespace Template

/-- The description, or the trigger if there is none. -/
def name (t : Template) : Text := if t.description.isEmpty then t.trigger.label else t.description

/-- Whether the template may be used in the scopes. A filter that fails rejects. -/
def accepts (t : Template) (scopes : List Text) : Bool :=
  match t.contextFilter with
  | none => true
  | some filter =>
    match filter scopes with
    | .ok accepted => accepted
    | .error _ => false

end Template

end LiveSnippet
