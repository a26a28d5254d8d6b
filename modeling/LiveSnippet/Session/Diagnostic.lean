import LiveSnippet.Text.Basic

/-!
# Diagnostics

A template that fails while it is used does no harm to the document; the user is told.

## Main definitions

* `Diagnostic`, `Diagnostic.render`
-/

namespace LiveSnippet

/-- A failure of a template that is reported to the user. -/
structure Diagnostic where
  /-- The name of the template. -/
  template : Text
  message : String
deriving DecidableEq, Repr

namespace Diagnostic

/-- The diagnostic as shown to the user. -/
def render (d : Diagnostic) : String :=
  s!"template \x60{String.ofList d.template}\x60 failed: {d.message}"

end Diagnostic

end LiveSnippet
