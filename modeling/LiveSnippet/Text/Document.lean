import LiveSnippet.Text.Buffer

/-!
# Documents

What matching and expansion may ask of a document. Nothing else of an editor is visible to them.

## Main definitions

* `Document`, `Buffer.document`
-/

namespace LiveSnippet

/-- Read access to a document. -/
structure Document where
  /-- The text of a span; `none` if the span is not part of the document. -/
  text? : Span → Option Text
  /-- The white space a line begins with; none if there is no such line. -/
  lineIndent : Nat → Text

namespace Buffer

/-- A buffer as a document. -/
def document (b : Buffer) : Document := ⟨fun s => (b.slice s).toOption, b.lineIndent⟩

end Buffer

end LiveSnippet
