import LiveSnippet.Text.Position

/-!
# Edits

An edit replaces the text of a span. The edits of one batch all use the coordinates that hold
before the batch.

## Main definitions

* `Edit`, `Edit.insert`, `Edit.delete`
* `Edit.sortByStop`: the edits of a batch by the ends of their spans
-/

namespace LiveSnippet

/-- Replaces the text of `span` by `text`. -/
structure Edit where
  span : Span
  text : Text
deriving DecidableEq, Repr

namespace Edit

/-- Inserts a text at a position. -/
def insert (p : Position) (text : Text) : Edit := ⟨Span.point p, text⟩

/-- Deletes a span. -/
def delete (span : Span) : Edit := ⟨span, []⟩

/-- The edits ordered by the ends of their spans; edits with the same end keep their order. -/
def sortByStop (edits : List Edit) : List Edit :=
  edits.mergeSort fun a b => decide (a.span.stop ≤ b.span.stop)

end Edit

end LiveSnippet
