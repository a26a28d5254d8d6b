import LiveSnippet.Text.Shift

/-!
# Tracked spans

A span that follows the edits of a document. Its end is never before its start.

## Main definitions

* `TrackedSpan`, `TrackedSpan.of`, `TrackedSpan.point`
* `TrackedSpan.update`: the span after a batch
-/

namespace LiveSnippet

/-- A span whose start is not after its end. -/
structure TrackedSpan where
  span : Span
  start_le_stop : span.start ≤ span.stop

namespace TrackedSpan

/-- The tracked span between two positions; an end before the start is taken as the start. -/
def of (start stop : Position) : TrackedSpan := ⟨⟨start, max stop start⟩, Position.le_max_right _ _⟩

/-- The tracked span of a span. -/
def ofSpan (s : Span) : TrackedSpan := of s.start s.stop

/-- The empty tracked span at a position. -/
def point (p : Position) : TrackedSpan := of p p

instance : Inhabited TrackedSpan := ⟨point Position.origin⟩

/-- The first position of the span. -/
def start (t : TrackedSpan) : Position := t.span.start

/-- The last position of the span. -/
def stop (t : TrackedSpan) : Position := t.span.stop

/-- The span after a batch, each edit with its growth policy. -/
def update (t : TrackedSpan) (moves : List (Edit × Growth)) : TrackedSpan :=
  ⟨t.span.follow moves, t.span.follow_start_le_stop moves⟩

/-- Whether `s` lies in the tracked span, edges included. -/
def covers (t : TrackedSpan) (s : Span) : Bool := t.span.covers s

end TrackedSpan

end LiveSnippet
