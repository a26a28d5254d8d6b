import LiveSnippet.Text.Edit

/-!
# Shifts

How edits move positions and spans. Each edit of a batch is measured against the span as it was
before the batch, and the shifts are added up. A growth policy decides whether text inserted at an
edge of a span becomes part of it.

## Main definitions

* `Shift`, `Position.moveBy`
* `Growth`: `grow`, `fixLeft`, `fixRight`
* `Edit.shift`, `Edit.shiftEdge`, `Edit.shiftSpan`
* `Span.batchShift`, `Span.follow`
-/

namespace LiveSnippet

/-- A signed distance between positions. -/
structure Shift where
  line : Int
  character : Int
deriving DecidableEq, Repr

namespace Shift

instance : Zero Shift := ⟨⟨0, 0⟩⟩

instance : Add Shift := ⟨fun a b => ⟨a.line + b.line, a.character + b.character⟩⟩

/-- Whether the shift moves nothing. -/
def isZero (s : Shift) : Bool := s.line == 0 && s.character == 0

end Shift

/-- The largest coordinate of a position. -/
def maxCoordinate : Nat := Nat.pow 2 32 - 1

/-- Moves a coordinate and keeps it between zero and the largest coordinate. -/
def shiftCoordinate (value : Nat) (distance : Int) : Nat :=
  min (Int.toNat (value + distance)) maxCoordinate

namespace Position

/-- The position moved by a shift, each coordinate kept in its range. -/
def moveBy (p : Position) (s : Shift) : Position :=
  ⟨shiftCoordinate p.line s.line, shiftCoordinate p.character s.character⟩

end Position

/-- Which edges of a span follow text inserted there. -/
inductive Growth
  /-- The end follows, so the span takes in text at both of its edges. -/
  | grow
  /-- No edge follows: text inserted at the end stays outside. -/
  | fixLeft
  /-- Both edges follow: text inserted at the start stays outside. -/
  | fixRight
deriving DecidableEq, Repr

namespace Growth

/-- Whether the start of a span follows text inserted there. -/
def movesStart : Growth → Bool
  | .fixRight => true
  | _ => false

/-- Whether the end of a span follows text inserted there. -/
def movesStop : Growth → Bool
  | .fixLeft => false
  | _ => true

end Growth

namespace Edit

/-- From the end of the replaced span to the end of the new text. -/
def shift (e : Edit) : Shift :=
  let x := e.text.extent
  let column := if x.breaks = 0 then e.span.start.character + x.last else x.last
  ⟨x.breaks - (e.span.stop.line - e.span.start.line : Int), column - e.span.stop.character⟩

/-- The shift of one edge of a span. An edge after the replaced span moves with the text; so does
an edge at its end if `moves` says so. An edge inside falls back to the start of the replaced
span, and any other edge stays. -/
def shiftEdge (e : Edit) (p : Position) (moves : Bool) : Shift :=
  if e.span.stop < p ∨ p = e.span.stop ∧ moves = true then
    ⟨e.shift.line, if p.line = e.span.stop.line then e.shift.character else 0⟩
  else if e.span.start < p then
    ⟨e.span.start.line - p.line, e.span.start.character - p.character⟩
  else 0

/-- The shifts of both edges of a span. -/
def shiftSpan (e : Edit) (s : Span) (g : Growth) : Shift × Shift :=
  (e.shiftEdge s.start g.movesStart, e.shiftEdge s.stop g.movesStop)

end Edit

namespace Span

/-- The shifts of both edges under a batch, every edit measured against the span as it is. -/
def batchShift (s : Span) (moves : List (Edit × Growth)) : Shift × Shift :=
  moves.foldl (fun sum m =>
    let step := m.1.shiftSpan s m.2
    (sum.1 + step.1, sum.2 + step.2)) (0, 0)

/-- The span after a batch. Its end never falls before its start. -/
def follow (s : Span) (moves : List (Edit × Growth)) : Span :=
  let sum := s.batchShift moves
  let start := s.start.moveBy sum.1
  ⟨start, max (s.stop.moveBy sum.2) start⟩

theorem follow_start_le_stop (s : Span) (moves : List (Edit × Growth)) :
    (s.follow moves).start ≤ (s.follow moves).stop :=
  Position.le_max_right _ _

end Span

end LiveSnippet
