import LiveSnippet.Text.Edit

/-!
# Text buffers

A document that is addressed by positions. A line ends at LF, VT, FF, CR, NEL, LS or PS, where CR
before LF forms one break with it. The text of a line is given without a final LF or CRLF; the
other breaks count as its last character.

## Main definitions

* `Buffer`, `Buffer.lines`
* `Buffer.toIndex`, `Buffer.toPosition`: between positions and character indices
* `Buffer.slice`: the text of a span
* `Buffer.apply`: a batch of edits, applied as a whole or not at all
* `BufferError`: what can be wrong with a position or a batch
-/

namespace LiveSnippet

/-- Why a position or a batch does not fit a buffer. -/
inductive BufferError
  /-- The buffer of `lines` lines has no line with this number. -/
  | lineOutOfBounds (line lines : Nat)
  /-- The edit that starts here overlaps the one before it. -/
  | overlapping (start : Position)
deriving DecidableEq, Repr

namespace BufferError

/-- The error as shown to a user. -/
def message : BufferError → String
  | lineOutOfBounds line lines => s!"line {line} is past the end of the buffer ({lines} lines)"
  | overlapping start => s!"edits overlap at {start.render}"

end BufferError

namespace Text

/-- Whether a character on its own ends a line. -/
def isLineBreak (c : Char) : Bool :=
  c = '\n' || c = '\x0b' || c = '\x0c' || c = '\r' || c = '\u0085' || c = '\u2028' || c = '\u2029'

/-- The lines, breaks included, of `line.reverse` followed by the given text. -/
def bufferLinesFrom (line : Text) : Text → List Text
  | [] => [line.reverse]
  | c :: rest =>
    if isLineBreak c && !(c = '\r' && rest.head? = some '\n') then
      (c :: line).reverse :: bufferLinesFrom [] rest
    else bufferLinesFrom (c :: line) rest

/-- A line without a final LF or CRLF. -/
def dropBreak (line : Text) : Text :=
  match line.reverse with
  | '\n' :: '\r' :: rest => rest.reverse
  | '\n' :: rest => rest.reverse
  | _ => line

end Text

/-- A document. -/
structure Buffer where
  text : Text
deriving DecidableEq, Repr

namespace Buffer

/-- The lines of the buffer with their breaks. A text that ends in a break has an empty last
line, so there is always one line at least. -/
def lines (b : Buffer) : List Text := Text.bufferLinesFrom [] b.text

/-- The number of lines. -/
def lineCount (b : Buffer) : Nat := b.lines.length

/-- The text of a line without LF or CRLF. -/
def line? (b : Buffer) (n : Nat) : Option Text := (b.lines[n]?).map Text.dropBreak

/-- The spaces and tabs a line begins with; none if there is no such line. -/
def lineIndent (b : Buffer) (n : Nat) : Text :=
  match b.line? n with
  | some line => line.takeWhile fun c => c = ' ' || c = '\t'
  | none => []

/-- The index of the first character of a line. -/
def lineStart (b : Buffer) (n : Nat) : Nat := (b.lines.take n).flatten.length

/-- The character index of a position. A character past the end of its line counts as the end. -/
def toIndex (b : Buffer) (p : Position) : Except BufferError Nat :=
  match b.line? p.line with
  | some line => .ok (b.lineStart p.line + min p.character line.length)
  | none => .error (.lineOutOfBounds p.line b.lineCount)

/-- The position of a character index in the given lines, the first of which has number `line`. -/
def positionFrom (line : Nat) : List Text → Nat → Position
  | l :: l' :: rest, i =>
    if i < l.length then ⟨line, i⟩ else positionFrom (line + 1) (l' :: rest) (i - l.length)
  | _, i => ⟨line, i⟩

/-- The position of a character index. An index past the end counts as the end. -/
def toPosition (b : Buffer) (i : Nat) : Position := positionFrom 0 b.lines (min i b.text.length)

/-- The character indices of a span. An end before the start is taken as the start. -/
def toIndices (b : Buffer) (s : Span) : Except BufferError (Nat × Nat) := do
  let start ← b.toIndex s.start
  let stop ← b.toIndex s.stop
  return (start, max stop start)

/-- The text of a span. -/
def slice (b : Buffer) (s : Span) : Except BufferError Text := do
  let (start, stop) ← b.toIndices s
  return (b.text.take stop).drop start

/-- An edit with its span as character indices. -/
structure Splice where
  start : Nat
  stop : Nat
  edit : Edit
deriving DecidableEq, Repr

namespace Splice

/-- Puts the new text in the place of the indices. -/
def apply (s : Splice) (text : Text) : Text := text.take s.start ++ s.edit.text ++ text.drop s.stop

/-- By start and then by end. -/
def le (a b : Splice) : Bool := a.start < b.start || a.start == b.start && a.stop ≤ b.stop

/-- The first splice that starts before the one in front of it ends. -/
def firstOverlap? : List Splice → Option Splice
  | a :: b :: rest => if b.start < a.stop then some b else firstOverlap? (b :: rest)
  | _ => none

end Splice

/-- The splice of an edit. -/
def resolve (b : Buffer) (e : Edit) : Except BufferError Splice := do
  let (start, stop) ← b.toIndices e.span
  return ⟨start, stop, e⟩

/-- Applies a batch. The splices are made from the last to the first, so that the indices of those
still to come stay right. -/
def apply (b : Buffer) (edits : List Edit) : Except BufferError Buffer := do
  let splices := (← edits.mapM b.resolve).mergeSort Splice.le
  match Splice.firstOverlap? splices with
  | some s => .error (.overlapping s.edit.span.start)
  | none => .ok ⟨splices.foldr Splice.apply b.text⟩

end Buffer

end LiveSnippet
