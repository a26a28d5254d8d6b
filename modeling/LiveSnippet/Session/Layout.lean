import LiveSnippet.Session.Part
import LiveSnippet.Template.Generator
import LiveSnippet.Template.Marker
import LiveSnippet.Text.Search

/-!
# Layout of an expansion

The output of a generator is laid out from a position on: every code block becomes a part, and so
does the first marker of every number. The layout also gives the snippet text, in which the markers
still stand and the dollars of block outputs are escaped.

## Main definitions

* `Layout`, `Layout.ofOutput`
* `Layout.placeholderIds`: the placeholders in the order in which they are visited
* `renderSnippet`: the text that a snippet text puts into a document
-/

namespace LiveSnippet

/-- An output laid out up to a position. -/
structure Layout where
  /-- Where the layout ends. -/
  cursor : Position
  snippet : Text
  parts : List Part
  /-- The numbers of the markers met so far. -/
  ids : List Nat

namespace Layout

/-- The layout of nothing at a position. -/
def start (p : Position) : Layout := ⟨p, [], [], []⟩

/-- Lays out a piece of literal text. -/
def addPiece (indent : Nat) (l : Layout) : Marker.Piece → Layout
  | .text run => { l with cursor := l.cursor.advance run indent }
  | .dollar => { l with cursor := l.cursor.advance ['$'] indent }
  | .marker id =>
    if l.ids.contains id then l
    else { l with parts := l.parts ++ [.placeholder id l.cursor], ids := l.ids ++ [id] }

/-- The word in literal text that stands for the selected text. -/
def visual : Text := "$\x7bVISUAL\x7d".toList

/-- Literal text with the selected text in its places. The selected text brings in no markers. -/
def withSelection (selected text : Text) : Text :=
  Text.replaceAll visual (Marker.escapeDollars selected) text

/-- Lays out a segment. A block without output is left out. -/
def addSegment (indent : Nat) (selected : Text) (blocks : List Text) (l : Layout) :
    Segment → Layout
  | .block index =>
    match blocks[index]? with
    | none => l
    | some output =>
      let stop := l.cursor.advance output indent
      { l with
        cursor := stop
        snippet := l.snippet ++ Marker.escapeDollars output
        parts := l.parts ++ [.block index l.cursor stop output] }
  | .text text =>
    let text := withSelection selected text
    let l := (Marker.pieces text).foldl (addPiece indent) l
    { l with snippet := l.snippet ++ text }

/-- Lays out the output of a generator from a position on, further lines indented by `indent`
characters. -/
def ofOutput (p : Position) (indent : Nat) (selected : Text) (output : GeneratorOutput) : Layout :=
  output.segments.foldl (addSegment indent selected output.blocks) (start p)

/-- The placeholders in the order in which they are visited: by their numbers, and 0 last, which is
visited even if no marker has it. -/
def placeholderIds (l : Layout) : List Nat :=
  (l.ids.filter (0 < ·)).mergeSort (fun a b => decide (a ≤ b)) ++ [0]

end Layout

/-- The text that a snippet text puts into a document: without markers, and with further lines
indented. -/
def renderSnippet (snippet indent : Text) : Text :=
  Text.replaceAll ['\n'] ('\n' :: indent) (Marker.render snippet)

end LiveSnippet
