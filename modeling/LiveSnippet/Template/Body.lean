import LiveSnippet.Template.Generator
import LiveSnippet.Template.Marker
import LiveSnippet.Text.Search

/-!
# Template bodies

The lines below a header, up to a line `endsnippet`, are literal text interleaved with code spans. A
span begins and ends at two backticks in a row, no more and no less; its lines are trimmed. The last
line break of the body does not belong to it.

## Main definitions

* `Body`, `BodyError`
* `Body.cut`: a line cut at its delimiters
* `Body.parse`: the body at the front of some lines, and the lines behind it
-/

namespace LiveSnippet

/-- A template body. -/
structure Body where
  segments : List Segment
  /-- The source of each code span. -/
  spans : List Text
  /-- The number of markers in the literal text. -/
  placeholderCount : Nat
deriving DecidableEq, Repr

/-- Why a body is not complete. -/
inductive BodyError
  /-- The file ends before the body. -/
  | unterminatedBody
  /-- The file or the body ends inside a code span. -/
  | unterminatedCode
deriving DecidableEq, Repr

namespace Body

/-- Whether a line ends a body. -/
def isTerminator (line : Text) : Bool := line.trimEnd == "endsnippet".toList

/-- The pieces of a line between delimiters. `piece` holds the characters of the piece begun, last
first, without the `ticks` backticks in front of the rest. -/
def cutFrom (piece : Text) (ticks : Nat) : Text → List Text
  | [] =>
    if ticks = 2 then [piece.reverse, []]
    else [(List.replicate ticks '\x60' ++ piece).reverse]
  | c :: rest =>
    if c = '\x60' then cutFrom piece (ticks + 1) rest
    else if ticks = 2 then piece.reverse :: cutFrom [c] 0 rest
    else cutFrom (c :: (List.replicate ticks '\x60' ++ piece)) 0 rest

/-- The pieces of a line between its runs of exactly two backticks. -/
def cut (line : Text) : List Text := cutFrom [] 0 line

/-- A body under construction. All lists stand last first. -/
structure Draft where
  segments : List Segment
  spans : List Text
  placeholderCount : Nat
  /-- The lines of the code span that is open, if one is. -/
  code : Option (List Text)
deriving DecidableEq, Repr

namespace Draft

/-- The draft of a body without lines. -/
def empty : Draft := ⟨[], [], 0, none⟩

/-- Adds literal text, to the last segment if that is literal, too. -/
def pushText (segments : List Segment) (text : Text) : List Segment :=
  if text.isEmpty then segments
  else match segments with
    | .text last :: rest => .text (last ++ text) :: rest
    | _ => .text text :: segments

/-- Adds a piece of a line. A piece in front of a delimiter (`closes`) opens or closes a code span;
the last piece of a line of literal text ends in a line break. -/
def addPiece (d : Draft) (closes : Bool) (piece : Text) : Draft :=
  match d.code with
  | some lines =>
    let lines := piece.trim :: lines
    if closes then
      { d with
        segments := .block d.spans.length :: d.segments
        spans := Text.join ['\n'] lines.reverse :: d.spans
        code := none }
    else { d with code := some lines }
  | none =>
    let segments := pushText d.segments piece
    let placeholderCount := d.placeholderCount + Marker.count piece
    if closes then { d with segments, placeholderCount, code := some [] }
    else { d with segments := pushText segments ['\n'], placeholderCount }

/-- Adds the pieces of a line. -/
def addPieces (d : Draft) : List Text → Draft
  | [] => d
  | [piece] => d.addPiece false piece
  | piece :: rest => (d.addPiece true piece).addPieces rest

/-- Adds a line. -/
def addLine (d : Draft) (line : Text) : Draft := d.addPieces (cut line)

/-- Drops the last line break. -/
def dropLastBreak : List Segment → List Segment
  | .text last :: rest =>
    match last.reverse with
    | '\n' :: text => if text.isEmpty then rest else .text text.reverse :: rest
    | _ => .text last :: rest
  | segments => segments

/-- The finished body. -/
def finish (d : Draft) : Body :=
  ⟨(dropLastBreak d.segments).reverse, d.spans.reverse, d.placeholderCount⟩

end Draft

/-- Adds lines to a draft up to the end of the body; the lines behind it are left. -/
def parseFrom (d : Draft) : List Text → Except BodyError Body × List Text
  | [] => (.error (if d.code.isSome then .unterminatedCode else .unterminatedBody), [])
  | line :: rest =>
    if isTerminator line then
      (if d.code.isSome then .error .unterminatedCode else .ok d.finish, rest)
    else parseFrom (d.addLine line) rest

/-- The body at the front of some lines, and the lines behind it. -/
def parse (lines : List Text) : Except BodyError Body × List Text := parseFrom .empty lines

theorem length_parseFrom_le (d : Draft) (lines : List Text) :
    (parseFrom d lines).2.length ≤ lines.length := by
  induction lines generalizing d with
  | nil => exact Nat.le_refl _
  | cons line rest ih =>
    unfold parseFrom
    split
    · exact Nat.le_succ _
    · exact Nat.le_succ_of_le (ih _)

theorem length_parse_le (lines : List Text) : (parse lines).2.length ≤ lines.length :=
  length_parseFrom_le _ _

end Body

end LiveSnippet
