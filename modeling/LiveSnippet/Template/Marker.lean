import LiveSnippet.Pattern.CharSet
import LiveSnippet.Text.Basic

/-!
# Placeholder markers

In literal template text, `$n` and `${n}` mark a placeholder and `\$` stands for a dollar. Counting,
layout and rendering all read the text through `pieces`, so they agree on what is a marker.

A marker may be written with the decimal digits of any script, but it must name a 32-bit number in
ASCII digits; if it does not, it is plain text as a whole.

## Main definitions

* `Marker.lexemes`: the scan of a text, with the source of each step
* `Marker.Piece`, `Marker.pieces`: plain runs, escaped dollars and markers
* `Marker.count`, `Marker.escapeDollars`, `Marker.render`
-/

namespace LiveSnippet.Marker

/-- One step of the scan of literal text. -/
inductive Lexeme
  /-- Characters that stay as they are. -/
  | plain (source : Text)
  /-- An escaped dollar. -/
  | dollar
  /-- A marker and how it is written. -/
  | marker (id : Nat) (source : Text)
deriving DecidableEq, Repr

namespace Lexeme

/-- The characters that the step consumed. -/
def source : Lexeme → Text
  | plain s => s
  | dollar => ['\\', '$']
  | marker _ s => s

end Lexeme

/-- Whether `c` is a decimal digit of any script. -/
def isDecimalDigit (c : Char) : Bool :=
  if c.toNat < 0x80 then c.isDigit else Pattern.CharSet.digit.contains c

/-- The digits a text begins with, and the rest; `none` if there is no digit. -/
def leadingDigits? (text : Text) : Option (Text × Text) :=
  if (text.takeWhile isDecimalDigit).isEmpty then none
  else some (text.takeWhile isDecimalDigit, text.dropWhile isDecimalDigit)

/-- The digits of a marker and what follows the marker, given the text after its dollar. -/
def digits? : Text → Option (Text × Text)
  | '\x7b' :: rest =>
    match leadingDigits? rest with
    | some (digits, '\x7d' :: after) => some (digits, after)
    | _ => none
  | rest => leadingDigits? rest

/-- The number of a marker: ASCII digits, below 2^32. -/
def readId? (digits : Text) : Option Nat :=
  digits.toNat?.filter (· < Nat.pow 2 32)

/-- The step at the character `c` with `rest` behind it, and what the step leaves. -/
def step (c : Char) (rest : Text) : Lexeme × Text :=
  if c = '\\' && rest.head? = some '$' then (.dollar, rest.tail)
  else if c = '$' then
    match digits? rest with
    | some (digits, after) =>
      let source := '$' :: rest.take (rest.length - after.length)
      match readId? digits with
      | some id => (.marker id source, after)
      | none => (.plain source, after)
    | none => (.plain [c], rest)
  else (.plain [c], rest)

theorem length_leadingDigits?_le {text digits after : Text}
    (h : leadingDigits? text = some (digits, after)) : after.length ≤ text.length := by
  unfold leadingDigits? at h
  split at h
  · cases h
  · cases h
    exact (List.dropWhile_suffix _).length_le

theorem length_digits?_le {rest digits after : Text} (h : digits? rest = some (digits, after)) :
    after.length ≤ rest.length := by
  unfold digits? at h
  split at h
  · split at h
    · rename_i hd
      cases h
      have := length_leadingDigits?_le hd
      simp only [List.length_cons] at this ⊢
      omega
    · cases h
  · exact length_leadingDigits?_le h

/-- A step consumes the character it stands at. -/
theorem length_step_le (c : Char) (rest : Text) : (step c rest).2.length ≤ rest.length := by
  unfold step
  split
  · simp
  · split
    · split
      · rename_i h
        split <;> exact length_digits?_le h
      · exact Nat.le_refl _
    · exact Nat.le_refl _

/-- The steps of the scan, behind those in `done`, which stand last first. -/
def lexemesFrom (done : List Lexeme) : Text → List Lexeme
  | [] => done.reverse
  | c :: rest => lexemesFrom ((step c rest).1 :: done) (step c rest).2
termination_by text => text.length
decreasing_by
  have := length_step_le c rest
  simp only [List.length_cons]
  omega

/-- The steps of the scan of a text from left to right. -/
def lexemes (text : Text) : List Lexeme := lexemesFrom [] text

/-- One part of literal text. -/
inductive Piece
  /-- Plain text. -/
  | text (run : Text)
  /-- An escaped dollar, shown as a dollar. -/
  | dollar
  /-- The marker of a placeholder. -/
  | marker (id : Nat)
deriving DecidableEq, Repr

/-- The plain text collected in `run`, last character first, as a piece if there is any. -/
def flush (run : Text) : List Piece := if run.isEmpty then [] else [.text run.reverse]

/-- Joins the plain steps between dollars and markers; `run` is the plain text not yet closed, last
character first. -/
def glue (run : Text) : List Lexeme → List Piece
  | [] => flush run
  | .plain s :: rest => glue (s.reverse ++ run) rest
  | .dollar :: rest => flush run ++ .dollar :: glue [] rest
  | .marker id _ :: rest => flush run ++ .marker id :: glue [] rest

/-- Plain runs, escaped dollars and markers in the order of the text. -/
def pieces (text : Text) : List Piece := glue [] (lexemes text)

namespace Piece

/-- Whether the piece is a marker. -/
def isMarker : Piece → Bool
  | marker _ => true
  | _ => false

/-- The piece as a document shows it. -/
def shown : Piece → Text
  | text run => run
  | dollar => ['$']
  | marker _ => []

/-- The piece as literal text. -/
def written : Piece → Text
  | text run => run
  | dollar => ['\\', '$']
  | marker id => '$' :: '\x7b' :: Text.ofNat id ++ ['\x7d']

end Piece

/-- The number of markers, repeated ones included. -/
def count (text : Text) : Nat := (pieces text).countP Piece.isMarker

/-- Escapes every dollar, so that computed text brings in no markers. -/
def escapeDollars (text : Text) : Text := text.flatMap fun c => if c = '$' then ['\\', '$'] else [c]

/-- The text as a document shows it: without markers, and with escaped dollars as dollars. -/
def render (text : Text) : Text := (pieces text).flatMap Piece.shown

end LiveSnippet.Marker
