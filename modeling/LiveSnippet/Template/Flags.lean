import LiveSnippet.Text.Basic

/-!
# Template flags

The letters at the end of a snippet header.

## Main definitions

* `Flags`, `Flags.ofLetters`, `Flags.letters`
* `MatchMode`, `Flags.matchMode`: how a literal trigger is compared with the text before the cursor
-/

namespace LiveSnippet

/-- The options of a template. -/
structure Flags where
  /-- `A`: expands as soon as the trigger matches. -/
  automatic : Bool
  /-- `M`: a pattern trigger sees several lines. -/
  multiline : Bool
  /-- `i`: the trigger may end in the middle of a word. -/
  inWord : Bool
  /-- `w`: the trigger is a whole word. -/
  wordBoundary : Bool
  /-- `b`: the trigger is the first thing on its line. -/
  lineStart : Bool
  /-- `m`: the template is meant for mathematics. -/
  math : Bool
deriving DecidableEq, Repr, Inhabited

/-- How a literal trigger is compared with the text before the cursor. -/
inductive MatchMode
  | exact
  | inWord
  | wordBoundary
  | lineStart
deriving DecidableEq, Repr

namespace Flags

/-- No option. -/
def empty : Flags := ⟨false, false, false, false, false, false⟩

/-- The flags with the given letters. Other characters mean nothing. -/
def ofLetters (letters : Text) : Flags :=
  ⟨letters.contains 'A', letters.contains 'M', letters.contains 'i', letters.contains 'w',
    letters.contains 'b', letters.contains 'm'⟩

/-- Whether a character is the letter of a flag. -/
def isLetter (c : Char) : Bool := ['A', 'M', 'i', 'w', 'b', 'm'].contains c

/-- The letters of the flags that are set, in their canonical order. -/
def letters (f : Flags) : Text :=
  (if f.automatic then ['A'] else []) ++ (if f.multiline then ['M'] else []) ++
    (if f.inWord then ['i'] else []) ++ (if f.wordBoundary then ['w'] else []) ++
    (if f.lineStart then ['b'] else []) ++ (if f.math then ['m'] else [])

/-- The mode that holds: in-word before word boundary before line start. -/
def matchMode (f : Flags) : MatchMode :=
  if f.inWord then .inWord
  else if f.wordBoundary then .wordBoundary
  else if f.lineStart then .lineStart
  else .exact

end Flags

end LiveSnippet
