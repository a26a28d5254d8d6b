import LiveSnippet.Template.Flags
import LiveSnippet.Text.Document
import LiveSnippet.Unicode.Alphanumeric

/-!
# The text before the cursor

Triggers are compared with the text that ends at the cursor. A literal trigger is compared with the
run of characters that are not white space, or with the word at its end; a pattern sees the line up
to the cursor, or several lines.

## Main definitions

* `Text.trailing`: the longest end of a text whose characters all have a property
* `Context`, `Context.of`
* `Context.literal?`: how much of a literal trigger stands before the cursor
-/

namespace LiveSnippet

namespace Text

/-- The longest end of a text whose characters all have a property. -/
def trailing (p : Char → Bool) (text : Text) : Text := (text.reverse.takeWhile p).reverse

/-- The longest start of `trigger`, of `n` characters at most and of one at least, that `text` ends
with. -/
def longestStart? (trigger text : Text) : Nat → Option Text
  | 0 => none
  | n + 1 =>
    if (trigger.take (n + 1)).isSuffixOf text then some (trigger.take (n + 1))
    else longestStart? trigger text n

end Text

/-- Whether a character belongs to a word: a letter, a number or the underscore. -/
def isTriggerWordChar (c : Char) : Bool := Unicode.isAlphanumeric c || c = '_'

/-- The text before the cursor. -/
structure Context where
  /-- The cursor. -/
  position : Position
  /-- The line up to the cursor. -/
  line : Text
  /-- The line on which the text for multi-line patterns begins. -/
  firstLine : Nat
  /-- The text for multi-line patterns, without carriage returns. -/
  lookback : Text
deriving DecidableEq, Repr

namespace Context

/-- The text before a cursor, with `lookbackLines` lines before its own for multi-line patterns. -/
def of (d : Document) (position : Position) (lookbackLines : Nat) : Context :=
  let before := fun line => (d.text? ⟨⟨line, 0⟩, position⟩).getD []
  let firstLine := position.line - lookbackLines
  ⟨position, before position.line, firstLine, (before firstLine).filter (· ≠ '\r')⟩

/-- The characters up to the cursor that are not white space. -/
def run (c : Context) : Text := c.line.trailing (!Unicode.isWhiteSpace ·)

/-- The word up to the cursor; the whole run if it does not end in a word. -/
def word (c : Context) : Text :=
  let word := c.line.trailing isTriggerWordChar
  if word.isEmpty then c.run else word

/-- Whether only white space precedes the run on its line. -/
def atLineStart (c : Context) : Bool := Text.isBlank (c.line.take (c.line.length - c.run.length))

/-- The span of the `count` characters before the cursor. -/
def spanBefore (c : Context) (count : Nat) : Span :=
  ⟨⟨c.position.line, c.position.character - count⟩, c.position⟩

/-- Whether a literal trigger stands before the cursor as a whole, and the start of it that stands
there in any case. -/
def compare (c : Context) (trigger : Text) : MatchMode → Bool × Option Text
  | .inWord => (trigger.isSuffixOf c.run, trigger.longestStart? c.run trigger.length)
  | .wordBoundary => (c.word == trigger, if c.word.isPrefixOf trigger then some c.word else none)
  | .lineStart =>
    (trigger.isSuffixOf c.run && c.atLineStart,
      if c.run.isPrefixOf trigger && c.atLineStart then some c.run else none)
  | .exact => (c.run == trigger, if c.run.isPrefixOf trigger then some c.run else none)

/-- The number of characters before the cursor that belong to a literal trigger, and whether they
are all of it; `none` if there are none. -/
def literal? (c : Context) (trigger : Text) (mode : MatchMode) : Option (Nat × Bool) :=
  match c.compare trigger mode with
  | (complete, some (a :: rest)) => some ((a :: rest).length, complete)
  | (true, _) => some (trigger.length, true)
  | (false, _) => none

end Context

end LiveSnippet
