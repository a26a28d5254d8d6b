import LiveSnippet.Text.Tracked

/-!
# Parts of an expansion

An expansion keeps track of every placeholder and every code block that it put into the document.

## Main definitions

* `PartKind`, `Part`
* `Part.follow`: a part after a batch of edits
-/

namespace LiveSnippet

/-- What a part of an expansion is. -/
inductive PartKind
  /-- The first marker with this number. -/
  | placeholder (id : Nat)
  /-- The output of the code span with this index. -/
  | block (index : Nat)
deriving DecidableEq, Repr

namespace PartKind

/-- Whether the part is a placeholder. -/
def isPlaceholder : PartKind → Bool
  | placeholder _ => true
  | block _ => false

end PartKind

/-- A part of an expansion. -/
structure Part where
  kind : PartKind
  range : TrackedSpan
  /-- The text of a placeholder when it was last read, or the last output of a block. -/
  content : Text

namespace Part

/-- The part of a placeholder, which is empty at first. -/
def placeholder (id : Nat) (p : Position) : Part := ⟨.placeholder id, .point p, []⟩

/-- The part of a block's output. -/
def block (index : Nat) (start stop : Position) (output : Text) : Part :=
  ⟨.block index, .of start stop, output⟩

/-- The part after edits, each with its growth policy. -/
def follow (p : Part) (moves : List (Edit × Growth)) : Part :=
  if moves.isEmpty then p else { p with range := p.range.update moves }

end Part

end LiveSnippet
