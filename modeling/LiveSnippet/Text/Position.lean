import LiveSnippet.Text.Basic

/-!
# Positions and spans

A position is a line and a character on it, both counted from zero. A span is a pair of positions;
it is stored as given, so its end may come before its start.

## Main definitions

* `Position`, ordered by line and then by character
* `Extent`, `Text.extent`: what a text adds to a position
* `Position.advance`: the position after a text laid out at a position
* `Span`, `Span.contains`, `Span.covers`
-/

namespace LiveSnippet

/-- A place in a document. -/
structure Position where
  line : Nat
  character : Nat
deriving DecidableEq, Repr, Inhabited

namespace Position

instance : LE Position :=
  ⟨fun p q => p.line < q.line ∨ p.line = q.line ∧ p.character ≤ q.character⟩

instance : LT Position :=
  ⟨fun p q => p.line < q.line ∨ p.line = q.line ∧ p.character < q.character⟩

theorem le_iff {p q : Position} :
    p ≤ q ↔ p.line < q.line ∨ p.line = q.line ∧ p.character ≤ q.character := Iff.rfl

theorem lt_iff {p q : Position} :
    p < q ↔ p.line < q.line ∨ p.line = q.line ∧ p.character < q.character := Iff.rfl

instance (p q : Position) : Decidable (p ≤ q) := decidable_of_iff _ le_iff.symm

instance (p q : Position) : Decidable (p < q) := decidable_of_iff _ lt_iff.symm

instance : Max Position := ⟨fun p q => if p ≤ q then q else p⟩

theorem max_def (p q : Position) : max p q = if p ≤ q then q else p := rfl

theorem le_refl (p : Position) : p ≤ p := Or.inr ⟨rfl, Nat.le_refl _⟩

theorem le_of_not_le {p q : Position} (h : ¬ p ≤ q) : q ≤ p := by
  rw [le_iff] at h ⊢
  omega

theorem le_max_right (p q : Position) : q ≤ max p q := by
  rw [max_def]
  split
  · exact le_refl q
  · exact le_of_not_le (by assumption)

/-- The start of a document. -/
def origin : Position := ⟨0, 0⟩

/-- Line and character, separated by a colon. -/
def render (p : Position) : String := s!"{p.line}:{p.character}"

end Position

/-- How far a text reaches: its line feeds, and the characters after the last of them. -/
structure Extent where
  breaks : Nat
  last : Nat
deriving DecidableEq, Repr

namespace Text

/-- The extent of a text. Only LF counts as a break. -/
def extent (text : Text) : Extent :=
  text.foldl (fun e c => if c = '\n' then ⟨e.breaks + 1, 0⟩ else ⟨e.breaks, e.last + 1⟩) ⟨0, 0⟩

end Text

namespace Position

/-- The position after `text`, laid out from `p` on with every further line indented by `indent`
characters. -/
def advance (p : Position) (text : Text) (indent : Nat) : Position :=
  let e := text.extent
  if e.breaks = 0 then ⟨p.line, p.character + e.last⟩ else ⟨p.line + e.breaks, indent + e.last⟩

end Position

/-- A pair of positions, from `start` up to `stop`. -/
structure Span where
  start : Position
  stop : Position
deriving DecidableEq, Repr, Inhabited

namespace Span

/-- The empty span at a position. -/
def point (p : Position) : Span := ⟨p, p⟩

/-- Whether start and end coincide. -/
def isEmpty (s : Span) : Bool := s.start == s.stop

/-- Whether `p` lies in the span, edges included. -/
def contains (s : Span) (p : Position) : Bool := s.start ≤ p && p ≤ s.stop

/-- Whether `t` lies in the span, edges included. -/
def covers (s t : Span) : Bool := s.start ≤ t.start && t.stop ≤ s.stop

/-- Both positions in brackets. -/
def render (s : Span) : String := s!"({s.start.render})..({s.stop.render})"

end Span

end LiveSnippet
