import LiveSnippet.Text.Position
import Mathlib.Algebra.Group.Defs
import Mathlib.Order.Defs.LinearOrder

/-!
# Extents

Extents can be laid one behind the other, and a position can be moved on by an extent. The extent of
a text turns this into concatenation: the position behind a text is where the positions behind its
two halves are laid out one after the other. Every place of a document is the position behind the
text in front of it, so questions about positions become questions about lists of characters.

## Main definitions

* `Extent.instAdd`, `Position.instAddExtent`: laying out one behind the other
* `Position.instSub`: from one position to a later one
* `Text.endPosition`: the position behind a text that starts at the origin

## Main results

* `Text.extent_append`: the extent of a concatenation
* `Position.add_sub_cancel_of_le`: every later position is reached by an extent
* `Position.add_sub_le_add_sub`: laying out keeps the order of positions
-/

namespace LiveSnippet

namespace Extent

variable (x y z : Extent)

instance : Zero Extent := ⟨⟨0, 0⟩⟩

/-- One extent behind another. -/
instance instAdd : Add Extent :=
  ⟨fun x y => if y.breaks = 0 then ⟨x.breaks, x.last + y.last⟩ else ⟨x.breaks + y.breaks, y.last⟩⟩

@[simp] theorem zero_breaks : (0 : Extent).breaks = 0 := rfl

@[simp] theorem zero_last : (0 : Extent).last = 0 := rfl

@[simp] theorem add_breaks : (x + y).breaks = x.breaks + y.breaks := by
  change (if y.breaks = 0 then _ else _ : Extent).breaks = _
  split <;> simp [*]

theorem add_last : (x + y).last = if y.breaks = 0 then x.last + y.last else y.last := by
  change (if y.breaks = 0 then _ else _ : Extent).last = _
  split <;> rfl

theorem eq_iff {x y : Extent} : x = y ↔ x.breaks = y.breaks ∧ x.last = y.last := by
  cases x
  cases y
  simp

instance : AddMonoid Extent where
  add_assoc x y z := by
    simp only [eq_iff, add_breaks, add_last]
    split_ifs <;> omega
  zero_add x := by
    simp only [eq_iff, add_breaks, add_last, zero_breaks, zero_last]
    split_ifs <;> omega
  add_zero x := by
    simp [eq_iff, add_last]
  nsmul := nsmulRec

end Extent

namespace Text

@[simp] theorem extent_nil : Text.extent [] = 0 := rfl

/-- The extent of a single character. -/
def charExtent (c : Char) : Extent := if c = '\n' then ⟨1, 0⟩ else ⟨0, 1⟩

theorem foldl_extent (t : Text) (x : Extent) :
    t.foldl (fun e c => if c = '\n' then ⟨e.breaks + 1, 0⟩ else ⟨e.breaks, e.last + 1⟩) x =
      x + t.extent := by
  induction t generalizing x with
  | nil => simp
  | cons c t ih =>
    rw [extent, List.foldl_cons, List.foldl_cons, ih, ih, ← add_assoc]
    congr 1
    by_cases h : c = '\n' <;> simp [h, Extent.eq_iff, Extent.add_last]

theorem extent_cons (c : Char) (t : Text) : Text.extent (c :: t) = charExtent c + t.extent := by
  rw [extent, List.foldl_cons, foldl_extent]
  rfl

theorem extent_append (s t : Text) : Text.extent (s ++ t) = s.extent + t.extent := by
  rw [extent, List.foldl_append, foldl_extent]
  rfl

@[simp] theorem charExtent_lineFeed : charExtent '\n' = ⟨1, 0⟩ := rfl

theorem charExtent_of_ne {c : Char} (h : c ≠ '\n') : charExtent c = ⟨0, 1⟩ := if_neg h

/-- A text without line feeds stays on its line. -/
theorem extent_eq_length {t : Text} (h : '\n' ∉ t) : t.extent = ⟨0, t.length⟩ := by
  induction t with
  | nil => rfl
  | cons c t ih =>
    rw [List.mem_cons, not_or] at h
    obtain ⟨hc, ht⟩ := h
    rw [extent_cons, charExtent_of_ne (Ne.symm hc), ih ht]
    simp [Extent.eq_iff, Extent.add_last, Nat.add_comm]

theorem extent_breaks_eq_zero_iff {t : Text} : t.extent.breaks = 0 ↔ '\n' ∉ t := by
  refine ⟨fun h hmem => ?_, fun h => by rw [extent_eq_length h]⟩
  obtain ⟨s, u, rfl⟩ := List.append_of_mem hmem
  simp [extent_append, extent_cons] at h

/-- No coordinate of an extent is larger than the text is long. -/
theorem extent_breaks_add_last_le (t : Text) : t.extent.breaks + t.extent.last ≤ t.length := by
  induction t with
  | nil => exact Nat.le_refl 0
  | cons c t ih =>
    rw [extent_cons, Extent.add_breaks, Extent.add_last, List.length_cons]
    by_cases hc : c = '\n' <;> simp only [charExtent, hc, if_true, if_false] <;> split_ifs <;> omega

theorem extent_eq_zero_iff {t : Text} : t.extent = 0 ↔ t = [] := by
  refine ⟨fun h => ?_, fun h => h ▸ rfl⟩
  have hbreaks : '\n' ∉ t := extent_breaks_eq_zero_iff.mp (by rw [h]; rfl)
  rw [extent_eq_length hbreaks] at h
  exact List.eq_nil_of_length_eq_zero (congrArg Extent.last h)

end Text

namespace Position

variable {p q r : Position} {x y : Extent}

theorem eq_iff : p = q ↔ p.line = q.line ∧ p.character = q.character := by
  cases p
  cases q
  simp

instance : LinearOrder Position where
  le_refl := le_refl
  le_trans p q r h h' := by
    rw [le_iff] at *
    omega
  le_antisymm p q h h' := by
    rw [le_iff] at *
    rw [eq_iff]
    omega
  lt_iff_le_not_ge p q := by
    rw [lt_iff, le_iff, le_iff]
    omega
  le_total p q := by
    rw [le_iff, le_iff]
    omega
  max := max
  max_def := max_def
  toDecidableLE := inferInstance

theorem line_le_of_le (h : p ≤ q) : p.line ≤ q.line := by
  rcases le_iff.mp h with hlt | ⟨heq, -⟩
  · exact Nat.le_of_lt hlt
  · exact Nat.le_of_eq heq

theorem origin_le (p : Position) : origin ≤ p := by
  simp only [le_iff, origin]
  omega

/-- The position reached when an extent is laid out from a position on. -/
instance instAddExtent : HAdd Position Extent Position :=
  ⟨fun p x =>
    if x.breaks = 0 then ⟨p.line, p.character + x.last⟩ else ⟨p.line + x.breaks, x.last⟩⟩

/-- The extent between a position and a later one. -/
instance instSub : HSub Position Position Extent :=
  ⟨fun p q => if p.line = q.line then ⟨0, p.character - q.character⟩
    else ⟨p.line - q.line, p.character⟩⟩

theorem add_line (p : Position) (x : Extent) : (p + x).line = p.line + x.breaks := by
  change (if x.breaks = 0 then _ else _ : Position).line = _
  split <;> simp [*]

theorem add_character (p : Position) (x : Extent) :
    (p + x).character = if x.breaks = 0 then p.character + x.last else x.last := by
  change (if x.breaks = 0 then _ else _ : Position).character = _
  split <;> rfl

theorem sub_breaks (p q : Position) : (p - q).breaks = p.line - q.line := by
  change (if p.line = q.line then _ else _ : Extent).breaks = _
  split <;> simp [*]

theorem sub_last (p q : Position) :
    (p - q).last = if p.line = q.line then p.character - q.character else p.character := by
  change (if p.line = q.line then _ else _ : Extent).last = _
  split <;> rfl

@[simp] theorem add_zero (p : Position) : p + (0 : Extent) = p := by
  simp [eq_iff, add_line, add_character]

theorem add_assoc (p : Position) (x y : Extent) : p + x + y = p + (x + y) := by
  simp only [eq_iff, add_line, add_character, Extent.add_breaks, Extent.add_last]
  split_ifs <;> omega

theorem le_add (p : Position) (x : Extent) : p ≤ p + x := by
  rw [le_iff, add_line, add_character]
  split_ifs <;> omega

/-- Every later position is reached by an extent. -/
theorem add_sub_cancel_of_le (h : p ≤ q) : p + (q - p) = q := by
  rw [le_iff] at h
  simp only [eq_iff, add_line, add_character, sub_breaks, sub_last]
  split_ifs <;> omega

/-- What is laid out from another place keeps its order. -/
theorem add_sub_le_add_sub (b : Position) (hp : r ≤ p) (hpq : p ≤ q) :
    b + (p - r) ≤ b + (q - r) := by
  rw [le_iff] at *
  simp only [add_line, add_character, sub_breaks, sub_last]
  split_ifs <;> omega

theorem lt_add_iff : p < p + x ↔ x ≠ 0 := by
  rw [lt_iff, add_line, add_character, Ne, Extent.eq_iff]
  simp only [Extent.zero_breaks, Extent.zero_last]
  split_ifs <;> omega

end Position

namespace Text

/-- The position behind a text that starts at the origin. -/
def endPosition (t : Text) : Position := Position.origin + t.extent

theorem endPosition_eq (t : Text) : t.endPosition = ⟨t.extent.breaks, t.extent.last⟩ := by
  rw [endPosition, Position.eq_iff, Position.add_line, Position.add_character]
  split_ifs <;> simp [Position.origin]

@[simp] theorem endPosition_nil : Text.endPosition [] = Position.origin := rfl

theorem endPosition_append (s t : Text) :
    Text.endPosition (s ++ t) = s.endPosition + t.extent := by
  rw [endPosition, extent_append, ← Position.add_assoc]
  rfl

theorem endPosition_le_append (s t : Text) : s.endPosition ≤ Text.endPosition (s ++ t) := by
  rw [endPosition_append]
  exact Position.le_add _ _

theorem endPosition_lt_append_iff {s t : Text} :
    s.endPosition < Text.endPosition (s ++ t) ↔ t ≠ [] := by
  rw [endPosition_append, Position.lt_add_iff, Ne, extent_eq_zero_iff]

theorem endPosition_append_eq_iff {s t : Text} :
    Text.endPosition (s ++ t) = s.endPosition ↔ t = [] := by
  refine ⟨fun h => ?_, fun h => by rw [h, List.append_nil]⟩
  by_contra hne
  exact (ne_of_gt (endPosition_lt_append_iff.mpr hne)) h

/-- Of two beginnings of a text, the one that ends first is a beginning of the other. -/
theorem exists_append_of_endPosition_le {s t s' t' : Text} (h : s ++ t = s' ++ t')
    (hle : s.endPosition ≤ s'.endPosition) : ∃ k, s' = s ++ k := by
  rcases List.append_eq_append_iff.mp h with ⟨k, rfl, -⟩ | ⟨k, rfl, -⟩
  · exact ⟨k, rfl⟩
  · have hk : k = [] := by
      by_contra hne
      exact absurd hle (not_le.mpr (endPosition_lt_append_iff.mpr hne))
    exact ⟨[], by rw [hk, List.append_nil, List.append_nil]⟩

/-- Beginnings of one text end in the order of their lengths. -/
theorem endPosition_le_iff_length_le {s t s' t' : Text} (h : s ++ t = s' ++ t') :
    s.endPosition ≤ s'.endPosition ↔ s.length ≤ s'.length := by
  constructor
  · intro hle
    obtain ⟨k, rfl⟩ := exists_append_of_endPosition_le h hle
    rw [List.length_append]
    omega
  · intro hle
    obtain ⟨k, rfl⟩ : s <+: s' :=
      List.prefix_of_prefix_length_le (List.prefix_append s t) (h ▸ List.prefix_append s' t') hle
    exact endPosition_le_append s k

theorem endPosition_lt_iff_length_lt {s t s' t' : Text} (h : s ++ t = s' ++ t') :
    s.endPosition < s'.endPosition ↔ s.length < s'.length := by
  rw [← not_le, endPosition_le_iff_length_le h.symm, Nat.not_le]

theorem endPosition_eq_iff_length_eq {s t s' t' : Text} (h : s ++ t = s' ++ t') :
    s.endPosition = s'.endPosition ↔ s.length = s'.length := by
  rw [le_antisymm_iff, endPosition_le_iff_length_le h, endPosition_le_iff_length_le h.symm,
    Nat.le_antisymm_iff]

end Text

end LiveSnippet
