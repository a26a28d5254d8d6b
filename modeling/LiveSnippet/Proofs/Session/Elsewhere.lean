import LiveSnippet.Proofs.Session.Insertion
import LiveSnippet.Proofs.Text.Cuts

/-!
# Edits elsewhere

A part that an edit neither overlaps nor touches is not meant by it. If the edit ends behind the part,
it passes the part by; if it ends in front of the part, its way ends there at the latest, whatever the
parts in front did about it. So the part either stays or is carried along, and covers the same text as
before, also if its edges stand behind the ends of their lines.

## Main definitions

* `Span.ClearOf`: two spans neither overlap nor touch

## Main results

* `Fate.eq_nil_of_front`, `Fate.eq_fixRight_of_behind`: what a part is to do about an edit elsewhere
* `Expansion.text_update_of_clearOf`: an edit elsewhere leaves the text of a part alone
-/

namespace LiveSnippet

/-- One span ends in front of the other. -/
def Span.ClearOf (s t : Span) : Prop := s.stop < t.start ∨ t.stop < s.start

instance (s t : Span) : Decidable (s.ClearOf t) := inferInstanceAs (Decidable (_ ∨ _))

/-! ### What becomes of a part -/

namespace Fate

variable {a : Option Nat} {e : Edit} {q : Part} {i : Nat} {ms : List (Edit × Growth)}

/-- An edit passes by a part in front of it, because none of the earlier parts can absorb it. -/
theorem eq_nil_of_front (h : Fate a e q i ms) (he : e.span.start ≤ e.span.stop)
    (hfront : q.range.stop < e.span.start)
    (habsorber : a = some i → q.range.covers e.span = true)
    (hearlier : ∀ j < i, a = some j → e.span.stop ≤ q.range.start) : ms = [] := by
  have hcovers : ¬ q.range.covers e.span = true := by
    rw [TrackedSpan.covers_iff]
    rintro ⟨-, hstop⟩
    exact absurd (hfront.trans_le he) (not_lt.mpr hstop)
  cases h with
  | passed => rfl
  | absorbed ha => exact absurd (habsorber ha) hcovers
  | offered hcov => exact absurd hcov hcovers
  | pushed hpush =>
    exfalso
    have hlt : q.range.start < e.span.start := q.range.start_le_stop.trans_lt hfront
    rcases hpush with hbehind | ⟨j, hj, ha⟩
    · exact absurd hbehind (not_lt.mpr hlt.le)
    · exact absurd (hearlier j hj ha) (not_le.mpr (hlt.trans_le he))

/-- A part behind an edit gets the new text in front of it. -/
theorem eq_fixRight_of_behind (h : Fate a e q i ms) (he : e.span.start ≤ e.span.stop)
    (hbehind : e.span.stop < q.range.start)
    (habsorber : a = some i → q.range.covers e.span = true) : ms = [(e, .fixRight)] := by
  have hcovers : ¬ q.range.covers e.span = true := by
    rw [TrackedSpan.covers_iff]
    rintro ⟨hstart, -⟩
    exact absurd (he.trans_lt hbehind) (not_lt.mpr hstart)
  cases h with
  | passed hstop =>
    exact absurd (hstop.trans hbehind) (not_lt.mpr q.range.start_le_stop)
  | absorbed ha => exact absurd (habsorber ha) hcovers
  | offered hcov => exact absurd hcov hcovers
  | pushed => rfl

end Fate

/-! ### What becomes of its text -/

namespace Expansion

variable {x : Expansion} {b : Buffer} {e : Edit} {q : Part} {i : Nat}

/-- An edit in front of which, or behind which, a part stands takes the part along or leaves it. -/
theorem range_update_of_clearOf (d : Document) (he : e.span.start ≤ e.span.stop)
    (hord : x.parts.Pairwise Part.Before) (hi : x.parts[i]? = some q)
    (hclear : q.range.span.ClearOf e.span) :
    ∃ q' : Part, (x.update [e] d).2.parts[i]? = some q' ∧
      q'.range.span = if q.range.stop < e.span.start then q.range.span
        else q.range.span.follow [(e, .fixRight)] := by
  obtain ⟨ms, q', hfate, hq', hrange⟩ := exists_fate_of_update d hord hi
  have habsorber : x.absorber? e = some i → q.range.covers e.span = true := by
    intro ha
    obtain ⟨r, hr, hcov⟩ := absorber?_covers ha
    obtain rfl : q = r := Option.some.inj (hi.symm.trans hr)
    exact hcov
  have hearlier : ∀ j < i, x.absorber? e = some j → e.span.stop ≤ q.range.start := by
    intro j hj ha
    obtain ⟨r, hr, hcov⟩ := absorber?_covers ha
    exact (TrackedSpan.covers_iff.mp hcov).2.trans (before_of_lt hord hj hr hi)
  refine ⟨q', hq', ?_⟩
  rw [hrange]
  by_cases hfront : q.range.stop < e.span.start
  · obtain rfl := hfate.eq_nil_of_front he hfront habsorber hearlier
    rw [if_pos hfront]
    rfl
  · obtain rfl := hfate.eq_fixRight_of_behind he (hclear.resolve_left hfront) habsorber
    rw [if_neg hfront]
    rfl

/-- **Edits elsewhere.** A part in document order that an edit neither overlaps nor touches covers
the same text behind an update as in front of it, whatever is selected, whether corrective edits are
under way, and whatever the edit does to the other parts. The positions of the edited document have
to be ones that can be stored. -/
theorem text_update_of_clearOf (hb : b.text.LfOnly) (he : e.text.LfOnly)
    (hspan : b.HasSpan e.span) (hord : x.parts.Pairwise Part.Before) :
    ∃ b', b.apply [e] = .ok b' ∧ (b'.Addressable → ∀ (i : Nat) (q : Part), x.parts[i]? = some q →
      q.range.span.ClearOf e.span →
        ∃ q' : Part, (x.update [e] b'.document).2.parts[i]? = some q' ∧
          q'.range.start ≤ q'.range.stop ∧
          ∀ text, b.slice q.range.span = .ok text → b'.slice q'.range.span = .ok text) := by
  have hle : e.span.start ≤ e.span.stop := hspan.2.2
  obtain ⟨pre, mid, post, new, rfl, rfl, happly⟩ := hspan.exists_edit hb
  have hlf' : Text.LfOnly (pre ++ new ++ post) := hb.exchange he
  refine ⟨⟨pre ++ new ++ post⟩, happly, fun haddr i q hi hclear => ?_⟩
  obtain ⟨q', hq', hrange⟩ :=
    range_update_of_clearOf (⟨pre ++ new ++ post⟩ : Buffer).document hle hord hi hclear
  refine ⟨q', hq', q'.range.start_le_stop, fun text hslice => ?_⟩
  rw [hrange]
  by_cases hfront : q.range.stop < pre.endPosition
  · rw [if_pos hfront]
    exact Buffer.slice_front hb hlf' q.range.start_le_stop hfront hslice
  · rw [if_neg hfront]
    have hbehind : Text.endPosition (pre ++ mid) < q.range.start := hclear.resolve_left hfront
    exact Buffer.slice_follow_behind hb hlf' haddr q.range.start_le_stop hbehind .fixRight hslice

/-- Three blocks on two lines. -/
def threeBlocks : Expansion :=
  { twoLetters with
    parts := [.block 0 ⟨0, 0⟩ ⟨0, 1⟩ "a".toList, .block 1 ⟨0, 2⟩ ⟨1, 2⟩ "bc\nde".toList,
      .block 2 ⟨1, 3⟩ ⟨1, 5⟩ "fg".toList] }

/-- An edit within the second block joins the lines; the third one is carried along. -/
theorem text_update_threeBlocks :
    let e : Edit := ⟨⟨⟨0, 3⟩, ⟨1, 1⟩⟩, "X".toList⟩
    let b' : Buffer := ⟨"a bXe fg".toList⟩
    ∃ q' : Part, (threeBlocks.update [e] b'.document).2.parts[2]? = some q' ∧
      b'.slice q'.range.span = .ok "fg".toList := by
  intro e b'
  obtain ⟨b'', happly, hparts⟩ := text_update_of_clearOf (x := threeBlocks)
    (b := ⟨"a bc\nde fg".toList⟩) (e := e) (by decide +kernel) (by decide) (by decide +kernel)
    (by decide +kernel)
  have happly' : (⟨"a bc\nde fg".toList⟩ : Buffer).apply [e] = .ok b' := by decide +kernel
  obtain rfl := Except.ok.inj (happly.symm.trans happly')
  obtain ⟨q', hq', -, htext⟩ :=
    hparts (Buffer.addressable_of_length_le (by decide +kernel) (by decide +kernel)) 2
      (.block 2 ⟨1, 3⟩ ⟨1, 5⟩ "fg".toList) rfl (by decide +kernel)
  exact ⟨q', hq', htext _ (by decide +kernel)⟩

end Expansion

end LiveSnippet
