import LiveSnippet.Proofs.Session.Routing
import LiveSnippet.Proofs.Text.Following

/-!
# Insertions between parts

A single insertion at a place that is not strictly inside any part may touch several parts: some end
there, some begin there, and empty ones do both. At most one of them absorbs the text. The others
are to cover the same text as before, and they do, with one exception: as long as no part absorbs
the insertion, a part that begins at its place and is not empty takes the text in, because `fixLeft`
holds its start while its end moves on.

## Main definitions

* `Expansion.KeepsTexts`: no part but the absorbing one takes anything of an edit

## Main results

* `Span.follow_insert_behind`, `Span.follow_insert_front`, `Span.follow_insert_start`: the span of a
  part after an insertion
* `Expansion.keepsTexts_insert_iff`: exactly which insertions leave all other parts alone
-/

namespace LiveSnippet

/-! ### One edit and one span -/

section

variable {s u k mid : Text}

/-- An edge behind an insertion moves on, and so does one at its place if it is told to. -/
theorem Edit.takes_insert_behind {moves : Bool} (h : k ≠ [] ∨ moves = true) :
    ((Edit.insert s.endPosition u).shiftEdge (Text.endPosition (s ++ k)) moves).Takes
      (Text.endPosition (s ++ k)) (Text.endPosition (s ++ u ++ k)) := by
  rw [Edit.shiftEdge_behind]
  · simpa [Edit.insert, Span.point] using Edit.takes_carry s [] u k
  · change s.endPosition < _ ∨ _ = s.endPosition ∧ _
    rw [Text.endPosition_lt_append_iff, Text.endPosition_append_eq_iff]
    by_cases hk : k = []
    · exact Or.inr ⟨hk, h.resolve_left (not_not.mpr hk)⟩
    · exact Or.inl hk

/-- An edge in front of an insertion stays, and so does one at its place that is not told
to move. -/
theorem Edit.takes_insert_front (p : Position) (u : Text) {q : Position} (h : q ≤ p) :
    ((Edit.insert p u).shiftEdge q false).Takes q q := by
  rw [Edit.shiftEdge_before (by simp [Edit.insert, Span.point, h])
    (by simp [Edit.insert, Span.point, h])]
  exact Shift.takes_zero q

/-- A span behind an insertion moves on as a whole, if both of its edges follow. -/
theorem Span.follow_insert_behind (haddr : (Text.endPosition (s ++ u ++ k)).Addressable)
    (haddr' : (Text.endPosition (s ++ u ++ k ++ mid)).Addressable) :
    (⟨Text.endPosition (s ++ k), Text.endPosition (s ++ k ++ mid)⟩ : Span).follow
        [(.insert s.endPosition u, .fixRight)] =
      ⟨Text.endPosition (s ++ u ++ k), Text.endPosition (s ++ u ++ k ++ mid)⟩ := by
  refine Span.follow_eq ?_ ?_ (Text.endPosition_le_append _ _) haddr haddr'
  · simpa [Span.batchShift_eq, Edit.edgeShift, Growth.movesStart] using
      Edit.takes_insert_behind (s := s) (u := u) (k := k) (Or.inr rfl)
  · simpa [Span.batchShift_eq, Edit.edgeShift, Growth.movesStop] using
      Edit.takes_insert_behind (s := s) (u := u) (k := k ++ mid) (Or.inr rfl)

/-- A span in front of an insertion stays, also if it ends there and its end does not follow. -/
theorem Span.follow_insert_front {p : Position} {r : Span} (hle : r.start ≤ r.stop)
    (h : r.stop ≤ p) (haddr : r.start.Addressable) (haddr' : r.stop.Addressable) :
    r.follow [(.insert p u, .fixLeft)] = r := by
  refine Span.follow_eq ?_ ?_ hle haddr haddr'
  · simpa [Span.batchShift_eq, Edit.edgeShift, Growth.movesStart] using
      Edit.takes_insert_front p u (hle.trans h)
  · simpa [Span.batchShift_eq, Edit.edgeShift, Growth.movesStop] using
      Edit.takes_insert_front p u h

/-- A span that is not empty takes in what is inserted at its start, if only its end follows. -/
theorem Span.follow_insert_start (hmid : mid ≠ []) (haddr : s.endPosition.Addressable)
    (haddr' : (Text.endPosition (s ++ u ++ mid)).Addressable) :
    (⟨s.endPosition, Text.endPosition (s ++ mid)⟩ : Span).follow
        [(.insert s.endPosition u, .fixLeft)] =
      ⟨s.endPosition, Text.endPosition (s ++ u ++ mid)⟩ := by
  have hle : s.endPosition ≤ Text.endPosition (s ++ u ++ mid) := by
    rw [List.append_assoc]
    exact Text.endPosition_le_append _ _
  refine Span.follow_eq ?_ ?_ hle haddr haddr'
  · simpa [Span.batchShift_eq, Edit.edgeShift, Growth.movesStart] using
      Edit.takes_insert_front s.endPosition u le_rfl
  · simpa [Span.batchShift_eq, Edit.edgeShift, Growth.movesStop] using
      Edit.takes_insert_behind (s := s) (u := u) (Or.inl hmid : mid ≠ [] ∨ false = true)

end

/-! ### One insertion and all parts -/

namespace Buffer

section

variable {s t u pre mid post : Text} (htext : s ++ t = pre ++ mid ++ post)
  (hlf : Text.LfOnly (s ++ u ++ t))

include htext hlf

/-- What ends in front of an insertion covers the same text behind it. -/
theorem slice_insert_front (hle : Text.endPosition (pre ++ mid) ≤ s.endPosition) :
    (⟨s ++ u ++ t⟩ : Buffer).slice ⟨pre.endPosition, Text.endPosition (pre ++ mid)⟩ = .ok mid := by
  obtain ⟨k, rfl⟩ := Text.exists_append_of_endPosition_le htext.symm hle
  rw [show pre ++ mid ++ k ++ u ++ t = pre ++ mid ++ (k ++ u ++ t) by simp] at hlf ⊢
  exact slice_endPosition hlf

/-- What ends at an insertion covers the same text if no edge follows. -/
theorem slice_insert_stop (haddr : (⟨s ++ u ++ t⟩ : Buffer).Addressable)
    (hle : Text.endPosition (pre ++ mid) ≤ s.endPosition) :
    (⟨s ++ u ++ t⟩ : Buffer).slice
      (Span.follow ⟨pre.endPosition, Text.endPosition (pre ++ mid)⟩
        [(.insert s.endPosition u, .fixLeft)]) = .ok mid := by
  have hsame := slice_insert_front htext hlf hle
  obtain ⟨k, rfl⟩ := Text.exists_append_of_endPosition_le htext.symm hle
  rw [Span.follow_insert_front (Text.endPosition_le_append _ _) hle]
  · exact hsame
  · rw [show pre ++ mid ++ k ++ u ++ t = pre ++ (mid ++ k ++ u ++ t) by simp] at haddr hlf
    exact haddr.endPosition hlf
  · rw [show pre ++ mid ++ k ++ u ++ t = pre ++ mid ++ (k ++ u ++ t) by simp] at haddr hlf
    exact haddr.endPosition hlf

/-- What begins behind an insertion, or at its place, covers the same text if both edges follow. -/
theorem slice_insert_behind (haddr : (⟨s ++ u ++ t⟩ : Buffer).Addressable)
    (hle : s.endPosition ≤ pre.endPosition) :
    (⟨s ++ u ++ t⟩ : Buffer).slice
      (Span.follow ⟨pre.endPosition, Text.endPosition (pre ++ mid)⟩
        [(.insert s.endPosition u, .fixRight)]) = .ok mid := by
  rw [List.append_assoc] at htext
  obtain ⟨k, rfl⟩ := Text.exists_append_of_endPosition_le htext hle
  obtain rfl : t = k ++ (mid ++ post) := by simpa using htext
  rw [show s ++ u ++ (k ++ (mid ++ post)) = s ++ u ++ k ++ mid ++ post by simp] at *
  rw [Span.follow_insert_behind _ (haddr.endPosition hlf)]
  · exact slice_endPosition hlf
  · rw [List.append_assoc (s ++ u ++ k)] at haddr hlf
    exact haddr.endPosition hlf

/-- What begins at an insertion and reaches beyond it takes the text in if only its end follows. -/
theorem slice_insert_start (haddr : (⟨s ++ u ++ t⟩ : Buffer).Addressable) (hmid : mid ≠ [])
    (heq : pre.endPosition = s.endPosition) :
    (⟨s ++ u ++ t⟩ : Buffer).slice
      (Span.follow ⟨pre.endPosition, Text.endPosition (pre ++ mid)⟩
        [(.insert s.endPosition u, .fixLeft)]) = .ok (u ++ mid) := by
  rw [List.append_assoc] at htext
  obtain ⟨k, rfl⟩ := Text.exists_append_of_endPosition_le htext heq.ge
  obtain rfl := Text.endPosition_append_eq_iff.mp heq
  obtain rfl : t = mid ++ post := by simpa using htext
  rw [List.append_nil]
  rw [show s ++ u ++ (mid ++ post) = s ++ u ++ mid ++ post by simp] at *
  have haddr' := haddr.endPosition hlf
  rw [List.append_assoc s u mid, List.append_assoc s] at haddr hlf
  rw [Span.follow_insert_start hmid (haddr.endPosition hlf) haddr', List.append_assoc s u mid]
  rw [← List.append_assoc] at hlf
  exact slice_endPosition hlf

end

end Buffer

namespace Expansion

variable {x : Expansion} {b b' : Buffer} {p : Position} {u : Text} {q : Part} {i : Nat}

/-- The index of the part that absorbs an edit, if one does. -/
def absorber? (x : Expansion) (e : Edit) : Option Nat :=
  LiveSnippet.absorber? (x.absorbs e) e x.parts

/-- Every part that does not absorb the edit covers the same text behind an update as in front of
it. -/
def KeepsTexts (x : Expansion) (e : Edit) (b b' : Buffer) : Prop :=
  ∀ i q, x.parts[i]? = some q → x.absorber? e ≠ some i →
    ∃ q', (x.update [e] b'.document).2.parts[i]? = some q' ∧
      b'.slice q'.range.span = b.slice q.range.span

theorem absorber?_covers {e : Edit} (h : x.absorber? e = some i) :
    ∃ q, x.parts[i]? = some q ∧ q.range.covers e.span = true := by
  obtain ⟨hi, hq, -⟩ := List.findIdx?_eq_some_iff_getElem.mp h
  exact ⟨x.parts[i], List.getElem?_eq_getElem hi, (Bool.and_eq_true_iff.mp hq).1⟩

/-- In parts in document order, the first of two indices has the part in front. -/
theorem before_of_lt {ps : List Part} (hord : ps.Pairwise Part.Before) {j : Nat} {r : Part}
    (hlt : i < j) (hi : ps[i]? = some q) (hj : ps[j]? = some r) : q.Before r := by
  obtain ⟨hi', rfl⟩ := List.getElem?_eq_some_iff.mp hi
  obtain ⟨hj', rfl⟩ := List.getElem?_eq_some_iff.mp hj
  exact List.pairwise_iff_getElem.mp hord i j hi' hj' hlt

/-- The part behind an update by one edit follows the moves of its fate. -/
theorem exists_fate_of_update {e : Edit} (d : Document) (hord : x.parts.Pairwise Part.Before)
    (hi : x.parts[i]? = some q) :
    ∃ ms q', Fate (x.absorber? e) e q i ms ∧ (x.update [e] d).2.parts[i]? = some q' ∧
      q'.range = (q.follow ms).range := by
  obtain ⟨r, hr, rfl, hfate⟩ := fate_of_route_singleton x.absorbs e hord hi
  have hrange := congrArg (·[i]?) (x.update_ranges [e] d)
  simp only [List.getElem?_map, routed, Edit.sortByStop, List.mergeSort_singleton, hr,
    Option.map_some] at hrange
  obtain ⟨q', hq', hrange⟩ := Option.map_eq_some_iff.mp hrange
  exact ⟨r.moves, q', hfate, hq', hrange⟩

section

variable {s t : Text} {a : Option Nat} {ms : List (Edit × Growth)}
  (hfate : Fate a (.insert s.endPosition u) q i ms) (hlf : Text.LfOnly (s ++ t))
  (hlf' : Text.LfOnly (s ++ u ++ t)) (haddr : (⟨s ++ u ++ t⟩ : Buffer).Addressable)
  (hq : (⟨s ++ t⟩ : Buffer).HasSpan q.range.span)

include hfate hlf hlf' haddr hq

/-- A part that does not absorb the insertion keeps its text, unless it is offered the insertion at
its start. -/
theorem slice_follow_of_fate
    (hout : ¬(q.range.start < s.endPosition ∧ s.endPosition < q.range.stop)) (ha : a ≠ some i)
    (hpushed : ∀ j < i, a = some j → s.endPosition ≤ q.range.start)
    (hoffered : (∀ j, a = some j → i < j) → q.range.start = s.endPosition →
      s.endPosition < q.range.stop → u = []) :
    (⟨s ++ u ++ t⟩ : Buffer).slice (q.follow ms).range.span =
      (⟨s ++ t⟩ : Buffer).slice q.range.span := by
  obtain ⟨pre, mid, post, htext, hspan, hold⟩ := hq.exists_slice hlf
  have hstart : q.range.start = pre.endPosition := congrArg Span.start hspan
  have hstop : q.range.stop = Text.endPosition (pre ++ mid) := congrArg Span.stop hspan
  rw [hold]
  cases hfate with
  | passed h =>
    rw [hstop] at h
    change (⟨s ++ u ++ t⟩ : Buffer).slice q.range.span = .ok mid
    rw [hspan]
    exact Buffer.slice_insert_front htext hlf' h.le
  | absorbed h => exact absurd h ha
  | pushed h =>
    have hle : s.endPosition ≤ q.range.start := by
      rcases h with hlt | ⟨j, hj, haj⟩
      · exact le_of_lt hlt
      · exact hpushed j hj haj
    change (⟨s ++ u ++ t⟩ : Buffer).slice (q.range.span.follow _) = .ok mid
    rw [hspan]
    exact Buffer.slice_insert_behind htext hlf' haddr (hstart ▸ hle)
  | offered hcov h =>
    change (⟨s ++ u ++ t⟩ : Buffer).slice (q.range.span.follow _) = .ok mid
    obtain ⟨hle, hge⟩ := TrackedSpan.covers_iff.mp hcov
    change q.range.start ≤ s.endPosition at hle
    change s.endPosition ≤ q.range.stop at hge
    rcases hge.lt_or_eq with hlt | heq
    · have hat : q.range.start = s.endPosition :=
        hle.eq_of_not_lt fun h => hout ⟨h, hlt⟩
      have hu := hoffered h hat hlt
      have hmid : mid ≠ [] := by
        rw [← hat, hstart, hstop] at hlt
        exact Text.endPosition_lt_append_iff.mp hlt
      rw [hspan, Buffer.slice_insert_start htext hlf' haddr hmid (hstart ▸ hat), hu,
        List.nil_append]
    · have hend : Text.endPosition (pre ++ mid) = s.endPosition := hstop ▸ heq.symm
      rw [hspan]
      exact Buffer.slice_insert_stop htext hlf' haddr hend.le

/-- A part that is offered an insertion at its start takes it in if it reaches beyond it. -/
theorem slice_follow_of_start (hat : q.range.start = s.endPosition)
    (hlt : s.endPosition < q.range.stop) (ha : a = none) :
    ∃ mid, (⟨s ++ t⟩ : Buffer).slice q.range.span = .ok mid ∧
      (⟨s ++ u ++ t⟩ : Buffer).slice (q.follow ms).range.span = .ok (u ++ mid) := by
  obtain ⟨pre, mid, post, htext, hspan, hold⟩ := hq.exists_slice hlf
  have hstart : q.range.start = pre.endPosition := congrArg Span.start hspan
  have hstop : q.range.stop = Text.endPosition (pre ++ mid) := congrArg Span.stop hspan
  refine ⟨mid, hold, ?_⟩
  have hmid : mid ≠ [] := by
    rw [← hat, hstart, hstop] at hlt
    exact Text.endPosition_lt_append_iff.mp hlt
  cases hfate with
  | passed h => exact absurd h (not_lt.mpr hlt.le)
  | absorbed h => exact absurd (h.symm.trans ha) (Option.some_ne_none i)
  | pushed h =>
    rcases h with h | ⟨j, -, h⟩
    · exact absurd hat h.ne'
    · exact absurd (h.symm.trans ha) (Option.some_ne_none j)
  | offered =>
    change (⟨s ++ u ++ t⟩ : Buffer).slice (q.range.span.follow _) = _
    rw [hspan]
    exact Buffer.slice_insert_start htext hlf' haddr hmid (hstart ▸ hat)

end

/-- **Insertions between parts.** An insertion that is not strictly inside any part leaves every
part but the absorbing one alone, if and only if it is empty, or some part absorbs it, or all parts
that begin at its place are empty. -/
theorem keepsTexts_insert_iff (hb : b.text.LfOnly) (hu : u.LfOnly)
    (hord : x.parts.Pairwise Part.Before) (hparts : ∀ q ∈ x.parts, b.HasSpan q.range.span)
    (hp : b.HasPosition p) (hout : ∀ q ∈ x.parts, ¬(q.range.start < p ∧ p < q.range.stop))
    (happly : b.apply [.insert p u] = .ok b') (haddr : b'.Addressable) :
    x.KeepsTexts (.insert p u) b b' ↔
      u = [] ∨ (x.absorber? (.insert p u)).isSome ∨
        ∀ q ∈ x.parts, q.range.start = p → q.range.stop = p := by
  obtain ⟨s, t, htext, rfl⟩ := hp.exists_append hb
  obtain rfl : b = ⟨s ++ t⟩ := congrArg Buffer.mk htext
  have hlf' : Text.LfOnly (s ++ u ++ t) := by
    rw [Text.lfOnly_append] at hb
    rw [Text.lfOnly_append, Text.lfOnly_append]
    exact ⟨⟨hb.1, hu⟩, hb.2⟩
  obtain rfl : b' = ⟨s ++ u ++ t⟩ :=
    Except.ok.inj (happly.symm.trans (Buffer.apply_insert hb))
  constructor
  · -- A part that begins at the place of the insertion and is not empty shows that the rest is
    -- needed.
    intro hkeeps
    by_contra hnot
    push Not at hnot
    obtain ⟨hne, hnone, q, hmem, hat, hbeyond⟩ := hnot
    have hnone : x.absorber? (.insert s.endPosition u) = none := by simpa using hnone
    have hlt : s.endPosition < q.range.stop :=
      lt_of_le_of_ne (hat ▸ q.range.start_le_stop) (Ne.symm hbeyond)
    obtain ⟨i, hi⟩ := List.getElem?_of_mem hmem
    obtain ⟨q', hq', hsame⟩ := hkeeps i q hi (by simp [hnone])
    obtain ⟨ms, q'', hfate, hq'', hrange⟩ := exists_fate_of_update
      (⟨s ++ u ++ t⟩ : Buffer).document hord hi
    obtain rfl : q' = q'' := Option.some.inj (hq'.symm.trans hq'')
    obtain ⟨mid, hold, hnew⟩ := slice_follow_of_start hfate hb hlf' haddr (hparts q hmem) hat hlt
      hnone
    rw [hrange, hnew, hold] at hsame
    exact hne (List.append_left_eq_self.mp (Except.ok.inj hsame))
  · intro hcases i q hi hne
    have hmem := List.mem_of_getElem? hi
    obtain ⟨ms, q', hfate, hq', hrange⟩ := exists_fate_of_update
      (⟨s ++ u ++ t⟩ : Buffer).document hord hi
    refine ⟨q', hq', ?_⟩
    rw [hrange]
    refine slice_follow_of_fate hfate hb hlf' haddr (hparts q hmem) (hout q hmem) hne ?_ ?_
    · intro j hj ha
      obtain ⟨r, hr, hcov⟩ := absorber?_covers ha
      exact (TrackedSpan.covers_iff.mp hcov).2.trans (before_of_lt hord hj hr hi)
    · intro hlast hat hlt
      rcases hcases with hu | hsome | hempty
      · exact hu
      · -- The absorbing part stands behind this one, so it cannot cover the insertion.
        obtain ⟨j, hj⟩ := Option.isSome_iff_exists.mp hsome
        obtain ⟨r, hr, hcov⟩ := absorber?_covers hj
        have hle := (before_of_lt hord (hlast j hj) hi hr).trans (TrackedSpan.covers_iff.mp hcov).1
        exact absurd hle (not_le.mpr hlt)
      · exact absurd (hempty q hmem hat) hlt.ne'

/-- A template that is one block with a fixed output. -/
def blockTemplate (output : Text) : Template where
  trigger := .literal "block".toList
  description := []
  flags := .empty
  priority := 0
  placeholderCount := 0
  contextFilter := none
  generator := ⟨[.block 0], 1, fun _ => .ok [output]⟩
  line := 1

/-- A block of two letters in an empty document. -/
def twoLetters : Expansion :=
  (Expansion.new (blockTemplate "ab".toList) ⟨.origin, [], [], [], []⟩ (Buffer.document ⟨[]⟩)).1

/-- A letter behind the block is not taken in. -/
theorem keepsTexts_behind_twoLetters :
    twoLetters.KeepsTexts (.insert ⟨0, 2⟩ ['Z']) ⟨"ab".toList⟩ ⟨"abZ".toList⟩ :=
  (keepsTexts_insert_iff (by decide +kernel) (by decide +kernel) (by decide +kernel)
    (by decide +kernel) (by decide +kernel) (by decide +kernel) (by decide +kernel)
    (Buffer.addressable_of_length_le (by decide +kernel) (by decide +kernel))).mpr
    (Or.inr (Or.inr (by decide +kernel)))

/-- A letter in front of the block is taken in, though no part absorbs it. -/
theorem not_keepsTexts_front_twoLetters :
    twoLetters.parts.Pairwise Part.Before ∧ twoLetters.absorber? (.insert .origin ['Z']) = none ∧
      (∀ q ∈ twoLetters.parts, (⟨"ab".toList⟩ : Buffer).HasSpan q.range.span ∧
        ¬(q.range.start < .origin ∧ .origin < q.range.stop)) ∧
      (⟨"ab".toList⟩ : Buffer).apply [.insert .origin ['Z']] = .ok ⟨"Zab".toList⟩ ∧
      ¬twoLetters.KeepsTexts (.insert .origin ['Z']) ⟨"ab".toList⟩ ⟨"Zab".toList⟩ := by
  refine ⟨by decide +kernel, by decide +kernel, by decide +kernel, by decide +kernel, ?_⟩
  intro hkeeps
  obtain ⟨q', hq', hsame⟩ := hkeeps 0 (.block 0 .origin ⟨0, 2⟩ "ab".toList) rfl (by decide +kernel)
  have hspan : q'.range.span = ⟨.origin, ⟨0, 3⟩⟩ := by
    have hrange : ((twoLetters.update [.insert .origin ['Z']]
        (Buffer.document ⟨"Zab".toList⟩)).2.parts[0]?).map (·.range.span) =
          some ⟨.origin, ⟨0, 3⟩⟩ := by decide +kernel
    rw [hq'] at hrange
    exact Option.some.inj hrange
  rw [hspan] at hsame
  exact absurd hsame (by decide +kernel)

end Expansion

end LiveSnippet
