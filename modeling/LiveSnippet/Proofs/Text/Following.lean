import LiveSnippet.Proofs.Text.Addressing

/-!
# Following one edit

The place of an edge of a span is counted by lines and columns, but what becomes of it is easier to
say by character indices. Behind the replaced span an index changes by as much as the text gets
longer or shorter; inside, the edge falls back to where the span starts; everywhere else it stays.
Whether an edge just at the end of the replaced span counts as behind it is for the growth policy to
say. In a text whose only line break is LF, the arithmetic on lines and columns does the same,
whatever lines the edit joins or splits.

## Main definitions

* `Buffer.Splice.moveIndex`: where one edit takes a character index

## Main results

* `Edit.takes_carry`: an edit carries everything behind it along
* `Edit.exists_takes_moveIndex`: one edge of a span
* `Span.toIndex_follow`: both edges, for every growth policy
-/

namespace LiveSnippet

namespace Buffer.Splice

/-- Where the splice takes a character index; an index at its end moves on if `moves` says so. -/
def moveIndex (s : Splice) (moves : Bool) (k : Nat) : Nat :=
  if s.stop < k ∨ k = s.stop ∧ moves = true then k + s.edit.text.length - (s.stop - s.start)
  else if s.start < k then s.start
  else k

/-- An index behind a splice moves on, also one at its end that is told to. -/
theorem moveIndex_of_stop_le {s : Splice} {k : Nat} (h : s.stop ≤ k) :
    s.moveIndex true k = k + s.edit.text.length - (s.stop - s.start) := by
  rw [moveIndex, if_pos]
  exact (Nat.lt_or_eq_of_le h).imp_right fun heq => ⟨heq.symm, rfl⟩

/-- An index in front of a splice stays, also one at its start that is not told to move. -/
theorem moveIndex_of_le_start {s : Splice} {k : Nat} (h : k ≤ s.start) (hs : s.start ≤ s.stop) :
    s.moveIndex false k = k := by
  rw [moveIndex, if_neg (by simp; omega), if_neg (Nat.not_lt.mpr h)]

/-- Two edges keep their order, if the right one moves on wherever the left one does. -/
theorem moveIndex_le_moveIndex {s : Splice} {moves moves' : Bool} {k l : Nat} (hkl : k ≤ l)
    (hs : s.start ≤ s.stop) (hmoves : moves = true → moves' = true) :
    s.moveIndex moves k ≤ s.moveIndex moves' l := by
  unfold moveIndex
  by_cases hk : s.stop < k ∨ k = s.stop ∧ moves = true
  · -- If the left edge is behind the splice, so is the right one.
    have hl : s.stop < l ∨ l = s.stop ∧ moves' = true := by
      rcases hk with hlt | ⟨heq, hm⟩
      · exact Or.inl (by omega)
      · rcases Nat.lt_or_ge s.stop l with hlt | hge
        · exact Or.inl hlt
        · exact Or.inr ⟨by omega, hmoves hm⟩
    rw [if_pos hk, if_pos hl]
    omega
  · rw [if_neg hk]
    have hstop : k ≤ s.stop := by
      by_contra hlt
      exact hk (Or.inl (by omega))
    split_ifs <;> omega

end Buffer.Splice

namespace Edit

variable {pre mid post new u v k : Text}

/-- One edit carries every place behind it to the place behind the same text. -/
theorem takes_carry (s o u k : Text) :
    (Edit.carry ⟨⟨s.endPosition, Text.endPosition (s ++ o)⟩, u⟩
      (Text.endPosition (s ++ o ++ k))).Takes
      (Text.endPosition (s ++ o ++ k)) (Text.endPosition (s ++ u ++ k)) := by
  have h := (Edit.carries_nil Position.origin).snoc
    (e := ⟨⟨s.endPosition, Text.endPosition (s ++ o)⟩, u⟩) (k := s.extent) (o := o.extent) rfl
    (Text.endPosition_append s o) (Or.inr rfl) k.extent
  rw [List.nil_append, Edit.carrySum_cons, Edit.carrySum_nil, add_zero] at h
  simp only [Text.endPosition_append] at h ⊢
  exact h

/-- The shift of an edge inside the replaced span takes it to the start of the span. -/
theorem takes_start {e : Edit} {p : Position} {moves : Bool}
    (h : ¬(e.span.stop < p ∨ p = e.span.stop ∧ moves = true)) (hs : e.span.start < p) :
    (e.shiftEdge p moves).Takes p e.span.start := by
  rw [shiftEdge_inside h hs]
  constructor <;> dsimp only <;> omega

/-- **One edge.** The shift of an edge takes it to the place that has the moved index. -/
theorem exists_takes_moveIndex (h : pre ++ mid ++ post = u ++ v) (new : Text) (moves : Bool) :
    let e : Edit := ⟨⟨pre.endPosition, Text.endPosition (pre ++ mid)⟩, new⟩
    ∃ u' v', pre ++ new ++ post = u' ++ v' ∧
      (e.shiftEdge u.endPosition moves).Takes u.endPosition u'.endPosition ∧
      u'.length =
        Buffer.Splice.moveIndex ⟨pre.length, (pre ++ mid).length, e⟩ moves u.length := by
  intro e
  -- The two tests on positions are tests on lengths, because both are beginnings of one text.
  have hstart : e.span.start < u.endPosition ↔ pre.length < u.length :=
    Text.endPosition_lt_iff_length_lt ((List.append_assoc pre mid post).symm.trans h)
  have hstop : (e.span.stop < u.endPosition ∨ u.endPosition = e.span.stop ∧ moves = true) ↔
      ((pre ++ mid).length < u.length ∨ u.length = (pre ++ mid).length ∧ moves = true) := by
    rw [Text.endPosition_lt_iff_length_lt h, Text.endPosition_eq_iff_length_eq h.symm]
  have hbehind_le : e.span.stop < u.endPosition ∨ u.endPosition = e.span.stop ∧ moves = true →
      Text.endPosition (pre ++ mid) ≤ u.endPosition :=
    fun hb => hb.elim le_of_lt fun heq => heq.1.ge
  by_cases hbehind : e.span.stop < u.endPosition ∨ u.endPosition = e.span.stop ∧ moves = true
  · obtain ⟨k, rfl⟩ := Text.exists_append_of_endPosition_le h (hbehind_le hbehind)
    obtain rfl : post = k ++ v := by simpa using h
    refine ⟨pre ++ new ++ k, v, by simp, ?_, ?_⟩
    · rw [shiftEdge_behind hbehind]
      exact takes_carry pre mid new k
    · rw [Buffer.Splice.moveIndex, if_pos (hstop.mp hbehind)]
      simp only [List.length_append, e]
      omega
  by_cases hinside : e.span.start < u.endPosition
  · refine ⟨pre, new ++ post, by simp, takes_start hbehind hinside, ?_⟩
    rw [Buffer.Splice.moveIndex, if_neg (mt hstop.mpr hbehind), if_pos (hstart.mp hinside)]
  · obtain ⟨k, rfl⟩ := Text.exists_append_of_endPosition_le
      (h.symm.trans (List.append_assoc pre mid post)) (not_lt.mp hinside)
    refine ⟨u, k ++ new ++ post, by simp, ?_, ?_⟩
    · rw [shiftEdge_before hbehind hinside]
      exact Shift.takes_zero _
    · rw [Buffer.Splice.moveIndex, if_neg (mt hstop.mpr hbehind), if_neg (mt hstart.mpr hinside)]

end Edit

namespace Span

variable {b : Buffer} {e : Edit} {s : Span} {pre mid post u m w : Text}

/-- Both edges of a span are taken to beginnings of the edited text, and stay in order. -/
theorem exists_follow_eq (h : pre ++ mid ++ post = u ++ m ++ w) (new : Text) (g : Growth) :
    let e : Edit := ⟨⟨pre.endPosition, Text.endPosition (pre ++ mid)⟩, new⟩
    let splice : Buffer.Splice := ⟨pre.length, (pre ++ mid).length, e⟩
    ∃ u₁ v₁ u₂ v₂, pre ++ new ++ post = u₁ ++ v₁ ∧ pre ++ new ++ post = u₂ ++ v₂ ∧
      u₁.length = splice.moveIndex (g = .fixRight) u.length ∧
      u₂.length = splice.moveIndex (g ≠ .fixLeft) (u ++ m).length ∧
      u₁.endPosition ≤ u₂.endPosition ∧
      (u₁.endPosition.Addressable → u₂.endPosition.Addressable →
        (⟨u.endPosition, Text.endPosition (u ++ m)⟩ : Span).follow [(e, g)] =
          ⟨u₁.endPosition, u₂.endPosition⟩) := by
  intro e splice
  obtain ⟨u₁, v₁, hcut₁, htakes₁, hlen₁⟩ := Edit.exists_takes_moveIndex
    (h.trans (List.append_assoc u m w)) new (decide (g = .fixRight))
  obtain ⟨u₂, v₂, hcut₂, htakes₂, hlen₂⟩ :=
    Edit.exists_takes_moveIndex h new (decide (g ≠ .fixLeft))
  have hmoves : decide (g = .fixRight) = g.movesStart ∧ decide (g ≠ .fixLeft) = g.movesStop := by
    cases g <;> decide
  have hle : u₁.endPosition ≤ u₂.endPosition := by
    rw [Text.endPosition_le_iff_length_le (hcut₁.symm.trans hcut₂), hlen₁, hlen₂]
    refine Buffer.Splice.moveIndex_le_moveIndex (by simp) (by simp) ?_
    cases g <;> decide
  refine ⟨u₁, v₁, u₂, v₂, hcut₁, hcut₂, hlen₁, hlen₂, hle, fun haddr₁ haddr₂ => ?_⟩
  rw [hmoves.1] at htakes₁
  rw [hmoves.2] at htakes₂
  refine follow_eq ?_ ?_ hle haddr₁ haddr₂
  · simpa [batchShift_eq, Edit.edgeShift] using htakes₁
  · simpa [batchShift_eq, Edit.edgeShift] using htakes₂

/-- **Following one edit.** A span that follows an edit is a span of the edited document, and the
character indices of its edges are those to which the splice of the edit takes the indices they had
before. At the end of the replaced span, a start moves on under `fixRight` only, and an end unless
the policy is `fixLeft`. -/
theorem toIndex_follow (hb : b.text.LfOnly) (he : e.text.LfOnly) (hspan : b.HasSpan e.span)
    (hs : b.HasSpan s) (g : Growth) :
    ∃ b' splice i j, b.apply [e] = .ok b' ∧ b.resolve e = .ok splice ∧
      b.toIndex s.start = .ok i ∧ b.toIndex s.stop = .ok j ∧
      (b'.Addressable → b'.HasSpan (s.follow [(e, g)]) ∧
        b'.toIndex (s.follow [(e, g)]).start = .ok (splice.moveIndex (g = .fixRight) i) ∧
        b'.toIndex (s.follow [(e, g)]).stop = .ok (splice.moveIndex (g ≠ .fixLeft) j)) := by
  obtain ⟨pre, mid, post, new, rfl, rfl, happly⟩ := hspan.exists_edit hb
  obtain ⟨u, m, w, htext', rfl⟩ := hs.exists_cut hb
  have hlf' : Text.LfOnly (pre ++ new ++ post) := hb.exchange he
  have hplace {t p q : Text} (h : t = p ++ q) (hlf : t.LfOnly) :
      (⟨t⟩ : Buffer).HasPosition p.endPosition ∧
        (⟨t⟩ : Buffer).toIndex p.endPosition = .ok p.length := by
    subst h
    exact ⟨Buffer.hasPosition_endPosition hlf, Buffer.toIndex_endPosition hlf⟩
  obtain ⟨u₁, v₁, u₂, v₂, hcut₁, hcut₂, hlen₁, hlen₂, hle, hfollow⟩ :=
    exists_follow_eq htext' new g
  have hplace₁ := hplace hcut₁ hlf'
  have hplace₂ := hplace hcut₂ hlf'
  have hresolve : (⟨pre ++ mid ++ post⟩ : Buffer).resolve
      ⟨⟨pre.endPosition, Text.endPosition (pre ++ mid)⟩, new⟩ =
        .ok ⟨pre.length, (pre ++ mid).length,
          ⟨⟨pre.endPosition, Text.endPosition (pre ++ mid)⟩, new⟩⟩ := by
    rw [Buffer.resolve, Buffer.toIndices_endPosition hb]
    rfl
  refine ⟨⟨pre ++ new ++ post⟩, _, _, _, happly, hresolve,
    (hplace (htext'.trans (List.append_assoc u m w)) hb).2, (hplace htext' hb).2, fun haddr => ?_⟩
  rw [hfollow (haddr _ hplace₁.1) (haddr _ hplace₂.1), ← hlen₁, ← hlen₂]
  exact ⟨⟨hplace₁.1, hplace₂.1, hle⟩, hplace₁.2, hplace₂.2⟩

/-- An edit that joins two lines and splits one; the span begins at its end and goes on to the next
line. -/
theorem toIndex_follow_joinedLines :
    let b : Buffer := ⟨"ab\ncdef\ngh".toList⟩
    let b' : Buffer := ⟨"aX\nYef\ngh".toList⟩
    let e : Edit := ⟨⟨⟨0, 1⟩, ⟨1, 2⟩⟩, "X\nY".toList⟩
    let s : Span := ⟨⟨1, 2⟩, ⟨2, 1⟩⟩
    b.apply [e] = .ok b' ∧ b'.HasSpan (s.follow [(e, .fixRight)]) ∧
      b.toIndex s.start = .ok 5 ∧ b'.toIndex (s.follow [(e, .fixRight)]).start = .ok 4 ∧
      b.toIndex s.stop = .ok 9 ∧ b'.toIndex (s.follow [(e, .fixRight)]).stop = .ok 8 := by
  intro b b' e s
  obtain ⟨b'', splice, i, j, happly, hresolve, hi, hj, hfollow⟩ := toIndex_follow
    (b := b) (e := e) (s := s) (by decide) (by decide) (by decide +kernel) (by decide +kernel)
    .fixRight
  have happly' : b.apply [e] = .ok b' := by decide +kernel
  have hresolve' : b.resolve e = .ok ⟨1, 5, e⟩ := by decide +kernel
  have hi' : b.toIndex s.start = .ok 5 := by decide +kernel
  have hj' : b.toIndex s.stop = .ok 9 := by decide +kernel
  obtain rfl := Except.ok.inj (happly.symm.trans happly')
  obtain rfl := Except.ok.inj (hresolve.symm.trans hresolve')
  obtain rfl := Except.ok.inj (hi.symm.trans hi')
  obtain rfl := Except.ok.inj (hj.symm.trans hj')
  obtain ⟨hspan, hstart, hstop⟩ :=
    hfollow (Buffer.addressable_of_length_le (by decide +kernel) (by decide +kernel))
  exact ⟨happly', hspan, hi', hstart.trans (by decide), hj', hstop.trans (by decide)⟩

end Span

end LiveSnippet
