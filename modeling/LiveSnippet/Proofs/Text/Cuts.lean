import LiveSnippet.Proofs.Text.Following

/-!
# Cuts behind the ends of lines

A position need not be one of the document: a character past the end of its line counts as the end.
So a position on a line of the document cuts the text, either where it stands or, if it stands behind
the end of its line, at the line end. An edit that does not touch a position does not change this: in
front of the edit the cut stays what it was, and behind the edit it is carried along with what stands
around it, the coordinates being as large as they may.

## Main definitions

* `Text.CutsAt`: a text is cut in two at a position

## Main results

* `Buffer.toIndex_of_cutsAt`, `Buffer.exists_cutsAt`: cuts are character indices
* `Buffer.slice_eq_ok_iff`: the text of a span is what two cuts leave between them
* `Buffer.slice_front`, `Buffer.slice_follow_behind`: what an edit leaves of the texts around it
-/

namespace LiveSnippet

namespace Text

variable {u v s t k : Text} {p : Position}

/-- A position cuts a text in two: the first half ends at the position, or it ends its line, and the
position stands behind the end of the line. -/
def CutsAt (u v : Text) (p : Position) : Prop :=
  u.endPosition = p ∨ (∀ c ∈ v.head?, c = '\n') ∧ u.endPosition.line = p.line ∧
    u.endPosition.character ≤ p.character

theorem CutsAt.line_eq (h : CutsAt u v p) : u.endPosition.line = p.line := by
  rcases h with rfl | ⟨-, hline, -⟩
  · rfl
  · exact hline

theorem CutsAt.endPosition_le (h : CutsAt u v p) : u.endPosition ≤ p := by
  rcases h with rfl | ⟨-, hline, hcharacter⟩
  · exact le_rfl
  · exact Position.le_iff.mpr (.inr ⟨hline, hcharacter⟩)

/-- A line feed takes the text behind it to another line. -/
theorem endPosition_line_lt (u k : Text) : u.endPosition.line < (endPosition (u ++ '\n' :: k)).line := by
  rw [endPosition_append, Position.add_line, extent_cons, Extent.add_breaks, charExtent_lineFeed]
  dsimp only
  omega

/-- Where a text ends its line, the next place is on another line. -/
theorem line_lt_of_head? (hv : ∀ c ∈ (k ++ v).head?, c = '\n') (hk : k ≠ []) :
    u.endPosition.line < (Text.endPosition (u ++ k)).line := by
  cases k with
  | nil => exact absurd rfl hk
  | cons c k =>
    obtain rfl : c = '\n' := hv c rfl
    exact endPosition_line_lt u k

/-- A position that is not in front of a place of the text does not cut the text in front of it. -/
theorem CutsAt.exists_append (h : CutsAt u v p) (htext : s ++ t = u ++ v) (hp : s.endPosition ≤ p) :
    ∃ k, u = s ++ k := by
  refine exists_append_of_endPosition_le htext (not_lt.mp fun hlt => ?_)
  rcases h with rfl | ⟨hv, hline, -⟩
  · exact absurd hp (not_le.mpr hlt)
  · obtain ⟨k, rfl⟩ := exists_append_of_endPosition_le htext.symm hlt.le
    obtain rfl : v = k ++ t := by simpa using htext.symm
    have hk : k ≠ [] := endPosition_lt_append_iff.mp hlt
    have hnext : u.endPosition.line < (Text.endPosition (u ++ k)).line := line_lt_of_head? hv hk
    have := Position.line_le_of_le hp
    omega

/-- A position in front of a place of the text cuts it there whatever stands behind the place. -/
theorem CutsAt.exists_front (h : CutsAt u v p) (htext : s ++ t = u ++ v) (hp : p < s.endPosition) :
    ∃ k, s = u ++ k ∧ v = k ++ t ∧ ∀ t', CutsAt u (k ++ t') p := by
  have hlt : u.endPosition < s.endPosition := h.endPosition_le.trans_lt hp
  obtain ⟨k, rfl⟩ := exists_append_of_endPosition_le htext.symm hlt.le
  obtain rfl : v = k ++ t := by simpa using htext.symm
  have hk : k ≠ [] := endPosition_lt_append_iff.mp hlt
  refine ⟨k, rfl, rfl, fun t' => h.imp_right fun ⟨hv, hline⟩ => ⟨fun c hc => hv c ?_, hline⟩⟩
  rw [List.head?_append_of_ne_nil k hk] at hc ⊢
  exact hc

end Text

namespace Buffer

variable {b : Buffer} {p q : Position} {u v m : Text} {i : Nat}

/-- The half in front of a cut ends at the index of the position. -/
theorem toIndex_of_cutsAt (hlf : Text.LfOnly (u ++ v)) (h : Text.CutsAt u v p) :
    (⟨u ++ v⟩ : Buffer).toIndex p = .ok u.length := by
  rcases h with rfl | ⟨hv, hline, hcharacter⟩
  · exact toIndex_endPosition hlf
  · have hindex := toIndex_endPosition hlf
    obtain ⟨line, hlast, hle⟩ := hasPosition_endPosition hlf
    have hlength : line.length = u.endPosition.character := by
      refine Nat.le_antisymm (Nat.le_of_not_lt fun hlt => ?_) hle
      have hnext : (⟨u ++ v⟩ : Buffer).HasPosition
          ⟨u.endPosition.line, u.endPosition.character + 1⟩ := ⟨line, hlast, hlt⟩
      obtain ⟨w, t, htext, hw⟩ := hnext.exists_append hlf
      have hlt' : u.endPosition < w.endPosition := by
        rw [hw, Position.lt_iff]
        dsimp only
        omega
      obtain ⟨k, rfl⟩ := Text.exists_append_of_endPosition_le htext hlt'.le
      obtain rfl : v = k ++ t := by simpa using htext
      have hk : k ≠ [] := Text.endPosition_lt_append_iff.mp hlt'
      have hbreak : u.endPosition.line < (Text.endPosition (u ++ k)).line :=
        Text.line_lt_of_head? hv hk
      rw [hw] at hbreak
      exact absurd hbreak (Nat.lt_irrefl _)
    simp only [toIndex, hlast, Except.ok.injEq] at hindex
    simp only [toIndex, ← hline, hlast, Except.ok.injEq]
    omega

/-- A position on a line of the document cuts its text. -/
theorem exists_cutsAt (hb : b.text.LfOnly) (h : b.toIndex p = .ok i) :
    ∃ u v, b.text = u ++ v ∧ Text.CutsAt u v p ∧ u.length = i := by
  rw [toIndex] at h
  cases hline : b.line? p.line with
  | none => simp [hline] at h
  | some line =>
    simp only [hline, Except.ok.injEq] at h
    have hp : b.HasPosition ⟨p.line, min p.character line.length⟩ :=
      ⟨line, hline, Nat.min_le_right _ _⟩
    obtain ⟨u, v, htext, hu⟩ := hp.exists_append hb
    obtain rfl : b = ⟨u ++ v⟩ := congrArg Buffer.mk htext
    have hlength : u.length = i := by
      have hindex := toIndex_endPosition hb
      simp only [hu, toIndex, hline, Except.ok.injEq] at hindex
      omega
    refine ⟨u, v, rfl, ?_, hlength⟩
    by_cases hle : p.character ≤ line.length
    · rw [Nat.min_eq_left hle] at hu
      exact .inl hu
    · rw [Nat.min_eq_right (Nat.le_of_not_le hle)] at hu
      refine .inr ⟨fun c hc => ?_, by rw [hu], by rw [hu]; exact Nat.le_of_not_le hle⟩
      by_contra hne
      obtain ⟨t, rfl⟩ : ∃ t, v = c :: t := List.head?_eq_some_iff.mp hc
      have hcut : u ++ c :: t = (u ++ [c]) ++ t := by simp
      have hnext : (⟨u ++ c :: t⟩ : Buffer).HasPosition (Text.endPosition (u ++ [c])) := by
        rw [hcut] at hb ⊢
        exact hasPosition_endPosition hb
      have hend : Text.endPosition (u ++ [c]) = ⟨p.line, line.length + 1⟩ := by
        rw [Text.endPosition_append, hu, Text.extent_eq_length (by simpa using Ne.symm hne)]
        simp [Position.eq_iff, Position.add_line, Position.add_character]
      obtain ⟨line', hline', hlast⟩ := hend ▸ hnext
      obtain rfl : line = line' := Option.some.inj (hline.symm.trans hline')
      exact absurd hlast (Nat.not_succ_le_self _)

/-- **The text of a span**, in order but anywhere on its lines, is what two cuts leave between
them. -/
theorem slice_eq_ok_iff (hb : b.text.LfOnly) (hpq : p ≤ q) :
    b.slice ⟨p, q⟩ = .ok m ↔
      ∃ u v, b.text = u ++ m ++ v ∧ Text.CutsAt u (m ++ v) p ∧ Text.CutsAt (u ++ m) v q := by
  constructor
  · intro h
    obtain ⟨i, hi⟩ : ∃ i, b.toIndex p = .ok i := by
      cases hi : b.toIndex p with
      | ok i => exact ⟨i, rfl⟩
      | error err => simp [slice, toIndices, hi, bind, Except.bind] at h
    obtain ⟨j, hj⟩ : ∃ j, b.toIndex q = .ok j := by
      cases hj : b.toIndex q with
      | ok j => exact ⟨j, rfl⟩
      | error err => simp [slice, toIndices, hi, hj, bind, Except.bind] at h
    obtain ⟨u, v, htext, hu, rfl⟩ := exists_cutsAt hb hi
    obtain ⟨u', v', htext', hu', rfl⟩ := exists_cutsAt hb hj
    obtain ⟨k, rfl⟩ := hu'.exists_append (htext.symm.trans htext') (hu.endPosition_le.trans hpq)
    obtain rfl : v = k ++ v' := by simpa using htext.symm.trans htext'
    simp only [slice, toIndices, hi, hj, bind, Except.bind, pure, Except.pure, Except.ok.injEq] at h
    obtain rfl : k = m := by
      rw [← h, Nat.max_eq_left (by simp), htext', List.take_left, List.drop_left]
    exact ⟨u, v', htext', hu, hu'⟩
  · rintro ⟨u, v, htext, hu, hv⟩
    obtain rfl : b = ⟨u ++ m ++ v⟩ := congrArg Buffer.mk htext
    have hstart : (⟨u ++ m ++ v⟩ : Buffer).toIndex p = .ok u.length := by
      rw [List.append_assoc] at hb ⊢
      exact toIndex_of_cutsAt hb hu
    simp only [slice, toIndices, hstart, toIndex_of_cutsAt hb hv, bind, Except.bind, pure,
      Except.pure]
    rw [Nat.max_eq_left (by simp), List.take_left, List.drop_left]

end Buffer

/-! ### One edit -/

theorem shiftCoordinate_le_shiftCoordinate {m n : Nat} (h : m ≤ n) (d : Int) :
    shiftCoordinate m d ≤ shiftCoordinate n d := by
  simp only [shiftCoordinate]
  omega

namespace Edit

variable {s o w k m v : Text} {p q : Position}

theorem carry_congr (e : Edit) (h : p.line = q.line) : e.carry p = e.carry q := by
  simp only [carry, h]

/-- An edit carries the cuts behind it along. -/
theorem cutsAt_moveBy (haddr : (Text.endPosition (s ++ w ++ k)).Addressable)
    (h : Text.CutsAt (s ++ o ++ k) v p) :
    Text.CutsAt (s ++ w ++ k) v
      (p.moveBy (Edit.carry ⟨⟨s.endPosition, Text.endPosition (s ++ o)⟩, w⟩ p)) := by
  have hmoved := Position.moveBy_eq (takes_carry s o w k) haddr
  rw [carry_congr _ h.line_eq] at hmoved
  rcases h with rfl | ⟨hv, hline, hcharacter⟩
  · exact .inl hmoved.symm
  · refine .inr ⟨hv, ?_, ?_⟩
    · rw [← hmoved]
      simp only [Position.moveBy, hline]
    · rw [← hmoved]
      exact shiftCoordinate_le_shiftCoordinate hcharacter _

/-- Positions behind an edit stay in order. -/
theorem moveBy_carry_le (haddr : (Text.endPosition (s ++ w ++ k)).Addressable)
    (haddr' : (Text.endPosition (s ++ w ++ (k ++ m))).Addressable)
    (hp : Text.CutsAt (s ++ o ++ k) (m ++ v) p) (hq : Text.CutsAt (s ++ o ++ (k ++ m)) v q)
    (hpq : p ≤ q) :
    let e : Edit := ⟨⟨s.endPosition, Text.endPosition (s ++ o)⟩, w⟩
    p.moveBy (e.carry p) ≤ q.moveBy (e.carry q) := by
  intro e
  rw [Position.le_iff] at hpq ⊢
  rcases hpq with hlt | ⟨hline, hcharacter⟩
  · left
    have hline := hp.line_eq
    have hline' := hq.line_eq
    rw [← (cutsAt_moveBy haddr hp).line_eq, ← (cutsAt_moveBy haddr' hq).line_eq]
    simp only [Text.endPosition_append, Position.add_line, Text.extent_append,
      Extent.add_breaks] at hline hline' ⊢
    omega
  · right
    rw [carry_congr e hline]
    simp only [Position.moveBy, hline, true_and]
    exact shiftCoordinate_le_shiftCoordinate hcharacter _

end Edit

namespace Span

variable {e : Edit} {p q : Position}

/-- Both edges of a span behind an edit are carried along. -/
theorem follow_behind (hp : e.span.stop < p) (hpq : p ≤ q) (g : Growth) :
    (⟨p, q⟩ : Span).follow [(e, g)] =
      ⟨p.moveBy (e.carry p), max (q.moveBy (e.carry q)) (p.moveBy (e.carry p))⟩ := by
  simp only [follow, batchShift_eq, List.map_cons, List.map_nil, Edit.edgeShift_singleton,
    Edit.shiftEdge_behind (.inl hp), Edit.shiftEdge_behind (.inl (hp.trans_le hpq))]

end Span

namespace Buffer

variable {s o w t m : Text} {p q : Position}

/-- What ends in front of an edit stays. -/
theorem slice_front (hlf : Text.LfOnly (s ++ o ++ t)) (hlf' : Text.LfOnly (s ++ w ++ t))
    (hpq : p ≤ q) (hq : q < s.endPosition)
    (h : (⟨s ++ o ++ t⟩ : Buffer).slice ⟨p, q⟩ = .ok m) :
    (⟨s ++ w ++ t⟩ : Buffer).slice ⟨p, q⟩ = .ok m := by
  obtain ⟨u, v, htext, hcut, hcut'⟩ := (slice_eq_ok_iff hlf hpq).mp h
  dsimp only at htext
  rw [List.append_assoc s] at htext
  obtain ⟨k, rfl, -, hfront'⟩ := hcut'.exists_front htext hq
  obtain ⟨k', hk', -, hfront⟩ :=
    hcut.exists_front (htext.trans (List.append_assoc u m v)) (hpq.trans_lt hq)
  obtain rfl : k' = m ++ k := by simpa using hk'.symm
  refine (slice_eq_ok_iff hlf' hpq).mpr ⟨u, k ++ (w ++ t), by simp, ?_, hfront' _⟩
  have := hfront (w ++ t)
  rwa [List.append_assoc] at this

/-- What begins behind an edit is carried along. -/
theorem slice_follow_behind (hlf : Text.LfOnly (s ++ o ++ t)) (hlf' : Text.LfOnly (s ++ w ++ t))
    (haddr : (⟨s ++ w ++ t⟩ : Buffer).Addressable) (hpq : p ≤ q)
    (hp : Text.endPosition (s ++ o) < p) (g : Growth)
    (h : (⟨s ++ o ++ t⟩ : Buffer).slice ⟨p, q⟩ = .ok m) :
    (⟨s ++ w ++ t⟩ : Buffer).slice
      ((⟨p, q⟩ : Span).follow [(⟨⟨s.endPosition, Text.endPosition (s ++ o)⟩, w⟩, g)]) = .ok m := by
  obtain ⟨u, v, htext, hcut, hcut'⟩ := (slice_eq_ok_iff hlf hpq).mp h
  dsimp only at htext
  obtain ⟨k, rfl⟩ :=
    hcut.exists_append (htext.trans (List.append_assoc u m v)) hp.le
  obtain rfl : t = k ++ m ++ v := by simpa using htext
  have hsplit : s ++ w ++ (k ++ m ++ v) = s ++ w ++ k ++ (m ++ v) := by simp
  have hsplit' : s ++ w ++ (k ++ m ++ v) = s ++ w ++ (k ++ m) ++ v := by simp
  have haddr₁ : (Text.endPosition (s ++ w ++ k)).Addressable := by
    rw [hsplit] at haddr hlf'
    exact haddr.endPosition hlf'
  have haddr₂ : (Text.endPosition (s ++ w ++ (k ++ m))).Addressable := by
    rw [hsplit'] at haddr hlf'
    exact haddr.endPosition hlf'
  rw [List.append_assoc (s ++ o)] at hcut'
  have hle := Edit.moveBy_carry_le haddr₁ haddr₂ hcut hcut' hpq
  rw [Span.follow_behind hp hpq, max_eq_left hle]
  refine (slice_eq_ok_iff hlf' hle).mpr ⟨s ++ w ++ k, v, by simp, Edit.cutsAt_moveBy haddr₁ hcut, ?_⟩
  rw [List.append_assoc (s ++ w)]
  exact Edit.cutsAt_moveBy haddr₂ hcut'

end Buffer

end LiveSnippet
