import LiveSnippet.Proofs.Text.Patch
import Mathlib.Data.List.Induction

/-!
# Columns under a batch

A span that no edit of a batch touches should hold the same text behind the batch. Its lines are
always right, and so are its columns unless the edits in front of it move the columns of a line one
after the other in a way that the sum of their shifts does not see: a line feed resets the columns
that an earlier edit has moved, and a deletion over line ends hands them on to the line that is
joined. How far the columns have really been moved is found by going through the edits; the span
finds its text if and only if the sum says the same.

## Main definitions

* `Edit.columnsMoved`: how far a batch moves the columns of each line
* `Edit.trueShift`: the shift of a place behind all edits of a batch
* `Edit.front`: the edits in front of a span
* `Span.MovesTo`: the place of an untouched span behind a batch

## Main results

* `Patch.takes_trueShift`: the shift takes every place behind a batch to where it belongs
* `Span.batchShift_of_addUp`: batches whose shifts may be added up
* `Span.follow_batch_eq_iff`: exactly when a span finds its text behind a batch
-/

namespace LiveSnippet

/-! ### Columns -/

namespace Edit

variable {e : Edit} {es : List Edit} {a b p q : Position} {k o : Extent} {line : Nat}

/-- How far the columns of each line are moved when one more edit follows edits that have moved them
by `d`. The line on which the edit ends goes on where the edit starts, unless its text begins a new
line. -/
def moveColumns (d : Nat → Int) (e : Edit) : Nat → Int := fun line =>
  if line = e.span.stop.line then
    (if e.text.extent.breaks = 0 then d e.span.start.line else 0) + e.shift.character
  else d line

/-- How far a batch in the order of the document moves the columns behind its edits on each line. -/
def columnsMoved (es : List Edit) : Nat → Int := es.foldl moveColumns fun _ => 0

theorem columnsMoved_snoc (es : List Edit) (e : Edit) :
    columnsMoved (es ++ [e]) = moveColumns (columnsMoved es) e := by
  rw [columnsMoved, List.foldl_append]
  rfl

/-- The columns of a line on which no edit ends stay. -/
theorem columnsMoved_eq_zero (h : ∀ e ∈ es, e.span.stop.line < line) :
    columnsMoved es line = 0 := by
  induction es using List.reverseRecOn with
  | nil => rfl
  | append_singleton es e ih =>
    have hline : line ≠ e.span.stop.line := Nat.ne_of_gt (h e (by simp))
    rw [columnsMoved_snoc, moveColumns, if_neg hline]
    exact ih fun f hf => h f (List.mem_append_left _ hf)

/-- The shift of a place behind all edits of a batch. -/
def trueShift (es : List Edit) (p : Position) : Shift :=
  ⟨(carrySum es p).line, columnsMoved es p.line⟩

/-- One more edit, wherever it starts. -/
theorem takes_trueShift_snoc (h : ∀ x : Extent, (trueShift es (a + x)).Takes (a + x) (b + x))
    (hes : ∀ f ∈ es, f.span.stop ≤ a) (hs : e.span.start = a + k) (ht : e.span.stop = a + k + o)
    (x : Extent) :
    (trueShift (es ++ [e]) (a + k + o + x)).Takes (a + k + o + x)
      (b + k + e.text.extent + x) := by
  obtain ⟨hline, hchar⟩ := h k
  have hsum : (carrySum es (a + k + o + x)).line = (carrySum es (a + k)).line :=
    carrySum_line_eq _ _ _
  simp only [trueShift, carrySum_append, carrySum_cons, carrySum_nil, add_zero, Shift.add_line,
    hsum, columnsMoved_snoc, moveColumns] at hline hchar ⊢
  by_cases hx : x.breaks = 0
  · have hstop : (a + k + o + x).line = e.span.stop.line := by
      rw [Position.add_line, ht, hx, Nat.add_zero]
    rw [if_pos hstop]
    simp only [Shift.Takes, carry, shift, hs, ht, Position.add_line, Position.add_character, hx,
      if_true] at hline hchar ⊢
    split_ifs at hline hchar ⊢ <;> omega
  · have hstop : (a + k + o + x).line ≠ e.span.stop.line := by
      rw [Position.add_line, ht]
      omega
    have hzero : columnsMoved es (a + k + o + x).line = 0 := columnsMoved_eq_zero fun f hf => by
      have hle := hes f hf
      rw [Position.le_iff] at hle
      simp only [Position.add_line]
      omega
    rw [if_neg hstop, hzero]
    simp only [Shift.Takes, carry, shift, hs, ht, Position.add_line, Position.add_character, hx,
      if_false] at hline hchar ⊢
    split_ifs at hline hchar ⊢ <;> omega

/-- The sum of the shifts sees the columns of a line only. -/
theorem carrySum_congr (h : p.line = q.line) (es : List Edit) : carrySum es p = carrySum es q := by
  simp only [carrySum, carry, h]

/-- If the sum is right at a place behind all edits, it is right everywhere behind it. -/
theorem carrySum_eq_trueShift (hes : ∀ f ∈ es, f.span.stop ≤ a)
    (h : (carrySum es a).character = columnsMoved es a.line) (x : Extent) :
    carrySum es (a + x) = trueShift es (a + x) := by
  refine Shift.eq_iff.mpr ⟨rfl, ?_⟩
  by_cases hx : x.breaks = 0
  · have hline : (a + x).line = a.line := by rw [Position.add_line, hx, Nat.add_zero]
    rw [carrySum_congr hline, trueShift, hline]
    exact h
  · have hlate : ∀ f ∈ es, f.span.stop.line < (a + x).line := fun f hf => by
      have hle := hes f hf
      rw [Position.le_iff] at hle
      rw [Position.add_line]
      omega
    rw [trueShift, columnsMoved_eq_zero hlate]
    exact carrySum_character_eq_zero fun f hf hl => absurd hl (Nat.ne_of_lt (hlate f hf))

/-- If the shifts of a batch may be added up, the sum says how far the columns have been moved. -/
theorem columnsMoved_of_addUp (h : AddUp es) (p : Position) :
    (carrySum es p).character = columnsMoved es p.line := by
  induction es using List.reverseRecOn generalizing p with
  | nil => rfl
  | append_singleton es e ih =>
    have hes : AddUp es := h.sublist (List.sublist_append_left _ _)
    have hbehind : ∀ f ∈ es, f.Behind e := fun f hf =>
      (List.pairwise_append.mp h.2).2.2 f hf e List.mem_cons_self
    have hspan : e.span.start ≤ e.span.stop := h.1 e (by simp)
    rw [carrySum_append, carrySum_cons, carrySum_nil, add_zero, Shift.add_character,
      columnsMoved_snoc, moveColumns, carry]
    by_cases hl : p.line = e.span.stop.line
    · rw [if_pos hl, if_pos hl, ← ih hes e.span.start, carrySum_congr hl]
      by_cases hin : e.Inline
      · rw [if_pos hin.2, carrySum_congr hin.1]
      · -- The edit touches the lines, so no columns in front of it have moved.
        have hstart : (carrySum es e.span.start).character = 0 :=
          carrySum_character_eq_zero fun f hf hf' => ((hbehind f hf).2 hf').resolve_right hin
        have hstop : (carrySum es e.span.stop).character = 0 :=
          carrySum_character_eq_zero fun f hf hf' => by
            have hle := (hbehind f hf).1
            rw [Position.le_iff] at hle hspan
            exact ((hbehind f hf).2 (by omega)).resolve_right hin
        rw [hstart, hstop, ite_self]
    · rw [if_neg hl, if_neg hl, ih hes p]
      exact Int.add_zero _

end Edit

namespace Patch

variable {pre pre' : Text} {done : List Edit}

/-- The edits that replace runs take everything behind them along. -/
theorem takes_trueShift (ps : List Patch)
    (h : ∀ x : Extent, (Edit.trueShift done (pre.endPosition + x)).Takes (pre.endPosition + x)
      (pre'.endPosition + x))
    (hdone : ∀ f ∈ done, f.span.stop ≤ pre.endPosition) (x : Extent) :
    (Edit.trueShift (done ++ edits pre ps) (Text.endPosition (pre ++ ps.flatMap old) + x)).Takes
      (Text.endPosition (pre ++ ps.flatMap old) + x)
      (Text.endPosition (pre' ++ ps.flatMap new) + x) := by
  induction ps generalizing pre pre' done with
  | nil => simpa [edits] using h x
  | cons p ps ih =>
    rw [List.flatMap_cons, List.flatMap_cons, ← List.append_assoc, ← List.append_assoc]
    have hle : ∀ f ∈ done, f.span.stop ≤ Text.endPosition (pre ++ p.old) :=
      fun f hf => (hdone f hf).trans (Text.endPosition_le_append _ _)
    obtain ⟨old, _ | new⟩ := p
    · refine ih (fun y => ?_) hle
      have hy := h (old.extent + y)
      rwa [← Position.add_assoc, ← Position.add_assoc, ← Text.endPosition_append,
        ← Text.endPosition_append] at hy
    · have hsnoc := Edit.takes_trueShift_snoc
        (e := ⟨⟨pre.endPosition, Text.endPosition (pre ++ old)⟩, new⟩) (k := 0) (o := old.extent) h
        hdone (Position.add_zero _).symm (by rw [Position.add_zero, ← Text.endPosition_append])
      simp only [Position.add_zero, ← Text.endPosition_append] at hsnoc
      have hrest := ih hsnoc (by simpa [or_imp, forall_and] using hle)
      rw [List.append_assoc] at hrest
      exact hrest

end Patch

/-! ### Untouched spans -/

namespace Edit

/-- The edits of a batch that end in front of a span. -/
def front (s : Span) (es : List Edit) : List Edit := es.filter (·.span.stop < s.start)

/-- The edits of a batch that touch nothing of a span, and do not end in front of it, are the last
ones. -/
theorem front_append_filter {s : Span} {es : List Edit}
    (hspan : ∀ e ∈ es, e.span.start ≤ e.span.stop) (hs : s.start ≤ s.stop)
    (hord : es.Pairwise fun e f => e.span.stop ≤ f.span.start)
    (hfree : ∀ e ∈ es, e.span.stop < s.start ∨ s.stop < e.span.start) :
    front s es ++ es.filter (s.stop < ·.span.start) = es := by
  induction es with
  | nil => rfl
  | cons e es ih =>
    obtain ⟨hfirst, hord'⟩ := List.pairwise_cons.mp hord
    obtain ⟨he, hspan'⟩ := List.forall_mem_cons.mp hspan
    obtain ⟨hcases, hfree'⟩ := List.forall_mem_cons.mp hfree
    rcases hcases with hlt | hgt
    · have hnot : ¬s.stop < e.span.start := not_lt.mpr ((he.trans hlt.le).trans hs)
      rw [front, List.filter_cons_of_pos (by simpa using hlt),
        List.filter_cons_of_neg (by simpa using hnot), List.cons_append, ← front,
        ih hspan' hord' hfree']
    · have hall : ∀ f ∈ e :: es, s.stop < f.span.start :=
        List.forall_mem_cons.mpr ⟨hgt, fun f hf => (hgt.trans_le he).trans_le (hfirst f hf)⟩
      have hnone : ∀ f ∈ e :: es, ¬f.span.stop < s.start := fun f hf =>
        not_lt.mpr ((hs.trans (hall f hf).le).trans (hspan f hf))
      rw [front, List.filter_eq_nil_iff.mpr (by simpa using hnone),
        List.filter_eq_self.mpr (by simpa using hall)]
      rfl

end Edit

namespace Span

variable {b b' : Buffer} {s s' : Span} {es : List Edit} {pre pre' mid post post' : Text}

/-- The text of `s` in one document is the text of `s'` in another one, where the edits `front` have
been applied to what stands in front. -/
def MovesTo (s s' : Span) (front : List Edit) (b b' : Buffer) : Prop :=
  ∃ pre pre' mid post post' : Text,
    b.text = pre ++ mid ++ post ∧ s = ⟨pre.endPosition, Text.endPosition (pre ++ mid)⟩ ∧
      (⟨pre⟩ : Buffer).apply front = .ok ⟨pre'⟩ ∧
      b'.text = pre' ++ mid ++ post' ∧ s' = ⟨pre'.endPosition, Text.endPosition (pre' ++ mid)⟩

theorem MovesTo.slice_eq {front : List Edit} (h : s.MovesTo s' front b b') (hb : b.text.LfOnly)
    (hb' : b'.text.LfOnly) : b'.slice s' = b.slice s := by
  obtain ⟨pre, pre', mid, post, post', htext, rfl, -, htext', rfl⟩ := h
  obtain rfl : b = ⟨pre ++ mid ++ post⟩ := congrArg Buffer.mk htext
  obtain rfl : b' = ⟨pre' ++ mid ++ post'⟩ := congrArg Buffer.mk htext'
  rw [Buffer.slice_endPosition hb, Buffer.slice_endPosition hb']

section

variable (hes : ∀ e ∈ es, e.span.start ≤ e.span.stop) (hs : s.start ≤ s.stop)
  (hord : es.Pairwise fun e f => e.span.stop ≤ f.span.start)
  (hfree : ∀ e ∈ es, e.span.stop < s.start ∨ s.stop < e.span.start)

include hes hs hord hfree

/-- The sums for the edges of an untouched span count the edits in front of it only. -/
theorem batchShift_of_free :
    s.batchShift (es.map (·, .fixRight)) =
      (Edit.carrySum (Edit.front s es) s.start, Edit.carrySum (Edit.front s es) s.stop) := by
  have hsplit := Edit.front_append_filter hes hs hord hfree
  have hedge (p : Position) (hp : s.start ≤ p) (hp' : p ≤ s.stop) :
      Edit.edgeShift (es.map (·, true)) p = Edit.carrySum (Edit.front s es) p := by
    have hfront : ∀ e ∈ Edit.front s es, e.span.stop ≤ p := fun e he =>
      (of_decide_eq_true (List.mem_filter.mp he).2).le.trans hp
    have hback : ∀ m ∈ (es.filter (s.stop < ·.span.start)).map (·, true),
        p < m.1.span.start ∧ m.1.span.start ≤ m.1.span.stop := by
      intro m hm
      obtain ⟨e, he, rfl⟩ := List.mem_map.mp hm
      obtain ⟨he, hlt⟩ := List.mem_filter.mp he
      exact ⟨hp'.trans_lt (of_decide_eq_true hlt), hes e he⟩
    conv_lhs => rw [← hsplit]
    rw [List.map_append, Edit.edgeShift_append, Edit.edgeShift_of_le hfront,
      Edit.edgeShift_eq_zero (fun m hm => ?_) fun m hm => (hback m hm).1.le, add_zero]
    have hlt := (hback m hm).1.trans_le (hback m hm).2
    simp [hlt.le, hlt.ne]
  have hmoves (f : Growth → Bool) (hf : f .fixRight = true) :
      ((es.map (·, Growth.fixRight)).map fun m => (m.1, f m.2)) = es.map (·, true) := by
    rw [List.map_map]
    exact List.map_congr_left fun e _ => by rw [Function.comp_apply, hf]
  rw [batchShift_eq, hmoves _ rfl, hmoves _ rfl, hedge _ le_rfl hs, hedge _ hs le_rfl]

/-- If the shifts of a batch may be added up, the sum says how far the columns of an untouched span
have been moved. -/
theorem batchShift_of_addUp (hadd : Edit.AddUp es) :
    (s.batchShift (es.map (·, .fixRight))).1.character =
      Edit.columnsMoved (Edit.front s es) s.start.line := by
  rw [batchShift_of_free hes hs hord hfree]
  exact Edit.columnsMoved_of_addUp (hadd.sublist List.filter_sublist) s.start

end

/-- A span is taken to its text exactly if the sum of the shifts says how far the columns of its
first line have been moved. -/
theorem follow_eq_iff_columnsMoved {front : List Edit} {moves : List (Edit × Growth)}
    (hs : s = ⟨pre.endPosition, Text.endPosition (pre ++ mid)⟩)
    (hfront : ∀ e ∈ front, e.span.stop ≤ s.start)
    (htrue : ∀ x : Extent, (Edit.trueShift front (s.start + x)).Takes (s.start + x)
      (pre'.endPosition + x))
    (hsum : s.batchShift moves = (Edit.carrySum front s.start, Edit.carrySum front s.stop))
    (haddr : (Text.endPosition pre').Addressable)
    (haddr' : (Text.endPosition (pre' ++ mid)).Addressable) :
    let cond := (s.batchShift moves).1.character = Edit.columnsMoved front s.start.line
    let moved := s.follow moves = ⟨pre'.endPosition, Text.endPosition (pre' ++ mid)⟩
    (cond → moved) ∧ ∀ q : Position, q.Addressable →
      (s.batchShift moves).1.Takes s.start q → moved → cond := by
  intro cond moved
  have hstart := htrue 0
  rw [Position.add_zero, Position.add_zero] at hstart
  refine ⟨fun hcond => ?_, fun q hq htakes hmoved => ?_⟩
  · simp only [cond, hsum] at hcond
    have hcarry := Edit.carrySum_eq_trueShift hfront hcond
    have hstop : s.stop = s.start + mid.extent := by rw [hs, Text.endPosition_append]
    refine follow_eq ?_ ?_ (Text.endPosition_le_append _ _) haddr haddr'
    · have hzero := hcarry 0
      rw [Position.add_zero] at hzero
      rw [hsum, hzero]
      exact hstart
    · rw [hsum, hstop, Text.endPosition_append, hcarry]
      exact htrue _
  · -- Nothing is cut off, so the start is moved by the sum exactly.
    have hq' : q = pre'.endPosition := by
      have hmove := congrArg Span.start hmoved
      rw [follow] at hmove
      rwa [← Position.moveBy_eq htakes hq]
    obtain ⟨-, htakes⟩ := htakes
    obtain ⟨-, hstart⟩ := hstart
    rw [hq'] at htakes
    simp only [Edit.trueShift] at hstart
    change (s.batchShift moves).1.character = _
    omega

/-- A batch that leaves a span alone edits the texts in front of it and behind it. -/
theorem exists_apply_of_free (hlf : Text.LfOnly (pre ++ mid ++ post))
    (hes : ∀ e ∈ es, e.text.LfOnly ∧ (⟨pre ++ mid ++ post⟩ : Buffer).HasSpan e.span)
    (hord : es.Pairwise fun e f => e.span.stop ≤ f.span.start)
    {s : Span} (hs : s = ⟨pre.endPosition, Text.endPosition (pre ++ mid)⟩)
    (hfree : ∀ e ∈ es, e.span.stop < s.start ∨ s.stop < e.span.start) :
    ∃ pre' post' : Text, (⟨pre ++ mid ++ post⟩ : Buffer).apply es = .ok ⟨pre' ++ mid ++ post'⟩ ∧
      (⟨pre⟩ : Buffer).apply (Edit.front s es) = .ok ⟨pre'⟩ ∧ Text.LfOnly (pre' ++ mid ++ post') ∧
      ∀ x : Extent, (Edit.trueShift (Edit.front s es) (pre.endPosition + x)).Takes
        (pre.endPosition + x) (pre'.endPosition + x) := by
  have hle : s.start ≤ s.stop := hs ▸ Text.endPosition_le_append _ _
  have hsplit := Edit.front_append_filter (fun e he => (hes e he).2.2.2) hle hord hfree
  have hfront : ∃ ps : List Patch, ps.flatMap Patch.old = pre ∧
      Patch.edits [] ps = Edit.front s es := by
    have hlf' : Text.LfOnly ([] ++ pre ++ (mid ++ post)) := by simpa using hlf
    refine Patch.exists_edits hlf' (fun e he => ?_) (hord.sublist List.filter_sublist)
    obtain ⟨he, hlt⟩ := List.mem_filter.mp he
    refine ⟨by simpa using (hes e he).2, Position.origin_le _, ?_⟩
    rw [hs] at hlt
    exact (of_decide_eq_true hlt).le
  have hback : ∃ qs : List Patch, qs.flatMap Patch.old = post ∧
      Patch.edits (pre ++ mid) qs = es.filter (s.stop < ·.span.start) := by
    have hlf' : Text.LfOnly (pre ++ mid ++ post ++ []) := by simpa using hlf
    refine Patch.exists_edits hlf' (fun e he => ?_) (hord.sublist List.filter_sublist)
    obtain ⟨he, hlt⟩ := List.mem_filter.mp he
    refine ⟨by simpa using (hes e he).2, ?_, ?_⟩
    · rw [hs] at hlt
      exact (of_decide_eq_true hlt).le
    · obtain ⟨u, o, w, htext, hcut⟩ := (hes e he).2.exists_cut hlf
      have hle' := Text.endPosition_le_append (u ++ o) w
      rw [hcut]
      rwa [← htext] at hle'
  obtain ⟨ps, hold, hps⟩ := hfront
  obtain ⟨qs, hold', hqs⟩ := hback
  have hedits : Patch.edits [] (ps ++ ⟨mid, none⟩ :: qs) = es := by
    rw [Patch.edits_append, List.nil_append, hold, Patch.edits, hps, hqs, hsplit]
  have htext : pre ++ mid ++ post = [] ++ (ps ++ ⟨mid, none⟩ :: qs).flatMap Patch.old ++ [] := by
    simp [hold, hold']
  have hnew : [] ++ (ps ++ ⟨mid, none⟩ :: qs).flatMap Patch.new ++ [] =
      ps.flatMap Patch.new ++ mid ++ qs.flatMap Patch.new := by simp [Patch.new]
  refine ⟨ps.flatMap Patch.new, qs.flatMap Patch.new, ?_, ?_, ?_, fun x => ?_⟩
  · rw [← hedits, ← hnew, htext]
    exact Patch.apply_edits (htext ▸ hlf)
  · have hlf' : Text.LfOnly ([] ++ ps.flatMap Patch.old ++ []) := by
      rw [Text.lfOnly_append, Text.lfOnly_append] at hlf
      simpa [hold] using hlf.1.1
    have happly := Patch.apply_edits hlf'
    rwa [hps, hold, List.nil_append, List.append_nil, List.nil_append, List.append_nil] at happly
  · rw [← hnew]
    have hlf' := Patch.lfOnly_flatMap_new (by simpa [htext] using hlf)
      (fun e he => (hes e (hedits ▸ he)).1)
    simpa using hlf'
  · have hnone (y : Extent) : (Edit.trueShift [] (Text.endPosition [] + y)).Takes
        (Text.endPosition [] + y) (Text.endPosition [] + y) := Shift.takes_zero _
    have htakes := Patch.takes_trueShift ps hnone (by simp) x
    rwa [List.nil_append, hps, hold] at htakes

/-- **Untouched spans.** Behind a batch in the order of the document, the text of a span that no
edit overlaps or touches stands behind the edited text in front of it. The span follows it there,
and so keeps its text, if the shifts of the edits in front add up to what they do to the columns of
its first line, and, unless the sum is cut off, only then. -/
theorem follow_batch_eq_iff (hb : b.text.LfOnly)
    (hes : ∀ e ∈ es, e.text.LfOnly ∧ b.HasSpan e.span)
    (hord : es.Pairwise fun e f => e.span.stop ≤ f.span.start) (hs : b.HasSpan s)
    (hfree : ∀ e ∈ es, e.span.stop < s.start ∨ s.stop < e.span.start) :
    let moves := es.map (·, Growth.fixRight)
    let front := Edit.front s es
    let cond := (s.batchShift moves).1.character = Edit.columnsMoved front s.start.line
    ∃ b' s', b.apply es = .ok b' ∧ s.MovesTo s' front b b' ∧
      (b'.Addressable → (cond → b'.slice (s.follow moves) = b.slice s) ∧
        ∀ q : Position, q.Addressable → (s.batchShift moves).1.Takes s.start q →
          (s.follow moves = s' ↔ cond)) := by
  intro moves front cond
  obtain ⟨pre, mid, post, htext, hcut⟩ := hs.exists_cut hb
  obtain rfl : b = ⟨pre ++ mid ++ post⟩ := congrArg Buffer.mk htext
  obtain ⟨pre', post', happly, happly', hlf', htrue⟩ :=
    exists_apply_of_free hb hes hord hcut hfree
  have hmoves : s.MovesTo ⟨pre'.endPosition, Text.endPosition (pre' ++ mid)⟩ front
      ⟨pre ++ mid ++ post⟩ ⟨pre' ++ mid ++ post'⟩ :=
    ⟨pre, pre', mid, post, post', rfl, hcut, happly', rfl, rfl⟩
  refine ⟨_, _, happly, hmoves, fun haddr => ?_⟩
  have hsum := batchShift_of_free (fun e he => (hes e he).2.2.2) hs.2.2 hord hfree
  have hfront : ∀ e ∈ front, e.span.stop ≤ s.start := fun e he =>
    (of_decide_eq_true (List.mem_filter.mp he).2).le
  have haddr₁ : pre'.endPosition.Addressable := by
    have hlf₁ := hlf'
    rw [List.append_assoc] at haddr hlf₁
    exact haddr.endPosition hlf₁
  have hstart : s.start = pre.endPosition := congrArg Span.start hcut
  obtain ⟨hif, honly⟩ := follow_eq_iff_columnsMoved hcut hfront (hstart ▸ htrue) hsum haddr₁
    (haddr.endPosition hlf')
  refine ⟨fun hcond => ?_, fun q hq htakes => ⟨honly q hq htakes, hif⟩⟩
  rw [hif hcond]
  exact hmoves.slice_eq hb hlf'

/-- Columns that have been moved on and back again are put right by a line feed. -/
theorem slice_follow_movedBack :
    let b : Buffer := ⟨"abcdef".toList⟩
    let b' : Buffer := ⟨"xa\ncdef".toList⟩
    let es : List Edit := [.insert ⟨0, 0⟩ ['x'], .delete ⟨⟨0, 1⟩, ⟨0, 2⟩⟩, .insert ⟨0, 2⟩ ['\n']]
    let s : Span := ⟨⟨0, 3⟩, ⟨0, 5⟩⟩
    b.apply es = .ok b' ∧ b.slice s = .ok "de".toList ∧
      b'.slice (s.follow (es.map (·, .fixRight))) = b.slice s := by
  intro b b' es s
  obtain ⟨b'', s', happly, -, hkeeps⟩ := follow_batch_eq_iff (b := b) (s := s) (by decide)
    (show ∀ e ∈ es, e.text.LfOnly ∧ b.HasSpan e.span by decide +kernel) (by decide +kernel)
    (by decide +kernel) (by decide +kernel)
  have happly' : b.apply es = .ok b' :=
    @Patch.apply_edits [] [] [⟨[], some ['x']⟩, ⟨['a'], none⟩, ⟨['b'], some []⟩,
      ⟨[], some ['\n']⟩, ⟨"cdef".toList, none⟩] (by decide)
  obtain rfl := Except.ok.inj (happly.symm.trans happly')
  have haddr : b'.Addressable :=
    Buffer.addressable_of_length_le (by decide +kernel) (by decide +kernel)
  exact ⟨happly', by decide +kernel, (hkeeps haddr).1 (by decide +kernel)⟩

/-- A line feed resets the columns that an edit in front of it has moved, but the sum keeps both, so
the span is one column too far. -/
theorem not_slice_follow_brokenLine :
    let b : Buffer := ⟨"abcdef".toList⟩
    let b' : Buffer := ⟨"xab\ncdef".toList⟩
    let es : List Edit := [.insert ⟨0, 0⟩ ['x'], .insert ⟨0, 2⟩ ['\n']]
    let s : Span := ⟨⟨0, 4⟩, ⟨0, 6⟩⟩
    b.text.LfOnly ∧ (∀ e ∈ es, e.text.LfOnly ∧ b.HasSpan e.span) ∧
      (es.Pairwise fun e f => e.span.stop ≤ f.span.start) ∧ b.HasSpan s ∧
      (∀ e ∈ es, e.span.stop < s.start ∨ s.stop < e.span.start) ∧ b.apply es = .ok b' ∧
      b.slice s = .ok "ef".toList ∧
      b'.slice (s.follow (es.map (·, .fixRight))) = .ok "f".toList := by
  intro b b' es s
  have happly : b.apply es = .ok b' :=
    @Patch.apply_edits [] [] [⟨[], some ['x']⟩, ⟨"ab".toList, none⟩, ⟨[], some ['\n']⟩,
      ⟨"cdef".toList, none⟩] (by decide)
  exact ⟨by decide, by decide +kernel, by decide +kernel, by decide +kernel, by decide +kernel,
    happly, by decide +kernel, by decide +kernel⟩

end Span

end LiveSnippet
