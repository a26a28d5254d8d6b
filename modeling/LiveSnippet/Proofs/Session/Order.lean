import LiveSnippet.Proofs.Session.Handing
import LiveSnippet.Session.Expansion
import Mathlib.Data.List.Infix

/-!
# The order of parts

The parts of an expansion are laid out in document order, and batches are to keep them so.
Neighbouring edges meet at seams: the start of the expansion and a part, two parts, a part and the
end of the expansion. A batch endangers a seam in three ways only. Its shifts do not add up; or an
edge leaves the range of coordinates; or the part in front of the seam lags behind, because an edit
that it is not handed begins in front of its end. All other seams stay in order, so the order of all
parts is kept along a run exactly if every batch of the run keeps the seams it endangers.

## Main definitions

* `Expansion.InOrder`: the order of the parts
* `Routed.Lags`: a part is not handed an edit that begins in front of its end
* `Expansion.KeepsSeams`: the seams that a batch endangers stay in order
* `Expansion.Safe`, `Expansion.SafeEdit`: a batch, or a single edit, endangers no seam
* `Expansion.Event`, `Expansion.run`: what happens to an expansion

## Main results

* `Layout.inOrder_ofOutput`: an output is laid out in order
* `Expansion.update_inOrder_iff`: exactly which batches keep the order
* `Expansion.Safe.inOrder`: a batch that endangers no seam does
* `Expansion.run_inOrder_iff`: exactly which runs do
* `Expansion.run_inOrder_of_safe`, `Expansion.run_inOrder_of_safeEdit`: runs of safe batches, and of
  single edits
-/

namespace LiveSnippet

variable {es : List Edit} {r s : Routed} {p q : Position}

/-! ### Landings of parts -/

namespace Routed

/-- A part is not handed an edit of the batch that begins in front of its end. -/
def Lags (es : List Edit) (r : Routed) : Prop :=
  ∃ e ∈ es.drop r.moves.length, e.span.start < r.part.range.stop

/-- Where the start of a part ends up. -/
def startLanding (r : Routed) : Position :=
  Edit.landing .origin .origin (r.moves.map fun m => (m.1, m.2.movesStart)) r.part.range.start

/-- Where the end of a part ends up. -/
def stopLanding (r : Routed) : Position :=
  Edit.landing .origin .origin (r.moves.map fun m => (m.1, m.2.movesStop)) r.part.range.stop

/-- The start of a part moves to coordinates that can be stored. -/
def StartFits (r : Routed) : Prop :=
  (r.part.range.span.batchShift r.moves).1.Fits r.part.range.start

theorem landing_nil (p : Position) : Edit.landing .origin .origin [] p = p :=
  Position.add_sub_cancel_of_le p.origin_le

/-- An edge that does not lag lands no further than an edge behind it that is handed as much. -/
theorem landing_le_landing (hadd : Edit.AddUp es) {ns : List (Edit × Bool)} {f : Growth → Bool}
    (hns : ns.map Prod.fst <+: es) (hpq : p ≤ q)
    (hlag : ∀ e ∈ es.drop r.moves.length, p ≤ e.span.start)
    (hms : List.Forall₂ (fun m n => m.1 = n.1 ∧ (f m.2 = true → n.2 = true)) r.moves
      (ns.take r.moves.length)) :
    Edit.landing .origin .origin (r.moves.map fun m => (m.1, f m.2)) p ≤
      Edit.landing .origin .origin ns q := by
  refine Edit.landing_le_landing_of_take (hadd.sublist hns.sublist)
    (fun n _ => n.1.span.start.origin_le) p.origin_le hpq ?_ fun n hn => ?_
  · rw [List.length_map]
    exact List.forall₂_map_left_iff.mpr hms
  · rw [List.length_map] at hn
    have hmem : n.1 ∈ (ns.map Prod.fst).drop r.moves.length := by
      rw [← List.map_drop]
      exact List.mem_map_of_mem hn
    exact hlag n.1 ((hns.drop _).subset hmem)

/-- Two parts of which the first one does not lag: its edges land in front of the second one. -/
theorem Under.landings_le (hunder : r.Under s) (hs : s.Handed es) (hadd : Edit.AddUp es)
    (hbefore : r.part.Before s.part) (hlag : ¬r.Lags es) :
    r.startLanding ≤ s.startLanding ∧ r.stopLanding ≤ s.startLanding := by
  have hns : (s.moves.map fun m => (m.1, m.2.movesStart)).map Prod.fst <+: es := by
    simpa [Function.comp_def] using hs.edits
  -- A part that does not lag has been handed all edits that begin in front of its end.
  have hbehind : ∀ e ∈ es.drop r.moves.length, r.part.range.stop ≤ e.span.start :=
    fun e he => not_lt.mp fun h => hlag ⟨e, he, h⟩
  have hle := r.part.range.start_le_stop
  constructor
  · refine landing_le_landing hadd hns (hle.trans hbefore) (fun e he => hle.trans (hbehind e he)) ?_
    rw [← List.map_take]
    refine List.forall₂_map_right_iff.mpr (hunder.imp fun m n h => ⟨h.1, fun hm => h.2 ?_⟩)
    cases hg : m.2 <;> simp_all [Growth.movesStart, Growth.movesStop]
  · refine landing_le_landing hadd hns hbefore hbehind ?_
    rw [← List.map_take]
    exact List.forall₂_map_right_iff.mpr hunder

section

variable (hr : r.Handed es) (hadd : Edit.AddUp es)

include hr hadd

/-- The shifts that a part is handed take its edges to their landings. -/
theorem Handed.takes (f : Growth → Bool) (hf : f .fixRight = true) (p : Position) :
    (Edit.edgeShift (r.moves.map fun m => (m.1, f m.2)) p).Takes p
      (Edit.landing .origin .origin (r.moves.map fun m => (m.1, f m.2)) p) := by
  have hmap : (r.moves.map fun m => (m.1, f m.2)).map Prod.fst = r.moves.map Prod.fst := by
    simp [Function.comp_def]
  refine Edit.takes_landing_origin (hmap ▸ hadd.sublist hr.edits.sublist) ?_ p
  exact List.pairwise_map.mpr (hr.pushed.imp fun h _ => by rw [h, hf])

theorem Handed.takes_start :
    (r.part.range.span.batchShift r.moves).1.Takes r.part.range.start r.startLanding := by
  rw [Span.batchShift_eq]
  exact hr.takes hadd Growth.movesStart rfl _

theorem Handed.takes_stop :
    (r.part.range.span.batchShift r.moves).2.Takes r.part.range.stop r.stopLanding := by
  rw [Span.batchShift_eq]
  exact hr.takes hadd Growth.movesStop rfl _

theorem Handed.stop_followed_le (hstart : r.startLanding ≤ q) (hstop : r.stopLanding ≤ q) :
    r.followed.range.stop ≤ q := by
  rw [followed, Part.follow]
  split_ifs with hm
  · rw [stopLanding, List.isEmpty_iff.mp hm, List.map_nil, landing_nil] at hstop
    exact hstop
  · exact max_le ((Position.moveBy_le (hr.takes_stop hadd)).trans hstop)
      ((Position.moveBy_le (hr.takes_start hadd)).trans hstart)

theorem Handed.start_followed (hfits : r.StartFits) :
    r.followed.range.start = r.startLanding := by
  rw [followed, Part.follow]
  split_ifs with hm
  · rw [startLanding, List.isEmpty_iff.mp hm, List.map_nil, landing_nil]
  · exact Position.moveBy_eq (hr.takes_start hadd) (hfits.addressable (hr.takes_start hadd))

/-- A part that does not lag lands in front of an edge behind it that follows the whole batch. -/
theorem Handed.landings_le_landing (hq : r.part.range.stop ≤ q) (hlag : ¬r.Lags es) :
    r.startLanding ≤ Edit.landing .origin .origin (es.map (·, true)) q ∧
      r.stopLanding ≤ Edit.landing .origin .origin (es.map (·, true)) q := by
  have hns : (es.map (·, true)).map Prod.fst <+: es := by simp [Function.comp_def]
  have hbehind : ∀ e ∈ es.drop r.moves.length, r.part.range.stop ≤ e.span.start :=
    fun e he => not_lt.mp fun h => hlag ⟨e, he, h⟩
  have hle := r.part.range.start_le_stop
  have hms : ∀ f : Growth → Bool, List.Forall₂
      (fun m n => m.1 = n.1 ∧ (f m.2 = true → n.2 = true)) r.moves
      ((es.map (·, true)).take r.moves.length) := by
    intro f
    have htake := List.prefix_iff_eq_take.mp hr.edits
    rw [List.length_map] at htake
    rw [← List.map_take, ← htake, List.map_map, List.forall₂_map_right_iff, List.forall₂_same]
    exact fun m _ => ⟨rfl, fun _ => rfl⟩
  exact ⟨landing_le_landing hadd hns (hle.trans hq) (fun e he => hle.trans (hbehind e he)) (hms _),
    landing_le_landing hadd hns hq hbehind (hms _)⟩

/-- An edge in front of a part that follows the whole batch, but no text inserted at it, lands in
front of the part. -/
theorem Handed.landing_le_startLanding (hp : p ≤ r.part.range.start) :
    Edit.landing .origin .origin (es.map (·, false)) p ≤ r.startLanding := by
  have hfst : ∀ l : List Edit, (l.map (·, false)).map Prod.fst = l := fun l => by
    simp [Function.comp_def]
  have htake := List.prefix_iff_eq_take.mp hr.edits
  rw [List.length_map] at htake
  have hunseen : ∀ n ∈ (es.drop r.moves.length).map (·, false),
      p ≤ n.1.span.stop ∧ n.2 = false := by
    intro n hn
    obtain ⟨e, he, rfl⟩ := List.mem_map.mp hn
    exact ⟨hp.trans (hr.rest e he), rfl⟩
  have hpair : (((es.take r.moves.length).map (·, false) ++
      (es.drop r.moves.length).map (·, false)).map Prod.fst).Pairwise Edit.Behind := by
    rw [← List.map_append, List.take_append_drop, hfst]
    exact hadd.2
  have hshort := Edit.landing_append_le (b := .origin) (fun m _ => m.1.span.start.origin_le)
    p.origin_le hpair hunseen
  rw [← List.map_append, List.take_append_drop] at hshort
  refine hshort.trans (Edit.landing_le_landing (fun m _ => m.1.span.start.origin_le) p.origin_le hp
    ?_ ?_)
  · rw [hfst]
    exact hadd.2.sublist (List.take_sublist _ _)
  · rw [← htake, List.map_map, List.forall₂_map_left_iff, List.forall₂_map_right_iff,
      List.forall₂_same]
    exact fun m _ => ⟨rfl, Bool.noConfusion⟩

end

end Routed

/-! ### One batch -/

namespace Expansion

variable {x : Expansion} {edits : List Edit}

/-- The parts are in document order inside the expansion: no part ends in front of its start or
behind the start of the next one, and none leaves the range of the expansion. -/
def InOrder (x : Expansion) : Prop :=
  (∀ q ∈ x.parts, q.range.start ≤ q.range.stop ∧ x.range.start ≤ q.range.start ∧
    q.range.stop ≤ x.range.stop) ∧ x.parts.Pairwise Part.Before

/-- The range of the expansion after a batch. -/
def rootAfter (x : Expansion) (edits : List Edit) : TrackedSpan :=
  x.range.update ((Edit.sortByStop edits).map (·, .grow))

/-- The end of the expansion moves to coordinates that can be stored. -/
def StopFits (x : Expansion) (edits : List Edit) : Prop :=
  (x.range.span.batchShift ((Edit.sortByStop edits).map (·, .grow))).2.Fits x.range.stop

/-- The seams that a batch endangers stay in order: those in front of or behind a part, if the
shifts of the batch do not add up, or the edge behind the seam leaves the range of coordinates, or
the part in front of it lags. -/
structure KeepsSeams (x : Expansion) (edits : List Edit) : Prop where
  start : ∀ r ∈ x.routed edits, ¬Edit.AddUp (Edit.sortByStop edits) ∨ ¬r.StartFits →
    (x.rootAfter edits).start ≤ r.followed.range.start
  between : (x.routed edits).Pairwise fun r s =>
    ¬Edit.AddUp (Edit.sortByStop edits) ∨ ¬s.StartFits ∨ r.Lags (Edit.sortByStop edits) →
      r.followed.range.stop ≤ s.followed.range.start
  stop : ∀ r ∈ x.routed edits, ¬Edit.AddUp (Edit.sortByStop edits) ∨ ¬x.StopFits edits ∨
    r.Lags (Edit.sortByStop edits) → r.followed.range.stop ≤ (x.rootAfter edits).stop

/-- The order after an update is that of the edges to which the batch takes the parts. -/
theorem inOrder_update (d : Document) :
    (x.update edits d).2.InOrder ↔
      (∀ r ∈ x.routed edits, (x.rootAfter edits).start ≤ r.followed.range.start ∧
        r.followed.range.stop ≤ (x.rootAfter edits).stop) ∧
      (x.routed edits).Pairwise fun r s => r.followed.range.stop ≤ s.followed.range.start := by
  have hranges : ∀ y : Expansion, y.InOrder ↔
      (∀ t ∈ y.parts.map Part.range, y.range.start ≤ t.start ∧ t.stop ≤ y.range.stop) ∧
        (y.parts.map Part.range).Pairwise fun t u => t.stop ≤ u.start := by
    intro y
    rw [InOrder, List.forall_mem_map, List.pairwise_map]
    exact and_congr_left' (forall₂_congr fun q _ => and_iff_right q.range.start_le_stop)
  rw [hranges, update_ranges, update_range, List.forall_mem_map, List.pairwise_map]
  rfl

theorem moves_ofPart {ps : List Part} :
    ∀ r ∈ ps.map Routed.ofPart, r.moves = Routed.pushes [] := by
  intro r hr
  obtain ⟨q, -, rfl⟩ := List.mem_map.mp hr
  rfl

theorem handed_routed (hadd : Edit.AddUp (Edit.sortByStop edits)) {r : Routed}
    (hr : r ∈ x.routed edits) : r.Handed (Edit.sortByStop edits) :=
  handed_route moves_ofPart hadd hr

theorem under_routed : (x.routed edits).Pairwise Routed.Under := under_route moves_ofPart

theorem pairwise_routed {R : Part → Part → Prop} (h : x.parts.Pairwise R) :
    (x.routed edits).Pairwise fun r s => R r.part s.part := by
  rw [← x.map_part_routed edits, List.pairwise_map] at h
  exact h

theorem part_mem_of_routed {r : Routed} (hr : r ∈ x.routed edits) : r.part ∈ x.parts :=
  x.map_part_routed edits ▸ List.mem_map_of_mem hr

/-! ### Seams that are not endangered -/

section

variable (hadd : Edit.AddUp (Edit.sortByStop edits))

include hadd

/-- The shifts of the whole batch take an edge of the expansion to its landing. -/
theorem takes_root (moves : Bool) (p : Position) :
    (Edit.edgeShift ((Edit.sortByStop edits).map (·, moves)) p).Takes p
      (Edit.landing .origin .origin ((Edit.sortByStop edits).map (·, moves)) p) := by
  have hmap : ((Edit.sortByStop edits).map (·, moves)).map Prod.fst = Edit.sortByStop edits := by
    simp [Function.comp_def]
  refine Edit.takes_landing_origin (hmap.symm ▸ hadd) ?_ p
  exact List.pairwise_map.mpr (List.pairwise_of_forall fun _ _ => id)

theorem rootAfter_start_le :
    (x.rootAfter edits).start ≤
      Edit.landing .origin .origin ((Edit.sortByStop edits).map (·, false)) x.range.start := by
  refine Position.moveBy_le ?_
  rw [Span.batchShift_eq, List.map_map]
  exact takes_root hadd false _

theorem le_rootAfter_stop (hfits : x.StopFits edits) :
    Edit.landing .origin .origin ((Edit.sortByStop edits).map (·, true)) x.range.stop ≤
      (x.rootAfter edits).stop := by
  have htakes : (x.range.span.batchShift ((Edit.sortByStop edits).map (·, .grow))).2.Takes
      x.range.stop
      (Edit.landing .origin .origin ((Edit.sortByStop edits).map (·, true)) x.range.stop) := by
    rw [Span.batchShift_eq, List.map_map, List.map_map]
    exact takes_root hadd true _
  exact (Position.moveBy_eq htakes (hfits.addressable htakes)).ge.trans (le_max_left _ _)

end

/-- **One batch.** A batch keeps the order of the parts if and only if it keeps the seams it
endangers. -/
theorem update_inOrder_iff (h : x.InOrder) (d : Document) :
    (x.update edits d).2.InOrder ↔ x.KeepsSeams edits := by
  rw [inOrder_update]
  constructor
  · rintro ⟨hroot, hparts⟩
    refine ⟨fun r hr _ => (hroot r hr).1, ?_, fun r hr _ => (hroot r hr).2⟩
    refine List.Pairwise.imp ?_ hparts
    intro r s hle _
    exact hle
  intro hkeeps
  refine ⟨fun r hr => ⟨?_, ?_⟩, ?_⟩
  · -- The seam between the start of the expansion and a part.
    by_cases hsafe : Edit.AddUp (Edit.sortByStop edits) ∧ r.StartFits
    · obtain ⟨hadd, hfits⟩ := hsafe
      have hhanded := handed_routed hadd hr
      rw [hhanded.start_followed hadd hfits]
      exact (rootAfter_start_le hadd).trans
        (hhanded.landing_le_startLanding hadd (h.1 _ (part_mem_of_routed hr)).2.1)
    · exact hkeeps.start r hr (not_and_or.mp hsafe)
  · -- The seam between a part and the end of the expansion.
    by_cases hsafe : Edit.AddUp (Edit.sortByStop edits) ∧ x.StopFits edits ∧
        ¬r.Lags (Edit.sortByStop edits)
    · obtain ⟨hadd, hfits, hlag⟩ := hsafe
      have hhanded := handed_routed hadd hr
      have hland := hhanded.landings_le_landing hadd (h.1 _ (part_mem_of_routed hr)).2.2 hlag
      exact (hhanded.stop_followed_le hadd hland.1 hland.2).trans (le_rootAfter_stop hadd hfits)
    · refine hkeeps.stop r hr ?_
      rwa [not_and_or, not_and_or, not_not] at hsafe
  · -- The seam between two parts.
    refine (List.pairwise_and_iff.mpr ⟨hkeeps.between, List.pairwise_and_iff.mpr
      ⟨under_routed, pairwise_routed h.2⟩⟩).imp_of_mem ?_
    rintro r s hr hs ⟨hkeep, hunder, hbefore⟩
    by_cases hsafe : Edit.AddUp (Edit.sortByStop edits) ∧ s.StartFits ∧
        ¬r.Lags (Edit.sortByStop edits)
    · obtain ⟨hadd, hfits, hlag⟩ := hsafe
      have hland := hunder.landings_le (handed_routed hadd hs) hadd hbefore hlag
      rw [(handed_routed hadd hs).start_followed hadd hfits]
      exact (handed_routed hadd hr).stop_followed_le hadd hland.1 hland.2
    · refine hkeep ?_
      rwa [not_and_or, not_and_or, not_not] at hsafe

/-- A batch that endangers no seam: its shifts add up, no edge leaves the range of coordinates, and
no part lags. -/
structure Safe (x : Expansion) (edits : List Edit) : Prop where
  addUp : Edit.AddUp (Edit.sortByStop edits)
  startFits : ∀ r ∈ x.routed edits, r.StartFits
  stopFits : x.StopFits edits
  keepsUp : ∀ r ∈ x.routed edits, ¬r.Lags (Edit.sortByStop edits)

/-- A batch that endangers no seam keeps them all. -/
theorem Safe.keepsSeams (h : x.Safe edits) : x.KeepsSeams edits := by
  refine ⟨fun r hr hdanger => ?_, ?_, fun r hr hdanger => ?_⟩
  · rcases hdanger with hadd | hfits
    · exact absurd h.addUp hadd
    · exact absurd (h.startFits r hr) hfits
  · refine (List.pairwise_of_forall_mem_list fun r hr s hs hdanger => ?_)
    rcases hdanger with hadd | hfits | hlags
    · exact absurd h.addUp hadd
    · exact absurd (h.startFits s hs) hfits
    · exact absurd hlags (h.keepsUp r hr)
  · rcases hdanger with hadd | hfits | hlags
    · exact absurd h.addUp hadd
    · exact absurd h.stopFits hfits
    · exact absurd hlags (h.keepsUp r hr)

/-- So it keeps the order of the parts. -/
theorem Safe.inOrder (h : x.InOrder) (hsafe : x.Safe edits) (d : Document) :
    (x.update edits d).2.InOrder := (update_inOrder_iff h d).mpr hsafe.keepsSeams

/-- An edit that endangers no seam: no part ends strictly inside it, and the coordinates can be
stored. -/
structure SafeEdit (x : Expansion) (e : Edit) : Prop where
  start_le_stop : e.span.start ≤ e.span.stop
  outside : ∀ q ∈ x.parts, ¬(e.span.start < q.range.stop ∧ q.range.stop < e.span.stop)
  startFits : ∀ r ∈ x.routed [e], r.StartFits
  stopFits : x.StopFits [e]

/-- A batch of one edit is safe if the edit is. -/
theorem safe_singleton {e : Edit} (h : x.InOrder) (he : x.SafeEdit e) : x.Safe [e] := by
  have hsort : Edit.sortByStop [e] = [e] := List.mergeSort_singleton e
  refine ⟨?_, he.startFits, he.stopFits, fun r hr hlags => ?_⟩
  · rw [hsort]
    exact ⟨by simpa using he.start_le_stop, List.pairwise_singleton _ _⟩
  · rw [hsort] at hlags
    obtain ⟨f, hf, hlt⟩ := hlags
    obtain ⟨i, hi⟩ := List.getElem?_of_mem hr
    have hpart : x.parts[i]? = some r.part := by
      rw [← x.map_part_routed [e], List.getElem?_map, hi, Option.map_some]
    obtain ⟨r', hr', -, hfate⟩ := fate_of_route_singleton x.absorbs e h.2 hpart
    rw [routed, hsort, hr'] at hi
    obtain rfl := Option.some.inj hi
    generalize hmoves : r'.moves = ms at hf hfate
    cases hfate with
    | passed hpassed =>
      obtain rfl := List.mem_singleton.mp hf
      exact he.outside _ (part_mem_of_routed hr) ⟨hlt, hpassed⟩
    | absorbed => simp at hf
    | offered => simp at hf
    | pushed => simp at hf

end Expansion

/-! ### Layout -/

namespace Layout

variable {l : Layout} {start : Position} {indent : Nat}

theorem le_advance (p : Position) (t : Text) (indent : Nat) : p ≤ p.advance t indent := by
  rw [Position.le_iff]
  simp only [Position.advance]
  split_ifs with hbreaks
  · dsimp only
    omega
  · dsimp only
    omega

/-- What is laid out from a position on stands in document order between that position and the
cursor. -/
structure InOrder (start : Position) (l : Layout) : Prop where
  start_le : start ≤ l.cursor
  inside : ∀ q ∈ l.parts, start ≤ q.range.start ∧ q.range.stop ≤ l.cursor
  ordered : l.parts.Pairwise Part.Before

/-- More text keeps the order. -/
theorem InOrder.move {cursor : Position} {snippet : Text} {ids : List Nat} (h : l.InOrder start)
    (hle : l.cursor ≤ cursor) : InOrder start ⟨cursor, snippet, l.parts, ids⟩ :=
  ⟨h.start_le.trans hle, fun q hq => ⟨(h.inside q hq).1, (h.inside q hq).2.trans hle⟩, h.ordered⟩

/-- One more part that begins at the cursor keeps the order. -/
theorem InOrder.snoc {cursor : Position} {snippet : Text} {ids : List Nat} {q : Part}
    (h : l.InOrder start) (hq : q.range.start = l.cursor) (hle : q.range.stop ≤ cursor) :
    InOrder start ⟨cursor, snippet, l.parts ++ [q], ids⟩ := by
  have hcursor : l.cursor ≤ cursor := (hq.ge.trans q.range.start_le_stop).trans hle
  refine ⟨h.start_le.trans hcursor, ?_, ?_⟩
  · intro r hr
    rcases List.mem_append.mp hr with hr | hr
    · exact ⟨(h.inside r hr).1, (h.inside r hr).2.trans hcursor⟩
    · obtain rfl := List.mem_singleton.mp hr
      exact ⟨hq ▸ h.start_le, hle⟩
  · refine List.pairwise_append.mpr ⟨h.ordered, List.pairwise_singleton _ _, ?_⟩
    intro r hr s hs
    obtain rfl := List.mem_singleton.mp hs
    exact (h.inside r hr).2.trans_eq hq.symm

theorem InOrder.addPiece (h : l.InOrder start) (piece : Marker.Piece) :
    (l.addPiece indent piece).InOrder start := by
  cases piece with
  | text run => exact h.move (le_advance _ _ _)
  | dollar => exact h.move (le_advance _ _ _)
  | marker id =>
    rw [Layout.addPiece]
    split_ifs
    · exact h
    · exact h.snoc rfl (max_le le_rfl le_rfl)

theorem InOrder.addSegment (h : l.InOrder start) (selected : Text) (blocks : List Text)
    (segment : Segment) : (l.addSegment indent selected blocks segment).InOrder start := by
  cases segment with
  | block index =>
    rw [Layout.addSegment]
    cases blocks[index]? with
    | none => exact h
    | some output => exact h.snoc rfl (max_le le_rfl (le_advance _ _ _))
  | text run =>
    have hpieces : ∀ (pieces : List Marker.Piece) (l : Layout), l.InOrder start →
        (pieces.foldl (Layout.addPiece indent) l).InOrder start := by
      intro pieces
      induction pieces with
      | nil => exact fun _ h => h
      | cons piece pieces ih => exact fun _ h => ih _ (h.addPiece piece)
    exact (hpieces _ l h).move le_rfl

/-- An output is laid out in order. -/
theorem inOrder_ofOutput (p : Position) (indent : Nat) (selected : Text)
    (output : GeneratorOutput) : (ofOutput p indent selected output).InOrder p := by
  rw [ofOutput]
  have hstart : (Layout.start p).InOrder p := ⟨le_rfl, by simp [Layout.start], .nil⟩
  generalize Layout.start p = l at hstart
  induction output.segments generalizing l with
  | nil => exact hstart
  | cons segment segments ih => exact ih _ (hstart.addSegment selected output.blocks segment)

end Layout

namespace Expansion

/-! ### Runs -/

/-- What happens to an expansion: a batch, with the document after it, or another placeholder is
selected. -/
inductive Event
  | batch (edits : List Edit) (d : Document)
  | next
  | prev

/-- The expansion after an event. -/
def after (x : Expansion) : Event → Expansion
  | .batch edits d => (x.update edits d).2
  | .next => x.next
  | .prev => x.prev

/-- The expansion after some events. -/
def run (x : Expansion) (events : List Event) : Expansion := events.foldl after x

theorem run_concat (x : Expansion) (events : List Event) (e : Event) :
    x.run (events ++ [e]) = (x.run events).after e := by
  rw [run, List.foldl_append]
  rfl

section

variable {x : Expansion} (h : x.InOrder) {events : List Event}

include h

/-- A run keeps the order if each batch of it does. -/
theorem run_inOrder_of_update
    (hupdate : ∀ done edits d rest, events = done ++ .batch edits d :: rest →
      (x.run done).InOrder → ((x.run done).update edits d).2.InOrder) :
    ∀ done rest, events = done ++ rest → (x.run done).InOrder := by
  intro done
  induction done using List.reverseRecOn with
  | nil => exact fun _ _ => h
  | append_singleton done e ih =>
    intro rest hevents
    rw [List.append_assoc] at hevents
    have hbefore := ih _ hevents
    rw [run_concat]
    cases e with
    | batch edits d => exact hupdate done edits d rest hevents hbefore
    | next => exact hbefore
    | prev => exact hbefore

/-- A run keeps the order if and only if every batch of it keeps the seams it endangers. -/
theorem run_inOrder_iff_of_inOrder :
    (∀ done rest, events = done ++ rest → (x.run done).InOrder) ↔
      ∀ done edits d rest, events = done ++ .batch edits d :: rest →
        (x.run done).KeepsSeams edits := by
  constructor
  · intro hall done edits d rest hevents
    have hafter := hall (done ++ [.batch edits d]) rest (by simp [hevents])
    rw [run_concat] at hafter
    exact (update_inOrder_iff (hall done _ hevents) d).mp hafter
  · intro hkeeps
    refine run_inOrder_of_update h fun done edits d rest hevents hbefore => ?_
    exact (update_inOrder_iff hbefore d).mpr (hkeeps done edits d rest hevents)

/-- A run of safe batches keeps the order. Each batch has to be safe only if the parts are in order
in front of it. -/
theorem run_inOrder_of_safe
    (hsafe : ∀ done edits d rest, events = done ++ .batch edits d :: rest →
      (x.run done).InOrder → (x.run done).Safe edits) :
    ∀ done rest, events = done ++ rest → (x.run done).InOrder :=
  run_inOrder_of_update h fun done edits d rest hevents hbefore =>
    (hsafe done edits d rest hevents hbefore).inOrder hbefore d

end

theorem inOrder_place (t : Template) (r : ExpansionRequest) (indent : Nat)
    (output : GeneratorOutput) : (place t r indent output).InOrder := by
  have h := Layout.inOrder_ofOutput r.position indent r.selectedText output
  refine ⟨fun q hq => ⟨q.range.start_le_stop, (h.inside q hq).1, ?_⟩, h.ordered⟩
  exact (h.inside q hq).2.trans (le_max_left _ _)

/-- The parts of a new expansion are in order. -/
theorem inOrder_new (t : Template) (r : ExpansionRequest) (d : Document) :
    (new t r d).1.InOrder := by
  rw [new]
  split <;> exact inOrder_place _ _ _ _

/-- **Order along a run.** The parts of an expansion stay in document order all along a run if and
only if every batch of the run keeps the seams it endangers. -/
theorem run_inOrder_iff (t : Template) (r : ExpansionRequest) (d : Document) (events : List Event) :
    (∀ done rest, events = done ++ rest → ((new t r d).1.run done).InOrder) ↔
      ∀ done edits d' rest, events = done ++ .batch edits d' :: rest →
        ((new t r d).1.run done).KeepsSeams edits :=
  run_inOrder_iff_of_inOrder (inOrder_new t r d)

/-- A new expansion into whose document one safe edit after the other is made stays in order. -/
theorem run_inOrder_of_safeEdit (t : Template) (r : ExpansionRequest) (d : Document)
    {events : List Event}
    (hsafe : ∀ done edits d' rest, events = done ++ .batch edits d' :: rest →
      ∃ e, edits = [e] ∧ ((new t r d).1.run done).SafeEdit e) :
    ∀ done rest, events = done ++ rest → ((new t r d).1.run done).InOrder := by
  refine run_inOrder_of_safe (inOrder_new t r d) fun done edits d' rest hevents hbefore => ?_
  obtain ⟨e, rfl, he⟩ := hsafe done edits d' rest hevents
  exact safe_singleton hbefore he

/-- A template of three placeholders with letters between them. -/
def stopsTemplate : Template where
  trigger := .literal "stops".toList
  description := []
  flags := .empty
  priority := 0
  placeholderCount := 3
  contextFilter := none
  generator := ⟨[.text "$1abc$2def$3".toList], 0, fun _ => .ok []⟩
  line := 1

/-- The three placeholders in an empty document. -/
def threeStops : Expansion :=
  (new stopsTemplate ⟨.origin, [], [], [], []⟩ (Buffer.document ⟨[]⟩)).1

/-- A deletion that begins in front of the second placeholder and ends at the third one leaves the
second one behind it. -/
theorem not_inOrder_threeStops :
    threeStops.InOrder ∧
      renderSnippet threeStops.snippet [] = "abcdef".toList ∧
      (⟨"abcdef".toList⟩ : Buffer).apply [.delete ⟨⟨0, 1⟩, ⟨0, 6⟩⟩] = .ok ⟨['a']⟩ ∧
      ¬(threeStops.run [.batch [.delete ⟨⟨0, 1⟩, ⟨0, 6⟩⟩] (Buffer.document ⟨['a']⟩)]).InOrder := by
  refine ⟨inOrder_new _ _ _, by decide +kernel, by decide +kernel, ?_⟩
  intro h
  exact absurd h.2 (by decide +kernel)

end Expansion

end LiveSnippet
