import LiveSnippet.Proofs.Session.Handing
import LiveSnippet.Proofs.Session.Page
import LiveSnippet.Proofs.Text.Patch

/-!
# Tracking a page

The parts of an expansion are in step with a page if each of them has the place that the fields in
front of it leave for its field. Two kinds of batches keep them so. An edit of the user goes into
the selected placeholder, which absorbs it. Corrective edits go to the blocks; each is absorbed by
the block it replaces, because a literal character at least stands between any two blocks and
nothing else absorbs while corrective edits are under way.

## Main definitions

* `Part.ofTexts`, `Field.parts`: the parts of fields, placed by what the fields show
* `Field.patch`: a field whose block is replaced

## Main results

* `Field.follow_pushes`: parts behind all edits keep their distances
* `Field.route_edit`: an edit of the user
* `Field.route_corrections`: corrective edits
-/

namespace LiveSnippet

/-- The part of a text between `pre` and what follows. -/
def Part.ofTexts (kind : PartKind) (pre mid content : Text) : Part :=
  ⟨kind, ⟨⟨pre.endPosition, Text.endPosition (pre ++ mid)⟩, Text.endPosition_le_append pre mid⟩,
    content⟩

namespace Field

/-- What kind of part a field is. -/
def kind? : Field → Option PartKind
  | literal _ => none
  | placeholder id => some (.placeholder id)
  | block index => some (.block index)

/-- The parts of fields behind the text `pre`, placed by what the fields show. -/
def parts (shown content : Field → Text) (pre : Text) : List Field → List Part
  | [] => []
  | f :: rest =>
    match f.kind? with
    | none => parts shown content (pre ++ shown f) rest
    | some kind =>
      Part.ofTexts kind pre (shown f) (content f) :: parts shown content (pre ++ shown f) rest

variable {shown shown' content content' : Field → Text} {pre pre' : Text} {f : Field}
  {fs gs : List Field} {kind : PartKind} {q : Part}

theorem kind?_eq_some_placeholder_iff {id : Nat} :
    f.kind? = some (.placeholder id) ↔ f = placeholder id := by
  cases f <;> simp [kind?]

theorem kind?_eq_some_block_iff {index : Nat} :
    f.kind? = some (.block index) ↔ f = block index := by
  cases f <;> simp [kind?]

theorem parts_cons_none (h : f.kind? = none) :
    parts shown content pre (f :: fs) = parts shown content (pre ++ shown f) fs := by
  rw [parts, h]

theorem parts_cons_some (h : f.kind? = some kind) :
    parts shown content pre (f :: fs) =
      Part.ofTexts kind pre (shown f) (content f) :: parts shown content (pre ++ shown f) fs := by
  rw [parts, h]

theorem parts_append :
    parts shown content pre (fs ++ gs) =
      parts shown content pre fs ++ parts shown content (pre ++ fs.flatMap shown) gs := by
  induction fs generalizing pre with
  | nil => simp [parts]
  | cons f fs ih =>
    cases hk : f.kind? with
    | none => simp [parts_cons_none hk, ih]
    | some kind => simp [parts_cons_some hk, ih]

theorem parts_congr (h : ∀ f ∈ fs, shown f = shown' f ∧ content f = content' f) :
    parts shown content pre fs = parts shown' content' pre fs := by
  induction fs generalizing pre with
  | nil => rfl
  | cons f fs ih =>
    obtain ⟨⟨hshown, hcontent⟩, hfs⟩ := List.forall_mem_cons.mp h
    cases hk : f.kind? with
    | none => rw [parts_cons_none hk, parts_cons_none hk, hshown, ih hfs]
    | some kind => rw [parts_cons_some hk, parts_cons_some hk, hshown, hcontent, ih hfs]

/-- A part comes from a field, and stands behind what the fields in front of it show. -/
theorem exists_append_of_mem_parts (h : q ∈ parts shown content pre fs) :
    ∃ before f behind, fs = before ++ f :: behind ∧ f.kind? = some q.kind ∧
      q = Part.ofTexts q.kind (pre ++ before.flatMap shown) (shown f) (content f) := by
  induction fs generalizing pre with
  | nil => simp [parts] at h
  | cons f fs ih =>
    have hrest (hq : q ∈ parts shown content (pre ++ shown f) fs) :
        ∃ before g behind, f :: fs = before ++ g :: behind ∧ g.kind? = some q.kind ∧
          q = Part.ofTexts q.kind (pre ++ before.flatMap shown) (shown g) (content g) := by
      obtain ⟨before, g, behind, rfl, hkind, hg⟩ := ih hq
      refine ⟨f :: before, g, behind, rfl, hkind, ?_⟩
      rwa [List.flatMap_cons, ← List.append_assoc]
    cases hk : f.kind? with
    | none => exact hrest (parts_cons_none hk ▸ h)
    | some kind =>
      rw [parts_cons_some hk, List.mem_cons] at h
      rcases h with rfl | h
      · exact ⟨[], f, fs, rfl, hk, by simp [Part.ofTexts]⟩
      · exact hrest h

/-- A part comes from a field, and stands behind the text in front. -/
theorem exists_of_mem_parts (h : q ∈ parts shown content pre fs) :
    ∃ f ∈ fs, f.kind? = some q.kind ∧ q.content = content f ∧ pre.endPosition ≤ q.range.start := by
  obtain ⟨before, f, behind, rfl, hkind, hq⟩ := exists_append_of_mem_parts h
  refine ⟨f, List.mem_append_right _ List.mem_cons_self, hkind, ?_, ?_⟩
  · rw [hq, Part.ofTexts]
  · rw [hq]
    exact Text.endPosition_le_append _ _

/-- The fields that are placeholders or blocks have parts. -/
theorem exists_mem_parts (hf : f ∈ fs) (hkind : f.kind? = some kind) :
    ∃ q ∈ parts shown content pre fs, q.kind = kind := by
  obtain ⟨before, behind, rfl⟩ := List.append_of_mem hf
  rw [parts_append, parts_cons_some hkind]
  exact ⟨_, List.mem_append_right _ List.mem_cons_self, rfl⟩

end Field

/-! ### Following edits -/

section

variable {kind : PartKind} {pre pre' mid mid' content : Text} {ms : List (Edit × Growth)}

/-- A part follows its edits to the places to which they take its edges. -/
theorem Part.follow_ofTexts
    (hstart : (Edit.edgeShift (ms.map fun m => (m.1, m.2.movesStart)) pre.endPosition).Takes
      pre.endPosition pre'.endPosition)
    (hstop : (Edit.edgeShift (ms.map fun m => (m.1, m.2.movesStop))
      (Text.endPosition (pre ++ mid))).Takes (Text.endPosition (pre ++ mid))
      (Text.endPosition (pre' ++ mid')))
    (haddr : pre'.endPosition.Addressable)
    (haddr' : (Text.endPosition (pre' ++ mid')).Addressable) :
    (Part.ofTexts kind pre mid content).follow ms = Part.ofTexts kind pre' mid' content := by
  rw [follow]
  split_ifs with hms
  · rw [List.isEmpty_iff.mp hms] at hstart hstop
    simp only [ofTexts, Shift.takes_zero_iff.mp hstart, Shift.takes_zero_iff.mp hstop]
  · have hfollow : (⟨pre.endPosition, Text.endPosition (pre ++ mid)⟩ : Span).follow ms =
        ⟨pre'.endPosition, Text.endPosition (pre' ++ mid')⟩ := by
      refine Span.follow_eq ?_ ?_ (Text.endPosition_le_append _ _) haddr haddr'
      · rwa [Span.batchShift_eq]
      · rwa [Span.batchShift_eq]
    simp only [ofTexts, TrackedSpan.update, hfollow]

end

/-- One more edit is carried along, if it is the first one or stays on its line. -/
theorem Edit.Carries.snoc_text {pre pre' c o : Text} {done : List Edit} {e : Edit}
    (hcarry : Edit.Carries done pre.endPosition pre'.endPosition)
    (hspan : e.span = ⟨Text.endPosition (pre ++ c), Text.endPosition (pre ++ (c ++ o))⟩)
    (hfirst : e.Inline ∨ pre' = pre) :
    Edit.Carries (done ++ [e]) (Text.endPosition (pre ++ (c ++ o)))
      (Text.endPosition (pre' ++ (c ++ e.text))) := by
  have hstart : e.span.start = pre.endPosition + c.extent := by
    rw [hspan]
    exact Text.endPosition_append pre c
  have hstop : e.span.stop = pre.endPosition + c.extent + o.extent := by
    rw [hspan, Position.add_assoc, ← Text.extent_append]
    exact Text.endPosition_append pre (c ++ o)
  have hsnoc := hcarry.snoc hstart hstop (hfirst.imp_right fun h => by rw [h])
  simpa only [Text.endPosition_append, Text.extent_append, Position.add_assoc] using hsnoc

namespace Field

open Routed

section

variable {kind : PartKind} {pre pre' text : Text} {done : List Edit}
  (hcarry : Edit.Carries done pre.endPosition pre'.endPosition)
  (hdone : ∀ e ∈ done, e.span.stop ≤ pre.endPosition)

include hcarry hdone

/-- The edits in front of a place take everything behind it along. -/
theorem takes_pushes (f : Growth → Bool) (hf : f .fixRight = true) (mid : Text) :
    (Edit.edgeShift ((pushes done).map fun m => (m.1, f m.2)) (Text.endPosition (pre ++ mid))).Takes
      (Text.endPosition (pre ++ mid)) (Text.endPosition (pre' ++ mid)) := by
  have hmap : ((pushes done).map fun m => (m.1, f m.2)) = done.map (·, true) := by
    simp [pushes, Function.comp_def, hf]
  rw [hmap, Edit.edgeShift_of_le fun e he => (hdone e he).trans (Text.endPosition_le_append _ _)]
  simpa only [Text.endPosition_append] using hcarry mid.extent

/-- The carried edits with more text in front of the place. -/
theorem carries_append (mid : Text) :
    Edit.Carries done (Text.endPosition (pre ++ mid)) (Text.endPosition (pre' ++ mid)) ∧
      ∀ e ∈ done, e.span.stop ≤ Text.endPosition (pre ++ mid) := by
  refine ⟨fun x => ?_, fun e he => (hdone e he).trans (Text.endPosition_le_append _ _)⟩
  simpa only [Text.endPosition_append, Position.add_assoc] using hcarry (mid.extent + x)

/-- A part behind all edits moves on as a whole. -/
theorem follow_pushed {mid : Text} (haddr : Text.Addressable (pre' ++ mid)) :
    (Part.ofTexts kind pre mid text).follow (pushes done) = Part.ofTexts kind pre' mid text := by
  have hedge := takes_pushes hcarry hdone
  refine Part.follow_ofTexts ?_ (hedge Growth.movesStop rfl mid) (haddr _ (List.prefix_append _ _))
    (haddr _ List.prefix_rfl)
  simpa only [List.append_nil] using hedge Growth.movesStart rfl []

/-- So does one that is offered one more edit at its end. -/
theorem follow_offered {mid : Text} {e : Edit} (haddr : Text.Addressable (pre' ++ mid))
    (hle : Text.endPosition (pre ++ mid) ≤ e.span.start) (he : e.span.start ≤ e.span.stop) :
    (Part.ofTexts kind pre mid text).follow (pushes done ++ [(e, .fixLeft)]) =
      Part.ofTexts kind pre' mid text := by
  have hedge := takes_pushes hcarry hdone
  -- The end of the part does not move on, though the edit may be an insertion right there.
  have hzero : ∀ p ≤ Text.endPosition (pre ++ mid), e.shiftEdge p false = 0 := fun p hp =>
    Edit.shiftEdge_before (by simpa using (hp.trans hle).trans he) (not_lt.mpr (hp.trans hle))
  have hstart : e.shiftEdge pre.endPosition Growth.fixLeft.movesStart = 0 :=
    hzero _ (Text.endPosition_le_append _ _)
  have hstop : e.shiftEdge (Text.endPosition (pre ++ mid)) Growth.fixLeft.movesStop = 0 :=
    hzero _ le_rfl
  refine Part.follow_ofTexts ?_ ?_ (haddr _ (List.prefix_append _ _)) (haddr _ List.prefix_rfl)
  · rw [List.map_append, Edit.edgeShift_append, List.map_singleton, Edit.edgeShift_singleton,
      hstart, add_zero]
    simpa only [List.append_nil] using hedge Growth.movesStart rfl []
  · rw [List.map_append, Edit.edgeShift_append, List.map_singleton, Edit.edgeShift_singleton,
      hstop, add_zero]
    exact hedge Growth.movesStop rfl mid

/-- A part that absorbs an edit at its end, or of its whole text, takes in the new text. -/
theorem follow_absorbed {c o u : Text} {e : Edit}
    (hspan : e.span = ⟨Text.endPosition (pre ++ c), Text.endPosition (pre ++ (c ++ o))⟩)
    (haddr : Text.Addressable (pre' ++ (c ++ u)))
    (hsnoc : Edit.Carries (done ++ [e]) (Text.endPosition (pre ++ (c ++ o)))
      (Text.endPosition (pre' ++ (c ++ u)))) :
    (Part.ofTexts kind pre (c ++ o) text).follow (pushes done ++ [(e, .grow)]) =
      Part.ofTexts kind pre' (c ++ u) text := by
  have hedge := takes_pushes hcarry hdone
  have hstart : e.shiftEdge pre.endPosition Growth.grow.movesStart = 0 := by
    have hle : pre.endPosition ≤ e.span.start := hspan ▸ Text.endPosition_le_append _ _
    have hle' : pre.endPosition ≤ e.span.stop := hspan ▸ Text.endPosition_le_append _ _
    exact Edit.shiftEdge_before (by simpa [Growth.movesStart] using hle') (not_lt.mpr hle)
  have hstop : e.shiftEdge (Text.endPosition (pre ++ (c ++ o))) Growth.grow.movesStop =
      e.carry (Text.endPosition (pre ++ (c ++ o))) :=
    Edit.shiftEdge_behind (Or.inr ⟨by rw [hspan], rfl⟩)
  refine Part.follow_ofTexts ?_ ?_ (haddr _ (List.prefix_append _ _)) (haddr _ List.prefix_rfl)
  · rw [List.map_append, Edit.edgeShift_append, List.map_singleton, Edit.edgeShift_singleton,
      hstart, add_zero]
    simpa only [List.append_nil] using hedge Growth.movesStart rfl []
  · have hmap : ((pushes done).map fun m => (m.1, m.2.movesStop)) = done.map (·, true) := by
      simp [pushes, Function.comp_def, Growth.movesStop]
    have hall : ∀ f ∈ done, f.span.stop ≤ Text.endPosition (pre ++ (c ++ o)) :=
      fun f hf => (hdone f hf).trans (Text.endPosition_le_append _ _)
    have htakes := hsnoc 0
    rw [Position.add_zero, Position.add_zero, Edit.carrySum_append, Edit.carrySum_cons,
      Edit.carrySum_nil, add_zero] at htakes
    rw [List.map_append, Edit.edgeShift_append, List.map_singleton, Edit.edgeShift_singleton,
      hstop, hmap, Edit.edgeShift_of_le hall]
    exact htakes

end

/-- A part that has been pushed on by some edits. -/
def pushed (done : List Edit) (q : Part) : Routed := ⟨q, pushes done, false⟩

variable {absorbs : Edit → Part → Bool} {shown shown' content : Field → Text} {pre pre' : Text}
  {f : Field} {fs gs : List Field} {kind : PartKind} {done es : List Edit} {e : Edit}

theorem map_give_pushed (ps : List Part) :
    (ps.map (pushed done)).map (·.give e .fixRight) = ps.map (pushed (done ++ [e])) := by
  rw [List.map_map]
  refine List.map_congr_left fun q _ => ?_
  rw [Function.comp_apply, pushed, pushed, give, pushes_snoc]

/-- The parts behind all edits move on as a whole. -/
theorem follow_pushes (hcarry : Edit.Carries done pre.endPosition pre'.endPosition)
    (hdone : ∀ e ∈ done, e.span.stop ≤ pre.endPosition)
    (haddr : Text.Addressable (pre' ++ fs.flatMap shown)) :
    ((parts shown content pre fs).map (pushed done)).map followed =
      parts shown content pre' fs := by
  induction fs generalizing pre pre' with
  | nil => rfl
  | cons f fs ih =>
    rw [List.flatMap_cons, ← List.append_assoc] at haddr
    obtain ⟨hcarry', hdone'⟩ := carries_append hcarry hdone (shown f)
    have hrest := ih hcarry' hdone' haddr
    cases hk : f.kind? with
    | none => rwa [parts_cons_none hk, parts_cons_none hk]
    | some kind =>
      rw [parts_cons_some hk, parts_cons_some hk, List.map_cons, List.map_cons, hrest]
      refine congrArg (· :: _) (follow_pushed hcarry hdone fun s hs => haddr s ?_)
      exact hs.trans (List.prefix_append _ _)

/-- A part that ends in front of the edits to come, or at the first of them without absorbing it,
stays where it is, and they go on to the other parts. -/
theorem route_cons_of_behind (absorbs : Edit → Part → Bool) (q : Part) {rs : List Routed}
    (hes : ∀ e ∈ es, q.range.stop ≤ e.span.start ∧ e.span.start ≤ e.span.stop)
    (hrs : ∀ r ∈ rs, q.range.stop ≤ r.part.range.stop)
    (habs : ∀ e ∈ es.head?, e.span.stop ≤ q.range.stop → absorbs e q = false) :
    ∃ r : Routed, route absorbs es (pushed done q :: rs) = r :: route absorbs es rs ∧
      r.touched = false ∧ (r = pushed done q ∨ ∃ e ∈ es, r = (pushed done q).give e .fixLeft) := by
  cases es with
  | nil => exact ⟨_, rfl, rfl, Or.inl rfl⟩
  | cons e es =>
    obtain ⟨hle, hspan⟩ := hes e List.mem_cons_self
    by_cases hlt : q.range.stop < e.span.stop
    · exact ⟨_, route_cons_of_lt hlt, rfl, Or.inl rfl⟩
    · have hstop := not_lt.mp hlt
      have hcov : q.range.covers e.span = true :=
        TrackedSpan.covers_iff.mpr ⟨q.range.start_le_stop.trans hle, hstop⟩
      have hnext : route absorbs (e :: es) (pushed done q :: rs) =
          (pushed done q).give e .fixLeft :: route absorbs (e :: es) rs :=
        route_cons_of_offered hcov (habs e rfl hstop)
          fun s hs => hstop.trans (hrs s hs)
      exact ⟨_, hnext, rfl, Or.inr ⟨e, List.mem_cons_self, rfl⟩⟩

/-- Such a part follows the edits in front of it only. -/
theorem followed_of_behind {mid text : Text} {r : Routed}
    (hcarry : Edit.Carries done pre.endPosition pre'.endPosition)
    (hdone : ∀ e ∈ done, e.span.stop ≤ pre.endPosition)
    (haddr : Text.Addressable (pre' ++ mid))
    (hes : ∀ e ∈ es, Text.endPosition (pre ++ mid) ≤ e.span.start ∧ e.span.start ≤ e.span.stop)
    (hr : r = pushed done (Part.ofTexts kind pre mid text) ∨
      ∃ e ∈ es, r = (pushed done (Part.ofTexts kind pre mid text)).give e .fixLeft) :
    r.followed = Part.ofTexts kind pre' mid text := by
  rcases hr with rfl | ⟨e, he, rfl⟩
  · exact follow_pushed hcarry hdone haddr
  · exact follow_offered hcarry hdone haddr (hes e he).1 (hes e he).2

/-- A part behind a text does not end in front of it. -/
theorem stop_le_of_mem_pushed {r : Routed}
    (hr : r ∈ (parts shown content pre fs).map (pushed done)) :
    pre.endPosition ≤ r.part.range.stop := by
  obtain ⟨q, hq, rfl⟩ := List.mem_map.mp hr
  obtain ⟨_, -, -, -, hle⟩ := exists_of_mem_parts hq
  exact hle.trans q.range.start_le_stop

/-! ### An edit of the user -/

/-- An edit in the part of a field that absorbs it, at its end or of its whole text. The parts in
front stay, the field shows the new text, and the parts behind move on. -/
theorem route_edit {c o : Text} (hkind : f.kind? = some kind) (hf : shown f = c ++ o)
    (hspan : e.span = ⟨Text.endPosition (pre ++ fs.flatMap shown ++ c),
      Text.endPosition (pre ++ fs.flatMap shown ++ (c ++ o))⟩)
    (hno : ∀ q ∈ parts shown content pre fs, absorbs e q = false)
    (habs : absorbs e (Part.ofTexts kind (pre ++ fs.flatMap shown) (c ++ o) (content f)) = true)
    (haddr : Text.Addressable (pre ++ fs.flatMap shown ++ (c ++ e.text) ++ gs.flatMap shown)) :
    ∃ L R : List Routed,
      route absorbs [e] ((parts shown content pre (fs ++ f :: gs)).map (pushed [])) =
        L ++ (pushed [] (Part.ofTexts kind (pre ++ fs.flatMap shown) (c ++ o) (content f))).absorb
          e :: R ∧
      (L.map followed = parts shown content pre fs ∧ ∀ r ∈ L, r.touched = false) ∧
      R.map followed =
        parts shown content (pre ++ fs.flatMap shown ++ (c ++ e.text)) gs ∧
      ∀ r ∈ R, r.touched = false := by
  induction fs generalizing pre with
  | nil =>
    simp only [List.flatMap_nil, List.append_nil] at hspan habs haddr ⊢
    have hcov : (pushed [] (Part.ofTexts kind pre (c ++ o) (content f))).part.range.covers e.span =
        true := by
      refine TrackedSpan.covers_iff.mpr ⟨?_, hspan ▸ le_rfl⟩
      rw [hspan]
      exact Text.endPosition_le_append _ _
    rw [List.nil_append, parts_cons_some hkind, hf, List.map_cons, route_cons_of_absorbs hcov habs,
      map_give_pushed]
    have hcarry := (Edit.carries_nil pre.endPosition).snoc_text hspan (Or.inr rfl)
    refine ⟨[], _, rfl, ⟨rfl, by simp⟩, follow_pushes hcarry (by simp [hspan]) haddr, ?_⟩
    rintro r hr
    obtain ⟨q, -, rfl⟩ := List.mem_map.mp hr
    rfl
  | cons g fs ih =>
    have hfront : pre ++ (g :: fs).flatMap shown = pre ++ shown g ++ fs.flatMap shown := by simp
    rw [hfront] at hspan habs haddr ⊢
    cases hk : g.kind? with
    | none =>
      rw [parts_cons_none hk] at hno ⊢
      rw [List.cons_append, parts_cons_none hk]
      exact ih hspan hno habs haddr
    | some k =>
      rw [parts_cons_some hk] at hno ⊢
      rw [List.forall_mem_cons] at hno
      obtain ⟨L, R, hroute, ⟨hL, hLt⟩, hR⟩ := ih hspan hno.2 habs haddr
      have hes : ∀ e' ∈ [e], Text.endPosition (pre ++ shown g) ≤ e'.span.start ∧
          e'.span.start ≤ e'.span.stop := by
        intro e' he'
        obtain rfl := List.mem_singleton.mp he'
        rw [hspan, ← List.append_assoc _ c o, List.append_assoc _ _ c]
        exact ⟨Text.endPosition_le_append _ _, Text.endPosition_le_append _ _⟩
      have habs' : ∀ e' ∈ [e].head?, e'.span.stop ≤ Text.endPosition (pre ++ shown g) →
          absorbs e' (Part.ofTexts k pre (shown g) (content g)) = false := by
        intro e' he' _
        obtain rfl := Option.some.inj he'
        exact hno.1
      obtain ⟨r, hr, hrt, hcases⟩ :=
        route_cons_of_behind absorbs (Part.ofTexts k pre (shown g) (content g)) hes
          (fun _ => stop_le_of_mem_pushed) habs'
      refine ⟨r :: L, R, ?_, ⟨?_, List.forall_mem_cons.mpr ⟨hrt, hLt⟩⟩, hR⟩
      · rw [List.cons_append, parts_cons_some hk, List.map_cons, hr, hroute]
        rfl
      · rw [List.map_cons, hL, followed_of_behind (Edit.carries_nil _) (by simp) ?_ hes hcases]
        refine haddr.mono ?_
        rw [List.append_assoc, List.append_assoc]
        exact List.prefix_append _ _

/-! ### Corrective edits -/

/-- A field as a run of the document that is replaced if what it shows has changed. -/
def patch (shown shown' : Field → Text) (f : Field) : Patch :=
  ⟨shown f, if shown f = shown' f then none else some (shown' f)⟩

theorem patch_of_eq (h : shown f = shown' f) : patch shown shown' f = ⟨shown f, none⟩ := by
  rw [patch, if_pos h]

theorem patch_of_ne (h : shown f ≠ shown' f) :
    patch shown shown' f = ⟨shown f, some (shown' f)⟩ := by
  rw [patch, if_neg h]

/-- Nothing is to be corrected if and only if all fields show the same as before. -/
theorem edits_patch_eq_nil_iff :
    Patch.edits pre (fs.map (patch shown shown')) = [] ↔ ∀ f ∈ fs, shown f = shown' f := by
  rw [Patch.edits_eq_nil_iff, List.forall_mem_map]
  refine forall₂_congr fun f _ => ?_
  by_cases h : shown f = shown' f
  · simp [patch_of_eq h, h]
  · simp [patch_of_ne h, h]

/-- The runs of the fields before and after. -/
theorem flatMap_old_patch (shown shown' : Field → Text) (fs : List Field) :
    (fs.map (patch shown shown')).flatMap Patch.old = fs.flatMap shown := by
  rw [List.flatMap_map]
  rfl

theorem flatMap_new_patch (shown shown' : Field → Text) (fs : List Field) :
    (fs.map (patch shown shown')).flatMap Patch.new = fs.flatMap shown' := by
  rw [List.flatMap_map]
  refine List.flatMap_congr fun f _ => ?_
  by_cases h : shown f = shown' f
  · rw [patch_of_eq h, h]
    rfl
  · rw [patch_of_ne h]
    rfl

/-- When no literal character has been shown since the last block, one will be shown before the next
edit of a block. -/
theorem lt_start_of_separated (hlit : ∀ run, shown (literal run) = run ∧ shown' (literal run) = run)
    (htext : ∀ id, shown (placeholder id) = shown' (placeholder id)) (hsep : separated true fs)
    (he : e ∈ Patch.edits pre (fs.map (patch shown shown'))) :
    pre.endPosition < e.span.start := by
  induction fs generalizing pre with
  | nil => simp [Patch.edits] at he
  | cons f fs ih =>
    cases f with
    | literal run =>
      obtain ⟨hrun, hrun'⟩ := hlit run
      rw [List.map_cons, patch_of_eq (hrun.trans hrun'.symm), Patch.edits, hrun] at he
      by_cases hempty : run = []
      · rw [separated, hempty] at hsep
        rw [hempty, List.append_nil] at he
        exact ih hsep he
      · exact (Text.endPosition_lt_append_iff.mpr hempty).trans_le
          (Patch.endPosition_le_of_mem_edits he).1
    | placeholder id =>
      rw [List.map_cons, patch_of_eq (htext id), Patch.edits] at he
      exact (Text.endPosition_le_append _ _).trans_lt (ih hsep he)
    | block index => simp [separated] at hsep

/-- The part of a field that has not changed only moves on. -/
theorem route_corrections_keep (hkind : f.kind? = some kind) (hsame : shown f = shown' f)
    (habs : ∀ e ∈ Patch.edits (pre ++ shown f) (fs.map (patch shown shown')),
      e.span.stop ≤ Text.endPosition (pre ++ shown f) →
        absorbs e (Part.ofTexts kind pre (shown f) (content f)) = false)
    (hcarry : Edit.Carries done pre.endPosition pre'.endPosition)
    (hdone : ∀ e ∈ done, e.span.stop ≤ pre.endPosition)
    (haddr : Text.Addressable (pre' ++ shown f))
    (hrest : (route absorbs (Patch.edits (pre ++ shown f) (fs.map (patch shown shown')))
        ((parts shown content (pre ++ shown f) fs).map (pushed done))).map followed =
      parts shown' content (pre' ++ shown' f) fs) :
    (route absorbs (Patch.edits pre ((f :: fs).map (patch shown shown')))
        ((parts shown content pre (f :: fs)).map (pushed done))).map followed =
      parts shown' content pre' (f :: fs) := by
  have hes : ∀ e ∈ Patch.edits (pre ++ shown f) (fs.map (patch shown shown')),
      Text.endPosition (pre ++ shown f) ≤ e.span.start ∧ e.span.start ≤ e.span.stop :=
    fun e he => Patch.endPosition_le_of_mem_edits he
  obtain ⟨r, hr, -, hcases⟩ :=
    route_cons_of_behind absorbs (Part.ofTexts kind pre (shown f) (content f)) hes
      (fun _ => stop_le_of_mem_pushed) fun e he => habs e (List.mem_of_mem_head? he)
  rw [List.map_cons, patch_of_eq hsame, Patch.edits, parts_cons_some hkind, parts_cons_some hkind,
    List.map_cons, hr, List.map_cons, hrest,
    followed_of_behind hcarry hdone haddr hes hcases, hsame]

/-- The part of a block that has changed absorbs the edit that replaces it. -/
theorem route_corrections_patch (hkind : f.kind? = some kind) (hne : shown f ≠ shown' f)
    (hbreak : '\n' ∉ shown f) (hbreak' : '\n' ∉ shown' f)
    (habs : ∀ e : Edit, e.text = shown' f →
      absorbs e (Part.ofTexts kind pre (shown f) (content f)) = true)
    (hcarry : Edit.Carries done pre.endPosition pre'.endPosition)
    (hdone : ∀ e ∈ done, e.span.stop ≤ pre.endPosition)
    (haddr : Text.Addressable (pre' ++ shown' f))
    (hrest : ∀ done', Edit.Carries done' (Text.endPosition (pre ++ shown f))
        (Text.endPosition (pre' ++ shown' f)) →
      (∀ e ∈ done', e.span.stop ≤ Text.endPosition (pre ++ shown f)) →
      (route absorbs (Patch.edits (pre ++ shown f) (fs.map (patch shown shown')))
        ((parts shown content (pre ++ shown f) fs).map (pushed done'))).map followed =
      parts shown' content (pre' ++ shown' f) fs) :
    (route absorbs (Patch.edits pre ((f :: fs).map (patch shown shown')))
        ((parts shown content pre (f :: fs)).map (pushed done))).map followed =
      parts shown' content pre' (f :: fs) := by
  have hspan : (⟨⟨pre.endPosition, Text.endPosition (pre ++ shown f)⟩, shown' f⟩ : Edit).span =
      ⟨Text.endPosition (pre ++ []), Text.endPosition (pre ++ ([] ++ shown f))⟩ := by simp
  have hinline : (⟨⟨pre.endPosition, Text.endPosition (pre ++ shown f)⟩, shown' f⟩ : Edit).Inline :=
    ⟨by simp [Text.endPosition_append, Position.add_line, Text.extent_eq_length hbreak],
      Text.extent_breaks_eq_zero_iff.mpr hbreak'⟩
  -- A correction stays on its line, so the texts behind it are carried along.
  have hsnoc := hcarry.snoc_text hspan (Or.inl hinline)
  have hcov : (pushed done (Part.ofTexts kind pre (shown f) (content f))).part.range.covers
      ⟨pre.endPosition, Text.endPosition (pre ++ shown f)⟩ = true :=
    TrackedSpan.covers_iff.mpr ⟨le_rfl, le_rfl⟩
  have habsorbed := @follow_absorbed kind _ _ (content f) _ hcarry hdone _ _ _ _ hspan haddr hsnoc
  rw [List.map_cons, patch_of_ne hne, Patch.edits, parts_cons_some hkind, parts_cons_some hkind,
    List.map_cons, route_cons_of_absorbs hcov (habs _ rfl), map_give_pushed, List.map_cons]
  refine congrArg₂ (· :: ·) habsorbed (hrest _ hsnoc fun e he => ?_)
  rcases List.mem_append.mp he with he | he
  · exact (hdone e he).trans (Text.endPosition_le_append _ _)
  · obtain rfl := List.mem_singleton.mp he
    exact le_rfl

/-- **Corrective edits.** They are absorbed by the blocks that they replace, and all parts get the
places that the new texts leave for them. -/
theorem route_corrections {open' : Bool} (hsep : separated open' fs)
    (hlit : ∀ run, shown (literal run) = run ∧ shown' (literal run) = run)
    (htext : ∀ id, shown (placeholder id) = shown' (placeholder id))
    (hblock : ∀ index, block index ∈ fs → '\n' ∉ shown (block index) ∧
      '\n' ∉ shown' (block index) ∧ content (block index) = shown' (block index))
    (habsorb : ∀ e q index, q.kind = .block index → absorbs e q = (q.content == e.text))
    (hrefuse : ∀ e q id, q.kind = .placeholder id → absorbs e q = false)
    (hcarry : Edit.Carries done pre.endPosition pre'.endPosition)
    (hdone : ∀ e ∈ done, e.span.stop ≤ pre.endPosition)
    (haddr : Text.Addressable (pre' ++ fs.flatMap shown')) :
    (route absorbs (Patch.edits pre (fs.map (patch shown shown')))
        ((parts shown content pre fs).map (pushed done))).map followed =
      parts shown' content pre' fs := by
  induction fs generalizing pre pre' done open' with
  | nil => rfl
  | cons f fs ih =>
    -- The edits done so far stand in front of `pre`, and carry what is behind it to `pre'`.
    rw [List.flatMap_cons, ← List.append_assoc] at haddr
    have haddr' := haddr.mono (List.prefix_append _ _)
    have hblock' := fun index hmem => hblock index (List.mem_cons_of_mem f hmem)
    obtain ⟨hcarry', hdone'⟩ := carries_append hcarry hdone (shown f)
    cases f with
    | literal run =>
      obtain ⟨hrun, hrun'⟩ := hlit run
      rw [hrun] at hcarry' hdone'
      rw [hrun'] at haddr
      rw [List.map_cons, patch_of_eq (hrun.trans hrun'.symm), Patch.edits, parts_cons_none rfl,
        parts_cons_none rfl, hrun, hrun']
      exact ih hsep hblock' hcarry' hdone' haddr
    | placeholder id =>
      have hsame := htext id
      refine route_corrections_keep rfl hsame (fun e _ _ => hrefuse e _ id rfl) hcarry hdone
        (hsame ▸ haddr') ?_
      rw [hsame] at hcarry' hdone' ⊢
      exact ih hsep hblock' hcarry' hdone' haddr
    | block index =>
      obtain ⟨hbreak, hbreak', hcontent⟩ := hblock index List.mem_cons_self
      have hsep' : separated true fs = true := by
        rw [separated, Bool.and_eq_true] at hsep
        exact hsep.2
      by_cases hsame : shown (block index) = shown' (block index)
      · refine route_corrections_keep rfl hsame (fun e he hle => ?_) hcarry hdone
          (hsame ▸ haddr') ?_
        · -- A literal character stands between this block and the next edit.
          have hlt := lt_start_of_separated hlit htext hsep' he
          exact absurd (hlt.trans_le (Patch.endPosition_le_of_mem_edits he).2) (not_lt.mpr hle)
        · rw [hsame] at hcarry' hdone' ⊢
          exact ih hsep' hblock' hcarry' hdone' haddr
      · refine route_corrections_patch rfl hsame hbreak hbreak' (fun e he => ?_) hcarry hdone
          haddr' ?_
        · rw [habsorb e _ index rfl, he]
          exact beq_iff_eq.mpr hcontent
        · exact fun done' hcarry'' hdone'' => ih hsep' hblock' hcarry'' hdone'' haddr

end Field

end LiveSnippet
