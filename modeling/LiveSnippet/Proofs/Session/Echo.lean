import LiveSnippet.Proofs.Session.Tracking

/-!
# The echo of corrective edits

The corrective edits of a run of the generator come back as the next batch. Each of them should be
absorbed by the block that it was issued for, so that this block covers its new content. Blocks know
their edits by the text only. A block whose output is the same as before has no edit of its own, but
it takes the edit of a later block for its own if that edit inserts, right at its end, the very text
that the block shows. Then it covers the text twice, and the other block is left empty. Nothing else
can go wrong, however many blocks there are and wherever they touch each other.

## Main definitions

* `Part.Recorded`: a block covers exactly its recorded content
* `Part.Claims`: a block takes an edit for its own
* `Part.Unclaimed`: no block takes the edit of a later one
* `Routed.absorbed`, `Attributed`: every edit is absorbed by its own block

## Main results

* `Standing.exists_echoed`: one block after the other
* `Expansion.recorded_echo_iff`: exactly when all blocks cover their new contents
-/

namespace LiveSnippet

open LiveSnippet.Field

namespace Part

variable {blocks : List Text} {q : Part} {e : Edit} {kind : PartKind} {pre mid post : Text}
  {b : Buffer}

/-- If the part is a block, it covers exactly the content that is recorded for it. -/
def Recorded (q : Part) (b : Buffer) : Prop :=
  q.kind.isPlaceholder = false → b.Shows q.range.span q.content

/-- While corrective edits are under way, the part would absorb the edit: it is a block that covers
its span and has its text as content. -/
def Claims (q : Part) (e : Edit) : Prop :=
  q.kind.isPlaceholder = false ∧ q.range.covers e.span = true ∧ q.content = e.text

instance (q : Part) (b : Buffer) : Decidable (q.Recorded b) :=
  inferInstanceAs (Decidable (_ → _))

instance (q : Part) (e : Edit) : Decidable (q.Claims e) := inferInstanceAs (Decidable (_ ∧ _ ∧ _))

/-- No block whose output stays the same claims the next corrective edit behind it. -/
def Unclaimed (blocks : List Text) : List Part → Prop
  | [] => True
  | q :: rest =>
    (q.correction? blocks = none →
      ∀ e ∈ (rest.filterMap (·.correction? blocks)).head?, ¬q.Claims e) ∧ Unclaimed blocks rest

instance instDecidableUnclaimed (blocks : List Text) :
    (ps : List Part) → Decidable (Unclaimed blocks ps)
  | [] => inferInstanceAs (Decidable True)
  | _ :: rest =>
    have := instDecidableUnclaimed blocks rest
    inferInstanceAs (Decidable ((_ → ∀ e ∈ _, ¬Claims _ e) ∧ _))

/-- A part without a correction stays as it is. -/
theorem withOutput_of_none (h : q.correction? blocks = none) : q.withOutput blocks = q := by
  obtain ⟨_ | index, range, content⟩ := q
  · rfl
  · rw [withOutput]
    rw [correction?] at h
    dsimp only at h ⊢
    cases hout : blocks[index]? with
    | none => rfl
    | some output =>
      rw [hout, Option.bind_some] at h
      split_ifs at h with hsame
      rw [hsame]
      rfl

/-- A correction replaces the content of a block by another one. -/
theorem of_correction?_eq_some (h : q.correction? blocks = some e) :
    q.kind.isPlaceholder = false ∧ e.span = q.range.span ∧ e.text ≠ q.content ∧
      q.withOutput blocks = { q with content := e.text } := by
  obtain ⟨_ | index, range, content⟩ := q
  · cases h
  · rw [correction?] at h
    obtain ⟨output, hout, h⟩ := Option.bind_eq_some_iff.mp h
    split_ifs at h with hsame
    obtain rfl := Option.some.inj h
    refine ⟨rfl, rfl, hsame, ?_⟩
    simp only [withOutput, hout, Option.getD_some]

theorem correction?_of_placeholder (h : q.kind.isPlaceholder = true) :
    q.correction? blocks = none := by
  obtain ⟨_ | index, range, content⟩ := q
  · rfl
  · cases h

theorem withOutput_range (q : Part) (blocks : List Text) :
    (q.withOutput blocks).range = q.range := by
  rw [withOutput]
  split <;> rfl

theorem withOutput_kind (q : Part) (blocks : List Text) : (q.withOutput blocks).kind = q.kind := by
  rw [withOutput]
  split <;> rfl

theorem eq_ofTexts (h : q.range.span = ⟨pre.endPosition, Text.endPosition (pre ++ mid)⟩) :
    q = ofTexts q.kind pre mid q.content := by
  obtain ⟨kind, ⟨span, hle⟩, content⟩ := q
  obtain rfl : span = _ := h
  rfl

theorem recorded_ofTexts (hb : b.text.LfOnly) (htext : b.text = pre ++ mid ++ post) :
    (ofTexts kind pre mid mid).Recorded b :=
  fun _ => (Buffer.shows_iff hb).mpr ⟨pre, post, htext, rfl⟩

/-- A block that covers its recorded content cuts the document around it. -/
theorem Recorded.exists_cut {rest : Text} (hq : q.Recorded b) (hkind : q.kind.isPlaceholder = false)
    (hb : b.text.LfOnly) (htext : b.text = pre ++ rest) (hle : pre.endPosition ≤ q.range.start) :
    ∃ kind k c post, rest = k ++ c ++ post ∧ q = ofTexts kind (pre ++ k) c c := by
  obtain ⟨pre₁, post, htext₁, hspan⟩ := (Buffer.shows_iff hb).mp (hq hkind)
  have hstart : q.range.start = pre₁.endPosition := congrArg Span.start hspan
  have hsplit : pre ++ rest = pre₁ ++ (q.content ++ post) :=
    htext.symm.trans (htext₁.trans (List.append_assoc _ _ _))
  obtain ⟨k, rfl⟩ := Text.exists_append_of_endPosition_le hsplit (hstart ▸ hle)
  exact ⟨q.kind, k, q.content, post, by simpa using hsplit, eq_ofTexts hspan⟩

end Part

namespace Routed

variable {done : List Edit} {e : Edit} {q : Part} {r : Routed} {b : Buffer}

/-- The edits that the part absorbs. -/
def absorbed (r : Routed) : List Edit := (r.moves.filter (·.2 = .grow)).map Prod.fst

theorem absorbed_pushed (done : List Edit) (q : Part) : (pushed done q).absorbed = [] := by
  simp [absorbed, pushed, pushes]

theorem absorbed_give (r : Routed) (e : Edit) : (r.give e .fixLeft).absorbed = r.absorbed := by
  simp [absorbed]

theorem absorbed_absorb (r : Routed) (e : Edit) : (r.absorb e).absorbed = r.absorbed ++ [e] := by
  simp [absorbed]

theorem followed_kind (r : Routed) : r.followed.kind = r.part.kind := by
  rw [followed, Part.follow]
  split <;> rfl

/-- A placeholder has nothing recorded. -/
theorem recorded_followed_of_placeholder (h : r.part.kind.isPlaceholder = true) :
    r.followed.Recorded b := by
  intro hkind
  rw [followed_kind, h] at hkind
  cases hkind

end Routed

/-- Every corrective edit is absorbed by the block that it was issued for, and by no other part. -/
def Attributed (blocks : List Text) : List Part → List Routed → Prop :=
  List.Forall₂ fun q r => r.absorbed = (q.correction? blocks).toList

/-- What becomes of corrective edits: if no block claims the edit of another one, every block covers
its content and every edit is absorbed by its own block; if one does, neither is so. -/
structure Echoed (blocks : List Text) (b : Buffer) (ps : List Part) (rs : List Routed) :
    Prop where
  recorded : (∀ r ∈ rs, r.followed.Recorded b) ↔ Part.Unclaimed blocks ps
  attributed : Attributed blocks ps rs ↔ Part.Unclaimed blocks ps

namespace Echoed

variable {blocks : List Text} {b : Buffer} {ps : List Part} {rs : List Routed} {q : Part}
  {r : Routed} {e : Edit}

theorem nil (blocks : List Text) (b : Buffer) : Echoed blocks b [] [] :=
  ⟨by simp [Part.Unclaimed], by simp [Attributed, Part.Unclaimed]⟩

/-- One more part in front that gets what it should. -/
theorem cons (h : Echoed blocks b ps rs) (hr : r.followed.Recorded b)
    (habs : r.absorbed = (q.correction? blocks).toList)
    (hq : q.correction? blocks = none →
      ∀ e ∈ (ps.filterMap (·.correction? blocks)).head?, ¬q.Claims e) :
    Echoed blocks b (q :: ps) (r :: rs) := by
  have hunclaimed : Part.Unclaimed blocks (q :: ps) ↔ Part.Unclaimed blocks ps :=
    and_iff_right hq
  refine ⟨?_, ?_⟩
  · rw [hunclaimed, ← h.recorded, List.forall_mem_cons]
    exact and_iff_right hr
  · rw [hunclaimed, ← h.attributed, Attributed, List.forall₂_cons]
    exact and_iff_right habs

/-- One more part in front that claims the first edit. -/
theorem cons_of_claims (hq : q.correction? blocks = none)
    (he : e ∈ (ps.filterMap (·.correction? blocks)).head?) (hclaim : q.Claims e)
    (hr : ¬r.followed.Recorded b) (habs : r.absorbed ≠ []) :
    Echoed blocks b (q :: ps) (r :: rs) := by
  have hclaimed : ¬Part.Unclaimed blocks (q :: ps) := fun h => h.1 hq e he hclaim
  refine ⟨iff_of_false (fun h => hr (h r List.mem_cons_self)) hclaimed, iff_of_false ?_ hclaimed⟩
  rintro (_ | ⟨h, -⟩)
  rw [hq] at h
  exact habs h

end Echoed

/-- Parts in document order behind the text `pre`, all blocks of which cover their recorded
contents. Neither these nor the new ones have a line break. -/
structure Standing (blocks : List Text) (b : Buffer) (pre : Text) (ps : List Part) : Prop where
  behind : ∀ q ∈ ps, pre.endPosition ≤ q.range.start
  inOrder : ps.Pairwise Part.Before
  recorded : ∀ q ∈ ps, q.Recorded b
  noBreak : ∀ q ∈ ps, q.kind.isPlaceholder = false →
    q.content.NoBreak ∧ (q.withOutput blocks).content.NoBreak

namespace Standing

variable {blocks : List Text} {b b' : Buffer} {pre pre' rest k mid post : Text} {ps : List Part}
  {q : Part} {e : Edit} {done : List Edit} {absorbs : Edit → Part → Bool}

theorem tail (h : Standing blocks b pre (q :: ps)) : Standing blocks b pre ps :=
  ⟨fun r hr => h.behind r (List.mem_cons_of_mem q hr), (List.pairwise_cons.mp h.inOrder).2,
    fun r hr => h.recorded r (List.mem_cons_of_mem q hr),
    fun r hr => h.noBreak r (List.mem_cons_of_mem q hr)⟩

/-- The parts behind the first one stand behind its text. -/
theorem tail_of_ofTexts (h : Standing blocks b pre (q :: ps))
    (hstop : Text.endPosition mid = q.range.stop) : Standing blocks b mid ps :=
  { h.tail with behind := fun r hr => hstop ▸ (List.pairwise_cons.mp h.inOrder).1 r hr }

/-- A corrective edit comes from one of the parts. -/
theorem exists_of_mem_corrections (h : Standing blocks b pre ps)
    (he : e ∈ ps.filterMap (·.correction? blocks)) :
    ∃ q ∈ ps, q.kind.isPlaceholder = false ∧ e.span = q.range.span ∧ e.text ≠ q.content ∧
      q.content.NoBreak ∧ e.text.NoBreak := by
  obtain ⟨q, hq, he⟩ := List.mem_filterMap.mp he
  obtain ⟨hkind, hspan, hne, hout⟩ := Part.of_correction?_eq_some he
  obtain ⟨hold, hnew⟩ := h.noBreak q hq hkind
  rw [hout] at hnew
  exact ⟨q, hq, hkind, hspan, hne, hold, hnew⟩

/-- The corrective edits of the parts behind a part stand behind it. -/
theorem corrections_behind (h : Standing blocks b pre (q :: ps)) :
    ∀ e ∈ ps.filterMap (·.correction? blocks),
      q.range.stop ≤ e.span.start ∧ e.span.start ≤ e.span.stop := by
  intro e he
  obtain ⟨r, hr, -, hspan, -⟩ := h.tail.exists_of_mem_corrections he
  rw [hspan]
  exact ⟨(List.pairwise_cons.mp h.inOrder).1 r hr, r.range.start_le_stop⟩

/-- Only an insertion right at the end of a part, of a text that is not empty, can be claimed by it
when it was issued for a part behind. -/
theorem span_eq_of_claims (h : Standing blocks b pre (q :: ps)) (hlf : b.text.LfOnly)
    (he : e ∈ ps.filterMap (·.correction? blocks)) (hclaim : q.Claims e) :
    e.span = ⟨q.range.stop, q.range.stop⟩ ∧ e.text ≠ [] ∧ e.text.NoBreak := by
  obtain ⟨hstart, hle⟩ := h.corrections_behind e he
  have hstop : e.span.stop ≤ q.range.stop := (TrackedSpan.covers_iff.mp hclaim.2.1).2
  have hspan : e.span = ⟨q.range.stop, q.range.stop⟩ :=
    congrArg₂ Span.mk (le_antisymm (hle.trans hstop) hstart)
      (le_antisymm hstop (hstart.trans hle))
  obtain ⟨r, hr, hkind, hspan', hne, -, hbreak⟩ := h.tail.exists_of_mem_corrections he
  -- The part that the edit was issued for has no room for any content.
  obtain ⟨p, -, -, hcut⟩ := (Buffer.shows_iff hlf).mp (h.tail.recorded r hr hkind)
  rw [hspan', hcut] at hspan
  have hempty : r.content = [] := Text.endPosition_append_eq_iff.mp
    ((congrArg Span.stop hspan).trans (congrArg Span.start hspan).symm)
  exact ⟨by rw [hspan', hcut, hspan], hempty ▸ hne, hbreak⟩

theorem stop_le_of_mem (h : Standing blocks b pre (q :: ps)) (done : List Edit) :
    ∀ r ∈ (ps.map (·.withOutput blocks)).map (pushed done), q.range.stop ≤ r.part.range.stop := by
  intro r hr
  simp only [List.mem_map] at hr
  obtain ⟨_, ⟨p, hp, rfl⟩, rfl⟩ := hr
  change q.range.stop ≤ (p.withOutput blocks).range.stop
  rw [Part.withOutput_range]
  exact ((List.pairwise_cons.mp h.inOrder).1 p hp).trans p.range.start_le_stop

/-- What becomes of the parts when the runs behind `pre` are patched, whatever has been edited in
front of them. -/
def EchoedBehind (absorbs : Edit → Part → Bool) (blocks : List Text) (ps : List Part) (pre : Text)
    (pt : List Patch) : Prop :=
  ∀ (done : List Edit) (pre' : Text) (b' : Buffer),
    b'.text = pre' ++ pt.flatMap Patch.new → b'.text.LfOnly → b'.text.Addressable →
    Edit.Carries done pre.endPosition pre'.endPosition →
    (∀ e ∈ done, e.span.stop ≤ pre.endPosition) →
    Echoed blocks b' ps (route absorbs (ps.filterMap (·.correction? blocks))
      ((ps.map (·.withOutput blocks)).map (pushed done)))

section

variable (habsorb : ∀ e q, q.kind.isPlaceholder = false → absorbs e q = (q.content == e.text))
  {kind : PartKind} {c : Text} {pt : List Patch}

include habsorb

/-- A block that claims an edit absorbs it. -/
theorem route_cons_of_claims {es : List Edit} {qs : List Part} (h : q.Claims e) (done : List Edit) :
    route absorbs (e :: es) ((q :: qs).map (pushed done)) =
      (pushed done q).absorb e :: route absorbs es (qs.map (pushed (done ++ [e]))) := by
  obtain ⟨hkind, hcov, hcontent⟩ := h
  have habs : absorbs e (pushed done q).part = true :=
    (habsorb e q hkind).trans (beq_iff_eq.mpr hcontent)
  rw [List.map_cons, route_cons_of_absorbs hcov habs, map_give_pushed]

/-- A block that claims the next edit absorbs it and covers its text twice. -/
theorem EchoedBehind.claim (h : Standing blocks b pre (Part.ofTexts kind (pre ++ k) c c :: ps))
    (hlf : b.text.LfOnly) (hq : (Part.ofTexts kind (pre ++ k) c c).correction? blocks = none)
    (hedits : Patch.edits (pre ++ k ++ c) pt = ps.filterMap (·.correction? blocks))
    (he : e ∈ (ps.filterMap (·.correction? blocks)).head?)
    (hclaim : (Part.ofTexts kind (pre ++ k) c c).Claims e) :
    EchoedBehind absorbs blocks (Part.ofTexts kind (pre ++ k) c c :: ps) pre
      (⟨k ++ c, none⟩ :: pt) := by
  intro done pre' b' htext hlf' haddr hcarry hdone
  obtain ⟨hspan, hne, hbreak⟩ := h.span_eq_of_claims hlf (List.mem_of_mem_head? he) hclaim
  obtain ⟨es, hes⟩ := List.head?_eq_some_iff.mp he
  obtain ⟨hcarry', hdone'⟩ := carries_append hcarry hdone k
  have hspan' : e.span =
      ⟨Text.endPosition (pre ++ k ++ c), Text.endPosition (pre ++ k ++ (c ++ []))⟩ := by
    rw [hspan, List.append_nil]
    rfl
  obtain ⟨rest, hrest⟩ := Patch.exists_flatMap_new_eq (hedits.trans hes) (congrArg Span.stop hspan)
  have htext' : b'.text = pre' ++ k ++ (c ++ e.text) ++ rest := by
    rw [htext, List.flatMap_cons, hrest]
    simp [Patch.new]
  have hinline : e.Inline :=
    ⟨by rw [hspan], Text.extent_breaks_eq_zero_iff.mpr hbreak.not_mem⟩
  have hfollow : (Part.ofTexts kind (pre ++ k) (c ++ []) c).follow
      (Routed.pushes done ++ [(e, .grow)]) = Part.ofTexts kind (pre' ++ k) (c ++ e.text) c :=
    follow_absorbed hcarry' hdone' hspan' (haddr.mono (htext' ▸ List.prefix_append _ _))
      (hcarry'.snoc_text hspan' (Or.inl hinline))
  rw [List.append_nil] at hfollow
  have hfollowed : ((pushed done (Part.ofTexts kind (pre ++ k) c c)).absorb e).followed =
      Part.ofTexts kind (pre' ++ k) (c ++ e.text) c := hfollow
  rw [List.filterMap_cons_none hq, hes, List.map_cons, Part.withOutput_of_none hq,
    route_cons_of_claims habsorb hclaim]
  refine Echoed.cons_of_claims hq he hclaim (fun hrecorded => ?_) ?_
  · rw [hfollowed] at hrecorded
    obtain rfl : b' = ⟨pre' ++ k ++ (c ++ e.text) ++ rest⟩ := congrArg Buffer.mk htext'
    have hslice : c = c ++ e.text :=
      Except.ok.inj ((hrecorded hclaim.1).2.symm.trans (Buffer.slice_endPosition hlf'))
    exact hne (by simpa using hslice)
  · rw [Routed.absorbed_absorb]
    simp

/-- A block whose output has changed absorbs its correction. -/
theorem EchoedBehind.patch (h : Standing blocks b pre (Part.ofTexts kind (pre ++ k) c c :: ps))
    (hq : (Part.ofTexts kind (pre ++ k) c c).correction? blocks = some e)
    (hps : EchoedBehind absorbs blocks ps (pre ++ k ++ c) pt) :
    EchoedBehind absorbs blocks (Part.ofTexts kind (pre ++ k) c c :: ps) pre
      (⟨k, none⟩ :: ⟨c, some e.text⟩ :: pt) := by
  intro done pre' b' htext hlf' haddr hcarry hdone
  obtain ⟨hkind, hspan, -, hout⟩ := Part.of_correction?_eq_some hq
  change _ = Part.ofTexts kind (pre ++ k) c e.text at hout
  have hbreak := h.noBreak _ List.mem_cons_self hkind
  rw [hout] at hbreak
  obtain ⟨hold, hnew⟩ : c.NoBreak ∧ e.text.NoBreak := hbreak
  obtain ⟨hcarry', hdone'⟩ := carries_append hcarry hdone k
  have hspan' : e.span =
      ⟨Text.endPosition (pre ++ k ++ []), Text.endPosition (pre ++ k ++ ([] ++ c))⟩ := by
    rw [hspan, List.append_nil]
    rfl
  have htext' : b'.text = pre' ++ k ++ e.text ++ pt.flatMap Patch.new := by
    rw [htext]
    simp [Patch.new]
  have hinline : e.Inline := by
    refine ⟨?_, Text.extent_breaks_eq_zero_iff.mpr hnew.not_mem⟩
    rw [hspan', List.append_nil, List.nil_append, Text.endPosition_append _ c,
      Text.extent_eq_length hold.not_mem, Position.add_line]
    exact (Nat.add_zero _).symm
  have hsnoc := hcarry'.snoc_text hspan' (Or.inl hinline)
  have hfollow : (Part.ofTexts kind (pre ++ k) ([] ++ c) e.text).follow
      (Routed.pushes done ++ [(e, .grow)]) = Part.ofTexts kind (pre' ++ k) ([] ++ e.text) e.text :=
    follow_absorbed hcarry' hdone' hspan' (haddr.mono (htext' ▸ List.prefix_append _ _)) hsnoc
  have hfollowed : ((pushed done (Part.ofTexts kind (pre ++ k) c e.text)).absorb e).followed =
      Part.ofTexts kind (pre' ++ k) e.text e.text := hfollow
  have hclaims : (Part.ofTexts kind (pre ++ k) c e.text).Claims e :=
    ⟨hkind, TrackedSpan.covers_iff.mpr (hspan ▸ ⟨le_rfl, le_rfl⟩), rfl⟩
  have hdone'' : ∀ f ∈ done ++ [e], f.span.stop ≤ Text.endPosition (pre ++ k ++ c) := by
    intro f hf
    rcases List.mem_append.mp hf with hf | hf
    · exact (hdone' f hf).trans (Text.endPosition_le_append _ _)
    · obtain rfl := List.mem_singleton.mp hf
      exact (congrArg Span.stop hspan).le
  have htail := hps (done ++ [e]) (pre' ++ k ++ e.text) b' htext' hlf' haddr hsnoc hdone''
  rw [List.filterMap_cons_some hq, List.map_cons, hout, route_cons_of_claims habsorb hclaims]
  refine htail.cons ?_ ?_ fun hnone => ?_
  · rw [hfollowed]
    exact Part.recorded_ofTexts hlf' htext'
  · rw [Routed.absorbed_absorb, Routed.absorbed_pushed, hq]
    rfl
  · rw [hq] at hnone
    cases hnone

variable (hrefuse : ∀ e q, q.kind.isPlaceholder = true → absorbs e q = false)

include hrefuse

/-- A part that has no correction and claims none lets all edits go on to the parts behind it. -/
theorem exists_route_cons (h : Standing blocks b pre (q :: ps))
    (hq : q.correction? blocks = none)
    (hclaim : ∀ e ∈ (ps.filterMap (·.correction? blocks)).head?, ¬q.Claims e) (done : List Edit) :
    ∃ r, route absorbs ((q :: ps).filterMap (·.correction? blocks))
        (((q :: ps).map (·.withOutput blocks)).map (pushed done)) =
      r :: route absorbs (ps.filterMap (·.correction? blocks))
        ((ps.map (·.withOutput blocks)).map (pushed done)) ∧
      r.absorbed = (q.correction? blocks).toList ∧
      (r = pushed done q ∨ ∃ e ∈ ps.filterMap (·.correction? blocks),
        r = (pushed done q).give e .fixLeft) := by
  have habs : ∀ e ∈ (ps.filterMap (·.correction? blocks)).head?, e.span.stop ≤ q.range.stop →
      absorbs e q = false := by
    intro e he hle
    cases hkind : q.kind.isPlaceholder with
    | true => exact hrefuse e q hkind
    | false =>
      -- The part covers the edit, so its content must be another text.
      obtain ⟨hstart, -⟩ := h.corrections_behind e (List.mem_of_mem_head? he)
      have hcov : q.range.covers e.span = true :=
        TrackedSpan.covers_iff.mpr ⟨q.range.start_le_stop.trans hstart, hle⟩
      rw [habsorb e q hkind, beq_eq_false_iff_ne]
      exact fun heq => hclaim e he ⟨hkind, hcov, heq⟩
  obtain ⟨r, hroute, -, hcases⟩ :=
    route_cons_of_behind absorbs q h.corrections_behind (h.stop_le_of_mem done) habs
  refine ⟨r, ?_, ?_, hcases⟩
  · rw [List.filterMap_cons_none hq, List.map_cons, List.map_cons, Part.withOutput_of_none hq]
    exact hroute
  · rw [hq]
    rcases hcases with rfl | ⟨e, -, rfl⟩
    · exact Routed.absorbed_pushed done q
    · rw [Routed.absorbed_give]
      exact Routed.absorbed_pushed done q

/-- A placeholder is left alone. -/
theorem EchoedBehind.placeholder (h : Standing blocks b pre (q :: ps))
    (hkind : q.kind.isPlaceholder = true) (hps : EchoedBehind absorbs blocks ps pre pt) :
    EchoedBehind absorbs blocks (q :: ps) pre pt := by
  intro done pre' b' htext hlf haddr hcarry hdone
  have hq : q.correction? blocks = none := Part.correction?_of_placeholder hkind
  have hclaim : ∀ e ∈ (ps.filterMap (·.correction? blocks)).head?, ¬q.Claims e := by
    intro e _ hc
    rw [hc.1] at hkind
    cases hkind
  obtain ⟨r, hroute, habsorbed, hcases⟩ := exists_route_cons habsorb hrefuse h hq hclaim done
  rw [hroute]
  refine (hps done pre' b' htext hlf haddr hcarry hdone).cons ?_ habsorbed fun _ => hclaim
  refine Routed.recorded_followed_of_placeholder ?_
  rcases hcases with rfl | ⟨e, -, rfl⟩ <;> exact hkind

variable {kind : PartKind} {c : Text}

/-- A block whose output stays the same keeps its text, unless it claims the next edit. -/
theorem EchoedBehind.keep (h : Standing blocks b pre (Part.ofTexts kind (pre ++ k) c c :: ps))
    (hlf : b.text.LfOnly) (hq : (Part.ofTexts kind (pre ++ k) c c).correction? blocks = none)
    (hedits : Patch.edits (pre ++ k ++ c) pt = ps.filterMap (·.correction? blocks))
    (hps : EchoedBehind absorbs blocks ps (pre ++ k ++ c) pt) :
    EchoedBehind absorbs blocks (Part.ofTexts kind (pre ++ k) c c :: ps) pre
      (⟨k ++ c, none⟩ :: pt) := by
  by_cases hclaim : ∃ e ∈ (ps.filterMap (·.correction? blocks)).head?,
      (Part.ofTexts kind (pre ++ k) c c).Claims e
  · obtain ⟨e, he, hclaim⟩ := hclaim
    exact .claim habsorb h hlf hq hedits he hclaim
  · have hclaim : ∀ e ∈ (ps.filterMap (·.correction? blocks)).head?,
        ¬(Part.ofTexts kind (pre ++ k) c c).Claims e := by simpa using hclaim
    intro done pre' b' htext hlf' haddr hcarry hdone
    have htext' : b'.text = pre' ++ k ++ c ++ pt.flatMap Patch.new := by
      rw [htext]
      simp [Patch.new]
    obtain ⟨hcarry', hdone'⟩ := carries_append hcarry hdone k
    obtain ⟨hcarry'', hdone''⟩ := carries_append hcarry' hdone' c
    obtain ⟨r, hroute, habsorbed, hcases⟩ := exists_route_cons habsorb hrefuse h hq hclaim done
    have htail := hps done (pre' ++ k ++ c) b' htext' hlf' haddr hcarry'' hdone''
    rw [hroute]
    refine htail.cons ?_ habsorbed fun _ => hclaim
    rw [followed_of_behind hcarry' hdone' (haddr.mono (htext' ▸ List.prefix_append _ _))
      h.corrections_behind hcases]
    exact Part.recorded_ofTexts hlf' htext'

/-- **One block after the other.** The corrective edits patch the runs of the blocks whose output
has changed, and what becomes of them is known for all parts. -/
theorem exists_echoed (hlf : b.text.LfOnly) (h : Standing blocks b pre ps)
    (htext : b.text = pre ++ rest) :
    ∃ pt : List Patch, pt.flatMap Patch.old = rest ∧
      Patch.edits pre pt = ps.filterMap (·.correction? blocks) ∧
      EchoedBehind absorbs blocks ps pre pt := by
  induction ps generalizing pre rest with
  | nil =>
    refine ⟨[⟨rest, none⟩], by simp, rfl, fun done pre' b' _ _ _ _ _ => ?_⟩
    exact .nil blocks b'
  | cons q ps ih =>
    cases hkind : q.kind.isPlaceholder with
    | true =>
      obtain ⟨pt, hold, hedits, hps⟩ := ih h.tail htext
      refine ⟨pt, hold, ?_, hps.placeholder habsorb hrefuse h hkind⟩
      rw [List.filterMap_cons_none (Part.correction?_of_placeholder hkind), hedits]
    | false =>
      obtain ⟨kind, k, c, post, rfl, rfl⟩ := (h.recorded q List.mem_cons_self).exists_cut hkind hlf
        htext (h.behind q List.mem_cons_self)
      have htext' : b.text = pre ++ k ++ c ++ post := by
        rw [htext]
        simp
      obtain ⟨pt, hold, hedits, hps⟩ := ih (h.tail_of_ofTexts rfl) htext'
      cases hq : (Part.ofTexts kind (pre ++ k) c c).correction? blocks with
      | none =>
        refine ⟨⟨k ++ c, none⟩ :: pt, by simp [hold], ?_,
          hps.keep habsorb hrefuse h hlf hq hedits⟩
        rw [List.filterMap_cons_none hq, Patch.edits, ← List.append_assoc, hedits]
      | some e =>
        refine ⟨⟨k, none⟩ :: ⟨c, some e.text⟩ :: pt, by simp [hold], ?_, hps.patch habsorb h hq⟩
        obtain ⟨-, hspan, -, -⟩ := Part.of_correction?_eq_some hq
        rw [List.filterMap_cons_some hq, Patch.edits, Patch.edits, hedits]
        exact congrArg (· :: _) (congrArg (Edit.mk · e.text) hspan.symm)

end

end Standing

namespace Expansion

variable {x x' : Expansion} {edits : List Edit} {outcome : UpdateOutcome} {b : Buffer}

/-- Corrective edits come from a run of the generator on the parts as they have been moved. -/
theorem exists_invoke_of_edits_ne_nil {d : Document} (hupdate : x.update edits d = (outcome, x'))
    (hedits : outcome.edits ≠ []) :
    ∃ output, x.template.generator.invoke ((x.moved edits d).input
        (x.moved edits d).placeholderTexts) = .ok output ∧
      outcome.edits = (x.moved edits d).parts.filterMap (·.correction? output.blocks) ∧
      x'.parts = (x.moved edits d).parts.map (·.withOutput output.blocks) ∧
      x'.blockChanged = true := by
  rw [update_eq] at hupdate
  split_ifs at hupdate
  · rw [regenerate] at hupdate
    split at hupdate
    · obtain ⟨rfl, -⟩ := Prod.mk.inj hupdate
      exact absurd rfl hedits
    · rename_i output hinvoke
      obtain ⟨rfl, rfl⟩ := Prod.mk.inj hupdate
      exact ⟨output, hinvoke, rfl, rfl, by simpa using hedits⟩
  · obtain ⟨rfl, -⟩ := Prod.mk.inj hupdate
    exact absurd rfl hedits

/-- **The echo.** When an update answers corrective edits, and every block covers its old content at
that moment, the edits can be applied. Behind them, when they have come back as the next batch, all
blocks cover their new contents, and each edit has been absorbed by the block it was issued for and
by no other part, if and only if no block whose output stays the same claims the next corrective
edit behind it. -/
theorem recorded_echo_iff (hb : b.text.LfOnly)
    (hupdate : x.update edits b.document = (outcome, x')) (hedits : outcome.edits ≠ [])
    (hold : ∀ q ∈ (x.moved edits b.document).parts, q.kind.isPlaceholder = false →
      q.content.NoBreak)
    (hnew : ∀ q ∈ x'.parts, q.kind.isPlaceholder = false → q.content.NoBreak)
    (hord : (x.moved edits b.document).parts.Pairwise Part.Before)
    (hrecorded : ∀ q ∈ (x.moved edits b.document).parts, q.Recorded b) :
    ∃ output b', x.template.generator.invoke ((x.moved edits b.document).input
        (x.moved edits b.document).placeholderTexts) = .ok output ∧
      b.apply outcome.edits = .ok b' ∧
      (b'.Addressable →
        ((∀ q ∈ (x'.update outcome.edits b'.document).2.parts, q.Recorded b') ↔
          Part.Unclaimed output.blocks (x.moved edits b.document).parts) ∧
        (Attributed output.blocks (x.moved edits b.document).parts (x'.routed outcome.edits) ↔
          Part.Unclaimed output.blocks (x.moved edits b.document).parts)) := by
  obtain ⟨output, hinvoke, hcorrections, hparts, hchanged⟩ :=
    exists_invoke_of_edits_ne_nil hupdate hedits
  generalize hmoved : x.moved edits b.document = m at *
  have hstanding : Standing output.blocks b [] m.parts := by
    refine ⟨fun q _ => q.range.start.origin_le, hord, hrecorded, fun q hq hkind => ?_⟩
    refine ⟨hold q hq hkind, hnew _ (hparts ▸ List.mem_map_of_mem hq) ?_⟩
    rwa [Part.withOutput_kind]
  have habsorb : ∀ e q, q.kind.isPlaceholder = false →
      x'.absorbs e q = (q.content == e.text) := fun e q hkind => by
    rw [absorbs_of_blockChanged x' hchanged, hkind]
    rfl
  have hrefuse : ∀ e q, q.kind.isPlaceholder = true → x'.absorbs e q = false := fun e q hkind => by
    rw [absorbs_of_blockChanged x' hchanged, hkind]
    rfl
  obtain ⟨pt, hpt, hpatches, hechoed⟩ := hstanding.exists_echoed habsorb hrefuse hb rfl
  rw [← hcorrections] at hpatches
  have hlf : Text.LfOnly (pt.flatMap Patch.old) := hpt ▸ hb
  have hlf' : Text.LfOnly (pt.flatMap Patch.new) := by
    have hbreak : ∀ e ∈ Patch.edits [] pt, e.text.LfOnly := by
      intro e he
      rw [hpatches, hcorrections] at he
      obtain ⟨_, -, -, -, -, -, hbreak⟩ := hstanding.exists_of_mem_corrections he
      exact hbreak.lfOnly
    exact Patch.lfOnly_flatMap_new hlf hbreak
  have happly : b.apply outcome.edits = .ok ⟨pt.flatMap Patch.new⟩ := by
    have hpatched := @Patch.apply_edits [] [] pt (by simpa using hlf)
    rwa [hpatches, List.append_nil, List.nil_append, hpt, List.append_nil, List.nil_append]
      at hpatched
  refine ⟨output, _, hinvoke, happly, fun haddr => ?_⟩
  have hrouted : x'.routed outcome.edits = route x'.absorbs outcome.edits
      ((m.parts.map (·.withOutput output.blocks)).map (Field.pushed [])) := by
    rw [routed, ← hpatches, Patch.sortByStop_edits, hparts]
    rfl
  obtain ⟨hall, hattributed⟩ := hechoed [] [] ⟨pt.flatMap Patch.new⟩ rfl hlf' (haddr.text hlf')
    (Edit.carries_nil _) (by simp)
  rw [← hcorrections, ← hrouted] at hall hattributed
  refine ⟨?_, hattributed⟩
  rw [update_of_blockChanged x' _ _ hchanged, moved_parts_of_blockChanged x' _ _ hchanged,
    List.forall_mem_map]
  exact hall

/-- A template with a block that always shows `x` and one that repeats the text of the first
placeholder. The last placeholder stands between the two blocks. -/
def repeatTemplate : Template where
  trigger := .literal "repeat".toList
  description := []
  flags := .empty
  priority := 0
  placeholderCount := 2
  contextFilter := none
  generator := ⟨[.text "$1 ".toList, .block 0, .text "$0".toList, .block 1], 2,
    fun input => .ok ["x".toList, input.placeholderTexts.head?.getD []]⟩
  line := 1

/-- The template in an empty document, which then holds a space and the `x`. -/
def repeated : Expansion :=
  (Expansion.new repeatTemplate ⟨.origin, [], [], [], []⟩ (Buffer.document ⟨[]⟩)).1

/-- The edit that types a text into the first placeholder. -/
def typing (text : Text) : List Edit := [.insert .origin text]

/-- Two letters are typed. The second block absorbs the corrective edit. -/
theorem recorded_echo_twoLetters :
    let b : Buffer := ⟨"ab x".toList⟩
    let b' : Buffer := ⟨"ab xab".toList⟩
    let x' := (repeated.update (typing "ab".toList) b.document).2
    let es := (repeated.update (typing "ab".toList) b.document).1.edits
    es = [.insert ⟨0, 4⟩ "ab".toList] ∧ b.apply es = .ok b' ∧
      (∀ q ∈ (x'.update es b'.document).2.parts, q.Recorded b') := by
  intro b b' x' es
  have hes : es = [.insert ⟨0, 4⟩ "ab".toList] := by decide +kernel
  have happly' : b.apply es = .ok b' := by
    rw [hes]
    decide +kernel
  have hne : es ≠ [] := by
    rw [hes]
    exact List.cons_ne_nil _ _
  have hupdate : repeated.update (typing "ab".toList) b.document =
      ((repeated.update (typing "ab".toList) b.document).1, x') := rfl
  obtain ⟨output, b'', hinvoke, happly, hecho⟩ := recorded_echo_iff (b := b) (by decide) hupdate hne
    (by decide +kernel) (by decide +kernel) (by decide +kernel) (by decide +kernel)
  obtain rfl := Except.ok.inj (happly.symm.trans happly')
  have haddr : b'.Addressable :=
    Buffer.addressable_of_length_le (by decide +kernel) (by decide +kernel)
  have htexts : (repeated.moved (typing "ab".toList) b.document).placeholderTexts =
      ["ab".toList, []] := by decide +kernel
  have hinvoke' : repeated.template.generator.invoke
      ((repeated.moved (typing "ab".toList) b.document).input ["ab".toList, []]) =
        .ok ⟨repeatTemplate.generator.segments, ["x".toList, "ab".toList]⟩ := rfl
  rw [htexts] at hinvoke
  obtain rfl := Except.ok.inj (hinvoke.symm.trans hinvoke')
  exact ⟨hes, happly', (hecho haddr).1.mpr (by decide +kernel)⟩

/-- The text of the first block is typed. It takes the corrective edit of the second one for its
own. -/
theorem not_recorded_echo_sameText :
    let b : Buffer := ⟨"x x".toList⟩
    let b' : Buffer := ⟨"x xx".toList⟩
    let m := repeated.moved (typing "x".toList) b.document
    let x' := (repeated.update (typing "x".toList) b.document).2
    let es := (repeated.update (typing "x".toList) b.document).1.edits
    b.text.LfOnly ∧ es = [.insert ⟨0, 3⟩ "x".toList] ∧
      (∀ q ∈ m.parts ++ x'.parts, q.content.NoBreak) ∧ m.parts.Pairwise Part.Before ∧
      (∀ q ∈ m.parts, q.Recorded b) ∧ b.apply es = .ok b' ∧
      (x'.update es b'.document).2.parts.map (fun q => (q.kind, q.range.span, q.content)) =
        [(.placeholder 1, ⟨⟨0, 0⟩, ⟨0, 1⟩⟩, "x".toList), (.block 0, ⟨⟨0, 2⟩, ⟨0, 4⟩⟩, "x".toList),
          (.placeholder 0, ⟨⟨0, 4⟩, ⟨0, 4⟩⟩, []), (.block 1, ⟨⟨0, 4⟩, ⟨0, 4⟩⟩, "x".toList)] ∧
      ¬∀ q ∈ (x'.update es b'.document).2.parts, q.Recorded b' := by
  decide +kernel

end Expansion

end LiveSnippet
