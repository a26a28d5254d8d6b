import LiveSnippet.Proofs.Text.Extent
import LiveSnippet.Session.Update
import Mathlib.Data.List.TakeWhile

/-!
# Routing edits to parts

What the way of an edit along the parts does, whatever the parts are: no part is lost or moved in
the list, and only a placeholder that absorbs an edit counts as touched.

## Main definitions

* `Part.Before`: the order of the document
* `absorber?`: the part at which the way of an edit ends
* `Fate`: what a part is to do about one edit
* `Expansion.routed`, `Expansion.moved`: the two stages of an update in front of the generator

## Main results

* `map_part_route`: routing keeps the parts
* `exists_absorbs_of_touched`: what touches a part
* `fate_of_route_singleton`: one edit on its way along parts in document order
* `Expansion.update_eq`: an update moves the parts and runs the generator if one of them is touched
* `Expansion.update_ranges`: a run of the generator moves nothing
* `Expansion.update_blockChanged`: corrective edits are under way if and only if there are some
* `Expansion.update_of_blockChanged`: while they are, nothing is answered
-/

namespace LiveSnippet

variable {absorbs : Part → Bool} {e : Edit} {r : Routed} {rs : List Routed}

namespace Routed

@[simp] theorem give_part (e : Edit) (g : Growth) (r : Routed) : (r.give e g).part = r.part := rfl

@[simp] theorem give_touched (e : Edit) (g : Growth) (r : Routed) :
    (r.give e g).touched = r.touched := rfl

@[simp] theorem give_moves (e : Edit) (g : Growth) (r : Routed) :
    (r.give e g).moves = r.moves ++ [(e, g)] := rfl

@[simp] theorem absorb_part (e : Edit) (r : Routed) : (r.absorb e).part = r.part := rfl

@[simp] theorem absorb_moves (e : Edit) (r : Routed) :
    (r.absorb e).moves = r.moves ++ [(e, .grow)] := rfl

@[simp] theorem absorb_touched (e : Edit) (r : Routed) :
    (r.absorb e).touched = (r.touched || r.part.kind.isPlaceholder) := rfl

end Routed

theorem map_part_offer (absorbs : Part → Bool) (e : Edit) (rs : List Routed) :
    ((offer absorbs e rs).1 ++ (offer absorbs e rs).2).map Routed.part = rs.map Routed.part := by
  induction rs with
  | nil => rfl
  | cons r rs ih =>
    rw [offer]
    split_ifs <;> simp_all

/-- Routing keeps the parts and their order. -/
theorem map_part_route (absorbs : Edit → Part → Bool) (es : List Edit) (rs : List Routed) :
    (route absorbs es rs).map Routed.part = rs.map Routed.part := by
  induction es generalizing rs with
  | nil => rfl
  | cons e es ih =>
    simp only [route, List.map_append, ih]
    rw [List.append_assoc, ← List.map_append, map_part_offer, ← List.map_append,
      List.takeWhile_append_dropWhile]

/-- A part that an edit has been offered to covers it, and the edit stays behind the part unless it
is absorbed. -/
theorem exists_of_mem_offer_fst (h : r ∈ (offer absorbs e rs).1) :
    ∃ r₀ ∈ rs, r₀.part.range.covers e.span = true ∧
      (absorbs r₀.part = true ∧ r = r₀.absorb e ∨
        absorbs r₀.part = false ∧ r = r₀.give e .fixLeft) := by
  induction rs with
  | nil => simp [offer] at h
  | cons r₀ rs ih =>
    rw [offer] at h
    split_ifs at h with hc ha
    · obtain rfl := List.mem_singleton.mp h
      exact ⟨r₀, List.mem_cons_self, hc, Or.inl ⟨ha, rfl⟩⟩
    · rcases List.mem_cons.mp h with rfl | h
      · exact ⟨r₀, List.mem_cons_self, hc, Or.inr ⟨by simpa using ha, rfl⟩⟩
      · obtain ⟨r₁, hr₁, h₁⟩ := ih h
        exact ⟨r₁, List.mem_cons_of_mem _ hr₁, h₁⟩
    · simp at h

/-- The parts behind those that an edit has been offered to get its text in front of them. -/
theorem exists_of_mem_offer_snd (h : r ∈ (offer absorbs e rs).2) :
    ∃ r₀ ∈ rs, r = r₀.give e .fixRight := by
  induction rs with
  | nil => simp [offer] at h
  | cons r₀ rs ih =>
    rw [offer] at h
    split_ifs at h with hc ha
    · obtain ⟨r₁, hr₁, rfl⟩ := List.mem_map.mp h
      exact ⟨r₁, List.mem_cons_of_mem _ hr₁, rfl⟩
    · obtain ⟨r₁, hr₁, h₁⟩ := ih h
      exact ⟨r₁, List.mem_cons_of_mem _ hr₁, h₁⟩
    · obtain ⟨r₁, hr₁, rfl⟩ := List.mem_map.mp h
      exact ⟨r₁, hr₁, rfl⟩

/-- What has become of a part when edits are routed: one of them has passed it by, it has been
offered one of them, or all of them stand in front of it. -/
theorem mem_route_cons {absorbs : Edit → Part → Bool} {es : List Edit}
    (h : r ∈ route absorbs (e :: es) rs) :
    (r ∈ rs ∧ r.part.range.stop < e.span.stop) ∨
      (∃ r₀ ∈ rs, r₀.part.range.covers e.span = true ∧
        (absorbs e r₀.part = true ∧ r = r₀.absorb e ∨
          absorbs e r₀.part = false ∧ r = r₀.give e .fixLeft)) ∨
      ∃ rs' : List Routed, r ∈ route absorbs es rs' ∧
        ∀ r₁ ∈ rs', ∃ r₀ ∈ rs, r₁ = r₀.give e .fixRight := by
  simp only [route, List.append_assoc, List.mem_append] at h
  rcases h with h | h | h
  · exact Or.inl ⟨(List.takeWhile_prefix _).subset h, by simpa using List.mem_takeWhile_imp h⟩
  · obtain ⟨r₀, hr₀, h₀⟩ := exists_of_mem_offer_fst h
    exact Or.inr (Or.inl ⟨r₀, (List.dropWhile_suffix _).subset hr₀, h₀⟩)
  · refine Or.inr (Or.inr ⟨_, h, fun r₁ hr₁ => ?_⟩)
    obtain ⟨r₀, hr₀, h₀⟩ := exists_of_mem_offer_snd hr₁
    exact ⟨r₀, (List.dropWhile_suffix _).subset hr₀, h₀⟩

/-- A part is touched if it was before, or if it is a placeholder that absorbs one of the edits. -/
theorem exists_absorbs_of_touched {absorbs : Edit → Part → Bool} {es : List Edit}
    (h : r ∈ route absorbs es rs) (ht : r.touched = true) :
    (∃ r₀ ∈ rs, r₀.touched = true) ∨
      r.part.kind.isPlaceholder = true ∧ ∃ e ∈ es, absorbs e r.part = true := by
  induction es generalizing rs with
  | nil => exact Or.inl ⟨r, h, ht⟩
  | cons e es ih =>
    rcases mem_route_cons h with ⟨hr, -⟩ | ⟨r₀, hr₀, -, h₀⟩ | ⟨rs', hr, hrs'⟩
    · exact Or.inl ⟨r, hr, ht⟩
    · rcases h₀ with ⟨ha, rfl⟩ | ⟨-, rfl⟩
      · rw [Routed.absorb_touched, Bool.or_eq_true] at ht
        exact ht.imp (fun h₀ => ⟨r₀, hr₀, h₀⟩) fun hk => ⟨hk, e, List.mem_cons_self, ha⟩
      · exact Or.inl ⟨r₀, hr₀, ht⟩
    · rcases ih hr with ⟨r₁, hr₁, h₁⟩ | ⟨hk, e', he', ha⟩
      · obtain ⟨r₀, hr₀, rfl⟩ := hrs' r₁ hr₁
        exact Or.inl ⟨r₀, hr₀, h₁⟩
      · exact Or.inr ⟨hk, e', List.mem_cons_of_mem _ he', ha⟩

/-! ### Steps on the way -/

theorem TrackedSpan.covers_iff {t : TrackedSpan} {s : Span} :
    t.covers s = true ↔ t.start ≤ s.start ∧ s.stop ≤ t.stop := by
  simp [TrackedSpan.covers, Span.covers, TrackedSpan.start, TrackedSpan.stop]

section

variable {absorbs : Edit → Part → Bool} {es : List Edit}

/-- An edit passes by a part that ends in front of its end. -/
theorem route_cons_of_lt (h : r.part.range.stop < e.span.stop) :
    route absorbs (e :: es) (r :: rs) = r :: route absorbs (e :: es) rs := by
  have hr : decide (r.part.range.stop < e.span.stop) = true := decide_eq_true h
  rw [route, route, List.takeWhile_cons, if_pos hr, List.dropWhile_cons, if_pos hr]
  rfl

/-- An edit is offered to parts none of which ends in front of its end. -/
theorem route_of_le (h : ∀ r ∈ rs, e.span.stop ≤ r.part.range.stop) :
    route absorbs (e :: es) rs =
      (offer (absorbs e) e rs).1 ++ route absorbs es (offer (absorbs e) e rs).2 := by
  cases rs with
  | nil => rfl
  | cons r rs =>
    have hr : ¬decide (r.part.range.stop < e.span.stop) = true := by
      simpa using h r List.mem_cons_self
    rw [route, List.takeWhile_cons, if_neg hr, List.dropWhile_cons, if_neg hr]
    rfl

/-- A part that absorbs an edit ends its way. -/
theorem route_cons_of_absorbs (hcov : r.part.range.covers e.span = true)
    (habs : absorbs e r.part = true) :
    route absorbs (e :: es) (r :: rs) =
      r.absorb e :: route absorbs es (rs.map (·.give e .fixRight)) := by
  have hr : ¬decide (r.part.range.stop < e.span.stop) = true := by
    simpa using (TrackedSpan.covers_iff.mp hcov).2
  rw [route, List.takeWhile_cons, if_neg hr, List.dropWhile_cons, if_neg hr, offer, if_pos hcov,
    if_pos habs]
  rfl

/-- An edit stays behind a part that covers it but does not absorb it, and goes on to the
next one. -/
theorem route_cons_of_offered (hcov : r.part.range.covers e.span = true)
    (habs : absorbs e r.part = false) (hrs : ∀ s ∈ rs, e.span.stop ≤ s.part.range.stop) :
    route absorbs (e :: es) (r :: rs) = r.give e .fixLeft :: route absorbs (e :: es) rs := by
  have hle : ∀ s ∈ r :: rs, e.span.stop ≤ s.part.range.stop :=
    List.forall_mem_cons.mpr ⟨(TrackedSpan.covers_iff.mp hcov).2, hrs⟩
  rw [route_of_le hle, route_of_le hrs, offer, if_pos hcov, if_neg (by simp [habs])]
  rfl

/-- An edit that does not reach a part stands in front of it and of all others. -/
theorem route_cons_of_front (hcov : r.part.range.covers e.span = false)
    (hle : e.span.stop ≤ r.part.range.stop) :
    route absorbs (e :: es) (r :: rs) =
      route absorbs es ((r :: rs).map (·.give e .fixRight)) := by
  have hr : ¬decide (r.part.range.stop < e.span.stop) = true := by simpa using hle
  rw [route, List.takeWhile_cons, if_neg hr, List.dropWhile_cons, if_neg hr, offer,
    if_neg (by simp [hcov])]
  rfl

end

/-! ### One edit -/

/-- The first part ends where the second one begins, or in front of that. -/
def Part.Before (q r : Part) : Prop := q.range.stop ≤ r.range.start

instance (q r : Part) : Decidable (q.Before r) := inferInstanceAs (Decidable (_ ≤ _))

/-- The index of the part that absorbs an edit: the first of those that cover it and would. -/
def absorber? (absorbs : Part → Bool) (e : Edit) (ps : List Part) : Option Nat :=
  ps.findIdx? fun q => q.range.covers e.span && absorbs q

section

variable {absorbs : Edit → Part → Bool} {q : Part} {ps : List Part} {i : Nat}

/-- One edit on its way along parts in document order passes by those that end in front of it, then
leaves its text behind those that cover it, and puts it in front of all others. -/
theorem route_singleton_cons (h : (q :: ps).Pairwise Part.Before) :
    route absorbs [e] ((q :: ps).map .ofPart) =
      if q.range.stop < e.span.stop then .ofPart q :: route absorbs [e] (ps.map .ofPart)
      else if q.range.covers e.span then
        if absorbs e q then
          (Routed.ofPart q).absorb e :: ps.map fun r => (Routed.ofPart r).give e .fixRight
        else (Routed.ofPart q).give e .fixLeft :: route absorbs [e] (ps.map .ofPart)
      else (q :: ps).map fun r => (Routed.ofPart r).give e .fixRight := by
  rw [List.map_cons]
  by_cases hstop : q.range.stop < e.span.stop
  · rw [if_pos hstop]
    exact route_cons_of_lt hstop
  rw [if_neg hstop]
  cases hcov : q.range.covers e.span with
  | false =>
    rw [if_neg Bool.false_ne_true, route_cons_of_front hcov (not_lt.mp hstop)]
    simp [route, Function.comp_def]
  | true =>
    rw [if_pos rfl]
    cases habs : absorbs e q with
    | true =>
      rw [if_pos rfl, route_cons_of_absorbs hcov habs]
      simp [route, Function.comp_def]
    | false =>
      rw [if_neg Bool.false_ne_true]
      refine route_cons_of_offered hcov habs fun s hs => ?_
      obtain ⟨r, hr, rfl⟩ := List.mem_map.mp hs
      exact (not_lt.mp hstop).trans
        (((List.pairwise_cons.mp h).1 r hr).trans r.range.start_le_stop)

/-- What the part with index `i` is to do about one edit that goes along parts in document order, if
the part with index `a` absorbs it. -/
inductive Fate (a : Option Nat) (e : Edit) (q : Part) (i : Nat) : List (Edit × Growth) → Prop
  /-- The part ends in front of the edit. -/
  | passed (hstop : q.range.stop < e.span.stop) : Fate a e q i []
  | absorbed (ha : a = some i) : Fate a e q i [(e, .grow)]
  /-- The edit has been offered to the part and goes on to the next one. -/
  | offered (hcov : q.range.covers e.span = true) (ha : ∀ j, a = some j → i < j) :
    Fate a e q i [(e, .fixLeft)]
  /-- The edit does not reach the part, or has been absorbed in front of it. -/
  | pushed (hpush : e.span.start < q.range.start ∨ ∃ j < i, a = some j) :
    Fate a e q i [(e, .fixRight)]

/-- The fate of a part with one more part in front that does not absorb the edit. -/
theorem Fate.succ {a : Option Nat} {ms : List (Edit × Growth)} (h : Fate a e q i ms) :
    Fate (a.map (· + 1)) e q (i + 1) ms := by
  cases h with
  | passed hstop => exact .passed hstop
  | absorbed ha => exact .absorbed (by rw [ha]; rfl)
  | offered hcov ha =>
    refine .offered hcov fun j hj => ?_
    obtain ⟨k, hk, rfl⟩ := Option.map_eq_some_iff.mp hj
    exact Nat.succ_lt_succ (ha k hk)
  | pushed hpush =>
    refine .pushed (hpush.imp_right ?_)
    rintro ⟨j, hj, ha⟩
    exact ⟨j + 1, Nat.succ_lt_succ hj, by rw [ha]; rfl⟩

/-- **One edit.** What becomes of each part when an edit goes along parts in document order. -/
theorem fate_of_route_singleton (absorbs : Edit → Part → Bool) (e : Edit)
    (h : ps.Pairwise Part.Before) (hi : ps[i]? = some q) :
    ∃ r, (route absorbs [e] (ps.map .ofPart))[i]? = some r ∧ r.part = q ∧
      Fate (absorber? (absorbs e) e ps) e q i r.moves := by
  -- By induction on the parts, for every index: behind a part that does not absorb the edit, all
  -- indices are counted from the next one, which is what `Fate.succ` is for.
  induction ps generalizing i with
  | nil => simp at hi
  | cons q₀ ps ih =>
    obtain ⟨hrest, hps⟩ := List.pairwise_cons.mp h
    rw [route_singleton_cons h, absorber?, List.findIdx?_cons, ← absorber?]
    by_cases hstop : q₀.range.stop < e.span.stop
    · have hcov : q₀.range.covers e.span = false := by
        rw [← Bool.not_eq_true, TrackedSpan.covers_iff]
        exact fun hc => absurd hc.2 (not_le.mpr hstop)
      rw [if_pos hstop, hcov, Bool.false_and, if_neg Bool.false_ne_true]
      cases i with
      | zero =>
        obtain rfl := Option.some.inj hi
        exact ⟨_, rfl, rfl, .passed hstop⟩
      | succ i =>
        obtain ⟨r, hr, hpart, hfate⟩ := ih hps hi
        exact ⟨r, hr, hpart, hfate.succ⟩
    · rw [if_neg hstop]
      cases hcov : q₀.range.covers e.span with
      | false =>
        have hlt : e.span.start < q₀.range.start := by
          refine not_le.mp fun hle => ?_
          rw [TrackedSpan.covers_iff.mpr ⟨hle, not_lt.mp hstop⟩] at hcov
          exact Bool.noConfusion hcov
        rw [if_neg Bool.false_ne_true, Bool.false_and, if_neg Bool.false_ne_true]
        refine ⟨(Routed.ofPart q).give e .fixRight, by rw [List.getElem?_map, hi]; rfl, rfl,
          .pushed (Or.inl ?_)⟩
        cases i with
        | zero => exact Option.some.inj hi ▸ hlt
        | succ i =>
          have hbefore := hrest q (List.mem_of_getElem? hi)
          exact (hlt.trans_le q₀.range.start_le_stop).trans_le hbefore
      | true =>
        rw [if_pos rfl, Bool.true_and]
        cases habs : absorbs e q₀ with
        | true =>
          rw [if_pos rfl, if_pos rfl]
          cases i with
          | zero =>
            obtain rfl := Option.some.inj hi
            exact ⟨_, rfl, rfl, .absorbed rfl⟩
          | succ i =>
            refine ⟨(Routed.ofPart q).give e .fixRight, ?_, rfl,
              .pushed (Or.inr ⟨0, Nat.succ_pos i, rfl⟩)⟩
            rw [List.getElem?_cons_succ] at hi ⊢
            rw [List.getElem?_map, hi]
            rfl
        | false =>
          rw [if_neg Bool.false_ne_true, if_neg Bool.false_ne_true]
          cases i with
          | zero =>
            obtain rfl := Option.some.inj hi
            refine ⟨_, rfl, rfl, .offered hcov fun j hj => ?_⟩
            obtain ⟨k, -, rfl⟩ := Option.map_eq_some_iff.mp hj
            exact Nat.succ_pos k
          | succ i =>
            obtain ⟨r, hr, hpart, hfate⟩ := ih hps hi
            exact ⟨r, hr, hpart, hfate.succ⟩

end

namespace Expansion

variable (x : Expansion) (edits : List Edit) (d : Document)

/-- The parts with the edits they follow in an update. -/
def routed : List Routed := route x.absorbs (Edit.sortByStop edits) (x.parts.map .ofPart)

theorem map_part_routed : (x.routed edits).map Routed.part = x.parts := by
  rw [routed, map_part_route, List.map_map]
  exact List.map_id _

/-- The expansion after the edits and before a run of the generator. -/
def moved : Expansion :=
  { x with
    range := x.range.update ((Edit.sortByStop edits).map (·, .grow))
    parts := (x.routed edits).map (reread d)
    blockChanged := false }

theorem update_eq :
    x.update edits d =
      if (x.routed edits).any (·.touched) then (x.moved edits d).regenerate
      else (.none, x.moved edits d) := rfl

theorem regenerate_ranges : x.regenerate.2.parts.map Part.range = x.parts.map Part.range := by
  rw [regenerate]
  split
  · rfl
  · rw [List.map_map]
    refine List.map_congr_left fun p _ => ?_
    rw [Function.comp_apply, Part.withOutput]
    split <;> rfl

/-- A run of the generator moves nothing: the parts are where their edits take them. -/
theorem update_ranges :
    (x.update edits d).2.parts.map Part.range = (x.routed edits).map (·.followed.range) := by
  have hmoved : (x.moved edits d).parts.map Part.range =
      (x.routed edits).map (·.followed.range) := by
    rw [moved, List.map_map]
    refine List.map_congr_left fun r _ => ?_
    rw [Function.comp_apply, reread]
    split <;> rfl
  rw [update_eq]
  split_ifs
  · exact (regenerate_ranges _).trans hmoved
  · exact hmoved

theorem regenerate_range : x.regenerate.2.range = x.range := by
  rw [regenerate]
  split <;> rfl

theorem update_range :
    (x.update edits d).2.range = x.range.update ((Edit.sortByStop edits).map (·, .grow)) := by
  rw [update_eq]
  split_ifs
  · exact regenerate_range _
  · rfl

theorem regenerate_blockChanged (h : x.blockChanged = false) :
    x.regenerate.2.blockChanged = !x.regenerate.1.edits.isEmpty := by
  rw [regenerate]
  split
  · exact h
  · rfl

/-- Corrective edits are under way after an update if and only if it has answered some. -/
theorem update_blockChanged :
    (x.update edits d).2.blockChanged = !(x.update edits d).1.edits.isEmpty := by
  rw [update_eq]
  split_ifs
  · exact regenerate_blockChanged _ rfl
  · rfl

/-- While corrective edits are under way, no part is touched. -/
theorem not_touched_of_blockChanged (h : x.blockChanged = true) :
    (x.routed edits).any (·.touched) = false := by
  rw [List.any_eq_false]
  intro r hr ht
  -- A touched part would be a placeholder that absorbs, but only blocks do for the time being.
  rcases exists_absorbs_of_touched hr ht with ⟨r₀, hr₀, h₀⟩ | ⟨hk, e, -, ha⟩
  · obtain ⟨p, -, rfl⟩ := List.mem_map.mp hr₀
    simp [Routed.ofPart] at h₀
  · rw [absorbs] at ha
    cases hkind : r.part.kind <;> simp_all [PartKind.isPlaceholder]

/-- Parts that have not been touched are not read again. -/
theorem map_reread {d : Document} {rs : List Routed} (h : ∀ r ∈ rs, r.touched = false) :
    rs.map (reread d) = rs.map Routed.followed := by
  refine List.map_congr_left fun r hr => ?_
  rw [reread, h r hr]
  rfl

/-- While corrective edits are under way, the parts just follow the edits. -/
theorem moved_parts_of_blockChanged (h : x.blockChanged = true) :
    (x.moved edits d).parts = (x.routed edits).map Routed.followed :=
  map_reread (by simpa using not_touched_of_blockChanged x edits h)

/-- While corrective edits are under way, blocks absorb the edits whose text is their content, and
placeholders absorb nothing. -/
theorem absorbs_of_blockChanged (h : x.blockChanged = true) (e : Edit) (q : Part) :
    x.absorbs e q = (!q.kind.isPlaceholder && q.content == e.text) := by
  rw [absorbs, h]
  cases q.kind with
  | placeholder id => exact Bool.and_false _
  | block index => rfl

/-- While corrective edits are under way, every batch is answered by nothing. -/
theorem update_of_blockChanged (h : x.blockChanged = true) :
    x.update edits d = (.none, x.moved edits d) := by
  rw [update_eq, not_touched_of_blockChanged x edits h]
  rfl

end Expansion

end LiveSnippet
