import LiveSnippet.Proofs.Text.Following
import LiveSnippet.Proofs.Text.Indices

/-!
# Rewriting a region

The edits of a batch that all lie within one span of a document exchange the text of the span, and
leave what stands around it alone. What is there afterwards is a region of the new document, which
begins where the span begins. A tracked span that takes in everything at its edges follows a single
edit within it exactly to this region.

## Main definitions

* `Rewrite`: the text of a span before and after a batch
* `Rewrite.region`: where the new text stands

## Main results

* `Buffer.exists_rewrite`: a batch within a span rewrites the text of the span
* `Rewrite.unique`: what it is rewritten to does not depend on how the document is cut
* `Rewrite.follow_grow`: a span follows one edit within it
-/

namespace LiveSnippet

/-- The text of a span in a document, and the one that stands in its place in another document,
while the two agree around it. -/
structure Rewrite (b b' : Buffer) (s : Span) where
  pre : Text
  old : Text
  new : Text
  post : Text
  before : b.text = pre ++ old ++ post
  span_eq : s = ⟨pre.endPosition, Text.endPosition (pre ++ old)⟩
  after : b'.text = pre ++ new ++ post

namespace Buffer

variable {b b' : Buffer} {s : Span} {es : List Edit} {pre mid : Text} {ss : List Splice}

/-- Splices within a run of a text rewrite the run. -/
theorem Splice.exists_foldr_apply_eq (post : Text)
    (hss : ∀ s ∈ ss, pre.length ≤ s.start ∧ s.start ≤ s.stop ∧ s.stop ≤ (pre ++ mid).length)
    (hord : ss.Pairwise fun s t => s.stop ≤ t.start) :
    ∃ new, ss.foldr Splice.apply (pre ++ mid ++ post) = pre ++ new ++ post := by
  induction ss generalizing pre mid with
  | nil => exact ⟨mid, rfl⟩
  | cons s ss ih =>
    obtain ⟨⟨hstart, hle, hstop⟩, hrest⟩ := List.forall_mem_cons.mp hss
    obtain ⟨hfirst, hord⟩ := List.pairwise_cons.mp hord
    rw [List.length_append] at hstop
    obtain ⟨k, o, m, rfl, hfront, hcut⟩ := Text.exists_cut mid
      (Nat.sub_le_sub_right hle pre.length) (Nat.sub_le_iff_le_add'.mpr hstop)
    have hk : s.start = (pre ++ k).length := by
      rw [List.length_append]
      omega
    have ho : s.stop = (pre ++ k ++ o).length := by
      rw [List.length_append, List.length_append]
      omega
    have hsplit : pre ++ (k ++ o ++ m) = pre ++ k ++ o ++ m := by simp
    rw [hsplit] at hrest ⊢
    have hbehind : ∀ t ∈ ss, (pre ++ k ++ o).length ≤ t.start ∧ t.start ≤ t.stop ∧
        t.stop ≤ (pre ++ k ++ o ++ m).length :=
      fun t ht => ⟨ho ▸ hfirst t ht, (hrest t ht).2⟩
    obtain ⟨new, hnew⟩ := ih hbehind hord
    refine ⟨k ++ s.edit.text ++ new, ?_⟩
    have htake : (pre ++ k ++ o ++ new ++ post).take s.start = pre ++ k := by
      rw [hk, List.append_assoc, List.append_assoc, List.take_left]
    have hdrop : (pre ++ k ++ o ++ new ++ post).drop s.stop = new ++ post := by
      rw [ho, List.append_assoc _ new post, List.drop_left]
    rw [List.foldr_cons, hnew, Splice.apply, htake, hdrop]
    simp

/-- **Batches within a span.** They rewrite the text of the span and nothing else. -/
theorem exists_rewrite (hb : b.text.LfOnly) (hs : b.HasSpan s)
    (hes : ∀ e ∈ es, e.span.start ≤ e.span.stop ∧ s.covers e.span = true)
    (h : b.apply es = .ok b') : Nonempty (Rewrite b b' s) := by
  obtain ⟨pre, old, post, htext, rfl⟩ := hs.exists_cut hb
  obtain rfl : b = ⟨pre ++ old ++ post⟩ := congrArg Buffer.mk htext
  obtain ⟨ss, hperm, hss, hord, htext'⟩ := exists_splices h
  have hindex : (⟨pre ++ old ++ post⟩ : Buffer).toIndex pre.endPosition = .ok pre.length := by
    rw [List.append_assoc] at hb ⊢
    exact toIndex_endPosition hb
  have hwithin : ∀ t ∈ ss, pre.length ≤ t.start ∧ t.start ≤ t.stop ∧
      t.stop ≤ (pre ++ old).length := by
    intro t ht
    obtain ⟨hle, hcov⟩ := hes t.edit (hperm.mem_iff.mp (List.mem_map_of_mem ht))
    obtain ⟨i, j, hi, hj, heq⟩ := resolve_eq_ok_iff.mp (hss t ht)
    simp only [Span.covers, Bool.and_eq_true, decide_eq_true_eq] at hcov
    have hij := toIndex_le_toIndex hle hi hj
    have hfirst := toIndex_le_toIndex hcov.1 hindex hi
    have hlast := toIndex_le_toIndex hcov.2 hj (toIndex_endPosition hb)
    rw [heq]
    dsimp only
    omega
  obtain ⟨new, hnew⟩ := Splice.exists_foldr_apply_eq post hwithin hord
  exact ⟨⟨pre, old, new, post, rfl, rfl, htext'.trans hnew⟩⟩

/-- An edit of a span of the document can be applied. -/
theorem HasSpan.exists_apply {e : Edit} (he : b.HasSpan e.span) (hb : b.text.LfOnly) :
    ∃ b', b.apply [e] = .ok b' := by
  obtain ⟨_, _, _, _, _, _, happly⟩ := he.exists_edit hb
  exact ⟨_, happly⟩

end Buffer

namespace Rewrite

variable {b b' : Buffer} {s : Span} {e : Edit}

/-- Where the new text stands. -/
def region (w : Rewrite b b' s) : Span := ⟨w.pre.endPosition, Text.endPosition (w.pre ++ w.new)⟩

/-- The span cuts the first document in one way only, so there is one rewrite at most. -/
theorem unique (w w' : Rewrite b b' s) : w = w' := by
  obtain ⟨pre, old, new, post, hbefore, hspan, hafter⟩ := w
  obtain ⟨pre', old', new', post', hbefore', hspan', hafter'⟩ := w'
  have hcut : pre ++ old ++ post = pre' ++ old' ++ post' := hbefore.symm.trans hbefore'
  have hstart : pre.endPosition = pre'.endPosition := congrArg Span.start (hspan.symm.trans hspan')
  have hstop : Text.endPosition (pre ++ old) = Text.endPosition (pre' ++ old') :=
    congrArg Span.stop (hspan.symm.trans hspan')
  obtain ⟨hfront, rfl⟩ :=
    List.append_inj hcut ((Text.endPosition_eq_iff_length_eq hcut).mp hstop)
  rw [List.append_assoc, List.append_assoc] at hcut
  obtain ⟨rfl, -⟩ := List.append_inj hcut ((Text.endPosition_eq_iff_length_eq hcut).mp hstart)
  obtain rfl := List.append_cancel_left hfront
  obtain rfl : new = new' :=
    List.append_cancel_left (List.append_cancel_right (hafter.symm.trans hafter'))
  rfl

theorem shows_region (w : Rewrite b b' s) (hb' : b'.text.LfOnly) : b'.Shows w.region w.new :=
  (Buffer.shows_iff hb').mpr ⟨w.pre, w.post, w.after, rfl⟩

/-- **One edit within a span.** If the span takes in what is put at its edges, it follows the edit
to where the new text stands. -/
theorem follow_grow (w : Rewrite b b' s) (hb : b.text.LfOnly) (hb' : b'.text.LfOnly)
    (he : b.HasSpan e.span) (hcov : s.covers e.span = true) (h : b.apply [e] = .ok b')
    (haddr : b'.Addressable) : s.follow [(e, .grow)] = w.region := by
  obtain ⟨u, o, v, new, rfl, rfl, happly⟩ := he.exists_edit hb
  obtain rfl : b' = ⟨u ++ new ++ v⟩ := Except.ok.inj (h.symm.trans happly)
  have hbefore : u ++ o ++ v = w.pre ++ w.old ++ w.post := w.before
  have hafter : u ++ new ++ v = w.pre ++ w.new ++ w.post := w.after
  simp only [w.span_eq, Span.covers, Bool.and_eq_true, decide_eq_true_eq] at hcov
  have hstart : w.pre.length ≤ u.length := by
    have hcut : w.pre ++ (w.old ++ w.post) = u ++ (o ++ v) := by simpa using hbefore.symm
    exact (Text.endPosition_le_iff_length_le hcut).mp hcov.1
  have hstop : (u ++ o).length ≤ (w.pre ++ w.old).length :=
    (Text.endPosition_le_iff_length_le hbefore).mp hcov.2
  have hlength := congrArg List.length hbefore
  have hlength' := congrArg List.length hafter
  obtain ⟨u₁, v₁, u₂, v₂, hcut₁, hcut₂, hlen₁, hlen₂, -, hfollow⟩ :=
    Span.exists_follow_eq hbefore new .grow
  have heq₁ : u₁.endPosition = w.pre.endPosition := by
    have hcut : u₁ ++ v₁ = w.pre ++ (w.new ++ w.post) := by simpa using hcut₁.symm.trans hafter
    refine (Text.endPosition_eq_iff_length_eq hcut).mpr ?_
    exact hlen₁.trans (Buffer.Splice.moveIndex_of_le_start hstart (by simp))
  have heq₂ : u₂.endPosition = Text.endPosition (w.pre ++ w.new) := by
    refine (Text.endPosition_eq_iff_length_eq (hcut₂.symm.trans hafter)).mpr ?_
    refine (hlen₂.trans (Buffer.Splice.moveIndex_of_stop_le hstop)).trans ?_
    simp only [List.length_append] at hlength hlength' ⊢
    omega
  refine (congrArg (Span.follow · _) w.span_eq).trans ((hfollow ?_ ?_).trans ?_)
  · exact Buffer.Addressable.endPosition (hcut₁ ▸ haddr) (hcut₁ ▸ hb')
  · exact Buffer.Addressable.endPosition (hcut₂ ▸ haddr) (hcut₂ ▸ hb')
  · rw [heq₁, heq₂, region]

end Rewrite

end LiveSnippet
