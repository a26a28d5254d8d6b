import LiveSnippet.Proofs.Session.Contents
import LiveSnippet.Proofs.Session.Echo
import LiveSnippet.Proofs.Text.Rewriting

/-!
# Batches within the selected placeholder

A batch may hold several edits of the selected placeholder, as when text is typed at several places
at once. On its way along the parts the first of them, by the ends of their spans, is absorbed by
the placeholder, and parts that have been offered an edit are not concerned by later ones. So the
placeholder follows the first edit only. The rest of the batch is in the document, but not in the
range of the placeholder, unless it leaves the end of the placeholder where the first edit has
put it.

## Main definitions

* `Expansion.textIndex`: the place of a placeholder among the texts that a generator is given
* `Expansion.ReadsBack`: range, content and input of the generator agree with the document

## Main results

* `getElem?_route_of_absorbs`: what a part is handed that absorbs the first edit of a batch
* `Expansion.readsBack_iff`: exactly which batches within the selected placeholder are read back
-/

namespace LiveSnippet

/-! ### The way of the first edit -/

section

variable {absorbs : Edit → Part → Bool} {e : Edit} {es : List Edit} {ps : List Part} {q : Part}
  {i : Nat}

/-- A part in document order that covers the first edit of a batch, and is the first that would
absorb it, absorbs it and is handed nothing else. -/
theorem getElem?_route_of_absorbs (hord : ps.Pairwise Part.Before)
    (hspan : e.span.start ≤ e.span.stop) (hi : ps[i]? = some q)
    (hcov : q.range.covers e.span = true) (habs : absorbs e q = true)
    (hfirst : ∀ j < i, ∀ p, ps[j]? = some p → absorbs e p = false) :
    (route absorbs (e :: es) (ps.map .ofPart))[i]? = some ((Routed.ofPart q).absorb e) := by
  induction ps generalizing i with
  | nil => simp at hi
  | cons p ps ih =>
    obtain ⟨hbefore, hps⟩ := List.pairwise_cons.mp hord
    rw [List.map_cons]
    cases i with
    | zero =>
      obtain rfl := Option.some.inj hi
      rw [route_cons_of_absorbs hcov habs]
      rfl
    | succ i =>
      have hrest := ih hps hi fun j hj p hp => hfirst (j + 1) (Nat.succ_lt_succ hj) p hp
      have hp : absorbs e p = false := hfirst 0 (Nat.succ_pos i) p rfl
      have hle : p.range.stop ≤ e.span.start :=
        (hbefore q (List.mem_of_getElem? hi)).trans (TrackedSpan.covers_iff.mp hcov).1
      rcases (hle.trans hspan).lt_or_eq with hlt | heq
      · rw [route_cons_of_lt hlt]
        exact hrest
      · have hcov' : p.range.covers e.span = true :=
          TrackedSpan.covers_iff.mpr ⟨p.range.start_le_stop.trans hle, heq.ge⟩
        rw [route_cons_of_offered hcov' hp]
        · exact hrest
        · intro s hs
          obtain ⟨r, hr, rfl⟩ := List.mem_map.mp hs
          exact (heq.ge.trans (hbefore r hr)).trans r.range.start_le_stop

end

namespace Expansion

variable {x : Expansion} {b b' b₁ : Buffer} {s : Span} {edits es : List Edit} {e : Edit}
  {d : Document} {q : Part} {id i : Nat}

/-! ### What the generator is given -/

/-- The place of a part's text among the texts of the placeholders, which are in the order of the
document. -/
def textIndex (x : Expansion) (i : Nat) : Nat :=
  (x.parts.take i).countP (·.kind.isPlaceholder)

theorem getElem?_placeholderTexts (hi : x.parts[i]? = some q)
    (hq : q.kind.isPlaceholder = true) :
    x.placeholderTexts[x.textIndex i]? = some q.content := by
  obtain ⟨hlt, hget⟩ := List.getElem?_eq_some_iff.mp hi
  have hsplit : x.parts = x.parts.take i ++ q :: x.parts.drop (i + 1) := by
    rw [← hget, List.cons_getElem_drop_succ, List.take_append_drop]
  have hfilter : (x.parts.filter (·.kind.isPlaceholder)).map (·.content) =
      ((x.parts.take i).filter (·.kind.isPlaceholder)).map (·.content) ++
        q.content :: ((x.parts.drop (i + 1)).filter (·.kind.isPlaceholder)).map (·.content) := by
    conv_lhs => rw [hsplit]
    rw [List.filter_append, List.filter_cons, if_pos hq, List.map_append, List.map_cons]
  have hlength : (((x.parts.take i).filter (·.kind.isPlaceholder)).map (·.content)).length =
      x.textIndex i := by
    rw [List.length_map, textIndex, List.countP_eq_length_filter]
  simp only [placeholderTexts, hfilter]
  rw [List.append_assoc, ← hlength, List.getElem?_append_right (Nat.le_refl _), Nat.sub_self]
  rfl

theorem textIndex_moved (x : Expansion) (edits : List Edit) (d : Document) (i : Nat) :
    (x.moved edits d).textIndex i = x.textIndex i := by
  have hcount : ∀ ps : List Part, ps.countP (·.kind.isPlaceholder) =
      (ps.map Part.kind).countP (·.isPlaceholder) := fun ps => by
    rw [List.countP_map]
    rfl
  rw [textIndex, textIndex, hcount, hcount, List.map_take, List.map_take, kinds_moved]

/-- A run of the generator leaves the placeholders as they are. -/
theorem getElem?_parts_regenerate (hi : x.parts[i]? = some q)
    (hq : q.kind.isPlaceholder = true) : x.regenerate.2.parts[i]? = some q := by
  rw [regenerate]
  split
  · exact hi
  · rw [List.getElem?_map, hi, Option.map_some,
      Part.withOutput_of_none (Part.correction?_of_placeholder hq)]

/-! ### The selected placeholder -/

/-- What the batch leaves in the place of a placeholder is read back: the part covers it and has
recorded it, and the generator has run and been given it. -/
structure ReadsBack (x : Expansion) (edits : List Edit) (i : Nat) (w : Rewrite b b' s) : Prop where
  part : ((x.update edits b'.document).2.parts[i]?).map (fun q => (q.range.span, q.content)) =
    some (w.region, w.new)
  regenerated : (x.update edits b'.document).1.regenerated = true
  given : (x.moved edits b'.document).placeholderTexts[x.textIndex i]? = some w.new

section

variable (hord : x.parts.Pairwise Part.Before) (hblock : x.blockChanged = false)
  (hsel : x.selected? = some id) (hfind : x.parts.findIdx? (·.kind == .placeholder id) = some i)
  (hi : x.parts[i]? = some q) (hsort : Edit.sortByStop edits = e :: es)
  (hspan : e.span.start ≤ e.span.stop) (hcov : q.range.covers e.span = true)

include hfind hi in
/-- The selected placeholder is the first part of its kind. -/
theorem kind_of_findIdx? : q.kind = .placeholder id ∧
    ∀ j < i, ∀ p, x.parts[j]? = some p → p.kind ≠ .placeholder id := by
  obtain ⟨hlt, hkind, hne⟩ := List.findIdx?_eq_some_iff_getElem.mp hfind
  obtain ⟨_, rfl⟩ := List.getElem?_eq_some_iff.mp hi
  refine ⟨beq_iff_eq.mp hkind, fun j hj p hp => ?_⟩
  obtain ⟨_, rfl⟩ := List.getElem?_eq_some_iff.mp hp
  simpa using hne j hj

include hord hblock hsel hfind hi hsort hspan hcov

/-- The selected placeholder absorbs the first edit, and is handed no other one. -/
theorem getElem?_routed_selected : (x.routed edits)[i]? = some ((Routed.ofPart q).absorb e) := by
  obtain ⟨hkind, hfirst⟩ := kind_of_findIdx? hfind hi
  rw [routed, hsort]
  refine getElem?_route_of_absorbs hord hspan hi hcov ?_ fun j hj p hp => ?_
  · simp [absorbs, hkind, hsel, hblock]
  · rw [absorbs, hblock]
    cases hp' : p.kind with
    | block index => rfl
    | placeholder id' =>
      have hne : id ≠ id' := fun h => hfirst j hj p hp (h ▸ hp')
      simp [hsel, hne]

/-- **What is read back.** After a batch the selected placeholder stands where the first edit has
taken it, holds what the document has there, and the generator is given this text. -/
theorem update_selected (d : Document) :
    ((x.update edits d).2.parts[i]?).map (fun q => (q.range.span, q.content)) =
        some (q.range.span.follow [(e, .grow)],
          (d.text? (q.range.span.follow [(e, .grow)])).getD []) ∧
      (x.update edits d).1.regenerated = true ∧
      (x.moved edits d).placeholderTexts[x.textIndex i]? =
        some ((d.text? (q.range.span.follow [(e, .grow)])).getD []) := by
  have hkind := (kind_of_findIdx? hfind hi).1
  have hrouted := getElem?_routed_selected hord hblock hsel hfind hi hsort hspan hcov
  have htouched : ((Routed.ofPart q).absorb e).touched = true := by
    simp [Routed.ofPart, hkind, PartKind.isPlaceholder]
  have hmoved : (x.moved edits d).parts[i]? = some (reread d ((Routed.ofPart q).absorb e)) := by
    rw [moved, List.getElem?_map, hrouted, Option.map_some]
  have hread : reread d ((Routed.ofPart q).absorb e) =
      ⟨q.kind, q.range.update [(e, .grow)],
        (d.text? (q.range.span.follow [(e, .grow)])).getD []⟩ := by
    rw [reread, if_pos htouched]
    rfl
  rw [hread] at hmoved
  have hplaceholder : q.kind.isPlaceholder = true := by
    rw [hkind]
    rfl
  have hrun : (x.update edits d).1.regenerated = true :=
    update_regenerated.mpr ⟨hblock, _, List.mem_of_getElem? hrouted, ⟨e, by simp⟩, id, hkind, hsel⟩
  refine ⟨?_, hrun, ?_⟩
  · rw [update_of_regenerated hrun, getElem?_parts_regenerate hmoved hplaceholder]
    rfl
  · rw [← x.textIndex_moved edits d i]
    exact getElem?_placeholderTexts hmoved hplaceholder

end

/-- **Batches within the selected placeholder.** A batch of edits that all lie within the selected
placeholder is read back as a whole if and only if the first of them, by the ends of their spans,
takes the end of the placeholder where the whole batch leaves the end of its text. A single edit
always is. -/
theorem readsBack_iff (hb : b.text.LfOnly) (hord : x.parts.Pairwise Part.Before)
    (hblock : x.blockChanged = false) (hsel : x.selected? = some id)
    (hfind : x.parts.findIdx? (·.kind == .placeholder id) = some i) (hi : x.parts[i]? = some q)
    (hq : b.HasSpan q.range.span) (hne : edits ≠ [])
    (hin : ∀ e ∈ edits, b.HasSpan e.span ∧ q.range.covers e.span = true ∧ e.text.LfOnly)
    (happly : b.apply edits = .ok b')
    (haddr : ∀ e ∈ edits, ∀ b₁, b.apply [e] = .ok b₁ → b₁.Addressable) :
    ∃ (e : Edit) (es : List Edit) (b₁ : Buffer) (first : Rewrite b b₁ q.range.span)
      (whole : Rewrite b b' q.range.span),
      Edit.sortByStop edits = e :: es ∧ b.apply [e] = .ok b₁ ∧
        (x.ReadsBack edits i whole ↔ first.region = whole.region) ∧
        (es = [] → x.ReadsBack edits i whole) := by
  have hperm : (Edit.sortByStop edits).Perm edits := List.mergeSort_perm _ _
  obtain ⟨e, es, hsort⟩ : ∃ e es, Edit.sortByStop edits = e :: es := by
    refine List.exists_cons_of_ne_nil fun hnil => hne ?_
    rw [hnil] at hperm
    exact hperm.nil_eq.symm
  have hmem : e ∈ edits := hperm.mem_iff.mp (hsort ▸ List.mem_cons_self)
  obtain ⟨he, hcov, hlf⟩ := hin e hmem
  obtain ⟨b₁, hfirst⟩ := he.exists_apply hb
  have hlf₁ : b₁.text.LfOnly := Buffer.lfOnly_apply hb (by simpa using hlf) hfirst
  have hlf' : b'.text.LfOnly := Buffer.lfOnly_apply hb (fun f hf => (hin f hf).2.2) happly
  obtain ⟨first⟩ := Buffer.exists_rewrite hb hq (by simpa using ⟨he.2.2, hcov⟩) hfirst
  obtain ⟨whole⟩ := Buffer.exists_rewrite hb hq
    (fun f hf => ⟨(hin f hf).1.2.2, (hin f hf).2.1⟩) happly
  have hfollow : q.range.span.follow [(e, .grow)] = first.region :=
    first.follow_grow hb hlf₁ he hcov hfirst (haddr e hmem b₁ hfirst)
  obtain ⟨hpart, hrun, hgiven⟩ :=
    update_selected hord hblock hsel hfind hi hsort he.2.2 hcov b'.document
  rw [hfollow] at hpart hgiven
  have hiff : x.ReadsBack edits i whole ↔ first.region = whole.region := by
    constructor
    · intro h
      exact congrArg Prod.fst (Option.some.inj (hpart.symm.trans h.part))
    · intro heq
      have hread : (b'.document.text? first.region).getD [] = whole.new := by
        rw [heq]
        change (b'.slice whole.region).toOption.getD [] = whole.new
        rw [(whole.shows_region hlf').2]
        rfl
      rw [hread] at hpart hgiven
      exact ⟨heq ▸ hpart, hrun, hgiven⟩
  refine ⟨e, es, b₁, first, whole, hsort, hfirst, hiff, ?_⟩
  rintro rfl
  obtain rfl : edits = [e] := List.perm_singleton.mp (hsort ▸ hperm).symm
  obtain rfl : b₁ = b' := Except.ok.inj (hfirst.symm.trans happly)
  exact hiff.mpr (hfollow.symm.trans
    (whole.follow_grow hb hlf₁ he hcov hfirst (haddr e hmem b₁ hfirst)))

/-- A template that consists of a placeholder. -/
def slotTemplate : Template where
  trigger := .literal "slot".toList
  description := []
  flags := .empty
  priority := 0
  placeholderCount := 1
  contextFilter := none
  generator := ⟨[.text "$1".toList], 0, fun _ => .ok []⟩
  line := 1

/-- The template in an empty document, with two letters typed into the placeholder. -/
def filledSlot : Expansion :=
  ((new slotTemplate ⟨.origin, [], [], [], []⟩ (Buffer.document ⟨[]⟩)).1.update
    [.insert .origin "ab".toList] (Buffer.document ⟨"ab".toList⟩)).2

theorem exists_part_filledSlot :
    ∃ q, filledSlot.parts[0]? = some q ∧ q.range.span = ⟨.origin, ⟨0, 2⟩⟩ := by
  have hspan : (filledSlot.parts[0]?).map (·.range.span) = some ⟨.origin, ⟨0, 2⟩⟩ := by
    decide +kernel
  exact Option.map_eq_some_iff.mp hspan

/-- What the two letters are rewritten to is the whole document. -/
theorem rewrite_filledSlot {t : Text} (w : Rewrite ⟨"ab".toList⟩ ⟨t⟩ ⟨.origin, ⟨0, 2⟩⟩) :
    w.new = t ∧ w.region = ⟨.origin, t.endPosition⟩ := by
  rw [w.unique ⟨[], "ab".toList, t, [], rfl, by decide, by simp⟩]
  exact ⟨rfl, rfl⟩

/-- A letter is put in front of the two letters, and the second one is replaced. -/
theorem readsBack_replaced :
    let b : Buffer := ⟨"ab".toList⟩
    let b' : Buffer := ⟨"xac".toList⟩
    let es : List Edit := [.insert .origin ['x'], ⟨⟨⟨0, 1⟩, ⟨0, 2⟩⟩, ['c']⟩]
    b.apply es = .ok b' ∧
      ∃ w : Rewrite b b' ⟨.origin, ⟨0, 2⟩⟩, w.new = b'.text ∧ filledSlot.ReadsBack es 0 w := by
  intro b b' es
  have hsort : Edit.sortByStop es = es :=
    Patch.sortByStop_edits [] [⟨[], some ['x']⟩, ⟨['a'], none⟩, ⟨['b'], some ['c']⟩]
  have happly : b.apply es = .ok b' :=
    @Patch.apply_edits [] [] [⟨[], some ['x']⟩, ⟨['a'], none⟩, ⟨['b'], some ['c']⟩] (by decide)
  obtain ⟨q, hi, hq⟩ := exists_part_filledSlot
  have hin : ∀ e ∈ es, b.HasSpan e.span ∧ q.range.span.covers e.span = true ∧ e.text.LfOnly := by
    rw [hq]
    decide +kernel
  have haddr : ∀ e ∈ es, ∀ b₁, b.apply [e] = .ok b₁ → b₁.Addressable := by
    have hsmall : ∀ e ∈ es, ∀ b₁ ∈ (b.apply [e]).toOption,
        b₁.text.LfOnly ∧ b₁.text.length ≤ maxCoordinate := by decide +kernel
    intro e he b₁ h
    obtain ⟨hlf, hlength⟩ := hsmall e he b₁ (by rw [h]; rfl)
    exact Buffer.addressable_of_length_le hlf hlength
  have hread := readsBack_iff (by decide) (by decide +kernel) (by decide +kernel)
    (by decide +kernel : filledSlot.selected? = some 1) (by decide +kernel) hi
    (hq ▸ by decide +kernel) (List.cons_ne_nil _ _) hin happly haddr
  rw [hq] at hread
  obtain ⟨e, es', b₁, first, whole, hsort', hfirst, hiff, -⟩ := hread
  obtain ⟨rfl, -⟩ := List.cons.inj (hsort.symm.trans hsort')
  have hfirst' : b.apply [.insert .origin ['x']] = .ok ⟨"xab".toList⟩ := by decide +kernel
  obtain rfl := Except.ok.inj (hfirst.symm.trans hfirst')
  refine ⟨happly, whole, (rewrite_filledSlot whole).1, hiff.mpr ?_⟩
  rw [(rewrite_filledSlot first).2, (rewrite_filledSlot whole).2]
  decide

/-- A letter is put in front of the two letters, and one behind them. The placeholder takes in the
first one only. -/
theorem not_readsBack_bothEnds :
    let b : Buffer := ⟨"ab".toList⟩
    let b' : Buffer := ⟨"xaby".toList⟩
    let es : List Edit := [.insert .origin ['x'], .insert ⟨0, 2⟩ ['y']]
    filledSlot.parts.Pairwise Part.Before ∧ filledSlot.blockChanged = false ∧
      filledSlot.selected? = some 1 ∧
      filledSlot.parts.map (fun q => (q.kind, q.range.span)) =
        [(.placeholder 1, ⟨.origin, ⟨0, 2⟩⟩)] ∧
      (∀ e ∈ es, b.HasSpan e.span ∧ Span.covers ⟨.origin, ⟨0, 2⟩⟩ e.span = true ∧ e.text.LfOnly) ∧
      b.apply es = .ok b' ∧
      (filledSlot.moved es b'.document).placeholderTexts[filledSlot.textIndex 0]? =
        some "xab".toList ∧
      ∀ w : Rewrite b b' ⟨.origin, ⟨0, 2⟩⟩, w.new = b'.text ∧ ¬filledSlot.ReadsBack es 0 w := by
  intro b b' es
  have hsort : Edit.sortByStop es = es :=
    Patch.sortByStop_edits [] [⟨[], some ['x']⟩, ⟨"ab".toList, none⟩, ⟨[], some ['y']⟩]
  have happly : b.apply es = .ok b' :=
    @Patch.apply_edits [] [] [⟨[], some ['x']⟩, ⟨"ab".toList, none⟩, ⟨[], some ['y']⟩] (by decide)
  obtain ⟨q, hi, hq⟩ := exists_part_filledSlot
  have hcov : q.range.covers (Span.point .origin) = true := by
    rw [TrackedSpan.covers, hq]
    decide
  obtain ⟨hpart, -, hgiven⟩ := update_selected (by decide +kernel) (by decide +kernel)
    (by decide +kernel : filledSlot.selected? = some 1) (by decide +kernel) hi hsort le_rfl hcov
    b'.document
  rw [hq] at hpart hgiven
  refine ⟨by decide +kernel, by decide +kernel, by decide +kernel, by decide +kernel,
    by decide +kernel, happly, hgiven.trans (by decide +kernel),
    fun w => ⟨(rewrite_filledSlot w).1, fun h => ?_⟩⟩
  have hregion : Span.follow ⟨.origin, ⟨0, 2⟩⟩ [(.insert .origin ['x'], .grow)] = w.region :=
    congrArg Prod.fst (Option.some.inj (hpart.symm.trans h.part))
  rw [(rewrite_filledSlot w).2] at hregion
  exact absurd hregion (by decide +kernel)

end Expansion

end LiveSnippet
