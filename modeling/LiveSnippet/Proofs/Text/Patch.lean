import LiveSnippet.Proofs.Text.Addressing
import Mathlib.Order.Basic

/-!
# Patching a document

A document may be cut into runs some of which are replaced. The edits that replace them are
addressed by the text in front of each run as it is before the batch; they do not overlap, and
applying them as one batch gives the document with the new runs.

## Main definitions

* `Patch`: a run of a document, which is kept or replaced
* `Patch.edits`: the edits that replace runs

## Main results

* `Patch.apply_edits`: applying them replaces the runs
* `Patch.sortByStop_edits`: they are ordered by their ends
* `Patch.exists_edits`: every batch in the order of the document is made of such edits
-/

namespace LiveSnippet

/-- A run of a document, with the text that takes its place if it is replaced. -/
structure Patch where
  old : Text
  new? : Option Text

namespace Patch

open Buffer

/-- The run after the replacement. -/
def new (p : Patch) : Text := p.new?.getD p.old

/-- The edits that replace runs behind the text `pre`. -/
def edits (pre : Text) : List Patch → List Edit
  | [] => []
  | ⟨old, none⟩ :: rest => edits (pre ++ old) rest
  | ⟨old, some new⟩ :: rest =>
    ⟨⟨pre.endPosition, Text.endPosition (pre ++ old)⟩, new⟩ :: edits (pre ++ old) rest

/-- The same edits by character indices. -/
def splices (pre : Text) : List Patch → List Splice
  | [] => []
  | ⟨old, none⟩ :: rest => splices (pre ++ old) rest
  | ⟨old, some new⟩ :: rest =>
    ⟨pre.length, (pre ++ old).length,
      ⟨⟨pre.endPosition, Text.endPosition (pre ++ old)⟩, new⟩⟩ :: splices (pre ++ old) rest

variable {pre post : Text} {ps : List Patch} {e : Edit} {s : Splice}

/-- The edits stand behind the text in front of the runs. -/
theorem endPosition_le_of_mem_edits (h : e ∈ edits pre ps) :
    pre.endPosition ≤ e.span.start ∧ e.span.start ≤ e.span.stop := by
  induction ps generalizing pre with
  | nil => simp [edits] at h
  | cons p ps ih =>
    obtain ⟨old, _ | new⟩ := p
    · have hrest := ih h
      exact ⟨(Text.endPosition_le_append _ _).trans hrest.1, hrest.2⟩
    · rcases List.mem_cons.mp h with rfl | h
      · exact ⟨le_rfl, Text.endPosition_le_append _ _⟩
      · have hrest := ih h
        exact ⟨(Text.endPosition_le_append _ _).trans hrest.1, hrest.2⟩

theorem edits_eq_nil_iff : edits pre ps = [] ↔ ∀ p ∈ ps, p.new? = none := by
  induction ps generalizing pre with
  | nil => simp [edits]
  | cons p ps ih =>
    obtain ⟨old, _ | new⟩ := p
    · simp [edits, ih]
    · simp [edits]

theorem pairwise_edits (pre : Text) (ps : List Patch) :
    (edits pre ps).Pairwise fun e f => e.span.stop ≤ f.span.start := by
  induction ps generalizing pre with
  | nil => exact .nil
  | cons p ps ih =>
    obtain ⟨old, _ | new⟩ := p
    · exact ih _
    · exact List.pairwise_cons.mpr ⟨fun f hf => (endPosition_le_of_mem_edits hf).1, ih _⟩

/-- The edits are ordered by their ends. -/
theorem sortByStop_edits (pre : Text) (ps : List Patch) :
    Edit.sortByStop (edits pre ps) = edits pre ps := by
  refine List.mergeSort_of_pairwise ((pairwise_edits pre ps).imp_of_mem ?_)
  intro e f _ hf hle
  exact decide_eq_true (hle.trans (endPosition_le_of_mem_edits hf).2)

theorem length_le_of_mem_splices (h : s ∈ splices pre ps) :
    pre.length ≤ s.start ∧ s.start ≤ s.stop := by
  induction ps generalizing pre with
  | nil => simp [splices] at h
  | cons p ps ih =>
    obtain ⟨old, _ | new⟩ := p
    · have hrest := ih h
      rw [List.length_append] at hrest
      exact ⟨by omega, hrest.2⟩
    · rcases List.mem_cons.mp h with rfl | h
      · exact ⟨Nat.le_refl _, by simp⟩
      · have hrest := ih h
        rw [List.length_append] at hrest
        exact ⟨by omega, hrest.2⟩

theorem pairwise_splices (pre : Text) (ps : List Patch) :
    (splices pre ps).Pairwise fun s t => s.stop ≤ t.start := by
  induction ps generalizing pre with
  | nil => exact .nil
  | cons p ps ih =>
    obtain ⟨old, _ | new⟩ := p
    · exact ih _
    · exact List.pairwise_cons.mpr ⟨fun t ht => (length_le_of_mem_splices ht).1, ih _⟩

/-- The splices are in order. -/
theorem mergeSort_splices (pre : Text) (ps : List Patch) :
    (splices pre ps).mergeSort Splice.le = splices pre ps := by
  refine List.mergeSort_of_pairwise ((pairwise_splices pre ps).imp_of_mem ?_)
  intro s t hs ht hle
  have hs' := (length_le_of_mem_splices hs).2
  have ht' := (length_le_of_mem_splices ht).2
  simp only [Splice.le, Bool.or_eq_true, Bool.and_eq_true, decide_eq_true_eq, beq_iff_eq]
  omega

theorem firstOverlap?_eq_none {l : List Splice} (h : l.Pairwise fun s t => s.stop ≤ t.start) :
    Splice.firstOverlap? l = none := by
  induction l with
  | nil => rfl
  | cons s l ih =>
    cases l with
    | nil => rfl
    | cons t l =>
      obtain ⟨hs, hl⟩ := List.pairwise_cons.mp h
      rw [Splice.firstOverlap?, if_neg (Nat.not_lt.mpr (hs t List.mem_cons_self))]
      exact ih hl

theorem resolve_edits (h : Text.LfOnly (pre ++ ps.flatMap old ++ post)) :
    (edits pre ps).mapM (resolve ⟨pre ++ ps.flatMap old ++ post⟩) = .ok (splices pre ps) := by
  induction ps generalizing pre with
  | nil => rfl
  | cons p ps ih =>
    have htext : pre ++ (p :: ps).flatMap old ++ post = pre ++ p.old ++ ps.flatMap old ++ post := by
      simp
    rw [htext] at h ⊢
    have hrest := ih h
    obtain ⟨old, _ | new⟩ := p
    · exact hrest
    · -- The edits behind this run are resolved in the same document, by the hypothesis for
      -- `pre ++ old`.
      have hindices : (⟨pre ++ old ++ ps.flatMap Patch.old ++ post⟩ : Buffer).toIndices
          ⟨pre.endPosition, Text.endPosition (pre ++ old)⟩ =
            .ok (pre.length, (pre ++ old).length) := by
        rw [List.append_assoc (pre ++ old)] at h ⊢
        exact toIndices_endPosition h
      rw [edits, List.mapM_cons, hrest, resolve, hindices]
      rfl

/-- Splicing from the last run to the first puts the new runs in place. -/
theorem foldr_splices (pre post : Text) (ps : List Patch) :
    (splices pre ps).foldr Splice.apply (pre ++ ps.flatMap old ++ post) =
      pre ++ ps.flatMap new ++ post := by
  induction ps generalizing pre with
  | nil => rfl
  | cons p ps ih =>
    have htext : pre ++ (p :: ps).flatMap old ++ post = pre ++ p.old ++ ps.flatMap old ++ post := by
      simp
    have hrest := ih (pre ++ p.old)
    rw [htext]
    obtain ⟨old, _ | new⟩ := p
    · rw [splices, hrest]
      simp [Patch.new]
    · rw [splices, List.foldr_cons, hrest, Splice.apply]
      simp [Patch.new, List.append_assoc]

/-- **Patching.** Applying the edits as one batch replaces the runs. -/
theorem apply_edits (h : Text.LfOnly (pre ++ ps.flatMap old ++ post)) :
    (⟨pre ++ ps.flatMap old ++ post⟩ : Buffer).apply (edits pre ps) =
      .ok ⟨pre ++ ps.flatMap new ++ post⟩ := by
  simp only [apply, resolve_edits h, bind, Except.bind]
  rw [mergeSort_splices, firstOverlap?_eq_none (pairwise_splices pre ps)]
  exact congrArg (Except.ok ∘ Buffer.mk) (foldr_splices pre post ps)

theorem edits_append (pre : Text) (ps qs : List Patch) :
    edits pre (ps ++ qs) = edits pre ps ++ edits (pre ++ ps.flatMap old) qs := by
  induction ps generalizing pre with
  | nil => simp [edits]
  | cons p ps ih =>
    obtain ⟨old, _ | new⟩ := p <;> simp [edits, ih]

/-- If the first edit ends where the runs begin, its text comes first behind the replacement. -/
theorem exists_flatMap_new_eq {es : List Edit} (h : edits pre ps = e :: es)
    (he : e.span.stop = pre.endPosition) : ∃ rest, ps.flatMap new = e.text ++ rest := by
  induction ps generalizing pre with
  | nil => simp [edits] at h
  | cons p ps ih =>
    obtain ⟨old, _ | new⟩ := p
    · rw [edits] at h
      have hle : Text.endPosition (pre ++ old) ≤ e.span.stop := by
        have hmem := endPosition_le_of_mem_edits (h ▸ List.mem_cons_self)
        exact hmem.1.trans hmem.2
      obtain rfl : old = [] := Text.endPosition_append_eq_iff.mp
        (le_antisymm (he ▸ hle) (Text.endPosition_le_append _ _))
      rw [List.append_nil] at h
      exact ih h he
    · obtain ⟨rfl, -⟩ := List.cons.inj h
      exact ⟨ps.flatMap Patch.new, List.flatMap_cons⟩

/-- LF is the only line break in what the runs are replaced by, too. -/
theorem lfOnly_flatMap_new (hlf : Text.LfOnly (ps.flatMap old))
    (hes : ∀ e ∈ edits pre ps, e.text.LfOnly) : Text.LfOnly (ps.flatMap new) := by
  induction ps generalizing pre with
  | nil => exact hlf
  | cons p ps ih =>
    rw [List.flatMap_cons, Text.lfOnly_append] at hlf ⊢
    obtain ⟨old, _ | new⟩ := p
    · exact ⟨hlf.1, ih hlf.2 hes⟩
    · obtain ⟨hnew, hrest⟩ := List.forall_mem_cons.mp hes
      exact ⟨hnew, ih hlf.2 hrest⟩

/-- Edits of a part of the text that stand in the order of the document replace runs of it. -/
theorem exists_edits {mid : Text} {es : List Edit} (hlf : Text.LfOnly (pre ++ mid ++ post))
    (hspans : ∀ e ∈ es, (⟨pre ++ mid ++ post⟩ : Buffer).HasSpan e.span ∧
      pre.endPosition ≤ e.span.start ∧ e.span.stop ≤ Text.endPosition (pre ++ mid))
    (hord : es.Pairwise fun e f => e.span.stop ≤ f.span.start) :
    ∃ ps : List Patch, ps.flatMap old = mid ∧ edits pre ps = es := by
  induction es generalizing pre mid with
  | nil => exact ⟨[⟨mid, none⟩], by simp, rfl⟩
  | cons e es ih =>
    obtain ⟨⟨hspan, hstart, hstop⟩, hrest⟩ := List.forall_mem_cons.mp hspans
    obtain ⟨hfirst, hord'⟩ := List.pairwise_cons.mp hord
    obtain ⟨u, o, w, htext, hcut⟩ := hspan.exists_cut hlf
    obtain ⟨span, new⟩ := e
    obtain rfl : span = ⟨u.endPosition, Text.endPosition (u ++ o)⟩ := hcut
    -- The edit cuts the text behind `pre` into a run that is kept, the one that it replaces, and
    -- what is left for the edits behind it.
    obtain ⟨k, rfl⟩ := Text.exists_append_of_endPosition_le
      ((List.append_assoc pre mid post).symm.trans (htext.trans (List.append_assoc u o w))) hstart
    obtain ⟨m, hm⟩ := Text.exists_append_of_endPosition_le htext.symm hstop
    obtain rfl : mid = k ++ o ++ m := by simpa using hm
    have hsplit : pre ++ (k ++ o ++ m) ++ post = pre ++ k ++ o ++ m ++ post := by simp
    have hsplit' : pre ++ (k ++ o ++ m) = pre ++ k ++ o ++ m := by simp
    rw [hsplit, hsplit'] at hrest
    rw [hsplit] at hlf
    obtain ⟨ps, hold, hedits⟩ :=
      ih hlf (fun f hf => ⟨(hrest f hf).1, hfirst f hf, (hrest f hf).2.2⟩) hord'
    exact ⟨⟨k, none⟩ :: ⟨o, some new⟩ :: ps, by simp [hold], by rw [edits, edits, hedits]⟩

end Patch

end LiveSnippet
