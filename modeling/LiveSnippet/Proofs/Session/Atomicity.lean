import LiveSnippet.Proofs.Session.Footing
import LiveSnippet.Proofs.Session.Order
import LiveSnippet.Proofs.Text.Indices

/-!
# Batches as a whole

A batch of the user is applied first, and the corrective edits after it. If they cannot be applied,
the batch has been carried out by half. This happens exactly if a block that is to be corrected stands
on a line that the document does not have, or overlaps another one; and it does not happen as long as
the batch leaves the parts in order, because the expansion always stands on lines of the document.

## Main definitions

* `Host.Atomic`: a batch that fails leaves the document and the expansion as they were
* `Host.CorrectionsFit`: the document admits the corrective edits of a batch
* `Host.KeepsOrder`: a batch leaves the parts in order

## Main results

* `Host.edit_eq_error_iff`: the two ways in which a batch fails
* `Host.edit_atomic_iff`: exactly which batches are carried out as a whole
-/

namespace LiveSnippet

namespace Expansion

variable {x y : Expansion} {b : Buffer} {blocks : List Text}

instance (x : Expansion) : Decidable x.InOrder := inferInstanceAs (Decidable (_ ∧ _))

theorem InOrder.of_ranges (h : x.InOrder) (hparts : y.parts.map Part.range = x.parts.map Part.range)
    (hrange : y.range = x.range) : y.InOrder := by
  have hinside : ∀ z : Expansion, (∀ q ∈ z.parts, q.range.start ≤ q.range.stop ∧
      z.range.start ≤ q.range.start ∧ q.range.stop ≤ z.range.stop) ↔
      ∀ t ∈ z.parts.map Part.range, t.start ≤ t.stop ∧ z.range.start ≤ t.start ∧
        t.stop ≤ z.range.stop := fun z => by rw [List.forall_mem_map]
  have hbefore : ∀ z : Expansion, z.parts.Pairwise Part.Before ↔
      (z.parts.map Part.range).Pairwise fun t u => t.stop ≤ u.start :=
    fun z => by rw [List.pairwise_map]; rfl
  rw [InOrder, hinside, hbefore, hparts, hrange, ← hinside, ← hbefore]
  exact h

/-- The corrective edits stand where their blocks stand. -/
theorem span_corrections_sublist (blocks : List Text) (ps : List Part) :
    ((ps.filterMap (·.correction? blocks)).map Edit.span).Sublist (ps.map (·.range.span)) := by
  induction ps with
  | nil => exact .slnil
  | cons q ps ih =>
    rw [List.filterMap_cons]
    cases hq : q.correction? blocks with
    | none => exact ih.cons _
    | some e =>
      rw [Part.correction?] at hq
      split at hq
      · cases hq
      · obtain ⟨o, -, ho⟩ := Option.bind_eq_some_iff.mp hq
        split_ifs at ho
        cases ho
        exact ih.cons_cons _

/-- Blocks in order on lines of the document can be corrected. -/
theorem InOrder.admits_corrections (h : x.InOrder) (hstop : x.range.stop.line < b.lineCount)
    (blocks : List Text) :
    b.Admits (x.parts.filterMap (·.correction? blocks)) := by
  have hsub := span_corrections_sublist blocks x.parts
  have hline : ∀ s ∈ x.parts.map (·.range.span), s.start ≤ s.stop ∧
      s.start.line < b.lineCount ∧ s.stop.line < b.lineCount := by
    rw [List.forall_mem_map]
    intro q hq
    obtain ⟨hle, -, hroot⟩ := h.1 q hq
    exact ⟨hle, (Position.line_le_of_le (hle.trans hroot)).trans_lt hstop,
      (Position.line_le_of_le hroot).trans_lt hstop⟩
  have hord : (x.parts.map (·.range.span)).Pairwise fun s t => s.stop ≤ t.start :=
    List.pairwise_map.mpr h.2
  refine ⟨fun e he => (hline _ (hsub.subset (List.mem_map_of_mem he))).2, ?_⟩
  refine (List.pairwise_map.mp (hord.sublist hsub)).imp_of_mem fun {e f} he hf hef => ?_
  intro s t hs ht
  obtain ⟨i, j, hi, hj, rfl⟩ := Buffer.resolve_eq_ok_iff.mp hs
  obtain ⟨k, l, hk, hl, rfl⟩ := Buffer.resolve_eq_ok_iff.mp ht
  have hle := (hline _ (hsub.subset (List.mem_map_of_mem he))).1
  exact Or.inl (Nat.max_le.mpr
    ⟨Buffer.toIndex_le_toIndex hef hj hk, Buffer.toIndex_le_toIndex (hle.trans hef) hi hk⟩)

/-- The document admits the corrective edits of a batch that leaves the parts in order. -/
theorem admits_corrections_of_inOrder {edits : List Edit} {b b' : Buffer} (hx : x.Grounded b)
    (hb : b.text.LfOnly) (hes : ∀ e ∈ edits, e.text.LfOnly ∧ e.Forward)
    (happly : b.apply edits = .ok b') (hord : (x.update edits b'.document).2.InOrder) :
    b'.Admits (x.update edits b'.document).1.edits := by
  have hmoved := hx.moved hb hes happly
  rw [update_eq] at hord ⊢
  split_ifs at hord ⊢ with htouched
  · have hord' : (x.moved edits b'.document).InOrder :=
      hord.of_ranges (regenerate_ranges _).symm (regenerate_range _).symm
    cases hinvoke : (x.moved edits b'.document).template.generator.invoke
        ((x.moved edits b'.document).input (x.moved edits b'.document).placeholderTexts) with
    | error e =>
      rw [regenerate_of_error hinvoke]
      exact ⟨List.forall_mem_nil _, .nil⟩
    | ok output =>
      rw [regenerate_of_ok hinvoke]
      exact hord'.admits_corrections hmoved.stop_lt output.blocks
  · exact ⟨List.forall_mem_nil _, .nil⟩

end Expansion

namespace Host

variable {h h' : Host} {edits : List Edit} {e : BufferError}

/-- How a batch fails: it is not applied; or it is applied, and its corrective edits are not. -/
theorem edit_eq_error_iff :
    h.edit edits = (.error e, h') ↔
      h.buffer.apply edits = .error e ∧ h' = h ∨
      ∃ b x, h.buffer.apply edits = .ok b ∧ h.live = some x ∧
        b.apply (x.update edits b.document).1.edits = .error e ∧
        h' = { h with buffer := b }.record (x.update edits b.document).1
          (x.update edits b.document).2 := by
  rw [edit]
  cases happly : h.buffer.apply edits with
  | error e' => simp [eq_comm]
  | ok b =>
    cases hlive : h.live with
    | none => simp
    | some x =>
      simp only [maxRounds, settle_eq, reduceCtorEq, false_and, false_or, Except.ok.injEq,
        Option.some.injEq, exists_and_left, exists_eq_left']
      generalize x.update edits b.document = answer
      obtain ⟨⟨corrections, regenerated, diagnostic⟩, x'⟩ := answer
      cases corrections with
      | nil => simp
      | cons c cs =>
        cases b.apply (c :: cs) with
        | error e' => simp [eq_comm]
        | ok b' => simp

/-- If the batch fails, the document and the expansion are as they were. -/
def Atomic (h : Host) (edits : List Edit) : Prop :=
  ∀ e h', h.edit edits = (.error e, h') → h'.buffer = h.buffer ∧ h'.live = h.live

/-- The document after the batch admits the corrective edits: the blocks that are to be corrected
stand on lines that exist, and do not overlap. -/
def CorrectionsFit (h : Host) (edits : List Edit) : Prop :=
  ∀ b x, h.buffer.apply edits = .ok b → h.live = some x →
    b.Admits (x.update edits b.document).1.edits

/-- The batch leaves the parts in order. -/
def KeepsOrder (h : Host) (edits : List Edit) : Prop :=
  ∀ b x, h.buffer.apply edits = .ok b → h.live = some x → (x.update edits b.document).2.InOrder

/-- A batch is atomic if and only if its corrective edits can be applied. -/
theorem atomic_iff_correctionsFit : h.Atomic edits ↔ h.CorrectionsFit edits := by
  constructor
  · intro hatomic b x happly hlive
    by_contra hadmits
    rw [Buffer.admits_iff, not_exists] at hadmits
    cases hcorrect : b.apply (x.update edits b.document).1.edits with
    | ok b' => exact hadmits b' hcorrect
    | error e =>
      have hkept := (hatomic e _ (edit_eq_error_iff.mpr
        (.inr ⟨b, x, happly, hlive, hcorrect, rfl⟩))).2
      have hedits : (x.update edits b.document).1.edits ≠ [] := by
        intro hnil
        rw [hnil, Buffer.apply_nil] at hcorrect
        cases hcorrect
      have hrun : (x.update edits b.document).1.regenerated = true := by
        by_contra hquiet
        rw [Bool.not_eq_true] at hquiet
        exact hedits (by rw [Expansion.update_of_not_regenerated hquiet]; rfl)
      have hbefore := (Expansion.update_regenerated.mp hrun).1
      have hafter := x.update_blockChanged edits b.document
      rw [record_live, hlive] at hkept
      rw [Option.some.inj hkept, hbefore] at hafter
      simp [hedits] at hafter
  · rintro hfit e h' herror
    rcases edit_eq_error_iff.mp herror with ⟨-, rfl⟩ | ⟨b, x, happly, hlive, hcorrect, -⟩
    · exact ⟨rfl, rfl⟩
    · obtain ⟨b', hb'⟩ := Buffer.admits_iff.mp (hfit b x happly hlive)
      cases hcorrect.symm.trans hb'

/-- **Batches as a whole.** Whatever a host has been called to do, a batch that fails leaves the
document and the expansion as they were if and only if the document after the batch admits the
corrective edits. It does if the batch leaves the parts in order, LF is the only line break in all
texts, and all edits run forward. -/
theorem edit_atomic_iff (text : Text) (calls : List Call) (edits : List Edit) :
    let h := (new text).run calls
    (h.Atomic edits ↔ h.CorrectionsFit edits) ∧
      (text.LfOnly → (∀ call ∈ calls, call.Plain) → (Call.edit edits).Plain → h.KeepsOrder edits →
        h.Atomic edits) := by
  intro h
  refine ⟨atomic_iff_correctionsFit, fun htext hcalls hedits hord => ?_⟩
  rw [atomic_iff_correctionsFit]
  intro b x happly hlive
  have hh : h.Grounded := grounded_run (grounded_new htext) hcalls
  exact Expansion.admits_corrections_of_inOrder (hh.live x hlive) hh.lfOnly hedits happly
    (hord b x happly hlive)

/-- A template whose code gives the texts of the placeholders. -/
theorem lfOnly_of_program {t : Template}
    (hsegments : ∀ run, .text run ∈ t.generator.segments → Text.LfOnly run)
    (hprogram : t.generator.program = fun input => .ok input.placeholderTexts) : t.LfOnly := by
  refine ⟨hsegments, fun input output hinput hinvoke => ?_⟩
  rw [Generator.invoke, hprogram] at hinvoke
  dsimp only at hinvoke
  split_ifs at hinvoke
  obtain rfl := Except.ok.inj hinvoke
  exact hinput.placeholderTexts

/-- The call that puts a template into an empty document. -/
def Call.start (t : Template) : Call := .expand t ⟨.origin, .origin⟩ ⟨.origin, [], [], [], []⟩

theorem Call.plain_start {t : Template} (ht : t.LfOnly) : (Call.start t).Plain :=
  ⟨ht, List.forall_mem_nil _, Text.noBreak_nil.lfOnly, Text.noBreak_nil.lfOnly,
    Text.noBreak_nil.lfOnly⟩

/-- Two letters typed into the placeholder are carried out as a whole. -/
theorem edit_atomic_echo :
    let calls := [Call.start echoTemplate]
    let h := (new []).run calls
    let edits : List Edit := [.insert .origin "ab".toList]
    (∀ call ∈ calls, call.Plain) ∧ (Call.edit edits).Plain ∧ h.KeepsOrder edits ∧
      h.Atomic edits := by
  intro calls h edits
  have htemplate : echoTemplate.LfOnly := by
    refine lfOnly_of_program (fun run hrun => ?_) rfl
    obtain rfl : run = "$1 = ".toList := by simpa [echoTemplate] using hrun
    decide
  have hcalls : ∀ call ∈ calls, call.Plain := by
    intro call hcall
    obtain rfl := List.mem_singleton.mp hcall
    exact Call.plain_start htemplate
  have hedits : (Call.edit edits).Plain := by
    intro e he
    obtain rfl := List.mem_singleton.mp he
    decide
  have hord : h.KeepsOrder edits := by
    intro b x happly hlive
    obtain rfl : b = ⟨"ab = ".toList⟩ := Except.ok.inj (happly.symm.trans (by decide +kernel))
    have hall : ∀ x ∈ h.live, (x.update edits (Buffer.document ⟨"ab = ".toList⟩)).2.InOrder := by
      decide +kernel
    exact hall x hlive
  exact ⟨hcalls, hedits, hord,
    (edit_atomic_iff [] calls edits).2 Text.noBreak_nil.lfOnly hcalls hedits hord⟩

/-- A template of three lines: a placeholder, a block that repeats it, and a letter. -/
def threeLinesTemplate : Template where
  trigger := .literal "lines".toList
  description := []
  flags := .empty
  priority := 0
  placeholderCount := 1
  contextFilter := none
  generator := ⟨[.text "$1\n".toList, .block 0, .text "\nx".toList], 1,
    fun input => .ok input.placeholderTexts⟩
  line := 1

/-- The lines of the placeholder and the block are deleted. The block is left behind on the second
line, which is gone, so the next batch is carried out by half. -/
theorem not_atomic_threeLines :
    let calls := [Call.start threeLinesTemplate, .edit [.delete ⟨.origin, ⟨2, 0⟩⟩]]
    let h := (new []).run calls
    let edits : List Edit := [.insert .origin ['a']]
    let h' := (h.edit edits).2
    (∀ call ∈ calls, call.Plain) ∧ (Call.edit edits).Plain ∧
      (h.edit edits).1 = .error (.lineOutOfBounds 1 1) ∧
      h.buffer.text = ['x'] ∧ h'.buffer.text = ['a', 'x'] ∧
      (h.live.map fun x => (x.parts.map Part.content, x.blockChanged)) = some ([[], []], false) ∧
      (h'.live.map fun x => (x.parts.map Part.content, x.blockChanged)) =
        some ([['a'], ['a']], true) ∧
      ¬h.Atomic edits := by
  intro calls h edits h'
  have htemplate : threeLinesTemplate.LfOnly := by
    refine lfOnly_of_program (fun run hrun => ?_) rfl
    have hmem : run = "$1\n".toList ∨ run = "\nx".toList := by
      simpa [threeLinesTemplate] using hrun
    rcases hmem with rfl | rfl <;> decide
  have hcalls : ∀ call ∈ calls, call.Plain := by
    intro call hcall
    rcases List.mem_cons.mp hcall with rfl | hcall
    · exact Call.plain_start htemplate
    · obtain rfl := List.mem_singleton.mp hcall
      intro e he
      obtain rfl := List.mem_singleton.mp he
      decide
  have hedits : (Call.edit edits).Plain := by
    intro e he
    obtain rfl := List.mem_singleton.mp he
    decide
  have herror : (h.edit edits).1 = .error (.lineOutOfBounds 1 1) := by decide +kernel
  have hbefore : h.buffer.text = ['x'] := by decide +kernel
  have hafter : h'.buffer.text = ['a', 'x'] := by decide +kernel
  refine ⟨hcalls, hedits, herror, hbefore, hafter, by decide +kernel, by decide +kernel, ?_⟩
  intro hatomic
  have hkept := (hatomic _ h' (Prod.ext herror rfl)).1
  rw [← hkept, hafter] at hbefore
  cases hbefore

end Host

end LiveSnippet
