import LiveSnippet.Proofs.Session.Routing
import Mathlib.Data.List.Basic

/-!
# The contents of blocks

An expansion records the output that each of its blocks is to show. What it has recorded is always
what the last successful run of the generator gave, whatever batches come in between, and whatever
the generator does: a failed run leaves everything recorded as it was, and the corrective edits that
come back cause no run.

The generator need not be a function of its input: every batch comes with the program that answers
it if it makes the generator run, so each run may give anything or fail.

## Main definitions

* `Expansion.SelectedAbsorbs`: the selected placeholder absorbs an edit of a batch
* `Expansion.attempt`: what a run of the generator gives after a batch
* `Expansion.Answers`: when a batch makes the generator run, and how it is answered
* `Watched`: an expansion with the outputs of the last successful run and the latest answer

## Main results

* `Expansion.update_regenerated`: what makes the generator run
* `Watched.tracks_generator`: blocks, flag and answers along every run
-/

namespace LiveSnippet

/-! ### Laid out parts -/

namespace Layout

variable {l : Layout} {indent : Nat} {selected : Text} {blocks : List Text} {P : Part → Prop}

theorem forall_mem_parts_addPiece (hplaceholder : ∀ id p, P (.placeholder id p))
    (h : ∀ q ∈ l.parts, P q) (piece : Marker.Piece) : ∀ q ∈ (l.addPiece indent piece).parts, P q := by
  cases piece with
  | text run => exact h
  | dollar => exact h
  | marker id =>
    rw [addPiece]
    split_ifs
    · exact h
    · exact List.forall_mem_append.mpr ⟨h, List.forall_mem_singleton.mpr (hplaceholder id _)⟩

theorem forall_mem_parts_addSegment (hplaceholder : ∀ id p, P (.placeholder id p))
    (hblock : ∀ index start stop output, blocks[index]? = some output →
      P (.block index start stop output))
    (h : ∀ q ∈ l.parts, P q) (segment : Segment) :
    ∀ q ∈ (l.addSegment indent selected blocks segment).parts, P q := by
  cases segment with
  | text run =>
    rw [addSegment]
    generalize Marker.pieces (withSelection selected run) = pieces
    induction pieces generalizing l with
    | nil => exact h
    | cons piece pieces ih => exact ih (forall_mem_parts_addPiece hplaceholder h piece)
  | block index =>
    rw [addSegment]
    cases houtput : blocks[index]? with
    | none => exact h
    | some output =>
      exact List.forall_mem_append.mpr
        ⟨h, List.forall_mem_singleton.mpr (hblock index _ _ output houtput)⟩

/-- What holds of all placeholders, and of a block with the output of its code span, holds of all
parts of a layout. -/
theorem forall_mem_parts_ofOutput {p : Position} {output : GeneratorOutput}
    (hplaceholder : ∀ id p, P (.placeholder id p))
    (hblock : ∀ index start stop text, output.blocks[index]? = some text →
      P (.block index start stop text)) :
    ∀ q ∈ (ofOutput p indent selected output).parts, P q := by
  rw [ofOutput]
  have hstart : ∀ q ∈ (start p).parts, P q := List.forall_mem_nil _
  generalize start p = l at hstart
  induction output.segments generalizing l with
  | nil => exact hstart
  | cons segment segments ih =>
    exact ih _ (forall_mem_parts_addSegment hplaceholder hblock hstart segment)

end Layout

/-! ### Absorbed edits -/

section

variable {absorbs : Edit → Part → Bool} {es : List Edit} {rs : List Routed}

/-- What holds of all parts, and of a part that is handed an edit, holds of all parts that edits have
been routed to. -/
theorem forall_mem_route {P : Routed → Prop} (hgive : ∀ r e g, g ≠ .grow → P r → P (r.give e g))
    (habsorb : ∀ r e, absorbs e r.part = true → P r → P (r.absorb e)) (hrs : ∀ r ∈ rs, P r) :
    ∀ r ∈ route absorbs es rs, P r := by
  induction es generalizing rs with
  | nil => exact hrs
  | cons e es ih =>
    intro r hr
    rcases mem_route_cons hr with ⟨hr, -⟩ | ⟨r₀, hr₀, -, ⟨ha, rfl⟩ | ⟨-, rfl⟩⟩ | ⟨rs', hr, hrs'⟩
    · exact hrs r hr
    · exact habsorb r₀ e ha (hrs r₀ hr₀)
    · exact hgive r₀ e _ Growth.noConfusion (hrs r₀ hr₀)
    · refine ih (fun r₁ hr₁ => ?_) r hr
      obtain ⟨r₀, hr₀, rfl⟩ := hrs' r₁ hr₁
      exact hgive r₀ e _ Growth.noConfusion (hrs r₀ hr₀)

end

/-- The part has absorbed an edit. -/
def Routed.Absorbed (r : Routed) : Prop := ∃ e, (e, Growth.grow) ∈ r.moves

namespace Expansion

variable {x : Expansion} {edits : List Edit} {d : Document} {r : Routed}

/-- A part counts as touched if and only if it is a placeholder that has absorbed an edit. -/
theorem touched_iff (hr : r ∈ x.routed edits) :
    r.touched = true ↔ r.part.kind.isPlaceholder = true ∧ r.Absorbed := by
  refine forall_mem_route (P := fun r =>
    r.touched = true ↔ r.part.kind.isPlaceholder = true ∧ r.Absorbed) ?_ ?_ ?_ r hr
  · intro r e g hg h
    simp only [Routed.Absorbed, Routed.give_touched, Routed.give_part, Routed.give_moves,
      List.mem_append, List.mem_singleton, Prod.mk.injEq, hg.symm, and_false, or_false] at h ⊢
    exact h
  · intro r e _ h
    have habsorbed : (r.absorb e).Absorbed := ⟨e, by simp⟩
    simp only [habsorbed, Routed.absorb_touched, Routed.absorb_part, Bool.or_eq_true, h, and_true]
    exact ⟨fun h => h.elim And.left id, Or.inr⟩
  · intro r hr
    obtain ⟨q, -, rfl⟩ := List.mem_map.mp hr
    simp [Routed.Absorbed, Routed.ofPart]

/-- A part that has absorbed an edit would absorb one. -/
theorem exists_absorbs_of_absorbed (hr : r ∈ x.routed edits) (h : r.Absorbed) :
    ∃ e, x.absorbs e r.part = true := by
  refine forall_mem_route (P := fun r => r.Absorbed → ∃ e, x.absorbs e r.part = true) ?_ ?_ ?_ r hr h
  · rintro r e g hg h ⟨e', he'⟩
    simp only [Routed.give_moves, List.mem_append, List.mem_singleton, Prod.mk.injEq, hg.symm,
      and_false, or_false] at he'
    exact h ⟨e', he'⟩
  · exact fun r e ha _ _ => ⟨e, ha⟩
  · intro r hr h
    obtain ⟨q, -, rfl⟩ := List.mem_map.mp hr
    simp [Routed.Absorbed, Routed.ofPart] at h

/-- The selected placeholder absorbs an edit of the batch. -/
def SelectedAbsorbs (x : Expansion) (edits : List Edit) : Prop :=
  ∃ r ∈ x.routed edits, r.Absorbed ∧ ∃ id, r.part.kind = .placeholder id ∧ x.selected? = some id

/-- A part is touched if and only if the selected placeholder absorbs an edit and no corrective edits
are under way. -/
theorem any_touched_iff :
    (x.routed edits).any (·.touched) = true ↔ x.blockChanged = false ∧ x.SelectedAbsorbs edits := by
  rw [List.any_eq_true]
  constructor
  · rintro ⟨r, hr, ht⟩
    obtain ⟨hkind, habsorbed⟩ := (touched_iff hr).mp ht
    obtain ⟨e, ha⟩ := exists_absorbs_of_absorbed hr habsorbed
    obtain ⟨id, hid⟩ : ∃ id, r.part.kind = .placeholder id := by
      cases hk : r.part.kind with
      | placeholder id => exact ⟨id, rfl⟩
      | block index => simp [hk, PartKind.isPlaceholder] at hkind
    simp only [absorbs, hid, Bool.and_eq_true, Bool.not_eq_true', beq_iff_eq] at ha
    exact ⟨ha.2, r, hr, habsorbed, id, hid, ha.1⟩
  · rintro ⟨-, r, hr, habsorbed, id, hid, -⟩
    exact ⟨r, hr, (touched_iff hr).mpr ⟨by rw [hid]; rfl, habsorbed⟩⟩

theorem regenerate_regenerated (x : Expansion) : x.regenerate.1.regenerated = true := by
  rw [regenerate]
  split <;> rfl

/-- A batch makes the generator run if and only if the selected placeholder absorbs an edit of it
and no corrective edits are under way. -/
theorem update_regenerated :
    (x.update edits d).1.regenerated = true ↔
      x.blockChanged = false ∧ x.SelectedAbsorbs edits := by
  rw [← any_touched_iff, update_eq]
  split_ifs with h
  · simp [regenerate_regenerated, h]
  · simp [UpdateOutcome.none, h]

/-! ### One batch -/

/-- What a run of the generator gives after a batch. -/
def attempt (x : Expansion) (edits : List Edit) (d : Document) :
    Except GeneratorError GeneratorOutput :=
  let y := x.moved edits d
  y.template.generator.invoke (y.input y.placeholderTexts)

/-- The indices of the blocks, each with what is recorded of its output. -/
def blockContents (x : Expansion) : List (Nat × Text) :=
  x.parts.filterMap fun q =>
    match q.kind with
    | .placeholder _ => none
    | .block index => some (index, q.content)

/-- The edit that a block calls for whose output is no longer what was recorded before a batch: the
output, in the place of the block after the batch. -/
def correction? (blocks : List Text) (before after : Part) : Option Edit :=
  match before.kind with
  | .placeholder _ => none
  | .block index =>
    if blocks[index]? = some before.content then none
    else some ⟨after.range.span, blocks.getD index []⟩

/-- When a batch makes the generator run, and how it is answered. -/
structure Answers (x : Expansion) (edits : List Edit) (d : Document) : Prop where
  /-- The generator runs if and only if the selected placeholder absorbs an edit and no corrective
  edits are under way. -/
  runs : (x.update edits d).1.regenerated = true ↔ x.blockChanged = false ∧ x.SelectedAbsorbs edits
  /-- Without a run nothing is answered. -/
  quiet : (x.update edits d).1.regenerated = false → (x.update edits d).1 = .none
  /-- After a successful run there is one edit for each block whose output differs from what was
  recorded, in the order of the parts. -/
  succeeds : ∀ output, (x.update edits d).1.regenerated = true → x.attempt edits d = .ok output →
    (x.update edits d).1.edits =
        (x.parts.zip (x.update edits d).2.parts).filterMap
          (fun (before, after) => correction? output.blocks before after) ∧
      (x.update edits d).1.diagnostic = none
  /-- After a failed run there is a diagnostic and nothing else, and all contents of blocks stay. -/
  fails : ∀ e, (x.update edits d).1.regenerated = true → x.attempt edits d = .error e →
    (x.update edits d).1.edits = [] ∧
      (x.update edits d).1.diagnostic = some (diagnose x.template e) ∧
      (x.update edits d).2.blockContents = x.blockContents

/-- The parts keep their kinds, and blocks keep their contents, until the generator runs. -/
theorem reread_of_routed (hr : r ∈ x.routed edits) :
    (reread d r).kind = r.part.kind ∧
      (r.part.kind.isPlaceholder = false → (reread d r).content = r.part.content) := by
  have hfollowed : r.followed.kind = r.part.kind ∧ r.followed.content = r.part.content := by
    rw [Routed.followed, Part.follow]
    split_ifs <;> exact ⟨rfl, rfl⟩
  rw [reread]
  split_ifs with ht
  · refine ⟨hfollowed.1, fun hkind => ?_⟩
    rw [((touched_iff hr).mp ht).1] at hkind
    exact Bool.noConfusion hkind
  · exact ⟨hfollowed.1, fun _ => hfollowed.2⟩

theorem blockContents_moved (x : Expansion) (edits : List Edit) (d : Document) :
    (x.moved edits d).blockContents = x.blockContents := by
  rw [blockContents, blockContents, ← x.map_part_routed edits, moved, List.filterMap_map,
    List.filterMap_map]
  refine List.filterMap_congr fun r hr => ?_
  obtain ⟨hkind, hcontent⟩ := reread_of_routed (d := d) hr
  simp only [Function.comp_apply, hkind]
  cases hk : r.part.kind with
  | placeholder id => rfl
  | block index => simp [hcontent (by rw [hk]; rfl)]

theorem regenerate_of_error {e : GeneratorError}
    (h : x.template.generator.invoke (x.input x.placeholderTexts) = .error e) :
    x.regenerate = (⟨[], true, some (diagnose x.template e)⟩, x) := by
  rw [regenerate, h]

theorem regenerate_of_ok {output : GeneratorOutput}
    (h : x.template.generator.invoke (x.input x.placeholderTexts) = .ok output) :
    x.regenerate =
      (⟨x.parts.filterMap (·.correction? output.blocks), true, none⟩,
        { x with
          parts := x.parts.map (·.withOutput output.blocks)
          blockChanged := !(x.parts.filterMap (·.correction? output.blocks)).isEmpty }) := by
  rw [regenerate, h]

theorem update_of_regenerated (h : (x.update edits d).1.regenerated = true) :
    x.update edits d = (x.moved edits d).regenerate := by
  rw [update_eq, if_pos (any_touched_iff.mpr (update_regenerated.mp h))]

theorem update_of_not_regenerated (h : (x.update edits d).1.regenerated = false) :
    x.update edits d = (.none, x.moved edits d) := by
  rw [update_eq, if_neg]
  rw [any_touched_iff, ← update_regenerated, h]
  exact Bool.noConfusion

/-- Every block has the index of a code span, and the generator knows how many there are. -/
def Indexed (x : Expansion) : Prop :=
  ∀ q ∈ x.parts, ∀ index, q.kind = .block index → index < x.template.generator.blockCount

theorem kinds_moved (x : Expansion) (edits : List Edit) (d : Document) :
    (x.moved edits d).parts.map Part.kind = x.parts.map Part.kind := by
  rw [← x.map_part_routed edits, moved, List.map_map, List.map_map]
  exact List.map_congr_left fun r hr => (reread_of_routed hr).1

theorem kinds_update (x : Expansion) (edits : List Edit) (d : Document) :
    (x.update edits d).2.parts.map Part.kind = x.parts.map Part.kind := by
  have hregenerate : ∀ y : Expansion, y.regenerate.2.parts.map Part.kind = y.parts.map Part.kind := by
    intro y
    rw [regenerate]
    split
    · rfl
    · rw [List.map_map]
      refine List.map_congr_left fun q _ => ?_
      rw [Function.comp_apply, Part.withOutput]
      split <;> simp_all
  rw [update_eq]
  split_ifs
  · exact (hregenerate _).trans (x.kinds_moved edits d)
  · exact x.kinds_moved edits d

theorem template_update (x : Expansion) (edits : List Edit) (d : Document) :
    (x.update edits d).2.template = x.template := by
  rw [update_eq]
  split_ifs
  · rw [regenerate]
    split <;> rfl
  · rfl

/-- A batch keeps the indices of the blocks. -/
theorem Indexed.update (hx : x.Indexed) (edits : List Edit) (d : Document) :
    (x.update edits d).2.Indexed := by
  intro q hq index hindex
  obtain ⟨q₀, hq₀, hkind⟩ := List.mem_map.mp
    (x.kinds_update edits d ▸ List.mem_map_of_mem (f := Part.kind) hq)
  rw [template_update]
  exact hx q₀ hq₀ index (hkind.trans hindex)

/-- A successful run gives an output for every block. -/
theorem Indexed.lt_length (hx : x.Indexed) {output : GeneratorOutput}
    (h : x.attempt edits d = .ok output) (hr : r ∈ x.routed edits) {index : Nat}
    (hkind : r.part.kind = .block index) : index < output.blocks.length := by
  have hindex := hx _ (x.map_part_routed edits ▸ List.mem_map_of_mem hr) index hkind
  exact hindex.trans_eq (Generator.segments_of_invoke h).2.symm

/-- The parts after a successful run. -/
theorem parts_update_of_ok {output : GeneratorOutput}
    (hrun : (x.update edits d).1.regenerated = true) (h : x.attempt edits d = .ok output) :
    (x.update edits d).2.parts =
      (x.routed edits).map fun r => (reread d r).withOutput output.blocks := by
  rw [update_of_regenerated hrun, regenerate_of_ok h, moved, List.map_map]
  rfl

/-- The corrections of a successful run. -/
theorem edits_update_of_ok (hx : x.Indexed) {output : GeneratorOutput}
    (hrun : (x.update edits d).1.regenerated = true) (h : x.attempt edits d = .ok output) :
    (x.update edits d).1.edits =
      (x.parts.zip (x.update edits d).2.parts).filterMap
        (fun (before, after) => correction? output.blocks before after) := by
  have hzip : x.parts.zip (x.update edits d).2.parts =
      (x.routed edits).map fun r => (r.part, (reread d r).withOutput output.blocks) := by
    rw [parts_update_of_ok hrun h, ← List.zip_map', x.map_part_routed]
  have hedits : (x.update edits d).1.edits =
      ((x.routed edits).map (reread d)).filterMap (·.correction? output.blocks) := by
    rw [update_of_regenerated hrun, regenerate_of_ok h]
    rfl
  rw [hzip, hedits, List.filterMap_map, List.filterMap_map]
  refine List.filterMap_congr fun r hr => ?_
  obtain ⟨hkind, hcontent⟩ := reread_of_routed (d := d) hr
  cases hk : r.part.kind with
  | placeholder id => simp [Part.correction?, correction?, hkind, hk]
  | block index =>
    have hlt := hx.lt_length h hr hk
    have hcontent' : (reread d r).content = r.part.content := hcontent (by rw [hk]; rfl)
    simp [Part.correction?, correction?, Part.withOutput, hkind, hk, hlt, hcontent']

/-- Batches are answered as they are to be. -/
theorem Indexed.answers (hx : x.Indexed) (edits : List Edit) (d : Document) :
    x.Answers edits d := by
  refine ⟨update_regenerated, fun hrun => ?_, fun output hrun h => ⟨?_, ?_⟩, fun e hrun h => ?_⟩
  · rw [update_of_not_regenerated hrun]
  · exact edits_update_of_ok hx hrun h
  · rw [update_of_regenerated hrun, regenerate_of_ok h]
  · rw [update_of_regenerated hrun, regenerate_of_error h]
    exact ⟨rfl, rfl, blockContents_moved x edits d⟩

end Expansion

/-! ### Runs -/

/-- A part that is a block has recorded the output of its code span. -/
def Part.Records (outputs : List Text) (q : Part) : Prop :=
  ∀ index, q.kind = .block index → outputs[index]? = some q.content

/-- The expansion with another program behind its code spans. -/
def Expansion.withProgram (x : Expansion) (program : BlockProgram) : Expansion :=
  { x with template := { x.template with generator := { x.template.generator with program } } }

/-- What happens to an expansion: a batch, with the document after it and the program that answers
it if it makes the generator run, or another placeholder is selected. -/
inductive Occurrence
  | batch (program : BlockProgram) (edits : List Edit) (d : Document)
  | next
  | prev

/-- An expansion and what has been seen of it. -/
structure Watched where
  expansion : Expansion
  /-- The outputs of the code spans in the last successful run of the generator; none if there was no
  such run. -/
  outputs : List Text
  /-- The answer to the latest batch. -/
  answer : UpdateOutcome

namespace Watched

/-- A template is expanded, which makes its generator run for the first time. -/
def new (t : Template) (r : ExpansionRequest) (d : Document) : Watched where
  expansion := (Expansion.new t r d).1
  outputs :=
    match t.generator.invoke ⟨List.replicate t.placeholderCount [], r.matchGroups, r.workspaceId,
      r.fileId⟩ with
    | .ok output => output.blocks
    | .error _ => []
  answer := .none

/-- What is seen of a batch, or of the selection of another placeholder. -/
def after (w : Watched) : Occurrence → Watched
  | .batch program edits d =>
    let x := w.expansion.withProgram program
    let (answer, y) := x.update edits d
    { expansion := y
      outputs :=
        match answer.regenerated, x.attempt edits d with
        | true, .ok output => output.blocks
        | _, _ => w.outputs
      answer }
  | .next => { w with expansion := w.expansion.next }
  | .prev => { w with expansion := w.expansion.prev }

/-- What is seen of a run. -/
def run (w : Watched) (occurrences : List Occurrence) : Watched := occurrences.foldl after w

/-- Blocks have recorded the last outputs, and the flag tells whether the latest answer asks for
anything. -/
structure Tracks (w : Watched) : Prop where
  records : ∀ q ∈ w.expansion.parts, q.Records w.outputs
  flag : w.expansion.blockChanged = true ↔ w.answer.edits ≠ []

/-- A block is laid out with the output of its code span. -/
theorem records_ofOutput (p : Position) (indent : Nat) (selected : Text)
    (output : GeneratorOutput) :
    ∀ q ∈ (Layout.ofOutput p indent selected output).parts, q.Records output.blocks := by
  refine Layout.forall_mem_parts_ofOutput ?_ ?_
  · intro id p index hkind
    cases hkind
  · intro index start stop text htext index' hkind
    obtain rfl := PartKind.block.inj hkind
    exact htext

/-! ### Runs keep track -/

/-- What holds of all that is seen of runs. -/
structure Sound (w : Watched) : Prop extends w.Tracks where
  indexed : w.expansion.Indexed

/-- An expansion begins as the layout of the outputs, of which there are not too many. -/
theorem exists_new_eq (t : Template) (r : ExpansionRequest) (d : Document) :
    ∃ indent output, new t r d = ⟨Expansion.place t r indent output, output.blocks, .none⟩ ∧
      output.blocks.length ≤ t.generator.blockCount := by
  refine ⟨(d.lineIndent r.position.line).length, ?_⟩
  rw [new, Expansion.new]
  cases hinvoke : t.generator.invoke ⟨List.replicate t.placeholderCount [], r.matchGroups,
      r.workspaceId, r.fileId⟩ with
  | error e => exact ⟨⟨[], []⟩, rfl, Nat.zero_le _⟩
  | ok output => exact ⟨output, rfl, (Generator.segments_of_invoke hinvoke).2.le⟩

theorem sound_new (t : Template) (r : ExpansionRequest) (d : Document) : (new t r d).Sound := by
  obtain ⟨indent, output, hnew, hlength⟩ := exists_new_eq t r d
  have hrecords := records_ofOutput r.position indent r.selectedText output
  rw [hnew]
  refine ⟨⟨hrecords, by simp [Expansion.place, UpdateOutcome.none]⟩, fun q hq index hkind => ?_⟩
  obtain ⟨hlt, -⟩ := List.getElem?_eq_some_iff.mp (hrecords q hq index hkind)
  exact hlt.trans_le hlength

variable {w : Watched} {program : BlockProgram} {edits : List Edit} {d : Document}

/-- Without a successful run the blocks keep what they have recorded. -/
theorem records_moved {x : Expansion} {outputs : List Text} (h : ∀ q ∈ x.parts, q.Records outputs) :
    ∀ q ∈ (x.moved edits d).parts, q.Records outputs := by
  intro q hq index hindex
  obtain ⟨r, hr, rfl⟩ := List.mem_map.mp hq
  obtain ⟨hkind, hcontent⟩ := Expansion.reread_of_routed (d := d) hr
  rw [hkind] at hindex
  rw [hcontent (by rw [hindex]; rfl)]
  exact h _ (x.map_part_routed edits ▸ List.mem_map_of_mem hr) index hindex

/-- After a batch the blocks have recorded the outputs of the last successful run, if they had
before. -/
theorem records_update {x : Expansion} {outputs : List Text} (hx : x.Indexed)
    (h : ∀ q ∈ x.parts, q.Records outputs) :
    ∀ q ∈ (x.update edits d).2.parts, q.Records
      (match (x.update edits d).1.regenerated, x.attempt edits d with
        | true, .ok output => output.blocks
        | _, _ => outputs) := by
  cases hrun : (x.update edits d).1.regenerated with
  | false =>
    rw [Expansion.update_of_not_regenerated hrun]
    exact records_moved h
  | true =>
    cases hattempt : x.attempt edits d with
    | error e =>
      rw [Expansion.update_of_regenerated hrun, Expansion.regenerate_of_error hattempt]
      exact records_moved h
    | ok output =>
      rw [Expansion.parts_update_of_ok hrun hattempt]
      intro q hq index hindex
      obtain ⟨r, hr, rfl⟩ := List.mem_map.mp hq
      have hkind : (Expansion.reread d r).kind = .block index := by
        rw [← hindex, Part.withOutput]
        split <;> rfl
      have hlt := hx.lt_length hattempt hr ((Expansion.reread_of_routed hr).1 ▸ hkind)
      simp [Part.withOutput, hkind, hlt]

theorem Sound.after (h : w.Sound) (o : Occurrence) : (w.after o).Sound := by
  cases o with
  | next => exact ⟨⟨h.records, h.flag⟩, h.indexed⟩
  | prev => exact ⟨⟨h.records, h.flag⟩, h.indexed⟩
  | batch program edits d =>
    have hindexed : (w.expansion.withProgram program).Indexed := h.indexed
    refine ⟨⟨records_update hindexed h.records, ?_⟩, hindexed.update edits d⟩
    have hflag := (w.expansion.withProgram program).update_blockChanged edits d
    simp [Watched.after, hflag]

/-- **Contents along a run.** Whatever happens to an expansion and whatever the generator does, each
block has recorded the output of its code span in the last successful run, the flag tells whether the
latest answer asked for edits, and every further batch is answered as it is to be. -/
theorem tracks_generator (t : Template) (r : ExpansionRequest) (d : Document)
    (occurrences : List Occurrence) :
    ((new t r d).run occurrences).Tracks ∧
      ∀ program edits d', (((new t r d).run occurrences).expansion.withProgram program).Answers
        edits d' := by
  have hsound : ((new t r d).run occurrences).Sound := by
    rw [run]
    have hnew := sound_new t r d
    -- What began as a new expansion is any sound one from here on.
    generalize new t r d = w at hnew
    induction occurrences generalizing w with
    | nil => exact hnew
    | cons o occurrences ih => exact ih _ (hnew.after o)
  have hindexed : ∀ program,
      (((new t r d).run occurrences).expansion.withProgram program).Indexed :=
    fun _ => hsound.indexed
  exact ⟨hsound.toTracks, fun program edits d' => (hindexed program).answers edits d'⟩

end Watched

end LiveSnippet
