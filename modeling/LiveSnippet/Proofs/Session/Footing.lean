import LiveSnippet.Proofs.Session.Contents
import LiveSnippet.Proofs.Session.Opening
import LiveSnippet.Proofs.Session.Settling
import LiveSnippet.Proofs.Text.Lines

/-!
# The footing of an expansion

Whatever a host is called to do, its expansion stands on lines of the document: the range of the
expansion ends on one of them. Laid out, an output takes as many lines as the text that is put into
the document has breaks, even if that text has other markers than its segments one by one; and a range
that follows a batch stays on lines of the document, whether the batch comes from the user or is a
correction, and whether or not the corrections can be applied.

This is a matter of lines only. Columns may be off, and parts may leave the range of the expansion.

## Main definitions

* `Template.LfOnly`, `ExpansionRequest.LfOnly`: LF is the only line break in what there is to put in
* `Expansion.Grounded`: an expansion stands on lines of a document
* `Host.Call`, `Host.run`: what a host is called to do
* `Host.Call.Plain`: LF is the only line break in it, and its edits run forward

## Main results

* `Marker.breaks_render`: rendering keeps the line breaks
* `Layout.line_ofOutput`: the lines of a layout
* `Expansion.Grounded.update`: a batch keeps the footing
* `Host.grounded_run`: all calls do
-/

namespace LiveSnippet

/-! ### Line breaks of snippet texts -/

namespace Marker

/-- A step of the scan shows the line breaks that it consumes. -/
theorem breaks_step (c : Char) (rest : Text) :
    (step c rest).1.shown.extent.breaks + (step c rest).2.extent.breaks =
      (Text.extent (c :: rest)).breaks := by
  have hcons : ∀ t : Text, (Text.extent (c :: t)).breaks =
      (Text.extent [c]).breaks + t.extent.breaks := by
    intro t
    rw [← Extent.add_breaks, ← Text.extent_append]
    rfl
  rw [step]
  split_ifs with hescape hdollar
  · simp only [Bool.and_eq_true, decide_eq_true_eq] at hescape
    obtain ⟨rfl, hhead⟩ := hescape
    obtain ⟨rest, rfl⟩ := List.head?_eq_some_iff.mp hhead
    simp [Lexeme.shown, Text.extent_cons, Text.charExtent]
  · subst hdollar
    cases hdigits : digits? rest with
    | none => exact (hcons rest).symm
    | some found =>
      obtain ⟨digits, after⟩ := found
      obtain ⟨written, rfl, hwritten⟩ := exists_of_digits? hdigits
      have hbreaks : (Text.extent written).breaks = 0 :=
        Text.extent_breaks_eq_zero_iff.mpr fun hmem => absurd (hwritten _ hmem) (by decide)
      dsimp only
      cases readId? digits <;>
      · simp [Lexeme.shown, Text.extent_cons, Text.extent_append, Text.charExtent, hbreaks]
  · exact (hcons rest).symm

/-- Rendering keeps the line breaks. -/
theorem breaks_render (text : Text) : (render text).extent.breaks = text.extent.breaks := by
  induction text using scan_induction with
  | nil => rw [render_eq, lexemes_nil]; rfl
  | cons c rest ih => rw [render_cons, Text.extent_append, Extent.add_breaks, ih, breaks_step]

theorem breaks_escapeDollars (text : Text) :
    (escapeDollars text).extent.breaks = text.extent.breaks := by
  rw [← breaks_render, render_escapeDollars]

end Marker

/-- The text that is put into a document has the line breaks of the snippet text. -/
theorem breaks_renderSnippet {indent : Text} (hindent : '\n' ∉ indent) (snippet : Text) :
    (renderSnippet snippet indent).extent.breaks = snippet.extent.breaks := by
  rw [renderSnippet, Text.replaceAll_lineFeed, Text.extent_indented hindent, Marker.breaks_render]

theorem Position.line_advance (p : Position) (t : Text) (n : Nat) :
    (p.advance t n).line = p.line + t.extent.breaks := by
  rw [advance]
  split_ifs with h
  · rw [h, Nat.add_zero]
  · rfl

/-! ### Lines of a layout -/

namespace Layout

variable {n : Nat} {selected : Text} {blocks : List Text}

theorem line_foldl_addPiece (pieces : List Marker.Piece) (l : Layout) :
    (pieces.foldl (addPiece n) l).cursor.line =
      l.cursor.line + (Text.extent (pieces.flatMap Marker.Piece.shown)).breaks := by
  induction pieces generalizing l with
  | nil => rfl
  | cons piece pieces ih =>
    have hpiece : (l.addPiece n piece).cursor.line =
        l.cursor.line + piece.shown.extent.breaks := by
      cases piece with
      | text run => exact Position.line_advance _ _ _
      | dollar => exact Position.line_advance _ _ _
      | marker id =>
        rw [addPiece]
        split_ifs <;> rfl
    rw [List.foldl_cons, ih, hpiece, List.flatMap_cons, Text.extent_append, Extent.add_breaks,
      Nat.add_assoc]

/-- A segment is laid out over as many lines as its snippet text has. -/
theorem line_addSegment (l : Layout) (seg : Segment) :
    (l.addSegment n selected blocks seg).cursor.line =
      l.cursor.line + (seg.snippet selected blocks).extent.breaks := by
  cases seg with
  | text run =>
    rw [Segment.snippet, ← Marker.breaks_render]
    exact line_foldl_addPiece _ l
  | block index =>
    rw [addSegment, Segment.snippet, Marker.breaks_escapeDollars]
    cases blocks[index]? with
    | none => rfl
    | some output => exact Position.line_advance _ _ _

/-- An output is laid out over as many lines as its snippet text has. -/
theorem line_ofOutput (p : Position) (n : Nat) (selected : Text) (output : GeneratorOutput) :
    (ofOutput p n selected output).cursor.line =
      p.line + (ofOutput p n selected output).snippet.extent.breaks := by
  suffices ∀ l : Layout, l.cursor.line = p.line + l.snippet.extent.breaks →
      (output.segments.foldl (addSegment n selected output.blocks) l).cursor.line = p.line +
        (output.segments.foldl (addSegment n selected output.blocks) l).snippet.extent.breaks from
    this _ rfl
  induction output.segments with
  | nil => exact fun l h => h
  | cons seg segments ih =>
    intro l h
    refine ih _ ?_
    rw [line_addSegment, addSegment_snippet, h, Text.extent_append, Extent.add_breaks,
      Nat.add_assoc]

end Layout

/-! ### Texts whose only line break is LF -/

/-- LF is the only line break in what a generator is given. -/
structure GeneratorInput.LfOnly (input : GeneratorInput) : Prop where
  placeholderTexts : ∀ t ∈ input.placeholderTexts, Text.LfOnly t
  matchGroups : ∀ t ∈ input.matchGroups, Text.LfOnly t
  workspaceId : input.workspaceId.LfOnly
  fileId : input.fileId.LfOnly

/-- LF is the only line break in the literal text of a template, and in what its code gives if it is
given no other. -/
structure Template.LfOnly (t : Template) : Prop where
  segments : ∀ run, .text run ∈ t.generator.segments → Text.LfOnly run
  outputs : ∀ input output, input.LfOnly → t.generator.invoke input = .ok output →
    ∀ o ∈ output.blocks, Text.LfOnly o

/-- LF is the only line break in what is known when a template is expanded. -/
structure ExpansionRequest.LfOnly (r : ExpansionRequest) : Prop where
  matchGroups : ∀ t ∈ r.matchGroups, Text.LfOnly t
  selectedText : r.selectedText.LfOnly
  workspaceId : r.workspaceId.LfOnly
  fileId : r.fileId.LfOnly

/-! ### Expansions -/

namespace Expansion

variable {x : Expansion} {b b' : Buffer} {edits : List Edit} {d : Document}

/-- The expansion ends on a line of the document, and LF is the only line break in all that it may
put into the document. -/
structure Grounded (x : Expansion) (b : Buffer) : Prop where
  stop_lt : x.range.stop.line < b.lineCount
  template : x.template.LfOnly
  contents : ∀ q ∈ x.parts, q.content.LfOnly
  matchGroups : ∀ t ∈ x.matchGroups, Text.LfOnly t
  workspaceId : x.workspaceId.LfOnly
  fileId : x.fileId.LfOnly

theorem Grounded.input (h : x.Grounded b) : (x.input x.placeholderTexts).LfOnly := by
  refine ⟨fun t ht => ?_, h.matchGroups, h.workspaceId, h.fileId⟩
  rcases List.mem_append.mp ht with ht | ht
  · obtain ⟨q, hq, rfl⟩ := List.mem_map.mp ht
    exact h.contents q (List.mem_of_mem_filter hq)
  · rw [List.eq_of_mem_replicate ht]
    exact Text.noBreak_nil.lfOnly

theorem lfOnly_text?_getD (hb : b.text.LfOnly) (s : Span) :
    ((b.document.text? s).getD []).LfOnly := by
  cases hs : b.slice s with
  | error e => simpa [Buffer.document, hs, Except.toOption] using Text.noBreak_nil.lfOnly
  | ok t =>
    rw [Buffer.slice] at hs
    cases hi : b.toIndices s with
    | error e => simp [hi, bind, Except.bind] at hs
    | ok i =>
      simp only [hi, bind, Except.bind, pure, Except.pure, Except.ok.injEq] at hs
      intro c hc
      simp only [Buffer.document, Buffer.slice, hi, bind, Except.bind, pure, Except.pure,
        Except.toOption, Option.getD_some] at hc
      exact hb c (List.mem_of_mem_take (List.mem_of_mem_drop hc))

/-- The parts that follow a batch keep the footing. -/
theorem Grounded.moved (h : x.Grounded b) (hb : b.text.LfOnly)
    (hes : ∀ e ∈ edits, e.text.LfOnly ∧ e.Forward) (happly : b.apply edits = .ok b') :
    (x.moved edits b'.document).Grounded b' := by
  have hb' : b'.text.LfOnly := Buffer.lfOnly_apply hb (fun e he => (hes e he).1) happly
  refine ⟨?_, h.template, fun q hq => ?_, h.matchGroups, h.workspaceId, h.fileId⟩
  · have hstart : x.range.start.line < b.lineCount :=
      (Position.line_le_of_le x.range.start_le_stop).trans_lt h.stop_lt
    refine Buffer.line_follow_lt hb hes happly ?_ hstart h.stop_lt
    rw [List.map_map, show Prod.fst ∘ (fun e : Edit => (e, Growth.grow)) = id from rfl, List.map_id]
    exact List.mergeSort_perm _ _
  · obtain ⟨r, hr, rfl⟩ := List.mem_map.mp hq
    have hcontent : r.followed.content = r.part.content := by
      rw [Routed.followed, Part.follow]
      split_ifs <;> rfl
    rw [reread]
    split_ifs
    · exact lfOnly_text?_getD hb' _
    · rw [hcontent]
      exact h.contents _ (x.map_part_routed edits ▸ List.mem_map_of_mem hr)

/-- A run of the generator keeps the footing, and its corrections run forward. -/
theorem Grounded.regenerate (h : x.Grounded b) :
    x.regenerate.2.Grounded b ∧ ∀ e ∈ x.regenerate.1.edits, e.text.LfOnly ∧ e.Forward := by
  rw [Expansion.regenerate]
  split
  · exact ⟨h, List.forall_mem_nil _⟩
  · rename_i output hinvoke
    have houtput := h.template.outputs _ output h.input hinvoke
    refine ⟨⟨h.stop_lt, h.template, fun q hq => ?_, h.matchGroups, h.workspaceId, h.fileId⟩,
      fun e he => ?_⟩
    · obtain ⟨q₀, hq₀, rfl⟩ := List.mem_map.mp hq
      rw [Part.withOutput]
      split
      · exact h.contents q₀ hq₀
      · rename_i index _
        dsimp only
        cases hout : output.blocks[index]? with
        | none => exact h.contents q₀ hq₀
        | some o => exact houtput o (List.mem_of_getElem? hout)
    · obtain ⟨q, hq, hcorrection⟩ := List.mem_filterMap.mp he
      rw [Part.correction?] at hcorrection
      split at hcorrection
      · cases hcorrection
      · obtain ⟨o, hout, ho⟩ := Option.bind_eq_some_iff.mp hcorrection
        split_ifs at ho
        cases ho
        exact ⟨houtput o (List.mem_of_getElem? hout),
          Edit.forward_of_start_le_stop q.range.start_le_stop⟩

/-- **One batch.** A batch keeps the footing, and its corrections run forward. -/
theorem Grounded.update (h : x.Grounded b) (hb : b.text.LfOnly)
    (hes : ∀ e ∈ edits, e.text.LfOnly ∧ e.Forward) (happly : b.apply edits = .ok b') :
    (x.update edits b'.document).2.Grounded b' ∧
      ∀ e ∈ (x.update edits b'.document).1.edits, e.text.LfOnly ∧ e.Forward := by
  rw [update_eq]
  split_ifs
  · exact (h.moved hb hes happly).regenerate
  · exact ⟨h.moved hb hes happly, List.forall_mem_nil _⟩

end Expansion

/-! ### Hosts -/

namespace Host

/-- What a host may be called to do. -/
inductive Call
  | expand (t : Template) (trigger : Span) (r : ExpansionRequest)
  | edit (edits : List Edit)
  | act (op : Op)
  | leaveIfOutside (p : Position)

/-- LF is the only line break in what the host is called with, and its edits run forward. -/
def Call.Plain : Call → Prop
  | expand t _ r => t.LfOnly ∧ r.LfOnly
  | edit edits => ∀ e ∈ edits, e.text.LfOnly ∧ e.Forward
  | act op => op.typed.LfOnly
  | leaveIfOutside _ => True

/-- The host after a call, whether that succeeds or not. -/
def after (h : Host) : Call → Host
  | .expand t trigger r => (h.expand t trigger r).2
  | .edit edits => (h.edit edits).2
  | .act op => (h.act op).2
  | .leaveIfOutside p => h.leaveIfOutside p

/-- The host after some calls. -/
def run (h : Host) (calls : List Call) : Host := calls.foldl after h

/-- LF is the only line break in the document, and the expansion stands on its lines. -/
structure Grounded (h : Host) : Prop where
  lfOnly : h.buffer.text.LfOnly
  live : ∀ x, h.live = some x → x.Grounded h.buffer

variable {h : Host} {edits : List Edit}

theorem grounded_new {text : Text} (htext : text.LfOnly) : (new text).Grounded :=
  ⟨htext, fun _ hx => by cases hx⟩

/-- A batch keeps the footing, also when its corrections cannot be applied. -/
theorem Grounded.edit (hh : h.Grounded) (hes : ∀ e ∈ edits, e.text.LfOnly ∧ e.Forward) :
    (h.edit edits).2.Grounded := by
  rw [Host.edit]
  cases happly : h.buffer.apply edits with
  | error e => exact hh
  | ok b =>
    have hb : b.text.LfOnly := Buffer.lfOnly_apply hh.lfOnly (fun e he => (hes e he).1) happly
    cases hlive : h.live with
    | none => exact ⟨hb, fun x hx => by cases hx⟩
    | some x =>
      obtain ⟨hx', hes'⟩ := (hh.live x hlive).update hh.lfOnly hes happly
      simp only [maxRounds, settle_eq]
      generalize x.update edits b.document = answer at hx' hes'
      obtain ⟨outcome, x'⟩ := answer
      dsimp only
      -- Without corrections, or with corrections that are refused, the batch is all there is.
      split_ifs
      · exact ⟨hb, fun y hy => Option.some.inj hy ▸ hx'⟩
      · cases hcorrect : b.apply outcome.edits with
        | error e => exact ⟨hb, fun y hy => Option.some.inj hy ▸ hx'⟩
        | ok b' =>
          have hb' : b'.text.LfOnly := Buffer.lfOnly_apply hb (fun e he => (hes' e he).1) hcorrect
          exact ⟨hb', fun y hy => Option.some.inj hy ▸ hx'.moved hb hes' hcorrect⟩

/-- An expansion is the layout of an output, whose texts have no line break but LF. -/
theorem exists_place_eq {t : Template} {r : ExpansionRequest} (ht : t.LfOnly) (hr : r.LfOnly)
    (b : Buffer) : ∃ output : GeneratorOutput,
      (Expansion.new t r b.document).1 =
        Expansion.place t r (b.lineIndent r.position.line).length output ∧
      (∀ run, .text run ∈ output.segments → Text.LfOnly run) ∧
      ∀ o ∈ output.blocks, Text.LfOnly o := by
  rw [Expansion.new]
  cases hinvoke : t.generator.invoke ⟨List.replicate t.placeholderCount [], r.matchGroups,
      r.workspaceId, r.fileId⟩ with
  | error e => exact ⟨⟨[], []⟩, rfl, fun _ => List.not_mem_nil.elim, List.forall_mem_nil _⟩
  | ok output =>
    refine ⟨output, rfl, ?_, ht.outputs _ output ⟨fun text htext => ?_, hr.matchGroups,
      hr.workspaceId, hr.fileId⟩ hinvoke⟩
    · rw [(Generator.segments_of_invoke hinvoke).1]
      exact ht.segments
    · rw [List.eq_of_mem_replicate htext]
      exact Text.noBreak_nil.lfOnly

/-- A template that is expanded stands on lines of the document. -/
theorem Grounded.expand (hh : h.Grounded) {t : Template} (trigger : Span) {r : ExpansionRequest}
    (ht : t.LfOnly) (hr : r.LfOnly) : (h.expand t trigger r).2.Grounded := by
  have hr' : ({ r with position := trigger.start } : ExpansionRequest).LfOnly :=
    ⟨hr.matchGroups, hr.selectedText, hr.workspaceId, hr.fileId⟩
  obtain ⟨output, hnew, hsegments, hblocks⟩ := exists_place_eq ht hr' h.buffer
  rw [Host.expand]
  generalize Expansion.new t { r with position := trigger.start } h.buffer.document = new at hnew
  obtain ⟨x, diagnostic⟩ := new
  dsimp only at hnew ⊢
  subst hnew
  set indent := h.buffer.lineIndent trigger.start.line
  set y := Expansion.place t { r with position := trigger.start } indent.length output
  have hbreak : indent.NoBreak := h.buffer.noBreak_lineIndent _
  have hsnippet : y.snippet.LfOnly := by
    rw [show y.snippet = _ from Layout.ofOutput_snippet _ _ _ _]
    exact output.lfOnly_snippets hsegments hr.selectedText hblocks
  cases happly : h.buffer.apply [⟨trigger, renderSnippet y.snippet indent⟩] with
  | error e => exact ⟨hh.lfOnly, hh.live⟩
  | ok b =>
    have htext : (renderSnippet y.snippet indent).LfOnly := lfOnly_renderSnippet hbreak hsnippet
    have hend := Buffer.line_add_breaks_lt hh.lfOnly htext happly
    rw [breaks_renderSnippet hbreak.not_mem] at hend
    refine ⟨Buffer.lfOnly_apply hh.lfOnly (List.forall_mem_singleton.mpr htext) happly, ?_⟩
    intro x hx
    obtain rfl := Option.some.inj hx
    refine ⟨?_, ht, ?_, hr.matchGroups, hr.workspaceId, hr.fileId⟩
    · have hcursor := Layout.line_ofOutput trigger.start indent.length r.selectedText output
      change (max _ trigger.start : Position).line < b.lineCount
      rw [Position.max_def]
      split_ifs
      · exact lt_of_le_of_lt (Nat.le_add_right _ _) hend
      · rw [hcursor]
        exact hend
    · refine Layout.forall_mem_parts_ofOutput (fun _ _ => Text.noBreak_nil.lfOnly) ?_
      exact fun index _ _ text hout => hblocks text (List.mem_of_getElem? hout)

/-- The span of the selected placeholder does not end in front of its start. -/
theorem start_le_stop_of_selectedSpan? {s : Span} (hs : h.selectedSpan? = some s) :
    s.start ≤ s.stop := by
  obtain ⟨x, -, hs⟩ := Option.bind_eq_some_iff.mp hs
  obtain ⟨id, -, hs⟩ := Option.bind_eq_some_iff.mp hs
  obtain ⟨q, -, rfl⟩ := Option.map_eq_some_iff.mp hs
  exact q.range.start_le_stop

theorem Grounded.editSelected (hh : h.Grounded) {f : Span → Edit}
    (hf : ∀ s, s.start ≤ s.stop → (f s).text.LfOnly ∧ (f s).Forward) :
    (h.editSelected f).2.Grounded := by
  rw [Host.editSelected]
  cases hs : h.selectedSpan? with
  | none => exact hh
  | some s => exact hh.edit (List.forall_mem_singleton.mpr (hf s (start_le_stop_of_selectedSpan? hs)))

theorem Grounded.navigate (hh : h.Grounded) {step : Expansion → Expansion}
    (hstep : ∀ x b, x.Grounded b → (step x).Grounded b) : (h.navigate step).2.Grounded := by
  rw [Host.navigate]
  cases hlive : h.live with
  | none => exact hh
  | some x =>
    refine ⟨hh.lfOnly, fun y hy => ?_⟩
    dsimp only at hy
    split_ifs at hy
    exact Option.some.inj hy ▸ hstep x _ (hh.live x hlive)

/-- Typing in the selected placeholder and selecting another one keep the footing. -/
theorem Grounded.act (hh : h.Grounded) {op : Op} (hop : op.typed.LfOnly) :
    (h.act op).2.Grounded := by
  have hselect : ∀ (x : Expansion) (b : Buffer) (active : Option Nat), x.Grounded b →
      ({ x with active } : Expansion).Grounded b := fun x b active hx =>
    ⟨hx.stop_lt, hx.template, hx.contents, hx.matchGroups, hx.workspaceId, hx.fileId⟩
  cases op with
  | type text => exact hh.editSelected fun s _ => ⟨hop, Nat.le_refl _⟩
  | replace text => exact hh.editSelected fun s hs => ⟨hop, Edit.forward_of_start_le_stop hs⟩
  | next => exact hh.navigate fun x b => hselect x b _
  | prev => exact hh.navigate fun x b => hselect x b _

theorem Grounded.after (hh : h.Grounded) {call : Call} (hcall : call.Plain) :
    (h.after call).Grounded := by
  cases call with
  | expand t trigger r => exact hh.expand trigger hcall.1 hcall.2
  | edit edits => exact hh.edit hcall
  | act op => exact hh.act hcall
  | leaveIfOutside p =>
    refine ⟨hh.lfOnly, fun x hx => hh.live x ?_⟩
    exact (Option.filter_eq_some_iff.mp hx).1

/-- **Footing along a run.** Whatever a host is called to do, its expansion stands on lines of the
document. -/
theorem grounded_run (hh : h.Grounded) {calls : List Call} (hcalls : ∀ call ∈ calls, call.Plain) :
    (h.run calls).Grounded := by
  rw [run]
  induction calls generalizing h with
  | nil => exact hh
  | cons call calls ih =>
    obtain ⟨hcall, hrest⟩ := List.forall_mem_cons.mp hcalls
    exact ih (hh.after hcall) hrest

end Host

end LiveSnippet
