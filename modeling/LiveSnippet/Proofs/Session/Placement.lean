import LiveSnippet.Proofs.Session.Opening
import LiveSnippet.Proofs.Template.Seams

/-!
# Placement

A template is laid out before its text is in the document: the layout computes where every part will
be, and the snippet text is handed over and rendered by itself. The places are right if the snippet
text, read as a whole, has the characters and markers that its segments have one by one. Where a
marker or an escape comes about at the seam between two segments, the layout does not know of it,
and everything behind it is out of place.

## Main definitions

* `Marker.before`: the text in front of the first marker of a placeholder
* `Expansion.StandsIn`: an expansion has the places that its snippet text takes in a document

## Main results

* `Expansion.place_standsIn`: the layout of an output, between two texts
* `Expansion.standsIn_new`: a template that is put into a document
* `Expansion.standsIn_new_of_safeSeams`: the same for segments with safe seams
-/

namespace LiveSnippet

/-- What the items in front of the first marker of a placeholder show. -/
def Marker.before (id : Nat) (items : List Item) : Text :=
  (items.takeWhile (· ≠ .marker id)).flatMap Item.shown

/-- The snippet text of an expansion stands at a position of the document. The expansion covers its
rendered text, a block covers its output with further lines indented, and a placeholder is empty and
comes right behind what is shown in front of its first marker. No block that has an output and no
marker goes without a part. -/
structure Expansion.StandsIn (x : Expansion) (b : Buffer) (p : Position) (indent : Text)
    (outputs : List Text) : Prop where
  root : x.range.start = p ∧ b.Shows x.range.span (renderSnippet x.snippet indent)
  block : ∀ q ∈ x.parts, ∀ index, q.kind = .block index →
    ∃ output, outputs[index]? = some output ∧
      b.Shows q.range.span (Text.indented indent output)
  placeholder : ∀ q ∈ x.parts, ∀ id, q.kind = .placeholder id →
    q.range.start = q.range.stop ∧
      b.Shows ⟨p, q.range.start⟩
        (Text.indented indent (Marker.before id (Marker.items x.snippet)))
  blocks : ∀ index < outputs.length, .block index ∈ x.template.generator.segments →
    ∃ q ∈ x.parts, q.kind = .block index
  placeholders : ∀ id, (∃ q ∈ x.parts, q.kind = .placeholder id) ↔
    .marker id ∈ Marker.items x.snippet

namespace Field

variable {shown : Field → Text} {indent : Text} {fs : List Field} {items : List Marker.Item}
  {f : Field} {id : Nat}

/-! ### First markers -/

/-- Where a placeholder is the first time, its marker is the first time. -/
theorem Spells.takeWhile (h : Spells shown indent fs items) (id : Nat) :
    Spells shown indent (fs.takeWhile (· ≠ placeholder id))
      (items.takeWhile (· ≠ .marker id)) := by
  induction h with
  | nil => exact .nil
  | @text f text fs items hid htext _ ih =>
    have hne : f ≠ placeholder id := by
      rintro rfl
      cases hid
    rw [List.takeWhile_cons_of_pos (by simpa using hne),
      List.takeWhile_append_of_pos (by simp)]
    exact .text hid htext ih
  | @marker i fs items _ ih =>
    by_cases hi : i = id
    · subst hi
      rw [List.takeWhile_cons_of_neg (by simp), List.takeWhile_cons_of_neg (by simp)]
      exact .nil
    · rw [List.takeWhile_cons_of_pos (by simpa using hi),
        List.takeWhile_cons_of_pos (by simpa using hi)]
      exact .marker ih

theorem Spells.placeholder_mem_iff (h : Spells shown indent fs items) :
    placeholder id ∈ fs ↔ .marker id ∈ items := by
  induction h with
  | nil => simp
  | @text f text fs items hid _ _ ih =>
    have hne : placeholder id ≠ f := by
      rintro rfl
      cases hid
    simp [hne, ih]
  | marker _ ih => simp [ih]

/-- Each placeholder has a first marker. -/
theorem mem_firsts {known : List Nat} (hf : f ∈ fs) (hnew : ∀ id ∈ f.id?, id ∉ known) :
    f ∈ firsts known fs := by
  induction fs generalizing known with
  | nil => cases hf
  | cons g fs ih =>
    cases hg : g.id? with
    | none =>
      rw [firsts_cons_of_id?_none hg]
      rcases List.mem_cons.mp hf with rfl | hf
      · exact List.mem_cons_self
      · exact List.mem_cons_of_mem _ (ih hf hnew)
    | some i =>
      obtain rfl := id?_eq_some_iff.mp hg
      rw [firsts]
      by_cases heq : f = placeholder i
      · subst heq
        rw [if_neg (by simpa using hnew i rfl)]
        exact List.mem_cons_self
      · have hf' : f ∈ fs := (List.mem_cons.mp hf).resolve_left heq
        split_ifs
        · exact ih hf' hnew
        · refine List.mem_cons_of_mem _ (ih hf' fun id hid hmem => ?_)
          rcases List.mem_append.mp hmem with hmem | hmem
          · exact hnew id hid hmem
          · obtain rfl := List.mem_singleton.mp hmem
            exact heq (id?_eq_some_iff.mp hid)

/-- What stands in front of a placeholder stands in front of its first marker. -/
theorem flatMap_shown_of_firsts_eq (hempty : ∀ i, shown (placeholder i) = []) {known : List Nat}
    {before behind : List Field} (h : firsts known fs = before ++ placeholder id :: behind) :
    before.flatMap shown = (fs.takeWhile (· ≠ placeholder id)).flatMap shown := by
  -- A placeholder that still has its first marker in front of it is not known yet.
  have hnew {known : List Nat} {fs before : List Field}
      (h : firsts known fs = before ++ placeholder id :: behind) : id ∉ known := by
    have hmem : placeholder id ∈ firsts known fs := by simp [h]
    exact (nodup_firsts known fs).2 id (List.mem_filterMap.mpr ⟨_, hmem, rfl⟩)
  induction fs generalizing known before with
  | nil => simp [firsts] at h
  | cons f fs ih =>
    cases hf : f.id? with
    | none =>
      have hne : f ≠ placeholder id := by
        rintro rfl
        cases hf
      rw [firsts_cons_of_id?_none hf] at h
      rw [List.takeWhile_cons_of_pos (by simpa using hne), List.flatMap_cons]
      cases before with
      | nil => exact absurd (List.cons.inj h).1 hne
      | cons g before =>
        obtain ⟨rfl, hrest⟩ := List.cons.inj h
        rw [List.flatMap_cons, ih hrest]
    | some i =>
      obtain rfl := id?_eq_some_iff.mp hf
      have hfirst := hnew h
      rw [firsts] at h
      split_ifs at h with hknown
      · have hne : i ≠ id := by
          rintro rfl
          exact hfirst (by simpa using hknown)
        rw [List.takeWhile_cons_of_pos (by simpa using hne), List.flatMap_cons, hempty,
          List.nil_append]
        exact ih h
      · cases before with
        | nil =>
          obtain ⟨hi, -⟩ := List.cons.inj h
          rw [hi, List.takeWhile_cons_of_neg (by simp)]
        | cons g before =>
          obtain ⟨rfl, hrest⟩ := List.cons.inj h
          have hne : i ≠ id := by
            rintro rfl
            exact hnew hrest (List.mem_append_right _ List.mem_cons_self)
          rw [List.takeWhile_cons_of_pos (by simpa using hne), List.flatMap_cons,
            List.flatMap_cons, ih hrest]

/-! ### Laying out -/

/-- What a field shows when nothing has been typed yet. -/
def atFirst (indent : Text) (blocks : List Text) : Field → Text
  | literal run => run
  | placeholder _ => []
  | block index => Text.indented indent ((blocks[index]?).getD [])

/-- What the part of a field records when nothing has been typed yet. -/
def recordedAtFirst (blocks : List Text) : Field → Text
  | block index => (blocks[index]?).getD []
  | _ => []

theorem opens_atFirst (indent : Text) (blocks : List Text) :
    Opens (atFirst indent blocks) (recordedAtFirst blocks) indent blocks := by
  refine ⟨fun _ => rfl, fun _ => ⟨rfl, rfl⟩, fun index output hout => ?_⟩
  rw [atFirst, recordedAtFirst, hout]
  exact ⟨rfl, rfl⟩

/-- A part covers what its field shows, behind what is shown in front of it. -/
theorem shows_of_mem_parts {content : Field → Text} {pre post : Text} {q : Part}
    (hlf : Text.LfOnly (pre ++ fs.flatMap shown ++ post)) (hq : q ∈ parts shown content pre fs) :
    ∃ before f behind, fs = before ++ f :: behind ∧ f.kind? = some q.kind ∧
      (⟨pre ++ fs.flatMap shown ++ post⟩ : Buffer).Shows q.range.span (shown f) ∧
      (⟨pre ++ fs.flatMap shown ++ post⟩ : Buffer).Shows ⟨pre.endPosition, q.range.start⟩
        (before.flatMap shown) := by
  obtain ⟨before, f, behind, rfl, hkind, hpart⟩ := exists_append_of_mem_parts hq
  have hfield : pre ++ (before ++ f :: behind).flatMap shown ++ post =
      (pre ++ before.flatMap shown) ++ shown f ++ (behind.flatMap shown ++ post) := by
    simp
  have hbefore : pre ++ (before ++ f :: behind).flatMap shown ++ post =
      pre ++ before.flatMap shown ++ (shown f ++ (behind.flatMap shown ++ post)) := by
    simp
  refine ⟨before, f, behind, rfl, hkind, ?_, ?_⟩
  · rw [hpart, hfield]
    exact Buffer.shows_endPosition (hfield ▸ hlf)
  · rw [hpart, hbefore]
    exact Buffer.shows_endPosition (hbefore ▸ hlf)

/-- The part of a block that has an output covers the output. -/
theorem shows_block {content : Field → Text} {pre post selected : Text} {blocks : List Text}
    {segments : List Segment} {q : Part} {index : Nat} (hopens : Opens shown content indent blocks)
    (hlf : Text.LfOnly (pre ++ (ofSegments indent selected blocks.length segments).flatMap shown ++
      post))
    (hq : q ∈ parts shown content pre (ofSegments indent selected blocks.length segments))
    (hkind : q.kind = .block index) :
    ∃ output, blocks[index]? = some output ∧
      (⟨pre ++ (ofSegments indent selected blocks.length segments).flatMap shown ++ post⟩ :
        Buffer).Shows q.range.span (Text.indented indent output) := by
  obtain ⟨before, f, behind, hfields, hf, hshows, -⟩ := shows_of_mem_parts hlf hq
  rw [hkind, kind?_eq_some_block_iff] at hf
  subst hf
  have hlt : index < blocks.length :=
    index_lt_of_mem_ofSegments (hfields ▸ List.mem_append_right _ List.mem_cons_self)
  have hout := List.getElem?_eq_getElem hlt
  rw [(hopens.block index _ hout).1] at hshows
  exact ⟨_, hout, hshows⟩

/-- The part of a placeholder is empty, and stands where its first marker stands. -/
theorem shows_placeholder {content : Field → Text} {pre post selected : Text} {blocks : List Text}
    {segments : List Segment} {q : Part} (hopens : Opens shown content indent blocks)
    (hlf : Text.LfOnly (pre ++ (ofSegments indent selected blocks.length segments).flatMap shown ++
      post))
    (hq : q ∈ parts shown content pre (ofSegments indent selected blocks.length segments))
    (hkind : q.kind = .placeholder id) :
    let items := (GeneratorOutput.snippets ⟨segments, blocks⟩ selected).flatMap Marker.items
    q.range.start = q.range.stop ∧
      (⟨pre ++ (ofSegments indent selected blocks.length segments).flatMap shown ++ post⟩ :
        Buffer).Shows ⟨pre.endPosition, q.range.start⟩
          (Text.indented indent (Marker.before id items)) := by
  intro items
  have hempty : ∀ i, shown (placeholder i) = [] := fun i => (hopens.placeholder i).1
  have hspells : Spells shown indent (segments.flatMap (ofSegment indent selected blocks.length))
      items := spells_flatMap_ofSegment hopens segments
  obtain ⟨before, f, behind, hfields, hf, hshows, hbefore⟩ := shows_of_mem_parts hlf hq
  rw [hkind, kind?_eq_some_placeholder_iff] at hf
  subst hf
  refine ⟨?_, ?_⟩
  · rw [hempty, Buffer.shows_iff hlf] at hshows
    obtain ⟨front, back, -, hspan⟩ := hshows
    rw [TrackedSpan.start, TrackedSpan.stop, hspan, List.append_nil]
  · rwa [flatMap_shown_of_firsts_eq hempty hfields, (hspells.takeWhile id).flatMap_shown hempty]
      at hbefore

/-- Each block that has an output has a part. -/
theorem exists_block_mem_parts {content : Field → Text} {pre selected : Text} {n index : Nat}
    {segments : List Segment} (hlt : index < n) (hmem : .block index ∈ segments) :
    ∃ q ∈ parts shown content pre (ofSegments indent selected n segments),
      q.kind = .block index := by
  have hfield : block index ∈ ofSegments indent selected n segments := by
    refine mem_firsts (List.mem_flatMap.mpr ⟨_, hmem, ?_⟩) (by simp [id?])
    rw [ofSegment, if_pos hlt]
    exact List.mem_singleton_self _
  exact exists_mem_parts hfield rfl

/-- Each marker has a part, and each placeholder that has a part has a marker. -/
theorem exists_placeholder_mem_parts_iff {content : Field → Text} {pre selected : Text}
    {blocks : List Text} {segments : List Segment} (hopens : Opens shown content indent blocks) :
    (∃ q ∈ parts shown content pre (ofSegments indent selected blocks.length segments),
        q.kind = .placeholder id) ↔
      .marker id ∈ (GeneratorOutput.snippets ⟨segments, blocks⟩ selected).flatMap Marker.items := by
  rw [← (spells_flatMap_ofSegment hopens segments).placeholder_mem_iff]
  constructor
  · rintro ⟨q, hq, hkind⟩
    obtain ⟨f, hf, hfkind, -⟩ := exists_of_mem_parts hq
    rw [hkind, kind?_eq_some_placeholder_iff] at hfkind
    exact firsts_subset _ _ (hfkind ▸ hf)
  · intro hmem
    exact exists_mem_parts (mem_firsts hmem (by simp)) rfl

end Field

namespace Expansion

variable {r : ExpansionRequest} {output : GeneratorOutput} {pre post indent : Text}

/-- **Placement.** An output is laid out between two texts, and its snippet text is rendered there.
All parts are where the snippet text has them. -/
theorem place_standsIn (t : Template) (hposition : r.position = pre.endPosition)
    (hsegments : output.segments = t.generator.segments) (hindent : indent.NoBreak)
    (hsnippet : Text.LfOnly (output.snippets r.selectedText).flatten)
    (hlf : Text.LfOnly (pre ++ post))
    (hitems : Marker.items (output.snippets r.selectedText).flatten =
      (output.snippets r.selectedText).flatMap Marker.items) :
    (place t r indent.length output).StandsIn
      ⟨pre ++ renderSnippet (output.snippets r.selectedText).flatten indent ++ post⟩ r.position
      indent output.blocks := by
  -- Both the layout and the text are those of the fields of the segments.
  obtain ⟨segments, blocks⟩ := output
  have hopens := Field.opens_atFirst indent blocks
  have hshown := Field.flatMap_shown_ofSegments hopens (Marker.render_flatten_of_items hitems)
  have hholds := Layout.holds_ofOutput hopens pre r.selectedText hindent.not_mem segments
  have hcursor := hholds.cursor
  have htext : Text.LfOnly (pre ++ (Field.ofSegments indent r.selectedText blocks.length
      segments).flatMap (Field.atFirst indent blocks) ++ post) := by
    rw [Text.lfOnly_append] at hlf
    rw [hshown, Text.lfOnly_append, Text.lfOnly_append]
    exact ⟨⟨hlf.1, lfOnly_renderSnippet hindent hsnippet⟩, hlf.2⟩
  have hsnippet' : (place t r indent.length ⟨segments, blocks⟩).snippet =
      (GeneratorOutput.snippets ⟨segments, blocks⟩ r.selectedText).flatten :=
    Layout.ofOutput_snippet _ _ _ _
  have hparts : (place t r indent.length ⟨segments, blocks⟩).parts =
      Field.parts (Field.atFirst indent blocks) (Field.recordedAtFirst blocks) pre
        (Field.ofSegments indent r.selectedText blocks.length segments) := by
    rw [place, hposition]
    exact hholds.parts
  have hrange : (place t r indent.length ⟨segments, blocks⟩).range.span =
      ⟨pre.endPosition, Text.endPosition (pre ++ (Field.ofSegments indent r.selectedText
        blocks.length segments).flatMap (Field.atFirst indent blocks))⟩ := by
    dsimp only [place, TrackedSpan.of]
    rw [hposition, hcursor, max_eq_left (Text.endPosition_le_append _ _)]
  refine ⟨⟨?_, ?_⟩, fun q hq index hkind => ?_, fun q hq id hkind => ?_,
    fun index hlt hmem => ?_, fun id => ?_⟩
  · rw [TrackedSpan.start, hrange, hposition]
  · rw [hsnippet', hrange, ← hshown]
    exact Buffer.shows_endPosition htext
  · rw [← hshown]
    exact Field.shows_block hopens htext (hparts ▸ hq) hkind
  · rw [hsnippet', hitems, ← hshown, hposition]
    exact Field.shows_placeholder hopens htext (hparts ▸ hq) hkind
  · have hmem' : .block index ∈ segments := by
      rw [show segments = t.generator.segments from hsegments]
      exact hmem
    rw [hparts]
    exact Field.exists_block_mem_parts hlt hmem'
  · rw [hparts, hsnippet', hitems]
    exact Field.exists_placeholder_mem_parts_iff hopens

/-- An output is laid out at a position of a document, and its rendered snippet text is inserted
there. -/
theorem insert_standsIn (t : Template) {b : Buffer} (hb : b.text.LfOnly)
    (hposition : b.HasPosition r.position) (hsegments : output.segments = t.generator.segments)
    (hsnippet : Text.LfOnly (output.snippets r.selectedText).flatten)
    (hitems : Marker.items (output.snippets r.selectedText).flatten =
      (output.snippets r.selectedText).flatMap Marker.items) :
    let indent := b.lineIndent r.position.line
    let x := place t r indent.length output
    ∃ b', b.apply [.insert r.position (renderSnippet x.snippet indent)] = .ok b' ∧
      x.StandsIn b' r.position indent output.blocks := by
  intro indent x
  obtain ⟨pre, post, htext, hpre⟩ := hposition.exists_append hb
  obtain rfl : b = ⟨pre ++ post⟩ := congrArg Buffer.mk htext
  have hx : x.snippet = (output.snippets r.selectedText).flatten := Layout.ofOutput_snippet _ _ _ _
  refine ⟨_, by rw [← hpre]; exact Buffer.apply_insert hb, ?_⟩
  rw [hx]
  exact place_standsIn t hpre.symm hsegments (Buffer.noBreak_lineIndent _ _) hsnippet hb hitems

section

variable (t : Template) (r : ExpansionRequest) (b : Buffer) {output : GeneratorOutput}
  (hb : b.text.LfOnly) (hposition : b.HasPosition r.position)
  (hsegments : ∀ run, .text run ∈ t.generator.segments → Text.LfOnly run)
  (hselected : r.selectedText.LfOnly)
  (hfirst : t.generator.invoke ⟨List.replicate t.placeholderCount [], r.matchGroups,
    r.workspaceId, r.fileId⟩ = .ok output)
  (houtput : ∀ o ∈ output.blocks, Text.LfOnly o)

include hb hposition hsegments hselected hfirst houtput

/-- A template is put into a document at a position, by inserting the rendered snippet text. All
parts are then where the snippet text has them, if LF is the only line break, and the snippet text
has the characters and markers that its segments have one by one. -/
theorem standsIn_new
    (hitems : Marker.items (output.snippets r.selectedText).flatten =
      (output.snippets r.selectedText).flatMap Marker.items) :
    let x := (new t r b.document).1
    let indent := b.lineIndent r.position.line
    ∃ b', b.apply [.insert r.position (renderSnippet x.snippet indent)] = .ok b' ∧
      x.StandsIn b' r.position indent output.blocks := by
  obtain ⟨hsegments', -⟩ := Generator.segments_of_invoke hfirst
  rw [new_of_invoke b.document hfirst]
  exact insert_standsIn t hb hposition hsegments'
    (output.lfOnly_snippets (hsegments' ▸ hsegments) hselected houtput) hitems

/-- The same for segments with safe seams, which can be checked one after the other. -/
theorem standsIn_new_of_safeSeams (hseams : Marker.SafeSeams (output.snippets r.selectedText)) :
    let x := (new t r b.document).1
    let indent := b.lineIndent r.position.line
    ∃ b', b.apply [.insert r.position (renderSnippet x.snippet indent)] = .ok b' ∧
      x.StandsIn b' r.position indent output.blocks := by
  obtain ⟨hsegments', -⟩ := Generator.segments_of_invoke hfirst
  rw [new_of_invoke b.document hfirst]
  exact insert_standsIn t hb hposition hsegments'
    (output.lfOnly_snippets (hsegments' ▸ hsegments) hselected houtput)
    (Marker.items_flatten hseams)

end

/-- A template with one block, whose output has two lines. -/
def linesTemplate : Template where
  trigger := .literal "lines".toList
  description := []
  flags := .empty
  priority := 0
  placeholderCount := 3
  contextFilter := none
  generator := ⟨[.text "\\$$1 = ".toList, .block 0, .text "\n$2$0".toList], 1,
    fun _ => .ok ["x\ny$".toList]⟩
  line := 1

/-- A block with two lines and a dollar is put into an indented line. -/
theorem standsIn_new_lines :
    let b : Buffer := ⟨"  ".toList⟩
    let b' : Buffer := ⟨"  $ = x\n  y$\n  ".toList⟩
    let x := (new linesTemplate ⟨⟨0, 2⟩, [], [], [], []⟩ b.document).1
    b.apply [.insert ⟨0, 2⟩ (renderSnippet x.snippet "  ".toList)] = .ok b' ∧
      x.parts.map (fun q => (q.kind, q.range.span)) =
        [(.placeholder 1, ⟨⟨0, 3⟩, ⟨0, 3⟩⟩), (.block 0, ⟨⟨0, 6⟩, ⟨1, 4⟩⟩),
          (.placeholder 2, ⟨⟨2, 2⟩, ⟨2, 2⟩⟩), (.placeholder 0, ⟨⟨2, 2⟩, ⟨2, 2⟩⟩)] ∧
      x.StandsIn b' ⟨0, 2⟩ "  ".toList ["x\ny$".toList] := by
  intro b b' x
  have hsegments : ∀ run, .text run ∈ linesTemplate.generator.segments → Text.LfOnly run := by
    intro run hrun
    simp only [linesTemplate, List.mem_cons, Segment.text.injEq, reduceCtorEq, List.not_mem_nil,
      or_false, false_or] at hrun
    rcases hrun with rfl | rfl <;> decide
  have hfirst : linesTemplate.generator.invoke ⟨[[], [], []], [], [], []⟩ =
      .ok ⟨linesTemplate.generator.segments, ["x\ny$".toList]⟩ := rfl
  have hsnippets :
      GeneratorOutput.snippets ⟨linesTemplate.generator.segments, ["x\ny$".toList]⟩ [] =
        ["\\$$1 = ".toList, "x\ny\\$".toList, "\n$2$0".toList] := by decide +kernel
  have hseams : Marker.SafeSeams
      ["\\$$1 = ".toList, "x\ny\\$".toList, "\n$2$0".toList] := by decide
  obtain ⟨after, happly, hstands⟩ := standsIn_new linesTemplate ⟨⟨0, 2⟩, [], [], [], []⟩ b
    (by decide) (by decide) hsegments (by decide) hfirst (by decide)
    (Marker.items_flatten (hsnippets ▸ hseams))
  have happly' : b.apply [.insert ⟨0, 2⟩ (renderSnippet x.snippet "  ".toList)] = .ok b' := by
    decide +kernel
  obtain rfl : b' = after := Except.ok.inj (happly'.symm.trans happly)
  exact ⟨happly', by decide +kernel, hstands⟩

/-- A template whose block comes right behind a dollar. -/
def dollarTemplate : Template where
  trigger := .literal "dollar".toList
  description := []
  flags := .empty
  priority := 0
  placeholderCount := 0
  contextFilter := none
  generator := ⟨[.text "$".toList, .block 0], 1, fun _ => .ok ["1".toList]⟩
  line := 1

/-- The dollar and the output together are a marker, so nothing is shown of them. The expansion
covers two characters of an empty document. -/
theorem not_standsIn_new_dollar :
    let b : Buffer := ⟨[]⟩
    let r : ExpansionRequest := ⟨.origin, [], [], [], []⟩
    let x := (new dollarTemplate r b.document).1
    b.HasPosition r.position ∧
      dollarTemplate.generator.invoke ⟨[], [], [], []⟩ =
        .ok ⟨[.text "$".toList, .block 0], ["1".toList]⟩ ∧
      (∀ text ∈ x.snippet :: ["$".toList, "1".toList], Text.LfOnly text) ∧
      x.range.span = ⟨⟨0, 0⟩, ⟨0, 2⟩⟩ ∧
      b.apply [.insert r.position (renderSnippet x.snippet [])] = .ok ⟨[]⟩ ∧
      ¬ ∃ b', b.apply [.insert r.position (renderSnippet x.snippet (b.lineIndent 0))] = .ok b' ∧
        x.StandsIn b' r.position (b.lineIndent 0) ["1".toList] := by
  intro b r x
  have happly : b.apply [.insert r.position (renderSnippet x.snippet [])] = .ok ⟨[]⟩ := by
    decide +kernel
  refine ⟨by decide, rfl, by decide +kernel, by decide +kernel, happly, ?_⟩
  rintro ⟨b', happly', hstands⟩
  have hempty : (⟨[]⟩ : Buffer) = b' := Except.ok.inj (happly.symm.trans happly')
  have hspan : ¬ (⟨[]⟩ : Buffer).HasSpan x.range.span := by decide +kernel
  exact hspan (hempty ▸ hstands.root.2.1)

end Expansion

end LiveSnippet
