import LiveSnippet.Proofs.Session.Tracking
import LiveSnippet.Proofs.Template.Rendering

/-!
# Opening a session

A template is put into a document in two ways at once. The layout goes through the segments and
gives every part its place; the text comes from rendering the snippet text, in which the markers of
all segments stand. Both give the same page, if rendering the snippet text is the same as rendering
its segments one by one.

## Main definitions

* `Segment.snippet`, `GeneratorOutput.snippets`: what the segments add to the snippet text
* `Field.Opens`: what fields show when nothing has been typed yet
* `Field.Spells`: fields that stand for characters and markers
* `Layout.Holds`: a layout has put some fields behind a text

## Main results

* `Layout.holds_ofOutput`: the layout of an output holds the fields of its segments
* `Field.flatMap_shown_ofSegments`: the fields of a template show its rendered text
-/

namespace LiveSnippet

/-- What a segment adds to the snippet text. -/
def Segment.snippet (selected : Text) (blocks : List Text) : Segment → Text
  | .text run => Layout.withSelection selected run
  | .block index => Marker.escapeDollars ((blocks[index]?).getD [])

/-- The snippet text of an output, segment by segment. -/
def GeneratorOutput.snippets (output : GeneratorOutput) (selected : Text) : List Text :=
  output.segments.map (·.snippet selected output.blocks)

/-! ### First markers -/

namespace Field

variable {known : List Nat} {f : Field} {fs gs : List Field} {shown : Field → Text}

theorem id?_eq_some_iff {id : Nat} : f.id? = some id ↔ f = placeholder id := by
  cases f <;> simp [id?]

theorem firsts_cons_of_id?_none (h : f.id? = none) :
    firsts known (f :: fs) = f :: firsts known fs := by
  cases f with
  | placeholder id => simp [id?] at h
  | literal run => rfl
  | block index => rfl

theorem firsts_append (known : List Nat) (fs gs : List Field) :
    firsts known (fs ++ gs) =
      firsts known fs ++ firsts (known ++ (firsts known fs).filterMap id?) gs := by
  induction fs generalizing known with
  | nil => simp [firsts]
  | cons f fs ih =>
    cases hf : f.id? with
    | none =>
      rw [List.cons_append, firsts_cons_of_id?_none hf, firsts_cons_of_id?_none hf, ih,
        List.filterMap_cons_none hf, List.cons_append]
    | some id =>
      obtain rfl := id?_eq_some_iff.mp hf
      rw [List.cons_append, firsts, firsts]
      split_ifs with hknown
      · exact ih known
      · rw [ih, List.filterMap_cons_some hf, List.cons_append, List.append_assoc,
          List.singleton_append]

theorem firsts_subset (known : List Nat) (fs : List Field) : firsts known fs ⊆ fs := by
  induction fs generalizing known with
  | nil => exact List.nil_subset _
  | cons f fs ih =>
    cases hf : f.id? with
    | none =>
      rw [firsts_cons_of_id?_none hf]
      exact List.cons_subset_cons _ (ih known)
    | some id =>
      obtain rfl := id?_eq_some_iff.mp hf
      rw [firsts]
      split_ifs with hknown
      · exact List.Subset.trans (ih known) (List.subset_cons_self _ _)
      · exact List.cons_subset_cons _ (ih _)

/-- No placeholder is shown twice, and none that is known before. -/
theorem nodup_firsts (known : List Nat) (fs : List Field) :
    ((firsts known fs).filterMap id?).Nodup ∧
      ∀ id ∈ (firsts known fs).filterMap id?, id ∉ known := by
  induction fs generalizing known with
  | nil => simp [firsts]
  | cons f fs ih =>
    cases hf : f.id? with
    | none =>
      rw [firsts_cons_of_id?_none hf, List.filterMap_cons_none hf]
      exact ih known
    | some id =>
      obtain rfl := id?_eq_some_iff.mp hf
      rw [firsts]
      split_ifs with hknown
      · exact ih known
      · obtain ⟨hnodup, hnew⟩ := ih (known ++ [id])
        rw [List.filterMap_cons_some hf]
        refine ⟨List.nodup_cons.mpr ⟨fun hid => ?_, hnodup⟩, List.forall_mem_cons.mpr ⟨?_, ?_⟩⟩
        · exact hnew id hid (List.mem_append_right _ List.mem_cons_self)
        · simpa using hknown
        · exact fun i hi hmem => hnew i hi (List.mem_append_left _ hmem)

/-- While the placeholders are empty, markers that come again make no difference. -/
theorem flatMap_shown_firsts (hempty : ∀ id, shown (placeholder id) = []) (known : List Nat)
    (fs : List Field) : (firsts known fs).flatMap shown = fs.flatMap shown := by
  induction fs generalizing known with
  | nil => rfl
  | cons f fs ih =>
    cases hf : f.id? with
    | none => rw [firsts_cons_of_id?_none hf, List.flatMap_cons, List.flatMap_cons, ih]
    | some id =>
      obtain rfl := id?_eq_some_iff.mp hf
      rw [firsts, List.flatMap_cons, hempty, List.nil_append]
      split_ifs with hknown
      · exact ih known
      · rw [List.flatMap_cons, hempty, List.nil_append, ih]

end Field

/-- What fields show and what their parts record when nothing has been typed yet: placeholders are
empty, and a block shows its output with further lines indented. -/
structure Field.Opens (shown content : Field → Text) (indent : Text) (blocks : List Text) :
    Prop where
  literal : ∀ run, shown (.literal run) = run
  placeholder : ∀ id, shown (.placeholder id) = [] ∧ content (.placeholder id) = []
  block : ∀ index output, blocks[index]? = some output →
    shown (.block index) = Text.indented indent output ∧ content (.block index) = output

/-- The fields of a page show their first texts if no output has a line break. -/
theorem Page.opens {p : Page} (hempty : ∀ id, p.texts id = [])
    (hbreak : ∀ o ∈ p.outputs, Text.NoBreak o) (indent : Text) :
    Field.Opens p.shown p.shown indent p.outputs := by
  refine ⟨fun _ => rfl, fun id => ⟨hempty id, hempty id⟩, fun index output hout => ?_⟩
  have hshown : p.shown (.block index) = output := by rw [Page.shown, hout, Option.getD_some]
  rw [hshown, Text.indented_of_not_mem (hbreak output (List.mem_of_getElem? hout)).not_mem]
  exact ⟨rfl, rfl⟩

/-! ### The layout -/

namespace Layout

section

/-- The layout has put some fields behind the text `pre`. -/
structure Holds (l : Layout) (shown content : Field → Text) (pre : Text) (fs : List Field) :
    Prop where
  cursor : l.cursor = Text.endPosition (pre ++ fs.flatMap shown)
  parts : l.parts = Field.parts shown content pre fs
  ids : l.ids = fs.filterMap Field.id?

variable {l : Layout} {shown content : Field → Text} {pre indent : Text} {blocks : List Text}
  {fs : List Field}

theorem holds_start (shown content : Field → Text) (pre : Text) :
    (start pre.endPosition).Holds shown content pre [] :=
  ⟨by simp [start], rfl, rfl⟩

variable (hopens : Field.Opens shown content indent blocks)

include hopens

/-- Literal text moves the cursor on. -/
theorem Holds.literal (h : l.Holds shown content pre fs) (hindent : '\n' ∉ indent)
    {run run' : Text} (hrun : Text.indented indent run = run') :
    { l with cursor := l.cursor.advance run indent.length }.Holds shown content pre
      (fs ++ [Field.literal run']) := by
  refine ⟨?_, ?_, ?_⟩
  · dsimp only
    rw [h.cursor, Position.advance_eq hindent, hrun, ← Text.endPosition_append]
    simp [hopens.literal]
  · rw [Field.parts_append, h.parts]
    exact (List.append_nil _).symm
  · rw [List.filterMap_append, h.ids]
    exact (List.append_nil _).symm

/-- A piece of literal text adds its field, unless it is a marker that has been met before. -/
theorem Holds.addPiece (h : l.Holds shown content pre fs) (hindent : '\n' ∉ indent)
    (piece : Marker.Piece) :
    (l.addPiece indent.length piece).Holds shown content pre
      (fs ++ Field.firsts (fs.filterMap Field.id?) [Field.ofPiece indent piece]) := by
  cases piece with
  | text run => exact h.literal hopens hindent rfl
  | dollar => exact h.literal hopens hindent (Text.indented_of_not_mem (by decide))
  | marker id =>
    have hfirsts (known : List Nat) : Field.firsts known [Field.ofPiece indent (.marker id)] =
        if known.contains id then [] else [.placeholder id] := rfl
    rw [Layout.addPiece, hfirsts, h.ids]
    split_ifs with hknown
    · rwa [List.append_nil]
    · -- The first marker of a placeholder has an empty part, because nothing is typed yet.
      obtain ⟨hshown, hcontent⟩ := hopens.placeholder id
      refine ⟨?_, ?_, ?_⟩
      · simp [hshown, h.cursor]
      · have hpart : Part.placeholder id l.cursor =
            Part.ofTexts (.placeholder id) (pre ++ fs.flatMap shown) [] [] := by
          simp [Part.placeholder, Part.ofTexts, TrackedSpan.point, TrackedSpan.of, h.cursor]
        dsimp only
        rw [Field.parts_append, h.parts, hpart, Field.parts_cons_some rfl, hshown, hcontent]
        rfl
      · simp [Field.id?]

theorem Holds.addPieces (h : l.Holds shown content pre fs) (hindent : '\n' ∉ indent)
    (pieces : List Marker.Piece) :
    (pieces.foldl (Layout.addPiece indent.length) l).Holds shown content pre
      (fs ++ Field.firsts (fs.filterMap Field.id?) (pieces.map (Field.ofPiece indent))) := by
  induction pieces generalizing l fs with
  | nil => simpa [Field.firsts] using h
  | cons piece pieces ih =>
    have hrest := ih (h.addPiece hopens hindent piece)
    rw [List.append_assoc, List.filterMap_append, ← Field.firsts_append] at hrest
    exact hrest

/-- A segment adds its fields. -/
theorem Holds.addSegment (h : l.Holds shown content pre fs) (hindent : '\n' ∉ indent)
    (selected : Text) (seg : Segment) :
    (l.addSegment indent.length selected blocks seg).Holds shown content pre
      (fs ++ Field.firsts (fs.filterMap Field.id?)
        (Field.ofSegment indent selected blocks.length seg)) := by
  cases seg with
  | text run =>
    have hpieces := h.addPieces hopens hindent (Marker.pieces (withSelection selected run))
    exact ⟨hpieces.cursor, hpieces.parts, hpieces.ids⟩
  | block index =>
    rw [Layout.addSegment, Field.ofSegment]
    cases hout : blocks[index]? with
    | none =>
      rw [if_neg (not_lt.mpr (List.getElem?_eq_none_iff.mp hout)), Field.firsts, List.append_nil]
      exact h
    | some output =>
      obtain ⟨hlt, -⟩ := List.getElem?_eq_some_iff.mp hout
      obtain ⟨hshown, hcontent⟩ := hopens.block index output hout
      rw [if_pos hlt]
      have hstop : l.cursor.advance output indent.length =
          Text.endPosition (pre ++ fs.flatMap shown ++ shown (.block index)) := by
        rw [Position.advance_eq hindent, h.cursor, ← Text.endPosition_append, hshown]
      refine ⟨?_, ?_, ?_⟩
      · simpa [Field.firsts] using hstop
      · have hle := Text.endPosition_le_append (pre ++ fs.flatMap shown) (shown (.block index))
        have hpart : Part.block index l.cursor (l.cursor.advance output indent.length) output =
            Part.ofTexts (.block index) (pre ++ fs.flatMap shown) (shown (.block index))
              output := by
          rw [hstop, h.cursor]
          simp only [Part.block, Part.ofTexts, TrackedSpan.of, max_eq_left hle]
        dsimp only
        rw [Field.parts_append, h.parts, hpart, Field.firsts_cons_of_id?_none rfl,
          Field.parts_cons_some rfl, hcontent]
        rfl
      · rw [List.filterMap_append, h.ids]
        exact (List.append_nil _).symm

/-- **Layout.** The layout of an output holds the fields of its segments. -/
theorem holds_ofOutput (pre selected : Text) (hindent : '\n' ∉ indent) (segments : List Segment) :
    (ofOutput pre.endPosition indent.length selected ⟨segments, blocks⟩).Holds shown content pre
      (Field.ofSegments indent selected blocks.length segments) := by
  -- By induction on the segments that are still to come, for any layout of those in front.
  suffices ∀ l fs, Holds l shown content pre fs →
      (segments.foldl (Layout.addSegment indent.length selected blocks) l).Holds shown content pre
        (fs ++ Field.firsts (fs.filterMap Field.id?)
          (segments.flatMap (Field.ofSegment indent selected blocks.length))) from
    this _ [] (holds_start shown content pre)
  induction segments with
  | nil => exact fun l fs h => by simpa [Field.firsts] using h
  | cons seg segments ih =>
    intro l fs h
    have hrest := ih _ _ (h.addSegment hopens hindent selected seg)
    rw [List.append_assoc, List.filterMap_append, ← Field.firsts_append] at hrest
    exact hrest

end

/-! ### The snippet text -/

theorem foldl_addPiece_snippet (n : Nat) (l : Layout) (pieces : List Marker.Piece) :
    (pieces.foldl (addPiece n) l).snippet = l.snippet := by
  induction pieces generalizing l with
  | nil => rfl
  | cons piece pieces ih =>
    rw [List.foldl_cons, ih]
    cases piece with
    | text run => rfl
    | dollar => rfl
    | marker id =>
      rw [addPiece]
      split_ifs <;> rfl

theorem addSegment_snippet (n : Nat) (selected : Text) (blocks : List Text) (l : Layout)
    (seg : Segment) :
    (l.addSegment n selected blocks seg).snippet = l.snippet ++ seg.snippet selected blocks := by
  cases seg with
  | text run => rw [addSegment, Segment.snippet, foldl_addPiece_snippet]
  | block index =>
    rw [addSegment, Segment.snippet]
    cases blocks[index]? with
    | none => exact (List.append_nil _).symm
    | some output => rfl

/-- The snippet text is put together from those of the segments. -/
theorem ofOutput_snippet (start : Position) (n : Nat) (selected : Text) (output : GeneratorOutput) :
    (ofOutput start n selected output).snippet = (output.snippets selected).flatten := by
  obtain ⟨segments, blocks⟩ := output
  suffices ∀ l : Layout, (segments.foldl (addSegment n selected blocks) l).snippet =
      l.snippet ++ (segments.map (·.snippet selected blocks)).flatten from this _
  induction segments with
  | nil => exact fun l => (List.append_nil _).symm
  | cons seg segments ih =>
    intro l
    rw [List.foldl_cons, ih, addSegment_snippet, List.map_cons, List.flatten_cons,
      List.append_assoc]

end Layout

/-! ### The text -/

namespace Field

/-- Fields stand for items: a placeholder for its marker, and any other field for the characters of
the text that it shows, further lines indented. -/
inductive Spells (shown : Field → Text) (indent : Text) : List Field → List Marker.Item → Prop
  | nil : Spells shown indent [] []
  | text {f : Field} {text : Text} {fs : List Field} {items : List Marker.Item} :
      f.id? = none → shown f = Text.indented indent text → Spells shown indent fs items →
      Spells shown indent (f :: fs) (text.map .char ++ items)
  | marker {id : Nat} {fs : List Field} {items : List Marker.Item} :
      Spells shown indent fs items →
      Spells shown indent (placeholder id :: fs) (.marker id :: items)

section

variable {shown content : Field → Text} {indent selected : Text} {blocks : List Text}
  {fs gs : List Field} {items items' : List Marker.Item}

theorem Spells.append (h : Spells shown indent fs items) (h' : Spells shown indent gs items') :
    Spells shown indent (fs ++ gs) (items ++ items') := by
  induction h with
  | nil => exact h'
  | text hid htext _ ih =>
    rw [List.append_assoc]
    exact .text hid htext ih
  | marker _ ih => exact .marker ih

/-- While the placeholders are empty, fields show the items for which they stand. -/
theorem Spells.flatMap_shown (h : Spells shown indent fs items)
    (hempty : ∀ id, shown (placeholder id) = []) :
    fs.flatMap shown = Text.indented indent (items.flatMap Marker.Item.shown) := by
  induction h with
  | nil => rfl
  | text _ htext _ ih =>
    rw [List.flatMap_cons, List.flatMap_append, Text.indented_append, Marker.flatMap_shown_char,
      htext, ih]
  | marker _ ih => rwa [List.flatMap_cons, hempty]

variable (hopens : Opens shown content indent blocks)

include hopens

/-- The field of a piece stands for the items of the piece. -/
theorem spells_ofPiece (piece : Marker.Piece) :
    Spells shown indent [ofPiece indent piece] piece.items := by
  cases piece with
  | text run =>
    rw [← List.append_nil (Marker.Piece.items _)]
    exact .text rfl (hopens.literal _) .nil
  | dollar =>
    have hdollar : Marker.Piece.dollar.items = ['$'].map .char ++ [] := rfl
    rw [hdollar]
    exact .text rfl (hopens.literal _) .nil
  | marker id => exact .marker .nil

theorem spells_map_ofPiece (pieces : List Marker.Piece) :
    Spells shown indent (pieces.map (ofPiece indent)) (pieces.flatMap Marker.Piece.items) := by
  induction pieces with
  | nil => exact .nil
  | cons piece pieces ih => exact (spells_ofPiece hopens piece).append ih

/-- The fields of a segment stand for the items of its snippet text. -/
theorem spells_ofSegment (seg : Segment) :
    Spells shown indent (ofSegment indent selected blocks.length seg)
      (Marker.items (seg.snippet selected blocks)) := by
  cases seg with
  | text run => exact spells_map_ofPiece hopens _
  | block index =>
    rw [ofSegment, Segment.snippet, Marker.items_escapeDollars]
    cases hout : blocks[index]? with
    | none =>
      rw [if_neg (not_lt.mpr (List.getElem?_eq_none_iff.mp hout))]
      exact .nil
    | some output =>
      obtain ⟨hlt, -⟩ := List.getElem?_eq_some_iff.mp hout
      rw [if_pos hlt, Option.getD_some, ← List.append_nil (output.map _)]
      exact .text rfl (hopens.block index output hout).1 .nil

/-- The fields of all segments stand for the items of the segments. -/
theorem spells_flatMap_ofSegment (segments : List Segment) :
    Spells shown indent (segments.flatMap (ofSegment indent selected blocks.length))
      ((GeneratorOutput.snippets ⟨segments, blocks⟩ selected).flatMap Marker.items) := by
  induction segments with
  | nil => exact .nil
  | cons seg segments ih => exact (spells_ofSegment hopens seg).append ih

/-- **Rendering.** The fields of a template show its rendered text, if that is the rendered texts of
the segments one after the other. -/
theorem flatMap_shown_ofSegments {segments : List Segment}
    (hrender : Marker.render (GeneratorOutput.snippets ⟨segments, blocks⟩ selected).flatten =
      (GeneratorOutput.snippets ⟨segments, blocks⟩ selected).flatMap Marker.render) :
    (ofSegments indent selected blocks.length segments).flatMap shown =
      renderSnippet (GeneratorOutput.snippets ⟨segments, blocks⟩ selected).flatten indent := by
  have hempty : ∀ id, shown (placeholder id) = [] := fun id => (hopens.placeholder id).1
  rw [renderSnippet, Text.replaceAll_lineFeed, hrender, ofSegments, flatMap_shown_firsts hempty,
    (spells_flatMap_ofSegment hopens segments).flatMap_shown hempty, List.flatMap_assoc]
  exact congrArg _ (List.flatMap_congr fun text _ => (Marker.render_eq_flatMap_items text).symm)

end

theorem index_lt_of_mem_ofSegment {indent selected : Text} {n index : Nat} {seg : Segment}
    (h : block index ∈ ofSegment indent selected n seg) : index < n := by
  cases seg with
  | text run =>
    obtain ⟨piece, -, hpiece⟩ := List.mem_map.mp h
    cases piece <;> cases hpiece
  | block i =>
    rw [ofSegment] at h
    split_ifs at h with hlt
    · obtain rfl := Field.block.inj (List.mem_singleton.mp h)
      exact hlt
    · cases h

/-- A block has a field only if it has an output. -/
theorem index_lt_of_mem_ofSegments {indent selected : Text} {n index : Nat}
    {segments : List Segment} (h : block index ∈ ofSegments indent selected n segments) :
    index < n := by
  obtain ⟨seg, -, hseg⟩ := List.mem_flatMap.mp (firsts_subset _ _ h)
  exact index_lt_of_mem_ofSegment hseg

end Field

/-! ### Line breaks -/

/-- A line is indented by spaces and tabs. -/
theorem Buffer.noBreak_lineIndent (b : Buffer) (n : Nat) : (b.lineIndent n).NoBreak := by
  intro c hc
  have hblank : c = ' ' ∨ c = '\t' := by
    rw [lineIndent] at hc
    split at hc
    · simpa using List.mem_takeWhile_imp hc
    · simp at hc
  rcases hblank with rfl | rfl <;> rfl

theorem Marker.lfOnly_escapeDollars {text : Text} (h : text.LfOnly) :
    (escapeDollars text).LfOnly := by
  intro c hc hb
  obtain ⟨d, hd, hcd⟩ := List.mem_flatMap.mp hc
  split_ifs at hcd
  · simp only [List.mem_cons, List.not_mem_nil, or_false] at hcd
    rcases hcd with rfl | rfl <;> simp [Text.isLineBreak] at hb
  · obtain rfl := List.mem_singleton.mp hcd
    exact h c hd hb

theorem lfOnly_renderSnippet {snippet indent : Text} (hindent : indent.NoBreak)
    (h : snippet.LfOnly) : (renderSnippet snippet indent).LfOnly := by
  intro c hc hb
  rcases Text.mem_of_mem_replaceAll (by simp) hc with hc | hc
  · exact (Text.lfOnly_cons.mpr ⟨fun _ => rfl, hindent.lfOnly⟩) c hc hb
  · exact h c (Marker.mem_of_mem_render hc) hb

theorem GeneratorOutput.lfOnly_snippets {output : GeneratorOutput} {selected : Text}
    (htext : ∀ run, .text run ∈ output.segments → Text.LfOnly run) (hselected : selected.LfOnly)
    (houtput : ∀ o ∈ output.blocks, Text.LfOnly o) :
    Text.LfOnly (output.snippets selected).flatten := by
  intro c hc hb
  obtain ⟨text, hmem, hc⟩ := List.mem_flatten.mp hc
  obtain ⟨seg, hseg, rfl⟩ := List.mem_map.mp hmem
  cases seg with
  | text run =>
    have hvisual : Layout.visual ≠ [] := by decide
    rcases Text.mem_of_mem_replaceAll hvisual hc with hc | hc
    · exact Marker.lfOnly_escapeDollars hselected c hc hb
    · exact htext run hseg c hc hb
  | block index =>
    refine Marker.lfOnly_escapeDollars ?_ c hc hb
    cases hout : output.blocks[index]? with
    | none => exact Text.noBreak_nil.lfOnly
    | some o => exact houtput o (List.mem_of_getElem? hout)

/-- A template whose first run succeeds is laid out with its output. -/
theorem Expansion.new_of_invoke {t : Template} {r : ExpansionRequest} (d : Document)
    {output : GeneratorOutput}
    (hfirst : t.generator.invoke ⟨List.replicate t.placeholderCount [], r.matchGroups,
      r.workspaceId, r.fileId⟩ = .ok output) :
    new t r d = (place t r (d.lineIndent r.position.line).length output, none) := by
  rw [new, hfirst]

/-! ### The first page -/

namespace Session

variable {t : Template} {r : ExpansionRequest} {output : GeneratorOutput} {pre mid post : Text}

/-- The first page of a template in the place of `mid`. -/
theorem start_eq (h : Text.LfOnly (pre ++ mid ++ post)) :
    start r ⟨pre ++ mid ++ post⟩ ⟨pre.endPosition, Text.endPosition (pre ++ mid)⟩ output =
      let fields := Field.ofSegments
        ((⟨pre ++ mid ++ post⟩ : Buffer).lineIndent pre.endPosition.line) r.selectedText
        output.blocks.length output.segments
      ⟨⟨pre, fields, post, fun _ => [], output.blocks⟩,
        ((fields.filterMap Field.id?).filter (0 < ·)).mergeSort (fun a b => decide (a ≤ b)) ++ [0],
        some 0⟩ := by
  rw [start, Buffer.toIndices_endPosition h]
  dsimp only [Except.toOption, Option.getD_some]
  rw [List.append_assoc, List.take_left, ← List.append_assoc, List.drop_left]

/-- The document of the first page. -/
theorem text_start (h : Text.LfOnly (pre ++ mid ++ post))
    (hbreak : ∀ o ∈ output.blocks, Text.NoBreak o)
    (hrender : Marker.render (output.snippets r.selectedText).flatten =
      (output.snippets r.selectedText).flatMap Marker.render) :
    (start r ⟨pre ++ mid ++ post⟩ ⟨pre.endPosition, Text.endPosition (pre ++ mid)⟩
        output).page.text =
      pre ++ renderSnippet (output.snippets r.selectedText).flatten
        ((⟨pre ++ mid ++ post⟩ : Buffer).lineIndent pre.endPosition.line) ++ post := by
  rw [start_eq h, Page.text]
  exact congrArg (pre ++ · ++ post)
    (Field.flatMap_shown_ofSegments (Page.opens (fun _ => rfl) hbreak _) hrender)

theorem sound_start (h : Text.LfOnly (pre ++ mid ++ post)) (hselected : r.selectedText.LfOnly)
    (htext : ∀ run, .text run ∈ output.segments → Text.LfOnly run)
    (hbreak : ∀ o ∈ output.blocks, Text.NoBreak o)
    (hrender : Marker.render (output.snippets r.selectedText).flatten =
      (output.snippets r.selectedText).flatMap Marker.render)
    (hseparated : Field.separated false (start r ⟨pre ++ mid ++ post⟩
      ⟨pre.endPosition, Text.endPosition (pre ++ mid)⟩ output).page.fields) :
    (start r ⟨pre ++ mid ++ post⟩ ⟨pre.endPosition, Text.endPosition (pre ++ mid)⟩ output).Sound
      output.blocks.length := by
  have hlf := text_start h hbreak hrender
  have hindent := Buffer.noBreak_lineIndent ⟨pre ++ mid ++ post⟩ pre.endPosition.line
  refine ⟨⟨?_, hseparated, ?_, ?_, ?_⟩, ?_⟩
  · rw [hlf, Text.lfOnly_append, Text.lfOnly_append]
    rw [Text.lfOnly_append, Text.lfOnly_append] at h
    exact ⟨⟨h.1.1, lfOnly_renderSnippet hindent
      (output.lfOnly_snippets htext hselected fun o ho => (hbreak o ho).lfOnly)⟩, h.2⟩
  · rw [start_eq h]
    exact (Field.nodup_firsts [] _).1
  · rw [start_eq h]
    exact fun index hmem => Field.index_lt_of_mem_ofSegments hmem
  · rw [start_eq h]
  · rw [start_eq h]
    intro i hi
    obtain rfl := Option.some.inj hi
    simp

end Session

end LiveSnippet
