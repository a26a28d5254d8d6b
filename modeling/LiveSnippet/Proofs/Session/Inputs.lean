import LiveSnippet.Proofs.Session.Contents
import LiveSnippet.Proofs.Template.Counting

/-!
# What the generator is given

The generator of a template is given one text for each marker of the body. In its first run they are
all empty. Later runs are given the texts of the placeholders, of which there may be fewer, because
markers with one number share a placeholder, and as many empty texts as are missing. There are never
more placeholders than markers, so every run is given the same number of texts, provided that no
selected text is put into the literal text.

That a run is given an input means that the answer to this input is all that it takes from the
program behind the code spans.

## Main definitions

* `Expansion.firstInput`, `Expansion.inputAfter`: what a run of the generator is given
* `Watched.inputs`: what the generator is given in the course of a session
* `Expansion.Covers`: there are no more placeholders than markers

## Main results

* `Expansion.new_congr`, `Expansion.update_congr`: what is taken from the program
* `Layout.countP_parts_ofOutput_le`: placeholders and markers of an output
* `Watched.markers_bound_texts`: placeholders and texts are bounded by the markers
-/

namespace LiveSnippet

/-! ### Inputs -/

/-- The template with another program behind its code spans. -/
def Template.withProgram (t : Template) (program : BlockProgram) : Template :=
  { t with generator := { t.generator with program } }

theorem Generator.invoke_congr {g : Generator} {program : BlockProgram} {input : GeneratorInput}
    (h : program input = g.program input) : { g with program }.invoke input = g.invoke input := by
  simp only [invoke, h]

namespace Expansion

variable {t : Template} {r : ExpansionRequest} {d : Document} {x : Expansion} {edits : List Edit}
  {program : BlockProgram}

/-- What the generator is given when a template is expanded. -/
def firstInput (t : Template) (r : ExpansionRequest) : GeneratorInput :=
  ⟨List.replicate t.placeholderCount [], r.matchGroups, r.workspaceId, r.fileId⟩

/-- What the generator is given if a batch makes it run. -/
def inputAfter (x : Expansion) (edits : List Edit) (d : Document) : GeneratorInput :=
  let y := x.moved edits d
  y.input y.placeholderTexts

/-- A new expansion depends on the program only through its answer to the first input. -/
theorem new_congr (h : program (firstInput t r) = t.generator.program (firstInput t r)) :
    new (t.withProgram program) r d =
      ((new t r d).1.withProgram program, (new t r d).2) := by
  have hinvoke : (t.withProgram program).generator.invoke (firstInput t r) =
      t.generator.invoke (firstInput t r) := Generator.invoke_congr h
  rw [firstInput] at hinvoke
  simp only [new, Template.withProgram] at hinvoke ⊢
  rw [hinvoke]
  cases t.generator.invoke ⟨List.replicate t.placeholderCount [], r.matchGroups, r.workspaceId,
    r.fileId⟩ <;> rfl

theorem regenerate_congr
    (h : program (x.input x.placeholderTexts) =
      x.template.generator.program (x.input x.placeholderTexts)) :
    (x.withProgram program).regenerate =
      (x.regenerate.1, x.regenerate.2.withProgram program) := by
  have hinvoke : (x.withProgram program).template.generator.invoke (x.input x.placeholderTexts) =
      x.template.generator.invoke (x.input x.placeholderTexts) := Generator.invoke_congr h
  cases hanswer : x.template.generator.invoke (x.input x.placeholderTexts) with
  | error e =>
    rw [regenerate_of_error hanswer, regenerate_of_error (hinvoke.trans hanswer)]
    rfl
  | ok output =>
    rw [regenerate_of_ok hanswer, regenerate_of_ok (hinvoke.trans hanswer)]
    rfl

/-- A batch depends on the program only through its answer to the input of the batch. -/
theorem update_congr
    (h : program (x.inputAfter edits d) = x.template.generator.program (x.inputAfter edits d)) :
    (x.withProgram program).update edits d =
      ((x.update edits d).1, (x.update edits d).2.withProgram program) := by
  have hregenerate : ((x.moved edits d).withProgram program).regenerate = _ := regenerate_congr h
  have hmoved : (x.withProgram program).moved edits d = (x.moved edits d).withProgram program := rfl
  have hrouted : (x.withProgram program).routed edits = x.routed edits := rfl
  rw [update_eq, update_eq, hrouted, hmoved, hregenerate]
  split_ifs <;> rfl

end Expansion

/-! ### Placeholders and markers -/

namespace Layout

variable {l : Layout} {indent : Nat} {selected : Text} {blocks : List Text}

/-- The number of parts that are placeholders. -/
def placeholderCount (l : Layout) : Nat := l.parts.countP (·.kind.isPlaceholder)

/-- At most a marker adds a placeholder. -/
theorem placeholderCount_addPiece_le (l : Layout) (piece : Marker.Piece) :
    (l.addPiece indent piece).placeholderCount ≤
      l.placeholderCount + if piece.isMarker then 1 else 0 := by
  cases piece with
  | text run => exact Nat.le_refl _
  | dollar => exact Nat.le_refl _
  | marker id =>
    rw [addPiece, Marker.Piece.isMarker, if_pos rfl]
    split_ifs with hknown
    · exact Nat.le_succ _
    · rw [placeholderCount, List.countP_append]
      exact Nat.le_refl _

theorem placeholderCount_addPieces_le (l : Layout) (pieces : List Marker.Piece) :
    (pieces.foldl (addPiece indent) l).placeholderCount ≤
      l.placeholderCount + pieces.countP Marker.Piece.isMarker := by
  induction pieces generalizing l with
  | nil => exact Nat.le_refl _
  | cons piece pieces ih =>
    have hrest := ih (l.addPiece indent piece)
    have hpiece : (l.addPiece indent piece).placeholderCount ≤
        l.placeholderCount + if piece.isMarker then 1 else 0 := l.placeholderCount_addPiece_le piece
    rw [List.foldl_cons, List.countP_cons]
    omega

/-- A segment adds no more placeholders than it has markers, unless selected text is put into it. -/
theorem placeholderCount_addSegment_le (l : Layout) (segment : Segment)
    (h : ∀ run, segment = .text run → ¬ visual <:+: run) :
    (l.addSegment indent selected blocks segment).placeholderCount ≤
      l.placeholderCount + segment.markerCount := by
  cases segment with
  | text run =>
    have hrun : withSelection selected run = run := Text.replaceAll_of_not_infix (h run rfl)
    rw [addSegment, hrun]
    exact l.placeholderCount_addPieces_le (Marker.pieces run)
  | block index =>
    rw [addSegment]
    cases blocks[index]? with
    | none => exact Nat.le_refl _
    | some output =>
      rw [placeholderCount, List.countP_append]
      exact Nat.le_refl _

/-- An output has no more placeholders than its segments have markers, unless selected text is put
into them. -/
theorem placeholderCount_ofOutput_le {p : Position} {output : GeneratorOutput}
    (h : ∀ run, .text run ∈ output.segments → ¬ visual <:+: run) :
    (ofOutput p indent selected output).placeholderCount ≤ Segment.markersIn output.segments := by
  have hfold : ∀ (segments : List Segment) (l : Layout),
      (∀ run, .text run ∈ segments → ¬ visual <:+: run) →
      (segments.foldl (addSegment indent selected output.blocks) l).placeholderCount ≤
        l.placeholderCount + Segment.markersIn segments := by
    intro segments
    induction segments with
    | nil => exact fun l _ => Nat.le_refl _
    | cons segment segments ih =>
      intro l hsegments
      have hsegment : (l.addSegment indent selected output.blocks segment).placeholderCount ≤
          l.placeholderCount + segment.markerCount :=
        l.placeholderCount_addSegment_le segment fun run hrun =>
          hsegments run (hrun ▸ List.mem_cons_self)
      have hrest := ih (l.addSegment indent selected output.blocks segment)
        fun run hrun => hsegments run (List.mem_cons_of_mem _ hrun)
      rw [List.foldl_cons, Segment.markersIn_cons]
      omega
  have houtput := hfold output.segments (start p) h
  rwa [show (start p).placeholderCount = 0 from rfl, Nat.zero_add] at houtput

end Layout

/-! ### Sessions -/

namespace Expansion

variable {t : Template} {x : Expansion}

/-- The number of parts that are placeholders. -/
def placeholderCount (x : Expansion) : Nat := x.parts.countP (·.kind.isPlaceholder)

theorem placeholderCount_eq (x : Expansion) :
    x.placeholderCount = (x.parts.map Part.kind).countP PartKind.isPlaceholder := by
  rw [placeholderCount, List.countP_map]
  rfl

/-- The generator is given a text for each placeholder, and as many more as there are further
markers. -/
theorem length_placeholderTexts (x : Expansion) :
    x.placeholderTexts.length = max x.placeholderCount x.template.placeholderCount := by
  have hlength : ((x.parts.filter (·.kind.isPlaceholder)).map (·.content)).length =
      x.placeholderCount := by
    rw [List.length_map, placeholderCount, List.countP_eq_length_filter]
  rw [placeholderTexts, List.length_append, List.length_replicate, hlength]
  omega

/-- A batch does not change which parts are placeholders. -/
theorem length_texts_inputAfter (x : Expansion) (edits : List Edit) (d : Document) :
    (x.inputAfter edits d).placeholderTexts.length =
      max x.placeholderCount x.template.placeholderCount := by
  have hkinds : (x.moved edits d).placeholderCount = x.placeholderCount := by
    rw [placeholderCount_eq, placeholderCount_eq, kinds_moved]
  rw [← hkinds]
  exact length_placeholderTexts _

theorem placeholderCount_update (x : Expansion) (edits : List Edit) (d : Document) :
    (x.update edits d).2.placeholderCount = x.placeholderCount := by
  rw [placeholderCount_eq, placeholderCount_eq, kinds_update]

/-- A new expansion has no more placeholders than its template has markers. -/
theorem placeholderCount_new_le
    (hcount : t.placeholderCount = Segment.markersIn t.generator.segments)
    (hvisual : ∀ run, .text run ∈ t.generator.segments → ¬ Layout.visual <:+: run)
    (r : ExpansionRequest) (d : Document) :
    (new t r d).1.placeholderCount ≤ t.placeholderCount := by
  rw [hcount, new]
  cases houtput : t.generator.invoke
      ⟨List.replicate t.placeholderCount [], r.matchGroups, r.workspaceId, r.fileId⟩ with
  | error e => exact Nat.zero_le _
  | ok output =>
    rw [← (Generator.segments_of_invoke houtput).1] at hvisual ⊢
    exact Layout.placeholderCount_ofOutput_le hvisual

end Expansion

namespace Watched

/-- What the generator is given when something happens; nothing if it does not run. -/
def input? (w : Watched) : Occurrence → Option GeneratorInput
  | .batch program edits d =>
    let x := w.expansion.withProgram program
    if (x.update edits d).1.regenerated then some (x.inputAfter edits d) else none
  | .next => none
  | .prev => none

/-- What the generator is given from some moment on. -/
def inputs (w : Watched) : List Occurrence → List GeneratorInput
  | [] => []
  | o :: rest => (w.input? o).toList ++ (w.after o).inputs rest

/-- There are no more placeholders than markers, of which there are `n`. -/
structure Covered (w : Watched) (n : Nat) : Prop where
  markers : w.expansion.template.placeholderCount = n
  placeholders : w.expansion.placeholderCount ≤ n

variable {w : Watched} {n : Nat}

/-- Whatever happens, there are no more placeholders than markers, and if the generator runs, it is
given one text for each marker. -/
theorem Covered.after (h : w.Covered n) (o : Occurrence) :
    (w.after o).Covered n ∧ ∀ input ∈ w.input? o, input.placeholderTexts.length = n := by
  cases o with
  | next => exact ⟨⟨h.markers, h.placeholders⟩, fun input hinput => by cases hinput⟩
  | prev => exact ⟨⟨h.markers, h.placeholders⟩, fun input hinput => by cases hinput⟩
  | batch program edits d =>
    have hmarkers : (w.expansion.withProgram program).template.placeholderCount = n := h.markers
    have hplaceholders : (w.expansion.withProgram program).placeholderCount ≤ n := h.placeholders
    refine ⟨⟨?_, ?_⟩, fun input hinput => ?_⟩
    · rw [Watched.after, Expansion.template_update]
      exact hmarkers
    · rw [Watched.after, Expansion.placeholderCount_update]
      exact hplaceholders
    · rw [input?] at hinput
      split_ifs at hinput
      · obtain rfl := Option.some.inj hinput
        rw [Expansion.length_texts_inputAfter, hmarkers, Nat.max_eq_right hplaceholders]
      · cases hinput

theorem Covered.inputs (h : w.Covered n) (occurrences : List Occurrence) :
    ∀ input ∈ w.inputs occurrences, input.placeholderTexts.length = n := by
  induction occurrences generalizing w with
  | nil => exact List.forall_mem_nil _
  | cons o occurrences ih =>
    obtain ⟨hafter, hinput⟩ := h.after o
    intro input hmem
    rcases List.mem_append.mp hmem with hmem | hmem
    · exact hinput input (Option.mem_toList.mp hmem)
    · exact ih hafter input hmem

theorem covered_new {t : Template} (r : ExpansionRequest) (d : Document)
    (h : (Expansion.new t r d).1.placeholderCount ≤ t.placeholderCount) :
    (new t r d).Covered t.placeholderCount := by
  obtain ⟨indent, output, hnew, -⟩ := exists_new_eq t r d
  refine ⟨?_, h⟩
  rw [hnew]
  rfl

/-- **Markers bound texts.** The count of a body is the number of markers in its literal text. So a
template into whose literal text no selected text is put expands to no more placeholders than its
count says, and every run of its generator, the first one and all that come with batches, is given
as many texts as its count says. -/
theorem markers_bound_texts {Preamble : Type} (patterns : Pattern.Compiler)
    (evaluator : Evaluator Preamble) :
    (∀ lines rest b, Body.parse lines = (.ok b, rest) →
        b.placeholderCount = Segment.markersIn b.segments) ∧
      ∀ source, ∀ t ∈ (compileBy patterns evaluator source).templates,
        (∀ run, .text run ∈ t.generator.segments → ¬ Layout.visual <:+: run) →
        ∀ r d,
          (Expansion.new t r d).1.parts.countP (·.kind.isPlaceholder) ≤ t.placeholderCount ∧
          ∀ occurrences,
            ∀ input ∈ Expansion.firstInput t r :: (new t r d).inputs occurrences,
              input.placeholderTexts.length = t.placeholderCount := by
  refine ⟨fun lines rest b h => Body.placeholderCount_of_parse h, ?_⟩
  intro source t ht hvisual r d
  have hcount := placeholderCount_of_mem_templates ht
  have hnew := Expansion.placeholderCount_new_le hcount hvisual r d
  refine ⟨hnew, fun occurrences => List.forall_mem_cons.mpr ⟨?_, ?_⟩⟩
  · exact List.length_replicate
  · exact (covered_new r d hnew).inputs occurrences

/-- Code spans that show the texts of all placeholders with a dash between any two. -/
def dashing : Evaluator Unit where
  compilePreamble _ := .ok ()
  compileBlocks _ spans :=
    .ok fun input => .ok (spans.map fun _ => Text.join ['-'] input.placeholderTexts)
  compileFilter _ _ := .ok fun _ => .ok true

/-- A body with three markers, two of which have one number, and an escaped dollar. When a letter is
typed, the generator is given three texts as before, though there are only two placeholders. -/
theorem markers_bound_texts_repeated :
    let source := "snippet s\n$1 \x60\x60 \x60\x60 $1\n$0\\$3\nendsnippet".toList
    let r : ExpansionRequest := ⟨.origin, [], [], [], []⟩
    let d := Buffer.document ⟨[]⟩
    let d' := Buffer.document ⟨"x -- \n$3".toList⟩
    ∃ t ∈ (compileWith dashing source).templates,
      let typing := [.batch t.generator.program [.insert .origin ['x']] d']
      (∀ run, .text run ∈ t.generator.segments → ¬ Layout.visual <:+: run) ∧
        t.placeholderCount = 3 ∧
        (Expansion.new t r d).1.parts.countP (·.kind.isPlaceholder) = 2 ∧
        ((new t r d).inputs typing).map (·.placeholderTexts) = [[['x'], [], []]] ∧
        (∀ input ∈ Expansion.firstInput t r :: (new t r d).inputs typing,
          input.placeholderTexts.length = 3) ∧
        (Expansion.new t r d).1.parts.countP (·.kind.isPlaceholder) ≤ 3 := by
  intro source r d d'
  have hany : (compileWith dashing source).templates.any (fun t =>
      t.generator.segments =
          [.text "$1 ".toList, .block 0, .text " $1\n$0\\$3".toList] &&
        t.placeholderCount = 3 &&
        (Expansion.new t r d).1.parts.countP (·.kind.isPlaceholder) = 2 &&
        ((new t r d).inputs [.batch t.generator.program [.insert .origin ['x']] d']).map
          (·.placeholderTexts) = [[['x'], [], []]]) = true := by
    decide +kernel
  obtain ⟨t, ht, hfields⟩ := List.any_eq_true.mp hany
  simp only [Bool.and_eq_true, decide_eq_true_eq] at hfields
  obtain ⟨⟨⟨hsegments, hcount⟩, hparts⟩, hinputs⟩ := hfields
  have hvisual : ∀ run, .text run ∈ t.generator.segments → ¬ Layout.visual <:+: run := by
    intro run hrun
    rw [hsegments] at hrun
    have hrun' : run = "$1 ".toList ∨ run = " $1\n$0\\$3".toList := by simpa using hrun
    rcases hrun' with rfl | rfl <;> decide
  obtain ⟨hbound, hall⟩ :=
    (markers_bound_texts Pattern.TextPattern.compile? dashing).2 source t ht hvisual r d
  rw [hcount] at hbound hall
  exact ⟨t, ht, hvisual, hcount, hparts, hinputs, hall _, hbound⟩

end Watched

end LiveSnippet
