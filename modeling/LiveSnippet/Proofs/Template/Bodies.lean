import LiveSnippet.Proofs.Template.Cutting
import LiveSnippet.Proofs.Text.Replacing
import Mathlib.Data.List.Chain

/-!
# Bodies read back

A body is written in a template file as its literal text and its code spans one behind the other,
each line of a code span indented by one blank. What is written is not what was read, since code has
been trimmed, but it is the same lines in normal form: the draft of a body, written out after each
piece, grows by that piece in normal form. So the lines of the body that has been written are read
as the same body.

## Main definitions

* `Body.InOrder`: literal text and code spans by turns, the code spans numbered
* `Body.Draft.written`, `Body.print`: drafts and bodies as they are written

## Main results

* `Body.Draft.Sound.addLines`: lines are written in normal form
* `Body.parse_print`: a body that has been written is read as the same body
-/

namespace LiveSnippet

/-! ### Drafts -/

namespace Segment

/-- Whether the segment is a code span. -/
def isBlock : Segment → Bool
  | text _ => false
  | block _ => true

/-- The index of a code span. -/
def index? : Segment → Option Nat
  | text _ => none
  | block index => some index

/-- The segment as it is written in a template file, given the sources of the code spans: literal
text as it is, and a code span between delimiters, with a blank in front of each of its lines and
one at its end. -/
def written (spans : List Text) : Segment → Text
  | text run => run
  | block index =>
    Body.delimiter ++ ' ' :: Text.indented [' '] ((spans[index]?).getD []) ++ ' ' :: Body.delimiter

/-- A segment is written alike when further code spans follow. -/
theorem flatMap_written_append {segments : List Segment} {spans : List Text}
    (h : ∀ index ∈ segments.filterMap index?, index < spans.length) (span : Text) :
    segments.flatMap (written (spans ++ [span])) = segments.flatMap (written spans) := by
  refine List.flatMap_congr fun segment hsegment => ?_
  cases segment with
  | text run => rfl
  | block index =>
    have hlt := h index (List.mem_filterMap.mpr ⟨_, hsegment, rfl⟩)
    rw [written, written, List.getElem?_append_left hlt]

end Segment

namespace Body

/-- The segments of a body are in order: no literal text is empty, literal text and code spans take
turns, and the code spans are numbered from zero on. -/
structure InOrder (segments : List Segment) (count : Nat) : Prop where
  nonempty : .text [] ∉ segments
  alternates : segments.IsChain fun s t => s.isBlock ≠ t.isBlock
  numbered : segments.filterMap Segment.index? = List.range count

namespace Draft

variable {segments : List Segment} {text : Text}

/-- The last segment, if there is one, is literal text. -/
def EndsInText (segments : List Segment) : Prop := ∀ s ∈ segments.head?, s.isBlock = false

/-- Literal text is added to the last segment, or begins a new one. -/
theorem pushText_cases (segments : List Segment) (text : Text) :
    (text = [] ∧ pushText segments text = segments) ∨
      (text ≠ [] ∧ ∃ last rest, segments = .text last :: rest ∧
        pushText segments text = .text (last ++ text) :: rest) ∨
      (text ≠ [] ∧ (∀ s ∈ segments.head?, s.isBlock = true) ∧
        pushText segments text = .text text :: segments) := by
  unfold pushText
  split_ifs with htext
  · exact .inl ⟨List.isEmpty_iff.mp htext, rfl⟩
  · rw [List.isEmpty_iff] at htext
    refine .inr ?_
    cases segments with
    | nil => exact .inr ⟨htext, by simp, rfl⟩
    | cons s rest =>
      cases s with
      | text last => exact .inl ⟨htext, last, rest, rfl, rfl⟩
      | block index => exact .inr ⟨htext, by simp [Segment.isBlock], rfl⟩

theorem endsInText_pushText (h : text = [] → EndsInText segments) :
    EndsInText (pushText segments text) := by
  rcases pushText_cases segments text with ⟨htext, heq⟩ | ⟨-, last, rest, -, heq⟩ | ⟨-, -, heq⟩
  · rw [heq]
    exact h htext
  · simp [EndsInText, heq, Segment.isBlock]
  · simp [EndsInText, heq, Segment.isBlock]

theorem flatMap_written_pushText (spans : List Text) (segments : List Segment) (text : Text) :
    (pushText segments text).reverse.flatMap (Segment.written spans) =
      segments.reverse.flatMap (Segment.written spans) ++ text := by
  rcases pushText_cases segments text with
    ⟨rfl, heq⟩ | ⟨-, last, rest, rfl, heq⟩ | ⟨-, -, heq⟩ <;> rw [heq] <;> simp [Segment.written]

end Draft

variable {segments : List Segment} {count : Nat}

/-- Adding literal text keeps the order. -/
theorem InOrder.pushText (h : InOrder segments.reverse count) (text : Text) :
    InOrder (Draft.pushText segments text).reverse count := by
  obtain ⟨hnonempty, halternates, hnumbered⟩ := h
  rw [List.mem_reverse] at hnonempty
  rw [List.isChain_reverse] at halternates
  rw [List.filterMap_reverse] at hnumbered
  rcases Draft.pushText_cases segments text with
    ⟨-, heq⟩ | ⟨htext, last, rest, rfl, heq⟩ | ⟨htext, hblock, heq⟩
  · rw [heq]
    refine ⟨by simpa using hnonempty, List.isChain_reverse.mpr halternates, ?_⟩
    rw [List.filterMap_reverse, hnumbered]
  · rw [heq]
    refine ⟨by simp_all, List.isChain_reverse.mpr ?_, ?_⟩
    · exact List.isChain_cons.mpr (List.isChain_cons.mp halternates)
    · rw [List.filterMap_reverse, ← hnumbered]
      rfl
  · rw [heq]
    refine ⟨by simp_all, List.isChain_reverse.mpr (List.isChain_cons.mpr ⟨fun s hs => ?_, ?_⟩), ?_⟩
    · rw [hblock s hs]
      exact Bool.noConfusion
    · exact halternates
    · rw [List.filterMap_reverse, ← hnumbered]
      rfl

/-- A code span behind literal text, with the next number, keeps the order. -/
theorem InOrder.block (h : InOrder segments.reverse count)
    (hends : Draft.EndsInText segments) :
    InOrder (Segment.block count :: segments).reverse (count + 1) := by
  refine ⟨?_, List.isChain_reverse.mpr (List.isChain_cons.mpr ⟨fun s hs => ?_, ?_⟩), ?_⟩
  · simpa using h.nonempty
  · rw [hends s hs]
    exact Bool.noConfusion
  · exact List.isChain_reverse.mp h.alternates
  · rw [List.reverse_cons, List.filterMap_append, h.numbered, List.range_succ]
    rfl

namespace Draft

variable {d : Draft} {lines : List Text} {piece : Text} {closes : Bool}

/-- What holds of a draft at each piece of a line. -/
structure Sound (d : Draft) : Prop extends InOrder d.segments.reverse d.spans.length where
  /-- A code span has been opened behind literal text. -/
  opened : d.code.isSome → EndsInText d.segments
  /-- The lines of the code span that is open have no line feeds. -/
  unbroken : ∀ lines ∈ d.code, ∀ line ∈ lines, '\n' ∉ line

/-- The draft as it is written in a template file. Each line of the code span that is open has
ended. -/
def written (d : Draft) : Text :=
  d.segments.reverse.flatMap (Segment.written d.spans.reverse) ++
    match d.code with
    | none => []
    | some lines => delimiter ++ lines.reverse.flatMap fun line => ' ' :: line ++ ['\n']

/-- The source of a code span is written line by line, with a blank in front of each. -/
theorem indented_join (hlines : ∀ line ∈ lines, '\n' ∉ line) (hpiece : '\n' ∉ piece) :
    ' ' :: Text.indented [' '] (Text.join ['\n'] (lines ++ [piece])) =
      (lines.flatMap fun line => ' ' :: line ++ ['\n']) ++ ' ' :: piece := by
  induction lines with
  | nil => simpa [Text.join] using Text.indented_of_not_mem hpiece
  | cons line lines ih =>
    obtain ⟨hline, hlines⟩ := List.forall_mem_cons.mp hlines
    obtain ⟨next, rest, hrest⟩ : ∃ next rest, lines ++ [piece] = next :: rest :=
      List.exists_cons_of_ne_nil (by simp)
    have hnext := ih hlines
    rw [hrest] at hnext
    rw [Text.join] at hnext ⊢
    rw [List.cons_append, hrest, List.intercalate_cons_cons, Text.indented_append,
      Text.indented_append, Text.indented_of_not_mem hline, List.flatMap_cons,
      List.append_assoc _ (lines.flatMap _), ← hnext]
    simp [Text.indented]

theorem isSome_code_addPiece (d : Draft) (piece : Text) :
    (d.addPiece true piece).code.isSome = !d.code.isSome := by
  rw [addPiece]
  cases d.code <;> rfl

theorem addPieces_singleton (d : Draft) (piece : Text) :
    d.addPieces [piece] = d.addPiece false piece := rfl

theorem addPieces_cons_cons (d : Draft) (p q : Text) (pieces : List Text) :
    d.addPieces (p :: q :: pieces) = (d.addPiece true p).addPieces (q :: pieces) := rfl

/-- A piece in normal form is read alike. -/
theorem addPiece_padded (d : Draft) (closes : Bool) (piece : Text) :
    d.addPiece closes (padded d.code.isSome closes piece) = d.addPiece closes piece := by
  rw [addPiece, addPiece]
  cases d.code with
  | none => rfl
  | some lines => simp only [Option.isSome_some, trim_padded]

theorem addPieces_pad (d : Draft) (pieces : List Text) :
    d.addPieces (pad d.code.isSome pieces) = d.addPieces pieces := by
  induction pieces generalizing d with
  | nil => rfl
  | cons p pieces ih =>
    cases pieces with
    | nil => exact d.addPiece_padded false p
    | cons q pieces =>
      have hrest := ih (d.addPiece true p)
      obtain ⟨closes, rest, hpad, -⟩ := exists_pad_cons (!d.code.isSome) q pieces
      rw [isSome_code_addPiece, hpad] at hrest
      rw [addPieces_cons_cons, ← hrest, pad, hpad, addPieces_cons_cons, addPiece_padded]

/-- A line in normal form is read alike. -/
theorem addLine_normal (d : Draft) (line : Text) :
    d.addLine (normal d.code.isSome line) = d.addLine line := by
  rw [addLine, addLine, cut_normal, addPieces_pad]

/-- A piece without line feeds leaves the draft sound, and is written in normal form. A piece in
front of a delimiter may be empty only if it does not open a code span right behind another one. -/
theorem Sound.addPiece (h : d.Sound) (hpiece : '\n' ∉ piece)
    (hempty : closes = true → piece = [] → EndsInText d.segments) :
    (d.addPiece closes piece).Sound ∧
      (closes = false → EndsInText (d.addPiece closes piece).segments) ∧
      (d.addPiece closes piece).written =
        d.written ++ padded d.code.isSome closes piece ++
          (if closes then delimiter else ['\n']) := by
  rw [written, written, Draft.addPiece]
  cases hcode : d.code with
  | none =>
    have horder := h.toInOrder.pushText piece
    cases closes with
    | true =>
      have hends := endsInText_pushText (hempty rfl)
      refine ⟨⟨horder, fun _ => hends, by simp⟩, by simp, ?_⟩
      simp [flatMap_written_pushText, padded]
    | false =>
      have hends : EndsInText (Draft.pushText (Draft.pushText d.segments piece) ['\n']) :=
        endsInText_pushText (by simp)
      refine ⟨⟨horder.pushText ['\n'], fun _ => hends, by simp⟩, fun _ => hends, ?_⟩
      simp [flatMap_written_pushText, padded]
  | some lines =>
    have hends := h.opened (by rw [hcode]; rfl)
    have hlines := h.unbroken lines hcode
    have htrim : '\n' ∉ piece.trim := fun hmem =>
      hpiece ((List.dropWhile_suffix _).subset ((Text.trimEnd_prefix _).subset hmem))
    cases closes with
    | false =>
      refine ⟨⟨h.toInOrder, fun _ => hends, ?_⟩, fun _ => hends, ?_⟩
      · simp_all
      · simp [padded]
    | true =>
      have hindex : ∀ index ∈ d.segments.reverse.filterMap Segment.index?,
          index < d.spans.reverse.length := by
        rw [h.numbered, List.length_reverse]
        exact fun index => List.mem_range.mp
      have hjoin := indented_join (fun line hline => hlines line (List.mem_reverse.mp hline)) htrim
      refine ⟨⟨h.toInOrder.block hends, by simp, by simp⟩, by simp, ?_⟩
      have hspan : (d.spans.reverse ++ [Text.join ['\n'] (lines.reverse ++ [piece.trim])])[
          d.spans.length]? = some (Text.join ['\n'] (lines.reverse ++ [piece.trim])) := by
        rw [List.getElem?_append_right (by simp)]
        simp
      simp only [if_true]
      rw [List.reverse_cons, List.reverse_cons, List.reverse_cons, List.flatMap_append,
        Segment.flatMap_written_append hindex, List.flatMap_singleton, Segment.written, hspan,
        Option.getD_some, hjoin]
      simp [padded]

/-- The pieces of a line leave the draft sound, and are written in normal form. -/
theorem Sound.addPieces {pieces : List Text} (h : d.Sound) (hpieces : Separated pieces)
    (hbreak : ∀ p ∈ pieces, '\n' ∉ p)
    (hempty : pieces.head? = some [] → pieces.length = 1 ∨ EndsInText d.segments) :
    (d.addPieces pieces).Sound ∧ EndsInText (d.addPieces pieces).segments ∧
      (d.addPieces pieces).written =
        d.written ++ delimiter.intercalate (pad d.code.isSome pieces) ++ ['\n'] := by
  induction pieces generalizing d with
  | nil => exact hpieces.elim
  | cons p pieces ih =>
    obtain ⟨hp, hbreak'⟩ := List.forall_mem_cons.mp hbreak
    cases pieces with
    | nil =>
      obtain ⟨hsound, hends, hwritten⟩ := h.addPiece hp (by simp : false = true → _)
      rw [addPieces_singleton]
      exact ⟨hsound, hends rfl, by simpa [pad] using hwritten⟩
    | cons q rest =>
      obtain ⟨-, -, -, hnext, hrest⟩ := hpieces
      obtain ⟨hsound, -, hwritten⟩ := h.addPiece hp
        fun (_ : true = true) hnil => (hempty (by rw [hnil]; rfl)).resolve_left (by simp)
      obtain ⟨hsound', hends', hwritten'⟩ := ih hsound hrest hbreak' fun hq =>
        .inl (by rw [hnext (by simpa using hq)]; rfl)
      rw [addPieces_cons_cons]
      refine ⟨hsound', hends', ?_⟩
      obtain ⟨closes, rest', hpad, -⟩ := exists_pad_cons (!d.code.isSome) q rest
      rw [hwritten', hwritten, isSome_code_addPiece, pad, hpad, List.intercalate_cons_cons]
      simp

/-- A line leaves the draft sound, and is written in normal form. -/
theorem Sound.addLine {line : Text} (h : d.Sound) (hends : EndsInText d.segments)
    (hline : '\n' ∉ line) :
    (d.addLine line).Sound ∧ EndsInText (d.addLine line).segments ∧
      (d.addLine line).written = d.written ++ normal d.code.isSome line ++ ['\n'] :=
  h.addPieces (separated_cut line) (fun _ hp hmem => hline (mem_of_mem_cut hp hmem))
    fun _ => .inr hends

/-- Adds lines. -/
def addLines (d : Draft) (lines : List Text) : Draft := lines.foldl addLine d

/-- The lines in normal form, each according to the mode in which it begins. -/
def normals (d : Draft) : List Text → List Text
  | [] => []
  | line :: rest => normal d.code.isSome line :: (d.addLine line).normals rest

/-- Lines in normal form are read alike. -/
theorem addLines_normals (d : Draft) (lines : List Text) :
    d.addLines (d.normals lines) = d.addLines lines := by
  induction lines generalizing d with
  | nil => rfl
  | cons line lines ih =>
    rw [normals, addLines, addLines, List.foldl_cons, List.foldl_cons, addLine_normal]
    exact ih _

theorem forall_mem_normals {P : Text → Prop} (h : ∀ code, ∀ line ∈ lines, P (normal code line))
    (d : Draft) : ∀ line ∈ d.normals lines, P line := by
  induction lines generalizing d with
  | nil => exact List.forall_mem_nil _
  | cons line lines ih =>
    refine List.forall_mem_cons.mpr ⟨h _ line List.mem_cons_self, ih (fun code l hl => ?_) _⟩
    exact h code l (List.mem_cons_of_mem _ hl)

theorem Sound.addLines (h : d.Sound) (hends : EndsInText d.segments)
    (hlines : ∀ line ∈ lines, '\n' ∉ line) :
    (d.addLines lines).Sound ∧ EndsInText (d.addLines lines).segments ∧
      (d.addLines lines).written = d.written ++ (d.normals lines).flatMap (· ++ ['\n']) := by
  induction lines generalizing d with
  | nil => exact ⟨h, hends, by simp [Draft.addLines, normals]⟩
  | cons line lines ih =>
    obtain ⟨hline, hlines⟩ := List.forall_mem_cons.mp hlines
    obtain ⟨hsound, hends', hwritten⟩ := h.addLine hends hline
    obtain ⟨hsound', hends'', hwritten'⟩ := ih hsound hends' hlines
    refine ⟨hsound', hends'', ?_⟩
    rw [Draft.addLines, List.foldl_cons, ← Draft.addLines, hwritten', hwritten, normals,
      List.flatMap_cons]
    simp

theorem sound_empty : empty.Sound :=
  ⟨⟨by simp [empty], by simp [empty], rfl⟩, by simp [empty], by simp [empty]⟩

end Draft

/-! ### Bodies -/

/-- The segments are in order, with as many code spans as there are sources. -/
def WellFormed (b : Body) : Prop := InOrder b.segments b.spans.length

/-- The body as it is written in a template file, without the last line feed. -/
def written (b : Body) : Text := b.segments.flatMap (·.written b.spans)

/-- The line that ends a body. -/
def terminator : Text := "endsnippet".toList

/-- The lines of the body as it is written in a template file. -/
def print (b : Body) : List Text := List.splitOn '\n' b.written ++ [terminator]

/-- Without the literal text at the end the segments are in order, and end in a code span. -/
theorem InOrder.of_text {last : Text} (h : InOrder (.text last :: segments).reverse count) :
    InOrder segments.reverse count ∧ ∀ s ∈ segments.head?, s.isBlock = true := by
  obtain ⟨hnonempty, halternates, hnumbered⟩ := h
  rw [List.isChain_reverse, List.isChain_cons] at halternates
  rw [List.reverse_cons, List.filterMap_append] at hnumbered
  refine ⟨⟨by simp_all, List.isChain_reverse.mpr halternates.2, ?_⟩, fun s hs => ?_⟩
  · rw [← hnumbered]
    exact (List.append_nil _).symm
  · simpa [Segment.isBlock] using halternates.1 s hs

theorem Draft.dropLastBreak_concat {segments : List Segment}
    (h : ∀ s ∈ segments.head?, s.isBlock = true) (run : Text) :
    dropLastBreak (.text (run ++ ['\n']) :: segments) = pushText segments run := by
  rw [dropLastBreak, List.reverse_append]
  rcases pushText_cases segments run with ⟨rfl, heq⟩ | ⟨-, last, rest, rfl, -⟩ | ⟨hrun, -, heq⟩
  · rw [heq]
    rfl
  · exact absurd (h _ rfl) (by simp [Segment.isBlock])
  · rw [heq]
    simp [hrun]

/-- The last line feed does not belong to the body. -/
theorem finish_of_written {d : Draft} {w : Text} (h : d.Sound) (hends : Draft.EndsInText d.segments)
    (hcode : d.code = none) (hw : d.written = w ++ ['\n']) :
    d.finish.WellFormed ∧ d.finish.written = w := by
  have horder := h.toInOrder
  rw [Draft.written, hcode, List.append_nil] at hw
  rw [WellFormed, written, Draft.finish, List.length_reverse]
  cases hsegments : d.segments with
  | nil => simp [hsegments] at hw
  | cons s rest =>
    rw [hsegments] at hw hends horder
    cases s with
    | block index => exact absurd (hends _ rfl) (by simp [Segment.isBlock])
    | text last =>
      have hlast : last ≠ [] := by
        rintro rfl
        exact horder.nonempty (by simp)
      rw [List.reverse_cons, List.flatMap_append, List.flatMap_singleton, Segment.written] at hw
      obtain ⟨run, rfl⟩ : ∃ run, last = run ++ ['\n'] := by
        have hlf := congrArg List.getLast? hw
        rw [List.getLast?_append_of_ne_nil _ hlast, List.getLast?_concat] at hlf
        exact ⟨_, (List.dropLast_append_getLast? _ hlf).symm⟩
      rw [← List.append_assoc] at hw
      obtain ⟨horder, hblock⟩ := horder.of_text
      rw [Draft.dropLastBreak_concat hblock, Draft.flatMap_written_pushText]
      exact ⟨horder.pushText run, List.append_cancel_right hw⟩

/-- A body is read from the lines up to the first terminator, unless that stands in a code span. -/
theorem parseFrom_eq_ok_iff {d : Draft} {lines rest : List Text} {b : Body} :
    parseFrom d lines = (.ok b, rest) ↔
      ∃ front last, lines = front ++ last :: rest ∧ isTerminator last = true ∧
        (∀ line ∈ front, isTerminator line = false) ∧ (d.addLines front).code = none ∧
        b = (d.addLines front).finish := by
  induction lines generalizing d with
  | nil =>
    refine iff_of_false (fun h => by simp [parseFrom] at h) ?_
    rintro ⟨front, last, hlines, -⟩
    simp at hlines
  | cons line lines ih =>
    rw [parseFrom]
    split_ifs with hline hcode
    · refine iff_of_false (fun h => by simp at h) ?_
      rintro ⟨front, last, hlines, -, hfront, hnone, -⟩
      cases front with
      | nil => simp [Draft.addLines, Option.isSome_iff_ne_none.mp hcode] at hnone
      | cons first front =>
        obtain ⟨rfl, -⟩ := List.cons.inj hlines
        exact absurd hline (by simp [hfront])
    · constructor
      · intro h
        obtain ⟨hb, rfl⟩ := Prod.mk.inj h
        exact ⟨[], line, rfl, hline, List.forall_mem_nil _, by simpa [Draft.addLines] using hcode,
          (Except.ok.inj hb).symm⟩
      · rintro ⟨front, last, hlines, -, hfront, -, rfl⟩
        cases front with
        | nil =>
          obtain ⟨-, rfl⟩ := List.cons.inj hlines
          rfl
        | cons first front =>
          obtain ⟨rfl, -⟩ := List.cons.inj hlines
          exact absurd hline (by simp [hfront])
    · rw [ih]
      constructor
      · rintro ⟨front, last, rfl, hlast, hfront, hrest⟩
        exact ⟨line :: front, last, rfl, hlast,
          List.forall_mem_cons.mpr ⟨by simpa using hline, hfront⟩, hrest⟩
      · rintro ⟨front, last, hlines, hlast, hfront, hrest⟩
        cases front with
        | nil =>
          obtain ⟨rfl, -⟩ := List.cons.inj hlines
          exact absurd hlast hline
        | cons first front =>
          obtain ⟨rfl, rfl⟩ := List.cons.inj hlines
          exact ⟨front, last, rfl, hlast, (List.forall_mem_cons.mp hfront).2, hrest⟩

/-- Lines that each end in a line feed are joined by line feeds, and one stands at the end. -/
theorem flatMap_concat_eq {lines : List Text} (h : lines ≠ []) (sep : Text) :
    lines.flatMap (· ++ sep) = sep.intercalate lines ++ sep := by
  induction lines with
  | nil => exact absurd rfl h
  | cons line lines ih =>
    cases lines with
    | nil => simp
    | cons next rest =>
      rw [List.flatMap_cons, ih (List.cons_ne_nil _ _), List.intercalate_cons_cons]
      simp

/-- **Bodies.** The segments of a body that has been read are in order, and the lines of the body as
it is written are read as the same body. -/
theorem parse_print {lines rest : List Text} {b : Body} (h : parse lines = (.ok b, rest))
    (hlines : ∀ line ∈ lines, '\n' ∉ line) : b.WellFormed ∧ parse b.print = (.ok b, []) := by
  obtain ⟨front, last, rfl, -, hfront, hcode, rfl⟩ := parseFrom_eq_ok_iff.mp h
  by_cases hempty : front = []
  · rw [hempty]
    exact ⟨Draft.sound_empty.toInOrder, by decide +kernel⟩
  have hbreak : ∀ line ∈ front, '\n' ∉ line := fun line hline =>
    hlines line (List.mem_append_left _ hline)
  obtain ⟨hsound, hends, hwritten⟩ :=
    Draft.sound_empty.addLines (by simp [Draft.EndsInText, Draft.empty]) hbreak
  have hne : Draft.empty.normals front ≠ [] := by
    cases front with
    | nil => exact absurd rfl hempty
    | cons line front => exact List.cons_ne_nil _ _
  rw [flatMap_concat_eq hne] at hwritten
  obtain ⟨hwell, hbody⟩ := finish_of_written hsound hends hcode hwritten
  refine ⟨hwell, ?_⟩
  have hnormal : ∀ line ∈ Draft.empty.normals front, '\n' ∉ line :=
    Draft.forall_mem_normals (fun code line hline hmem => by
      rcases mem_of_mem_normal hmem with h | h | h
      · revert h
        decide
      · revert h
        decide
      · exact hbreak line hline h) _
  have hterminator : ∀ line ∈ Draft.empty.normals front, isTerminator line = false :=
    Draft.forall_mem_normals (fun code line hline => isTerminator_normal code (hfront line hline)) _
  rw [parse, print, hbody, List.splitOn_intercalate _ hnormal hne, parseFrom_eq_ok_iff]
  exact ⟨_, terminator, rfl, by decide, hterminator, by rwa [Draft.addLines_normals],
    by rw [Draft.addLines_normals]⟩

/-- A body with a code span over two lines, a run of three backticks and a word that does not end
it. -/
theorem parse_print_span_over_lines :
    let b : Body :=
      { segments :=
          [.text "a $1 \x60\x60\x60 ".toList, .block 0, .text "endsnippet\n".toList]
        spans := ["x\ny".toList]
        placeholderCount := 1 }
    b.WellFormed ∧ parse b.print = (.ok b, []) :=
  @parse_print
    (["a $1 \x60\x60\x60 \x60\x60  x", "  y\x60\x60endsnippet", "", "endsnippet  ", "z"].map
      String.toList)
    ["z".toList] _ (by decide +kernel) (by decide +kernel)

end Body

end LiveSnippet
