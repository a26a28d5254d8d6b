import LiveSnippet.Proofs.Template.Bodies
import LiveSnippet.Proofs.Template.Escaping
import LiveSnippet.Proofs.Template.Headers
import Mathlib.Algebra.GroupWithZero.Nat

/-!
# Counting markers

The markers of a body are counted while it is read, in one piece of a line after the other. An
expansion looks for them once more, in the literal text that these pieces have been put together to.
Both find the same number: pieces are put together only where a line break stands between them, and
neither a marker nor an escape runs over a line break.

## Main definitions

* `Segment.markerCount`, `Segment.markersIn`: the markers in the literal text of segments
* `Body.Draft.Counted`: a draft in which the markers have been counted

## Main results

* `Body.Draft.Counted.addPiece`: counting goes on with each piece of a line
* `Body.placeholderCount_of_parse`: the count of a body is that of its literal text
* `placeholderCount_of_mem_templates`: the count of a template is that of its literal text
-/

namespace LiveSnippet

/-! ### Markers and line breaks -/

namespace Marker

variable {s t : Text}

theorem count_eq_length_ids (text : Text) : count text = (ids text).length := by
  rw [count, ids]
  induction pieces text with
  | nil => rfl
  | cons piece pieces ih =>
    cases piece <;>
      simp [List.countP_cons, List.filterMap_cons, Piece.isMarker, Piece.id?, ih]

@[simp] theorem count_nil : count [] = 0 := by rw [count_eq_length_ids, ids_nil, List.length_nil]

theorem count_append (h : SafeSeam s t) : count (s ++ t) = count s + count t := by
  rw [count_eq_length_ids, count_eq_length_ids, count_eq_length_ids, ids_eq, ids_eq, ids_eq,
    lexemes_append h, List.filterMap_append, List.length_append]

/-- Nothing runs over a line break. -/
theorem safeSeam_of_getLast? (h : s.getLast? = some '\n') (t : Text) : SafeSeam s t := by
  left
  intro c hc
  rw [h] at hc
  obtain rfl := Option.some.inj hc
  decide

@[simp] theorem count_lineFeed : count ['\n'] = 0 := by
  rw [count_eq_length_ids, ← List.append_nil ['\n'], ids_append_of_forall (by simp), ids_nil,
    List.length_nil]

/-- A line break behind a text completes no marker. -/
theorem count_append_lineFeed (s : Text) : count (s ++ ['\n']) = count s := by
  have hseam : SafeSeam s ['\n'] := by
    right
    intro c hc
    obtain rfl := Option.some.inj hc
    decide
  rw [count_append hseam, count_lineFeed, Nat.add_zero]

end Marker

/-! ### Segments -/

namespace Segment

/-- The number of markers in the literal text of a segment. -/
def markerCount : Segment → Nat
  | text run => Marker.count run
  | block _ => 0

/-- The number of markers in the literal text of segments. -/
def markersIn (segments : List Segment) : Nat := (segments.map markerCount).sum

@[simp] theorem markersIn_nil : markersIn [] = 0 := rfl

@[simp] theorem markersIn_cons (segment : Segment) (segments : List Segment) :
    markersIn (segment :: segments) = segment.markerCount + markersIn segments := List.sum_cons

@[simp] theorem markersIn_reverse (segments : List Segment) :
    markersIn segments.reverse = markersIn segments := by
  rw [markersIn, List.map_reverse, List.sum_reverse, markersIn]

end Segment

/-! ### Drafts -/

namespace Body

open Segment

namespace Draft

variable {d : Draft} {segments : List Segment} {piece : Text}

/-- Literal text may be added: what it is added to, if that is literal text, ends in a line break. -/
def EndsInBreak (segments : List Segment) : Prop :=
  ∀ last rest, segments = .text last :: rest → last.getLast? = some '\n'

theorem endsInBreak_block (index : Nat) (rest : List Segment) :
    EndsInBreak (.block index :: rest) := by
  rintro last rest' ⟨⟩

/-- Literal text that is added keeps its own markers, and so does what it is added to. -/
theorem markersIn_pushText (h : EndsInBreak segments) (text : Text) :
    markersIn (pushText segments text) = markersIn segments + Marker.count text := by
  rcases pushText_cases segments text with
    ⟨rfl, heq⟩ | ⟨-, last, rest, rfl, heq⟩ | ⟨-, -, heq⟩ <;> rw [heq]
  · rw [Marker.count_nil, Nat.add_zero]
  · have hseam := Marker.safeSeam_of_getLast? (h last rest rfl) text
    simp only [markersIn_cons, markerCount, Marker.count_append hseam]
    omega
  · simp only [markersIn_cons, markerCount]
    omega

/-- A line break that is added brings in no markers, and more literal text may be added behind it. -/
theorem markersIn_pushText_lineFeed (segments : List Segment) :
    markersIn (pushText segments ['\n']) = markersIn segments ∧
      EndsInBreak (pushText segments ['\n']) := by
  rcases pushText_cases segments ['\n'] with
    ⟨hne, -⟩ | ⟨-, last, rest, rfl, heq⟩ | ⟨-, -, heq⟩
  · cases hne
  · rw [heq]
    refine ⟨?_, ?_⟩
    · simp only [markersIn_cons, markerCount, Marker.count_append_lineFeed]
    · rintro last' rest' ⟨⟩
      exact List.getLast?_concat
  · rw [heq]
    refine ⟨?_, ?_⟩
    · rw [markersIn_cons, markerCount, Marker.count_lineFeed, Nat.zero_add]
    · rintro last' rest' ⟨⟩
      rfl

/-- The markers of a draft have been counted. -/
structure Counted (d : Draft) : Prop where
  count : d.placeholderCount = markersIn d.segments
  /-- Between code spans literal text is added behind line breaks only. -/
  endsInBreak : d.code = none → EndsInBreak d.segments

theorem counted_empty : empty.Counted where
  count := rfl
  endsInBreak := by
    rintro - last rest ⟨⟩

/-- Counting goes on with each piece of a line. -/
theorem Counted.addPiece (h : d.Counted) (closes : Bool) (piece : Text) :
    (d.addPiece closes piece).Counted := by
  rw [Draft.addPiece]
  cases hcode : d.code with
  | some lines =>
    cases closes with
    | true =>
      exact ⟨h.count.trans (Nat.zero_add _).symm, fun _ => endsInBreak_block _ _⟩
    | false =>
      refine ⟨h.count, fun hopen => ?_⟩
      cases hopen
  | none =>
    have hpush := markersIn_pushText (h.endsInBreak hcode) piece
    rw [← h.count] at hpush
    cases closes with
    | true =>
      refine ⟨hpush.symm, fun hopen => ?_⟩
      cases hopen
    | false =>
      obtain ⟨hbreak, hends⟩ := markersIn_pushText_lineFeed (pushText d.segments piece)
      exact ⟨hpush.symm.trans hbreak.symm, fun _ => hends⟩

theorem Counted.addPieces (h : d.Counted) (pieces : List Text) : (d.addPieces pieces).Counted := by
  induction pieces generalizing d with
  | nil => exact h
  | cons piece pieces ih =>
    cases pieces with
    | nil => exact h.addPiece false piece
    | cons next pieces => exact ih (h.addPiece true piece)

theorem Counted.addLine (h : d.Counted) (line : Text) : (d.addLine line).Counted := h.addPieces _

/-- The last line break has no part in a marker. -/
theorem markersIn_dropLastBreak (segments : List Segment) :
    markersIn (dropLastBreak segments) = markersIn segments := by
  unfold dropLastBreak
  split
  · rename_i last rest
    split
    · rename_i text hlast
      have hrun : last = text.reverse ++ ['\n'] := by
        rw [← last.reverse_reverse, hlast, List.reverse_cons]
      have hcount : Marker.count last = Marker.count text.reverse := by
        rw [hrun, Marker.count_append_lineFeed]
      split_ifs with hempty
      · rw [List.isEmpty_iff.mp hempty, List.reverse_nil, Marker.count_nil] at hcount
        rw [markersIn_cons, markerCount, hcount, Nat.zero_add]
      · rw [markersIn_cons, markersIn_cons, markerCount, markerCount, hcount]
    · rfl
  · rfl

theorem Counted.finish (h : d.Counted) :
    d.finish.placeholderCount = markersIn d.finish.segments := by
  rw [Draft.finish, markersIn_reverse, markersIn_dropLastBreak]
  exact h.count

end Draft

/-- The count of a body is the number of the markers in its literal text. -/
theorem placeholderCount_of_parse {lines rest : List Text} {b : Body}
    (h : parse lines = (.ok b, rest)) : b.placeholderCount = markersIn b.segments := by
  have hdraft := Draft.counted_empty
  rw [parse] at h
  -- The draft that the lines are added to is any counted one from here on.
  generalize Draft.empty = d at h hdraft
  induction lines generalizing d with
  | nil =>
    rw [parseFrom] at h
    cases h
  | cons line lines ih =>
    rw [parseFrom] at h
    split_ifs at h with hend hcode
    · cases h
    · obtain rfl := Except.ok.inj (Prod.mk.inj h).1
      exact hdraft.finish
    · exact ih _ h (hdraft.addLine line)

end Body

/-! ### Templates -/

/-- The count of a template is the number of the markers in its literal text. -/
theorem placeholderCount_of_mem_templates {Preamble : Type} {patterns : Pattern.Compiler}
    {evaluator : Evaluator Preamble} {source : Text} {t : Template}
    (h : t ∈ (compileBy patterns evaluator source).templates) :
    t.placeholderCount = Segment.markersIn t.generator.segments := by
  obtain ⟨preamble, -, e, he, hentry⟩ := exists_entry_of_mem_templates h
  obtain ⟨-, hcount, hsegments⟩ := of_compileEntry hentry
  obtain ⟨n, line, rest, hread⟩ := Outline.exists_read_of_mem_entries he
  rw [hcount, hsegments]
  exact Body.placeholderCount_of_parse (Prod.ext (FileItem.parse_of_read hread).2 rfl)

end LiveSnippet
