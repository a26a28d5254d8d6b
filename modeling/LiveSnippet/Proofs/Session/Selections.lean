import LiveSnippet.Proofs.Template.Escaping
import LiveSnippet.Proofs.Text.Replacing
import LiveSnippet.Session.Expansion
import LiveSnippet.Template.Code

/-!
# Selected text

The selected text takes its places in literal text before the markers are looked for. Literal text
is sealed if no selected text can change its markers: no marker is unfinished in front of a place,
and none begins right behind one. A template whose literal text is sealed expands to the same
placeholders and to parts of the same kinds whatever is selected. If the literal text is not sealed,
what is selected may make a marker of a dollar in front of it.

## Main definitions

* `Layout.Sealed`: literal text whose markers do not depend on the selected text
* `Layout.Alike`: layouts with the same markers and with parts of the same kinds

## Main results

* `Layout.Alike.addSegments`: the same segments are laid out alike
* `Expansion.new_eq_of_sealed`: expansions that differ in the selected text
-/

namespace LiveSnippet

namespace Layout

/-- No selected text changes the markers of the literal text: in front of its places no marker is
unfinished, and behind them none begins. -/
structure Sealed (run : Text) : Prop where
  finished : ∀ p ∈ (Text.splitOn visual run).dropLast, Marker.endsOpen p = false
  unmarked : ∀ p ∈ (Text.splitOn visual run).tail, Marker.beginsMarked p = false

theorem Sealed.ids_withSelection {run : Text} (h : Sealed run) (selected : Text) :
    Marker.ids (withSelection selected run) = (Text.splitOn visual run).flatMap Marker.ids := by
  rw [withSelection, Text.replaceAll_eq_intercalate (by decide)]
  exact Marker.ids_intercalate selected h.finished h.unmarked

/-- The layouts have met the same markers, and their parts are of the same kinds. -/
structure Alike (l l' : Layout) : Prop where
  kinds : l.parts.map (·.kind) = l'.parts.map (·.kind)
  ids : l.ids = l'.ids

variable {l l' l'' : Layout} {indent : Nat}

theorem Alike.refl (l : Layout) : Alike l l := ⟨rfl, rfl⟩

theorem Alike.symm (h : Alike l l') : Alike l' l := ⟨h.kinds.symm, h.ids.symm⟩

theorem Alike.trans (h : Alike l l') (h' : Alike l' l'') : Alike l l'' :=
  ⟨h.kinds.trans h'.kinds, h.ids.trans h'.ids⟩

theorem Alike.addPiece (h : Alike l l') (piece : Marker.Piece) :
    Alike (l.addPiece indent piece) (l'.addPiece indent piece) := by
  cases piece with
  | text | dollar => exact ⟨h.kinds, h.ids⟩
  | marker id =>
    rw [Layout.addPiece, Layout.addPiece, h.ids]
    split_ifs
    · exact h
    · exact ⟨by simp [h.kinds, Part.placeholder], rfl⟩

/-- Only the markers of literal text make parts. -/
theorem Alike.markers (h : Alike l l') (pieces : List Marker.Piece) :
    Alike (pieces.foldl (Layout.addPiece indent) l)
      (((pieces.filterMap Marker.Piece.id?).map .marker).foldl (Layout.addPiece indent) l') := by
  induction pieces generalizing l l' with
  | nil => exact h
  | cons piece pieces ih =>
    cases piece with
    | text | dollar => exact ih ⟨h.kinds, h.ids⟩
    | marker id => exact ih (h.addPiece (.marker id))

theorem Alike.addPieces (h : Alike l l') {pieces pieces' : List Marker.Piece}
    (hids : pieces.filterMap Marker.Piece.id? = pieces'.filterMap Marker.Piece.id?) :
    Alike (pieces.foldl (Layout.addPiece indent) l)
      (pieces'.foldl (Layout.addPiece indent) l') := by
  have hpieces : Alike (pieces.foldl (Layout.addPiece indent) l) _ := h.markers pieces
  rw [hids] at hpieces
  exact hpieces.trans ((Alike.refl l').markers pieces').symm

theorem Alike.addSegment (h : Alike l l') {segment : Segment}
    (hsealed : ∀ run, segment = .text run → Sealed run) (selected selected' : Text)
    (blocks : List Text) :
    Alike (l.addSegment indent selected blocks segment)
      (l'.addSegment indent selected' blocks segment) := by
  cases segment with
  | block index =>
    rw [Layout.addSegment, Layout.addSegment]
    cases blocks[index]? with
    | none => exact h
    | some output => exact ⟨by simp [h.kinds, Part.block], h.ids⟩
  | text run =>
    have hrun := hsealed run rfl
    have hids : Marker.ids (withSelection selected run) =
        Marker.ids (withSelection selected' run) :=
      (hrun.ids_withSelection selected).trans (hrun.ids_withSelection selected').symm
    exact ⟨(h.addPieces hids).kinds, (h.addPieces hids).ids⟩

theorem Alike.addSegments (h : Alike l l') {segments : List Segment}
    (hsealed : ∀ run, .text run ∈ segments → Sealed run) (selected selected' : Text)
    (blocks : List Text) :
    Alike (segments.foldl (Layout.addSegment indent selected blocks) l)
      (segments.foldl (Layout.addSegment indent selected' blocks) l') := by
  induction segments generalizing l l' with
  | nil => exact h
  | cons segment segments ih =>
    refine ih (h.addSegment (fun run hrun => ?_) selected selected' blocks)
      fun run hrun => hsealed run (List.mem_cons_of_mem _ hrun)
    exact hsealed run (hrun ▸ List.mem_cons_self)

end Layout

namespace Expansion

variable {t : Template}

/-- A template with sealed literal text expands to the same placeholders and to parts of the same
kinds, whatever is selected. -/
theorem new_eq_of_sealed (hsealed : ∀ run, .text run ∈ t.generator.segments → Layout.Sealed run)
    (r : ExpansionRequest) (selected : Text) (d : Document) :
    let x := (new t r d).1
    let y := (new t { r with selectedText := selected } d).1
    y.placeholderIds = x.placeholderIds ∧ y.parts.map (·.kind) = x.parts.map (·.kind) := by
  intro x y
  simp only [x, y, new]
  cases houtput : t.generator.invoke
      ⟨List.replicate t.placeholderCount [], r.matchGroups, r.workspaceId, r.fileId⟩ with
  | error e => exact ⟨rfl, rfl⟩
  | ok output =>
    rw [← (Generator.segments_of_invoke houtput).1] at hsealed
    have halike (indent : Nat) : Layout.Alike (.ofOutput r.position indent selected output)
        (.ofOutput r.position indent r.selectedText output) :=
      (Layout.Alike.refl _).addSegments hsealed selected r.selectedText output.blocks
    refine ⟨?_, (halike _).kinds⟩
    simp only [place, Layout.placeholderIds, (halike _).ids]

/-- A template that consists of literal text. -/
def ofText (run : Text) : Template where
  trigger := .literal "s".toList
  description := []
  flags := .empty
  priority := 0
  placeholderCount := 2
  contextFilter := none
  generator := ⟨[.text run], 0, fun _ => .ok []⟩
  line := 1

/-- Selected text between braces, which neither begin a marker in front of it nor end one. -/
theorem new_eq_of_sealed_braces :
    let t := ofText "$1 \\emph\x7b$\x7bVISUAL\x7d\x7d$2".toList
    let x := (new t ⟨.origin, [], "1\\".toList, [], []⟩ (Buffer.document ⟨[]⟩)).1
    let y := (new t ⟨.origin, [], "$\x7b3\x7d".toList, [], []⟩ (Buffer.document ⟨[]⟩)).1
    y.placeholderIds = x.placeholderIds ∧
      y.parts.map (·.kind) = [.placeholder 1, .placeholder 2] := by
  intro t x y
  have hsealed : ∀ run, .text run ∈ t.generator.segments → Layout.Sealed run := by
    intro run hrun
    obtain rfl := Segment.text.inj (List.mem_singleton.mp hrun)
    exact ⟨by decide +kernel, by decide +kernel⟩
  obtain ⟨hids, hkinds⟩ := new_eq_of_sealed hsealed ⟨.origin, [], "1\\".toList, [], []⟩
    "$\x7b3\x7d".toList (Buffer.document ⟨[]⟩)
  have hx : x.parts.map (·.kind) = [.placeholder 1, .placeholder 2] := by decide +kernel
  exact ⟨hids, hkinds.trans hx⟩

/-- A selected digit makes a marker of the dollar in front of it. -/
theorem not_new_eq_dollar :
    ¬ ∀ t ∈ (compileWith scriptEvaluator
        "snippet s\n$$\x7bVISUAL\x7d\nendsnippet\n".toList).templates,
      ∀ (r : ExpansionRequest) (selected : Text) (d : Document),
        (new t { r with selectedText := selected } d).1.placeholderIds =
          (new t r d).1.placeholderIds := by
  intro h
  have hany : (compileWith scriptEvaluator
      "snippet s\n$$\x7bVISUAL\x7d\nendsnippet\n".toList).templates.any (fun t =>
        (new t ⟨.origin, [], "1".toList, [], []⟩ (Buffer.document ⟨[]⟩)).1.placeholderIds !=
          (new t ⟨.origin, [], [], [], []⟩ (Buffer.document ⟨[]⟩)).1.placeholderIds) = true := by
    decide +kernel
  obtain ⟨t, ht, hne⟩ := List.any_eq_true.mp hany
  rw [bne_iff_ne] at hne
  exact hne (h t ht ⟨.origin, [], [], [], []⟩ "1".toList (Buffer.document ⟨[]⟩))

end Expansion

end LiveSnippet
