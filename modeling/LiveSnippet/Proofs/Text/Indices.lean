import LiveSnippet.Proofs.Text.Lines

/-!
# Character indices

The lines of a document, put one behind the other, are its text, whatever characters end them. So a
line begins where the lines in front of it end, and every position on a line of the document has a
character index within the text.

## Main definitions

* `Buffer.indexOf`, `Buffer.spliceOf`: the index of a position and the splice of an edit, on lines of
  the document

## Main results

* `Buffer.flatten_lines`: the lines make up the text
* `Buffer.toIndex_eq`, `Buffer.resolve_eq`: positions and edits on lines of the document
* `Buffer.toIndex_le_toIndex`: positions in order have their indices in order
* `Buffer.HasPosition.exists_line`: the line up to a position, and the spans on it
-/

namespace LiveSnippet

namespace Text

theorem flatten_bufferLinesFrom (line t : Text) :
    (bufferLinesFrom line t).flatten = line.reverse ++ t := by
  induction t generalizing line with
  | nil => simp [bufferLinesFrom]
  | cons c t ih =>
    rw [bufferLinesFrom]
    split_ifs
    · rw [List.flatten_cons, ih]
      simp
    · rw [ih]
      simp

/-- A line without its break is a beginning of the line. -/
theorem dropBreak_prefix (line : Text) : line.dropBreak <+: line := by
  have hline := line.reverse_reverse
  rw [dropBreak]
  split
  · rename_i rest heq
    rw [heq] at hline
    exact ⟨['\r', '\n'], by simpa using hline⟩
  · rename_i rest heq
    rw [heq] at hline
    exact ⟨['\n'], by simpa using hline⟩
  · exact List.prefix_rfl

end Text

namespace Buffer

variable {b : Buffer} {p q : Position} {e : Edit} {i j n : Nat} {line l : Text}

/-- The lines of a document make up its text. -/
theorem flatten_lines (b : Buffer) : b.lines.flatten = b.text :=
  Text.flatten_bufferLinesFrom [] b.text

/-- The text is cut by a line, without its break, and what stands in front of it. -/
theorem exists_cut_line (h : b.line? n = some line) :
    ∃ pre rest : Text, b.text = pre ++ line ++ rest ∧ pre.length = b.lineStart n := by
  obtain ⟨l, hl, rfl⟩ := Option.map_eq_some_iff.mp h
  obtain ⟨hn, rfl⟩ := List.getElem?_eq_some_iff.mp hl
  obtain ⟨ending, hending⟩ := Text.dropBreak_prefix b.lines[n]
  refine ⟨(b.lines.take n).flatten, ending ++ (b.lines.drop (n + 1)).flatten, ?_, rfl⟩
  calc b.text = (b.lines.take n).flatten ++ (b.lines.drop n).flatten := by
        rw [← flatten_lines, ← List.flatten_append, List.take_append_drop]
    _ = _ := by
        rw [List.drop_eq_getElem_cons hn, List.flatten_cons]
        nth_rewrite 1 [← hending]
        simp only [List.append_assoc]

/-- The character index of a position; a character past the end of its line counts as the end. -/
def indexOf (b : Buffer) (p : Position) : Nat :=
  b.lineStart p.line + min p.character ((b.line? p.line).getD []).length

theorem toIndex_eq (h : p.line < b.lineCount) : b.toIndex p = .ok (b.indexOf p) := by
  obtain ⟨line, hline⟩ := exists_line?_iff.mpr h
  simp only [toIndex, indexOf, hline, Option.getD_some]

theorem toIndex_eq_error (h : b.lineCount ≤ p.line) :
    b.toIndex p = .error (.lineOutOfBounds p.line b.lineCount) := by
  have hline : b.line? p.line = none := by
    rw [Option.eq_none_iff_forall_ne_some]
    intro line hline
    exact absurd (exists_line?_iff.mp ⟨line, hline⟩) (Nat.not_lt.mpr h)
  simp only [toIndex, hline]

theorem indexOf_le_length (h : p.line < b.lineCount) : b.indexOf p ≤ b.text.length := by
  obtain ⟨line, hline⟩ := exists_line?_iff.mpr h
  obtain ⟨pre, rest, htext, hpre⟩ := exists_cut_line hline
  rw [indexOf, hline, Option.getD_some, ← hpre, htext, List.length_append, List.length_append]
  omega

theorem lineStart_succ (hl : b.lines[n]? = some l) :
    b.lineStart (n + 1) = b.lineStart n + l.length := by
  obtain ⟨hn, rfl⟩ := List.getElem?_eq_some_iff.mp hl
  rw [lineStart, lineStart, List.take_succ_eq_append_getElem hn, List.flatten_append,
    List.length_append]
  simp

theorem lineStart_mono (b : Buffer) {m n : Nat} (h : m ≤ n) : b.lineStart m ≤ b.lineStart n := by
  rw [lineStart, lineStart, ← List.take_append_drop m (b.lines.take n), List.take_take,
    Nat.min_eq_left h, List.flatten_append, List.length_append]
  exact Nat.le_add_right _ _

/-- Positions in order have their indices in order. -/
theorem toIndex_le_toIndex (hpq : p ≤ q) (hi : b.toIndex p = .ok i) (hj : b.toIndex q = .ok j) :
    i ≤ j := by
  have hp := exists_toIndex_iff.mp ⟨i, hi⟩
  have hq := exists_toIndex_iff.mp ⟨j, hj⟩
  obtain rfl : b.indexOf p = i := Except.ok.inj ((toIndex_eq hp).symm.trans hi)
  obtain rfl : b.indexOf q = j := Except.ok.inj ((toIndex_eq hq).symm.trans hj)
  rcases Position.le_iff.mp hpq with hline | ⟨hline, hcharacter⟩
  · obtain ⟨l, hl⟩ : ∃ l, b.lines[p.line]? = some l := ⟨_, List.getElem?_eq_getElem hp⟩
    have hle : l.dropBreak.length ≤ l.length := (Text.dropBreak_prefix l).length_le
    calc b.indexOf p ≤ b.lineStart p.line + l.length := by
          rw [indexOf, line?, hl, Option.map_some, Option.getD_some]
          omega
      _ = b.lineStart (p.line + 1) := (lineStart_succ hl).symm
      _ ≤ b.lineStart q.line := lineStart_mono b hline
      _ ≤ b.indexOf q := Nat.le_add_right _ _
  · rw [indexOf, indexOf, hline]
    omega

/-- The splice of an edit on lines of the document. -/
def spliceOf (b : Buffer) (e : Edit) : Splice :=
  ⟨b.indexOf e.span.start, max (b.indexOf e.span.stop) (b.indexOf e.span.start), e⟩

theorem resolve_eq (hstart : e.span.start.line < b.lineCount) (hstop : e.span.stop.line < b.lineCount) :
    b.resolve e = .ok (b.spliceOf e) :=
  resolve_eq_ok_iff.mpr ⟨_, _, toIndex_eq hstart, toIndex_eq hstop, rfl⟩

/-- The line up to a position of the document, and what the spans on it hold. -/
theorem HasPosition.exists_line (h : b.HasPosition p) :
    ∃ line : Text, line.length = p.character ∧ ∀ m n, m ≤ n → n ≤ p.character →
      b.slice ⟨⟨p.line, m⟩, ⟨p.line, n⟩⟩ = .ok ((line.take n).drop m) := by
  obtain ⟨full, hfull, hp⟩ := h
  obtain ⟨pre, rest, htext, hpre⟩ := exists_cut_line hfull
  refine ⟨full.take p.character, by simpa using hp, fun m n hmn hn => ?_⟩
  have hindex : ∀ k ≤ p.character, b.toIndex ⟨p.line, k⟩ = .ok (b.lineStart p.line + k) := by
    intro k hk
    simp only [toIndex, hfull, Nat.min_eq_left (hk.trans hp)]
  simp only [slice, toIndices, hindex m (hmn.trans hn), hindex n hn, bind, Except.bind, pure,
    Except.pure]
  rw [Nat.max_eq_left (Nat.add_le_add_left hmn _), htext, ← hpre, List.append_assoc,
    List.take_length_add_append, List.drop_length_add_append,
    List.take_append_of_le_length (hn.trans hp), List.take_take, Nat.min_eq_left hn]

end Buffer

end LiveSnippet
