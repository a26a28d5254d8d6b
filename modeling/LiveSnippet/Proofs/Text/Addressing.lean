import LiveSnippet.Proofs.Text.BatchShift
import LiveSnippet.Text.Document

/-!
# Addressing a document

In a text whose only line breaks are LF and CRLF, every position is the position behind a beginning
of the text that does not end within a CRLF, and its character index is the length of that
beginning. If LF is the only line break, every beginning is of this kind; a span then cuts the text
in three, and an edit exchanges the middle.

## Main definitions

* `Text.LfOnly`, `Text.CrLf`: LF is the only line break, or LF and CRLF are
* `Buffer.HasPosition`, `Buffer.HasSpan`: positions and spans of a document
* `Buffer.Shows`: a span holds a text
* `Text.Addressable`, `Buffer.Addressable`: all coordinates can be stored

## Main results

* `Buffer.toIndex_endPosition`, `Buffer.toIndex_endPosition_of_crLf`: the index of the position
  behind a beginning
* `Buffer.HasSpan.exists_cut`: a span cuts the text in three
* `Buffer.slice_endPosition`, `Buffer.apply_singleton`: the text of a span, and one edit
* `Buffer.HasSpan.exists_edit`: what an edit of a span of the document does
-/

namespace LiveSnippet

namespace Text

variable {s t : Text} {c : Char}

@[simp] theorem isLineBreak_lineFeed : isLineBreak '\n' = true := rfl

@[simp] theorem isLineBreak_return : isLineBreak '\r' = true := rfl

/-- LF is the only line break of the text. -/
def LfOnly (t : Text) : Prop := ∀ c ∈ t, isLineBreak c = true → c = '\n'

instance (t : Text) : Decidable t.LfOnly :=
  List.decidableBAll (fun c => isLineBreak c = true → c = '\n') t

@[simp] theorem lfOnly_append : LfOnly (s ++ t) ↔ s.LfOnly ∧ t.LfOnly := by
  simp [LfOnly, or_imp, forall_and]

theorem LfOnly.exchange {pre mid post new : Text} (h : LfOnly (pre ++ mid ++ post))
    (hnew : new.LfOnly) : LfOnly (pre ++ new ++ post) := by
  simp only [lfOnly_append] at h ⊢
  exact ⟨⟨h.1.1, hnew⟩, h.2⟩

theorem lfOnly_cons : LfOnly (c :: t) ↔ (isLineBreak c = true → c = '\n') ∧ t.LfOnly := by
  simp [LfOnly]

/-- No character of the text ends a line. -/
def NoBreak (t : Text) : Prop := ∀ c ∈ t, isLineBreak c = false

instance (t : Text) : Decidable t.NoBreak :=
  List.decidableBAll (fun c => isLineBreak c = false) t

theorem NoBreak.lfOnly (h : t.NoBreak) : t.LfOnly := fun c hc hb => by simp [h c hc] at hb

theorem NoBreak.not_mem (h : t.NoBreak) : '\n' ∉ t := fun hmem => by
  simpa using h '\n' hmem

theorem noBreak_nil : NoBreak [] := fun _ hc => by simp at hc

theorem noBreak_cons : NoBreak (c :: t) ↔ isLineBreak c = false ∧ t.NoBreak := by
  simp [NoBreak]

theorem bufferLinesFrom_lineFeed (line t : Text) :
    bufferLinesFrom line ('\n' :: t) = ('\n' :: line).reverse :: bufferLinesFrom [] t := rfl

theorem bufferLinesFrom_returnLineFeed (line t : Text) :
    bufferLinesFrom line ('\r' :: '\n' :: t) =
      ('\n' :: '\r' :: line).reverse :: bufferLinesFrom [] t := rfl

theorem bufferLinesFrom_cons (line t : Text) (h : isLineBreak c = false) :
    bufferLinesFrom line (c :: t) = bufferLinesFrom (c :: line) t := by
  rw [bufferLinesFrom, h]
  rfl

theorem dropBreak_reverse (h : t.NoBreak) : dropBreak t.reverse = t.reverse := by
  cases t with
  | nil => rfl
  | cons c t =>
    have hc : c ≠ '\n' := by
      rintro rfl
      simpa using h '\n'
    rw [dropBreak, List.reverse_reverse]
    split <;> simp_all

theorem dropBreak_lineFeed (h : t.NoBreak) : dropBreak ('\n' :: t).reverse = t.reverse := by
  cases t with
  | nil => rfl
  | cons c t =>
    have hc : c ≠ '\r' := by
      rintro rfl
      simpa using h '\r'
    rw [dropBreak, List.reverse_reverse]
    split <;> simp_all

theorem dropBreak_returnLineFeed (t : Text) :
    dropBreak ('\n' :: '\r' :: t).reverse = t.reverse := by
  rw [dropBreak, List.reverse_reverse]
  rfl

/-- LF and CRLF are the only line breaks of the text. -/
inductive CrLf : Text → Prop
  | nil : CrLf []
  | char {c : Char} {t : Text} : isLineBreak c = false → CrLf t → CrLf (c :: t)
  | lineFeed {t : Text} : CrLf t → CrLf ('\n' :: t)
  | returnLineFeed {t : Text} : CrLf t → CrLf ('\r' :: '\n' :: t)

theorem LfOnly.crLf (h : t.LfOnly) : t.CrLf := by
  induction t with
  | nil => exact .nil
  | cons c t ih =>
    obtain ⟨hc, ht⟩ := lfOnly_cons.mp h
    cases hb : isLineBreak c with
    | false => exact .char hb (ih ht)
    | true =>
      obtain rfl := hc hb
      exact .lineFeed (ih ht)

theorem CrLf.append (hs : s.CrLf) (ht : t.CrLf) : CrLf (s ++ t) := by
  induction hs with
  | nil => exact ht
  | char hb _ ih => exact .char hb ih
  | lineFeed _ ih => exact .lineFeed ih
  | returnLineFeed _ ih => exact .returnLineFeed ih

theorem extent_returnLineFeed (t : Text) :
    Text.extent ('\r' :: '\n' :: t) = ⟨1, 0⟩ + t.extent := by
  rw [extent_cons, extent_cons, ← add_assoc]
  rfl

/-- The first line begins with what has been read of it. -/
theorem exists_head?_bufferLinesFrom {line : Text} (hline : line.NoBreak) (ht : t.CrLf) :
    ∃ l, (bufferLinesFrom line t)[0]? = some l ∧ line.length ≤ (dropBreak l).length := by
  induction ht generalizing line with
  | nil => exact ⟨line.reverse, rfl, by simp [dropBreak_reverse hline]⟩
  | lineFeed =>
    refine ⟨('\n' :: line).reverse, rfl, Nat.le_of_eq ?_⟩
    rw [dropBreak_lineFeed hline, List.length_reverse]
  | returnLineFeed =>
    refine ⟨('\n' :: '\r' :: line).reverse, rfl, Nat.le_of_eq ?_⟩
    rw [dropBreak_returnLineFeed, List.length_reverse]
  | char hb _ ih =>
    rw [bufferLinesFrom_cons _ _ hb]
    obtain ⟨l, hl, hlen⟩ := ih (noBreak_cons.mpr ⟨hb, hline⟩)
    exact ⟨l, hl, Nat.le_of_succ_le hlen⟩

/-- The line on which a beginning of the text ends, and the characters in front of its end. -/
theorem exists_getElem?_bufferLinesFrom {line : Text} (hline : line.NoBreak) (hs : s.CrLf)
    (ht : t.CrLf) :
    ∃ l, (bufferLinesFrom line (s ++ t))[s.extent.breaks]? = some l ∧
      (⟨0, line.length⟩ + s.extent : Extent).last ≤ (dropBreak l).length ∧
      ((bufferLinesFrom line (s ++ t)).take s.extent.breaks).flatten.length +
        (⟨0, line.length⟩ + s.extent : Extent).last = line.length + s.length := by
  induction hs generalizing line with
  | nil =>
    obtain ⟨l, hl, hlen⟩ := exists_head?_bufferLinesFrom hline ht
    exact ⟨l, hl, by simpa [Extent.add_last] using hlen, by simp⟩
  | @char c s hb _ ih =>
    have hne : c ≠ '\n' := by
      rintro rfl
      simp [isLineBreak] at hb
    obtain ⟨l, hl, hlen, hsum⟩ := ih (noBreak_cons.mpr ⟨hb, hline⟩)
    rw [List.cons_append, bufferLinesFrom_cons _ _ hb, extent_cons, charExtent_of_ne hne,
      ← add_assoc]
    refine ⟨l, by simpa using hl, ?_, ?_⟩
    · simpa [Extent.add_last] using hlen
    · simp [Extent.add_last] at hsum ⊢
      omega
  | @lineFeed s _ ih =>
    -- A line break closes the line, so the rest is counted from an empty one.
    obtain ⟨l, hl, hlen, hsum⟩ := ih noBreak_nil
    rw [List.cons_append, bufferLinesFrom_lineFeed, extent_cons, charExtent_lineFeed, ← add_assoc,
      Extent.add_breaks, Nat.add_comm]
    refine ⟨l, by simpa using hl, ?_, ?_⟩
    · simpa [Extent.add_last] using hlen
    · simp [Extent.add_last] at hsum ⊢
      omega
  | @returnLineFeed s _ ih =>
    obtain ⟨l, hl, hlen, hsum⟩ := ih noBreak_nil
    rw [List.cons_append, List.cons_append, bufferLinesFrom_returnLineFeed,
      extent_returnLineFeed, ← add_assoc, Extent.add_breaks, Nat.add_comm]
    refine ⟨l, by simpa using hl, ?_, ?_⟩
    · simpa [Extent.add_last] using hlen
    · simp [Extent.add_last] at hsum ⊢
      omega

/-- A place on a line is behind a beginning of the text. -/
theorem exists_append_of_getElem?_bufferLinesFrom {line l : Text} {n k : Nat}
    (hline : line.NoBreak) (ht : t.CrLf) (hl : (bufferLinesFrom line t)[n]? = some l)
    (hk : k ≤ (dropBreak l).length) (hfirst : n = 0 → line.length ≤ k) :
    ∃ s u, t = s ++ u ∧ s.CrLf ∧ u.CrLf ∧
      (⟨0, line.length⟩ + s.extent : Extent) = ⟨n, k⟩ := by
  induction ht generalizing line n with
  | nil =>
    cases n with
    | succ n => simp [bufferLinesFrom] at hl
    | zero =>
      obtain rfl : line.reverse = l := by simpa [bufferLinesFrom] using hl
      rw [dropBreak_reverse hline, List.length_reverse] at hk
      exact ⟨[], [], rfl, .nil, .nil, by simp [Nat.le_antisymm hk (hfirst rfl)]⟩
  | @char c t hb ht ih =>
    have hne : c ≠ '\n' := by
      rintro rfl
      simp [isLineBreak] at hb
    by_cases hhere : n = 0 ∧ line.length = k
    · exact ⟨[], c :: t, rfl, .nil, .char hb ht, by simp [hhere]⟩
    · rw [bufferLinesFrom_cons _ _ hb] at hl
      obtain ⟨s, u, rfl, hs, hu, hextent⟩ := ih (noBreak_cons.mpr ⟨hb, hline⟩) hl (by
        intro hn
        have := hfirst hn
        rw [List.length_cons]
        omega)
      refine ⟨c :: s, u, rfl, .char hb hs, hu, ?_⟩
      rw [extent_cons, charExtent_of_ne hne, ← add_assoc, ← hextent]
      simp [Extent.eq_iff, Extent.add_last]
  | @lineFeed t ht ih =>
    rw [bufferLinesFrom_lineFeed] at hl
    cases n with
    | zero =>
      obtain rfl : ('\n' :: line).reverse = l := by simpa using hl
      rw [dropBreak_lineFeed hline, List.length_reverse] at hk
      exact ⟨[], '\n' :: t, rfl, .nil, .lineFeed ht, by
        simp [Nat.le_antisymm hk (hfirst rfl)]⟩
    | succ n =>
      obtain ⟨s, u, rfl, hs, hu, hextent⟩ := ih noBreak_nil (by simpa using hl) (by simp)
      refine ⟨'\n' :: s, u, rfl, .lineFeed hs, hu, ?_⟩
      rw [Extent.eq_iff] at hextent ⊢
      simp [extent_cons, Extent.add_last] at hextent ⊢
      omega
  | @returnLineFeed t ht ih =>
    rw [bufferLinesFrom_returnLineFeed] at hl
    cases n with
    | zero =>
      obtain rfl : ('\n' :: '\r' :: line).reverse = l := by simpa using hl
      rw [dropBreak_returnLineFeed, List.length_reverse] at hk
      exact ⟨[], '\r' :: '\n' :: t, rfl, .nil, .returnLineFeed ht, by
        simp [Nat.le_antisymm hk (hfirst rfl)]⟩
    | succ n =>
      obtain ⟨s, u, rfl, hs, hu, hextent⟩ := ih noBreak_nil (by simpa using hl) (by simp)
      refine ⟨'\r' :: '\n' :: s, u, rfl, .returnLineFeed hs, hu, ?_⟩
      rw [Extent.eq_iff] at hextent ⊢
      simp [extent_returnLineFeed, Extent.add_last] at hextent ⊢
      omega

end Text

namespace Buffer

variable {b : Buffer} {p q : Position} {pre mid post new : Text}

/-- The position is on a line of the buffer and not behind its end. -/
def HasPosition (b : Buffer) (p : Position) : Prop :=
  ∃ line, b.line? p.line = some line ∧ p.character ≤ line.length

instance (b : Buffer) (p : Position) : Decidable (b.HasPosition p) :=
  inferInstanceAs (Decidable (∃ line ∈ b.line? p.line, p.character ≤ line.length))

/-- Both edges are positions of the buffer, the start not behind the end. -/
def HasSpan (b : Buffer) (s : Span) : Prop :=
  b.HasPosition s.start ∧ b.HasPosition s.stop ∧ s.start ≤ s.stop

instance (b : Buffer) (s : Span) : Decidable (b.HasSpan s) :=
  inferInstanceAs (Decidable (_ ∧ _ ∧ _))

theorem exists_line?_iff {n : Nat} : (∃ line, b.line? n = some line) ↔ n < b.lineCount := by
  simp only [line?, Option.map_eq_some_iff]
  constructor
  · rintro ⟨-, l, hl, -⟩
    exact (List.getElem?_eq_some_iff.mp hl).1
  · intro hn
    exact ⟨_, _, List.getElem?_eq_getElem hn, rfl⟩

/-- The index of the position behind a beginning of the text is the length of the beginning. -/
theorem toIndex_endPosition_of_crLf (hpre : pre.CrLf) (hpost : post.CrLf) :
    (⟨pre ++ post⟩ : Buffer).toIndex pre.endPosition = .ok pre.length := by
  obtain ⟨l, hl, hlen, hsum⟩ :=
    Text.exists_getElem?_bufferLinesFrom Text.noBreak_nil hpre hpost
  have hline : (⟨pre ++ post⟩ : Buffer).line? pre.extent.breaks = some (Text.dropBreak l) := by
    rw [line?, lines, hl, Option.map_some]
  rw [Text.endPosition_eq, toIndex]
  simp only [hline, lineStart, lines]
  rw [show (⟨0, List.length ([] : Text)⟩ + pre.extent : Extent) = pre.extent from zero_add _] at *
  rw [Nat.min_eq_left hlen, hsum, List.length_nil, Nat.zero_add]

theorem toIndex_endPosition (h : Text.LfOnly (pre ++ post)) :
    (⟨pre ++ post⟩ : Buffer).toIndex pre.endPosition = .ok pre.length := by
  obtain ⟨hpre, hpost⟩ := Text.lfOnly_append.mp h
  exact toIndex_endPosition_of_crLf hpre.crLf hpost.crLf

theorem hasPosition_endPosition (h : Text.LfOnly (pre ++ post)) :
    (⟨pre ++ post⟩ : Buffer).HasPosition pre.endPosition := by
  obtain ⟨hpre, hpost⟩ := Text.lfOnly_append.mp h
  obtain ⟨l, hl, hlen, -⟩ :=
    Text.exists_getElem?_bufferLinesFrom Text.noBreak_nil hpre.crLf hpost.crLf
  refine ⟨Text.dropBreak l, ?_, ?_⟩
  · rw [Text.endPosition_eq, line?, lines, hl, Option.map_some]
  · rw [Text.endPosition_eq]
    simpa [Extent.add_last] using hlen

/-- Every position of the buffer is behind a beginning of its text. -/
theorem HasPosition.exists_append_of_crLf (h : b.HasPosition p) (hb : b.text.CrLf) :
    ∃ pre post : Text, b.text = pre ++ post ∧ pre.CrLf ∧ post.CrLf ∧ pre.endPosition = p := by
  obtain ⟨line, hline, hp⟩ := h
  obtain ⟨l, hl, rfl⟩ := Option.map_eq_some_iff.mp hline
  obtain ⟨pre, post, htext, hpre, hpost, hextent⟩ :=
    Text.exists_append_of_getElem?_bufferLinesFrom Text.noBreak_nil hb hl hp (by simp)
  refine ⟨pre, post, htext, hpre, hpost, ?_⟩
  rw [Text.endPosition_eq]
  simp [Extent.eq_iff, Extent.add_last] at hextent
  rw [Position.eq_iff]
  exact hextent

theorem HasPosition.exists_append (h : b.HasPosition p) (hb : b.text.LfOnly) :
    ∃ pre post, b.text = pre ++ post ∧ Text.endPosition pre = p := by
  obtain ⟨pre, post, htext, -, -, hpre⟩ := h.exists_append_of_crLf hb.crLf
  exact ⟨pre, post, htext, hpre⟩

/-- A span of the buffer cuts its text in three. -/
theorem HasSpan.exists_cut {s : Span} (h : b.HasSpan s) (hb : b.text.LfOnly) :
    ∃ pre mid post, b.text = pre ++ mid ++ post ∧
      s = ⟨Text.endPosition pre, Text.endPosition (pre ++ mid)⟩ := by
  obtain ⟨hstart, hstop, hle⟩ := h
  obtain ⟨pre, post, htext, hpre⟩ := hstart.exists_append hb
  obtain ⟨pre', post', htext', hpre'⟩ := hstop.exists_append hb
  rw [← hpre, ← hpre'] at hle
  obtain ⟨mid, rfl⟩ := Text.exists_append_of_endPosition_le (htext.symm.trans htext') hle
  exact ⟨pre, mid, post', htext', by rw [hpre, hpre']⟩

theorem toIndices_endPosition_of_crLf (hpre : pre.CrLf) (hmid : mid.CrLf) (hpost : post.CrLf) :
    (⟨pre ++ mid ++ post⟩ : Buffer).toIndices ⟨pre.endPosition, Text.endPosition (pre ++ mid)⟩ =
      .ok (pre.length, (pre ++ mid).length) := by
  have hstart : (⟨pre ++ mid ++ post⟩ : Buffer).toIndex pre.endPosition = .ok pre.length := by
    rw [List.append_assoc]
    exact toIndex_endPosition_of_crLf hpre (hmid.append hpost)
  simp only [toIndices, hstart, toIndex_endPosition_of_crLf (hpre.append hmid) hpost]
  simp [bind, Except.bind, pure, Except.pure]

theorem toIndices_endPosition (h : Text.LfOnly (pre ++ mid ++ post)) :
    (⟨pre ++ mid ++ post⟩ : Buffer).toIndices ⟨pre.endPosition, Text.endPosition (pre ++ mid)⟩ =
      .ok (pre.length, (pre ++ mid).length) := by
  rw [Text.lfOnly_append, Text.lfOnly_append] at h
  exact toIndices_endPosition_of_crLf h.1.1.crLf h.1.2.crLf h.2.crLf

/-- The text of a span is what the span cuts out. -/
theorem slice_endPosition_of_crLf (hpre : pre.CrLf) (hmid : mid.CrLf) (hpost : post.CrLf) :
    (⟨pre ++ mid ++ post⟩ : Buffer).slice ⟨pre.endPosition, Text.endPosition (pre ++ mid)⟩ =
      .ok mid := by
  simp only [slice, toIndices_endPosition_of_crLf hpre hmid hpost, bind, Except.bind, pure,
    Except.pure]
  rw [List.take_left, List.drop_left]

theorem slice_endPosition (h : Text.LfOnly (pre ++ mid ++ post)) :
    (⟨pre ++ mid ++ post⟩ : Buffer).slice ⟨pre.endPosition, Text.endPosition (pre ++ mid)⟩ =
      .ok mid := by
  rw [Text.lfOnly_append, Text.lfOnly_append] at h
  exact slice_endPosition_of_crLf h.1.1.crLf h.1.2.crLf h.2.crLf

/-- A span of the buffer cuts its text in three, and has the text in the middle. -/
theorem HasSpan.exists_slice {b : Buffer} {r : Span} (h : b.HasSpan r) (hb : b.text.LfOnly) :
    ∃ pre mid post, b.text = pre ++ mid ++ post ∧
      r = ⟨Text.endPosition pre, Text.endPosition (pre ++ mid)⟩ ∧ b.slice r = .ok mid := by
  obtain ⟨pre, mid, post, htext, hspan⟩ := h.exists_cut hb
  obtain rfl : b = ⟨pre ++ mid ++ post⟩ := congrArg Buffer.mk htext
  exact ⟨pre, mid, post, rfl, hspan, hspan ▸ slice_endPosition hb⟩

/-- The span is one of the document, and holds the text. -/
def Shows (b : Buffer) (s : Span) (t : Text) : Prop := b.HasSpan s ∧ b.slice s = .ok t

instance (b : Buffer) (s : Span) (t : Text) : Decidable (b.Shows s t) :=
  inferInstanceAs (Decidable (_ ∧ _))

theorem shows_endPosition (h : Text.LfOnly (pre ++ mid ++ post)) :
    (⟨pre ++ mid ++ post⟩ : Buffer).Shows ⟨pre.endPosition, Text.endPosition (pre ++ mid)⟩ mid := by
  have hstart : (⟨pre ++ mid ++ post⟩ : Buffer).HasPosition pre.endPosition := by
    rw [List.append_assoc] at h ⊢
    exact hasPosition_endPosition h
  exact ⟨⟨hstart, hasPosition_endPosition h, Text.endPosition_le_append _ _⟩, slice_endPosition h⟩

/-- A span holds a text if it cuts the document around it. -/
theorem shows_iff {s : Span} {t : Text} (hb : b.text.LfOnly) :
    b.Shows s t ↔ ∃ pre post, b.text = pre ++ t ++ post ∧
      s = ⟨pre.endPosition, Text.endPosition (pre ++ t)⟩ := by
  constructor
  · rintro ⟨hspan, hslice⟩
    obtain ⟨pre, mid, post, htext, hcut, hmid⟩ := hspan.exists_slice hb
    obtain rfl : t = mid := Except.ok.inj (hslice.symm.trans hmid)
    exact ⟨pre, post, htext, hcut⟩
  · rintro ⟨pre, post, htext, rfl⟩
    obtain rfl : b = ⟨pre ++ t ++ post⟩ := congrArg Buffer.mk htext
    exact shows_endPosition hb

/-- One edit exchanges what its span cuts out. -/
theorem apply_singleton (h : Text.LfOnly (pre ++ mid ++ post)) :
    (⟨pre ++ mid ++ post⟩ : Buffer).apply
      [⟨⟨pre.endPosition, Text.endPosition (pre ++ mid)⟩, new⟩] = .ok ⟨pre ++ new ++ post⟩ := by
  simp only [apply, List.mapM_cons, List.mapM_nil, resolve, toIndices_endPosition h]
  simp [bind, Except.bind, pure, Except.pure, Splice.firstOverlap?, Splice.apply]

/-- An edit of a span of the document can be applied, and exchanges what the span cuts out. -/
theorem HasSpan.exists_edit {e : Edit} (h : b.HasSpan e.span) (hb : b.text.LfOnly) :
    ∃ pre mid post new : Text, b = ⟨pre ++ mid ++ post⟩ ∧
      e = ⟨⟨pre.endPosition, Text.endPosition (pre ++ mid)⟩, new⟩ ∧
      b.apply [e] = .ok ⟨pre ++ new ++ post⟩ := by
  obtain ⟨pre, mid, post, htext, hcut⟩ := h.exists_cut hb
  obtain ⟨span, new⟩ := e
  obtain rfl : span = ⟨pre.endPosition, Text.endPosition (pre ++ mid)⟩ := hcut
  obtain rfl : b = ⟨pre ++ mid ++ post⟩ := congrArg Buffer.mk htext
  exact ⟨pre, mid, post, new, rfl, rfl, apply_singleton hb⟩

/-- An insertion puts its text between two halves of the document. -/
theorem apply_insert (h : Text.LfOnly (pre ++ post)) :
    (⟨pre ++ post⟩ : Buffer).apply [.insert pre.endPosition new] = .ok ⟨pre ++ new ++ post⟩ := by
  have happly : (⟨pre ++ [] ++ post⟩ : Buffer).apply
      [⟨⟨pre.endPosition, Text.endPosition (pre ++ [])⟩, new⟩] = .ok ⟨pre ++ new ++ post⟩ :=
    apply_singleton (by rwa [List.append_nil])
  rwa [List.append_nil] at happly

end Buffer

/-! ### Small coordinates -/

/-- The places of the text have coordinates that can be stored. -/
def Text.Addressable (t : Text) : Prop := ∀ s : Text, s <+: t → s.endPosition.Addressable

theorem Text.Addressable.mono {s t : Text} (h : t.Addressable) (hs : s <+: t) :
    s.Addressable := fun u hu => h u (hu.trans hs)

namespace Buffer

/-- Every position of the buffer has coordinates that can be stored. -/
def Addressable (b : Buffer) : Prop := ∀ p, b.HasPosition p → p.Addressable

theorem Addressable.endPosition {s t : Text} (h : (⟨s ++ t⟩ : Buffer).Addressable)
    (hlf : Text.LfOnly (s ++ t)) : s.endPosition.Addressable :=
  h _ (hasPosition_endPosition hlf)

/-- A short text has small positions. -/
theorem addressable_of_length_le {b : Buffer} (hlf : b.text.LfOnly)
    (h : b.text.length ≤ maxCoordinate) : b.Addressable := by
  intro p hp
  obtain ⟨s, t, htext, rfl⟩ := hp.exists_append hlf
  have hs := Text.extent_breaks_add_last_le s
  rw [htext, List.length_append] at h
  rw [Text.endPosition_eq, Position.Addressable]
  dsimp only
  omega

/-- Every place of the text is a position of the buffer. -/
theorem Addressable.text {t : Text} (h : (⟨t⟩ : Buffer).Addressable) (hlf : t.LfOnly) :
    t.Addressable := by
  rintro s ⟨u, rfl⟩
  exact h.endPosition hlf

end Buffer

end LiveSnippet
