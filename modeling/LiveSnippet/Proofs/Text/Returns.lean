import LiveSnippet.Proofs.Text.Addressing

/-!
# Carriage returns

In a text whose only line breaks are LF and CRLF, a carriage return stands in front of a line feed
only. Leaving out all of them keeps the place where a text ends, and where the rest can be cut the
text itself can be cut as well. So what is found in the lines of a document without their carriage
returns has a span in the document.

## Main definitions

* `Text.withoutReturns`: a text without its carriage returns
* `Buffer.ShowsFrom`: a text that stands in a document but for carriage returns

## Main results

* `Text.CrLf.exists_cut`: cutting a text where the text without carriage returns is cut
* `Buffer.HasPosition.exists_slice`: the text from the start of a line up to a position
* `Buffer.HasPosition.showsFrom`: what the lines up to a position show
-/

namespace LiveSnippet

namespace Text

variable {s t u : Text} {c : Char}

theorem crLf_cons (hc : isLineBreak c = false) : CrLf (c :: t) ↔ t.CrLf := by
  refine ⟨fun h => ?_, .char hc⟩
  generalize hcons : c :: t = text at h
  cases h with
  | nil => cases hcons
  | char _ h => exact (List.cons.inj hcons).2 ▸ h
  | lineFeed | returnLineFeed =>
    rw [(List.cons.inj hcons).1] at hc
    simp at hc

theorem crLf_lineFeed : CrLf ('\n' :: t) ↔ t.CrLf := by
  refine ⟨fun h => ?_, .lineFeed⟩
  cases h with
  | char hb => simp at hb
  | lineFeed h => exact h

theorem crLf_returnLineFeed : CrLf ('\r' :: '\n' :: t) ↔ t.CrLf := by
  refine ⟨fun h => ?_, .returnLineFeed⟩
  cases h with
  | char hb => simp at hb
  | returnLineFeed h => exact h

theorem CrLf.of_append (hs : s.CrLf) (h : CrLf (s ++ t)) : t.CrLf := by
  induction hs with
  | nil => exact h
  | char hb _ ih => exact ih ((crLf_cons hb).mp h)
  | lineFeed _ ih => exact ih (crLf_lineFeed.mp h)
  | returnLineFeed _ ih => exact ih (crLf_returnLineFeed.mp h)

/-- On a single line there are no line breaks at all. -/
theorem CrLf.noBreak (h : t.CrLf) (hlf : '\n' ∉ t) : t.NoBreak := by
  induction h with
  | nil => exact noBreak_nil
  | char hb _ ih => exact noBreak_cons.mpr ⟨hb, ih fun hmem => hlf (List.mem_cons_of_mem _ hmem)⟩
  | lineFeed => simp at hlf
  | returnLineFeed => simp at hlf

/-- The text without its carriage returns. -/
def withoutReturns (t : Text) : Text := t.filter (· ≠ '\r')

theorem withoutReturns_return (t : Text) :
    withoutReturns ('\r' :: t) = t.withoutReturns := rfl

theorem withoutReturns_lineFeed (t : Text) :
    withoutReturns ('\n' :: t) = '\n' :: t.withoutReturns := rfl

theorem withoutReturns_cons (hc : isLineBreak c = false) (t : Text) :
    withoutReturns (c :: t) = c :: t.withoutReturns := by
  refine List.filter_cons_of_pos (decide_eq_true ?_)
  rintro rfl
  simp at hc

theorem NoBreak.withoutReturns_eq (h : t.NoBreak) : t.withoutReturns = t := by
  induction t with
  | nil => rfl
  | cons c t ih =>
    obtain ⟨hc, ht⟩ := noBreak_cons.mp h
    rw [withoutReturns_cons hc, ih ht]

/-- Carriage returns do not count for the place where a text ends. -/
theorem CrLf.extent_withoutReturns (h : t.CrLf) : t.withoutReturns.extent = t.extent := by
  induction h with
  | nil => rfl
  | char hb _ ih => rw [withoutReturns_cons hb, extent_cons, extent_cons, ih]
  | lineFeed _ ih => rw [withoutReturns_lineFeed, extent_cons, extent_cons, ih]
  | returnLineFeed _ ih =>
    rw [withoutReturns_return, withoutReturns_lineFeed, extent_cons, extent_returnLineFeed, ih,
      charExtent_lineFeed]

/-- Where a text without its carriage returns can be cut, the text can be cut, too. -/
theorem CrLf.exists_cut (h : t.CrLf) (hcut : t.withoutReturns = s ++ u) :
    ∃ s' u' : Text, t = s' ++ u' ∧ s'.CrLf ∧ u'.CrLf ∧ s'.withoutReturns = s ∧
      u'.withoutReturns = u := by
  induction h generalizing s with
  | nil =>
    obtain ⟨rfl, rfl⟩ := List.append_eq_nil_iff.mp hcut.symm
    exact ⟨[], [], rfl, .nil, .nil, rfl, rfl⟩
  | @char c t hb ht ih =>
    cases s with
    | nil => exact ⟨[], c :: t, rfl, .nil, .char hb ht, rfl, hcut⟩
    | cons d s =>
      rw [withoutReturns_cons hb] at hcut
      obtain ⟨rfl, hrest⟩ := List.cons.inj hcut
      obtain ⟨s', u', rfl, hs, hu, rfl, rfl⟩ := ih hrest
      exact ⟨c :: s', u', rfl, .char hb hs, hu, withoutReturns_cons hb s', rfl⟩
  | @lineFeed t ht ih =>
    cases s with
    | nil => exact ⟨[], '\n' :: t, rfl, .nil, .lineFeed ht, rfl, hcut⟩
    | cons d s =>
      obtain ⟨rfl, hrest⟩ := List.cons.inj hcut
      obtain ⟨s', u', rfl, hs, hu, rfl, rfl⟩ := ih hrest
      exact ⟨'\n' :: s', u', rfl, .lineFeed hs, hu, rfl, rfl⟩
  | @returnLineFeed t ht ih =>
    cases s with
    | nil => exact ⟨[], '\r' :: '\n' :: t, rfl, .nil, .returnLineFeed ht, rfl, hcut⟩
    | cons d s =>
      obtain ⟨rfl, hrest⟩ := List.cons.inj hcut
      obtain ⟨s', u', rfl, hs, hu, rfl, rfl⟩ := ih hrest
      exact ⟨'\r' :: '\n' :: s', u', rfl, .returnLineFeed hs, hu, rfl, rfl⟩

end Text

theorem Position.advance_zero (p : Position) (t : Text) : p.advance t 0 = p + t.extent := by
  simp only [advance, eq_iff, add_line, add_character]
  split_ifs with h <;> simp [h]

/-! ### Lines up to a position -/

namespace Buffer

variable {b : Buffer} {p : Position} {n : Nat}

/-- Every line up to that of a position begins at a position. -/
theorem HasPosition.lineStart (h : b.HasPosition p) (hn : n ≤ p.line) : b.HasPosition ⟨n, 0⟩ := by
  obtain ⟨line, hline, -⟩ := h
  have hlt := exists_line?_iff.mp ⟨line, hline⟩
  obtain ⟨line', hline'⟩ := exists_line?_iff.mpr (Nat.lt_of_le_of_lt hn hlt)
  exact ⟨line', hline', Nat.zero_le _⟩

/-- The text from the start of a line up to a position, and what is behind a beginning of it. -/
theorem HasPosition.exists_slice (h : b.HasPosition p) (hb : b.text.CrLf) (hn : n ≤ p.line) :
    ∃ text : Text, text.CrLf ∧ b.slice ⟨⟨n, 0⟩, p⟩ = .ok text ∧
      (⟨n, 0⟩ : Position) + text.extent = p ∧
      ∀ s u : Text, text = s ++ u → s.CrLf → u.CrLf →
        b.slice ⟨(⟨n, 0⟩ : Position) + s.extent, p⟩ = .ok u := by
  obtain ⟨pre, post, htext, hpre, hpost, hstart⟩ := (h.lineStart hn).exists_append_of_crLf hb
  obtain ⟨pre', post', htext', hpre', hpost', hstop⟩ := h.exists_append_of_crLf hb
  have hle : pre.endPosition ≤ pre'.endPosition := by
    rw [hstart, hstop, Position.le_iff]
    dsimp only
    omega
  obtain ⟨text, rfl⟩ := Text.exists_append_of_endPosition_le (htext.symm.trans htext') hle
  obtain rfl : b = ⟨pre ++ text ++ post'⟩ := congrArg Buffer.mk htext'
  have hcrLf := hpre.of_append hpre'
  refine ⟨text, hcrLf, ?_, ?_, fun s u hcut hs hu => ?_⟩
  · rw [← hstart, ← hstop]
    exact slice_endPosition_of_crLf hpre hcrLf hpost'
  · rw [← hstart, ← Text.endPosition_append, hstop]
  · have hslice := slice_endPosition_of_crLf (hpre.append hs) hu hpost'
    rw [← hstart, ← hstop, ← Text.endPosition_append, hcut, ← List.append_assoc]
    exact hslice

/-- The text begins on a line and ends at a position: what is behind a beginning of it stands in the
document from the end of the beginning on, but for carriage returns. -/
def ShowsFrom (b : Buffer) (n : Nat) (p : Position) (text : Text) : Prop :=
  ∀ s u, text = s ++ u → ∃ t : Text, b.slice ⟨(⟨n, 0⟩ : Position).advance s 0, p⟩ = .ok t ∧
    t.withoutReturns = u

theorem before_eq {text : Text} (h : b.slice ⟨⟨n, 0⟩, p⟩ = .ok text) :
    (b.document.text? ⟨⟨n, 0⟩, p⟩).getD [] = text := by
  simp only [document, h, Except.toOption, Option.getD_some]

theorem HasPosition.showsFrom (h : b.HasPosition p) (hb : b.text.CrLf) (hn : n ≤ p.line) :
    b.ShowsFrom n p ((b.document.text? ⟨⟨n, 0⟩, p⟩).getD []).withoutReturns := by
  obtain ⟨text, htext, hslice, -, hbehind⟩ := h.exists_slice hb hn
  rw [before_eq hslice]
  intro s u hcut
  obtain ⟨s', u', rfl, hs, hu, rfl, rfl⟩ := htext.exists_cut hcut
  refine ⟨u', ?_, rfl⟩
  rw [Position.advance_zero, hs.extent_withoutReturns]
  exact hbehind s' u' rfl hs hu

end Buffer

end LiveSnippet
