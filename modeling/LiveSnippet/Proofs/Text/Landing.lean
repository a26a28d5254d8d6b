import LiveSnippet.Proofs.Text.Locating
import LiveSnippet.Proofs.Text.Returns

/-!
# Where an inserted text ends

Laying out a text from a position on counts its line feeds. The document has other line breaks as
well, and whether a carriage return is one of them depends on what stands behind it. The two agree on
where an inserted text ends if, and up to one coincidence only if, the text begins on the line of the
position and has no line break but LF and CRLF.

The coincidence: a text that begins with LF joins a carriage return in front of it, which takes a line
from the document, and another break in the text may give it back.

## Main definitions

* `Text.lineExtent`: the extent of a text by the lines of the document
* `Text.strays`: the line breaks of a text that are not line feeds

## Main results

* `Buffer.toPosition_append`: the position behind a beginning of the document
* `Buffer.advance_eq_toPosition_iff`: where laying out a text finds its end
-/

namespace LiveSnippet

namespace Text

variable {s t u v r r' line : Text} {c : Char} {i n : Nat}

/-- Whether a character ends a line in front of `rest`. -/
def breaksLine (c : Char) (rest : Text) : Bool :=
  isLineBreak c && !(c = '\r' && rest.head? = some '\n')

/-- The extent of a text by the lines of a document that goes on with `rest`. -/
def lineExtent (rest : Text) : Text → Extent
  | [] => 0
  | c :: t => (if breaksLine c (t ++ rest) then ⟨1, 0⟩ else ⟨0, 1⟩) + lineExtent rest t

/-- How many characters other than LF end a line in a text, in front of `rest`. -/
def strays (rest : Text) : Text → Nat
  | [] => 0
  | c :: t => (if breaksLine c (t ++ rest) && c ≠ '\n' then 1 else 0) + strays rest t

theorem bufferLinesFrom_eq (line : Text) (c : Char) (t : Text) :
    bufferLinesFrom line (c :: t) =
      if breaksLine c t then (c :: line).reverse :: bufferLinesFrom [] t
      else bufferLinesFrom (c :: line) t := rfl

@[simp] theorem breaksLine_lineFeed (rest : Text) : breaksLine '\n' rest = true := rfl

theorem lineExtent_append (rest s t : Text) :
    lineExtent rest (s ++ t) = lineExtent (t ++ rest) s + lineExtent rest t := by
  induction s with
  | nil => exact (zero_add _).symm
  | cons c s ih => rw [List.cons_append, lineExtent, lineExtent, ih, add_assoc, List.append_assoc]

/-- Of what stands behind a text, only a line feed right behind its last carriage return counts. -/
theorem lineExtent_congr
    (h : s.getLast? = some '\r' → (r.head? = some '\n' ↔ r'.head? = some '\n')) :
    lineExtent r s = lineExtent r' s := by
  induction s with
  | nil => rfl
  | cons c s ih =>
    have hbreaks : breaksLine c (s ++ r) = breaksLine c (s ++ r') := by
      cases s with
      | nil =>
        by_cases hc : c = '\r'
        · simp only [breaksLine, List.nil_append, h (by rw [hc]; rfl)]
        · simp only [breaksLine, hc, decide_false, Bool.false_and]
      | cons d s => rfl
    have hrest : lineExtent r s = lineExtent r' s := by
      cases s with
      | nil => rfl
      | cons d s => exact ih fun hlast => h (by rwa [List.getLast?_cons_cons])
    rw [lineExtent, lineExtent, hbreaks, hrest]

/-- Every line feed is a line break, and the strays are the others. -/
theorem lineExtent_breaks (rest t : Text) :
    (lineExtent rest t).breaks = t.extent.breaks + strays rest t := by
  induction t with
  | nil => rfl
  | cons c t ih =>
    rw [lineExtent, strays, extent_cons, Extent.add_breaks, Extent.add_breaks, ih]
    by_cases hc : c = '\n'
    · subst hc
      simp [Nat.add_assoc]
    · rw [charExtent_of_ne hc]
      cases breaksLine c (t ++ rest) with
      | true =>
        simp only [ne_eq, hc, not_false_eq_true, decide_true, Bool.and_self, if_true]
        omega
      | false => simp only [Bool.false_and, Bool.false_eq_true, if_false, Nat.zero_add]

theorem lineExtent_eq_extent (h : strays v t = 0) : lineExtent v t = t.extent := by
  induction t with
  | nil => rfl
  | cons c t ih =>
    rw [strays, Nat.add_eq_zero_iff] at h
    rw [lineExtent, extent_cons, ih h.2]
    by_cases hc : c = '\n'
    · subst hc
      rfl
    · cases hbreaks : breaksLine c (t ++ v) with
      | true => simp [hbreaks, hc] at h
      | false => rw [charExtent_of_ne hc, if_neg Bool.false_ne_true]

/-- A line feed right behind it takes its line break from a carriage return. -/
theorem lineExtent_return (s : Text) (hr : r.head? = some '\n') (hr' : r'.head? ≠ some '\n') :
    lineExtent r' (s ++ ['\r']) = lineExtent r (s ++ ['\r']) + ⟨1, 0⟩ := by
  have hfront : lineExtent (['\r'] ++ r') s = lineExtent (['\r'] ++ r) s :=
    lineExtent_congr fun _ => by simp
  rw [lineExtent_append, lineExtent_append, hfront, add_assoc]
  simp [lineExtent, breaksLine, hr, hr', Extent.eq_iff, Extent.add_last]

/-- A line feed ends its line. -/
theorem eq_nil_of_lineFeed {l x y : Text} (hline : '\n' ∉ line) (hl : l ∈ bufferLinesFrom line t)
    (hcut : l = x ++ '\n' :: y) : y = [] := by
  induction t generalizing line with
  | nil =>
    obtain rfl : l = line.reverse := by simpa [bufferLinesFrom] using hl
    exact absurd (List.mem_reverse.mp (hcut ▸ by simp)) hline
  | cons c t ih =>
    rw [bufferLinesFrom_eq] at hl
    split_ifs at hl with hbreak
    · rcases List.mem_cons.mp hl with rfl | hl
      · rcases List.eq_nil_or_concat y with rfl | ⟨y, d, rfl⟩
        · rfl
        · rw [List.reverse_cons, List.concat_eq_append, ← List.cons_append, ← List.append_assoc] at hcut
          have hmem : '\n' ∈ line.reverse := by
            rw [(List.append_inj' hcut rfl).1]
            simp
          exact absurd (List.mem_reverse.mp hmem) hline
      · exact ih List.not_mem_nil hl
    · refine ih (fun hmem => ?_) hl
      rcases List.mem_cons.mp hmem with rfl | hmem
      · simp at hbreak
      · exact hline hmem

theorem positionFrom_bufferLinesFrom (n : Nat) (u : Text) (hi : i ≤ line.length) :
    Buffer.positionFrom n (bufferLinesFrom line u) i = ⟨n, i⟩ := by
  induction u generalizing line with
  | nil => rfl
  | cons c u ih =>
    rw [bufferLinesFrom_eq]
    split_ifs
    · obtain ⟨l, ls, hls⟩ := List.exists_cons_of_ne_nil (bufferLinesFrom_ne_nil [] u)
      rw [hls, Buffer.positionFrom, if_pos]
      rw [List.length_reverse, List.length_cons]
      omega
    · exact ih (Nat.le_succ_of_le hi)

/-- The lines up to the end of a beginning of the text. -/
theorem positionFrom_append (n : Nat) (line s u : Text) :
    Buffer.positionFrom n (bufferLinesFrom line (s ++ u)) (line.length + s.length) =
      (⟨n, line.length⟩ : Position) + lineExtent u s := by
  induction s generalizing n line with
  | nil =>
    rw [lineExtent, Position.add_zero]
    exact positionFrom_bufferLinesFrom n u le_rfl
  | cons c s ih =>
    rw [List.cons_append, bufferLinesFrom_eq, lineExtent, ← Position.add_assoc, List.length_cons]
    split_ifs with hbreak
    · obtain ⟨l, ls, hls⟩ := List.exists_cons_of_ne_nil (bufferLinesFrom_ne_nil [] (s ++ u))
      have hrest := ih (n + 1) []
      rw [List.length_nil, Nat.zero_add] at hrest
      rw [hls] at hrest ⊢
      rw [Buffer.positionFrom, List.length_reverse, List.length_cons, if_neg (by omega),
        show line.length + (s.length + 1) - (line.length + 1) = s.length by omega, hrest]
      rfl
    · have hrest := ih n (c :: line)
      rw [List.length_cons, Nat.add_right_comm] at hrest
      exact hrest

/-- A text whose only line breaks are LF and CRLF does not end in a carriage return. -/
theorem CrLf.getLast?_ne (h : t.CrLf) : t.getLast? ≠ some '\r' := by
  induction h with
  | nil => simp
  | @char c t hb _ ih =>
    cases t with
    | nil =>
      rintro hlast
      obtain rfl : c = '\r' := by simpa using hlast
      simp at hb
    | cons d t => rwa [List.getLast?_cons_cons]
  | @lineFeed t _ ih =>
    cases t with
    | nil => simp
    | cons d t => rwa [List.getLast?_cons_cons]
  | @returnLineFeed t _ ih =>
    cases t with
    | nil => simp
    | cons d t => rwa [List.getLast?_cons_cons, List.getLast?_cons_cons]

end Text

namespace Buffer

variable {b : Buffer} {p q : Position} {i : Nat} {t u v : Text}

/-- The position behind a beginning of the document. -/
theorem toPosition_append (u v : Text) :
    (⟨u ++ v⟩ : Buffer).toPosition u.length = Position.origin + Text.lineExtent v u := by
  have hlines := Text.positionFrom_append 0 [] u v
  rw [List.length_nil, Nat.zero_add] at hlines
  rw [toPosition, Nat.min_eq_left (by simp)]
  exact hlines

/-- An insertion at a position of the document. -/
theorem apply_insert_eq (hp : b.toIndex p = .ok i) :
    b.apply [.insert p t] = .ok ⟨b.text.take i ++ t ++ b.text.drop i⟩ := by
  simp only [apply, List.mapM_cons, List.mapM_nil, resolve, toIndices, Edit.insert, Span.point, hp]
  simp [bind, Except.bind, pure, Except.pure, Splice.firstOverlap?, Splice.apply]

/-- A valid position stands at its index, or its index is the start of the next line. -/
theorem HasPosition.toPosition_eq (hp : b.HasPosition p) (hi : b.toIndex p = .ok i) :
    b.toPosition i = p ∨ b.toPosition i = ⟨p.line + 1, 0⟩ := by
  obtain ⟨line, hline, hle⟩ := hp
  obtain ⟨l, hl, rfl⟩ := Option.map_eq_some_iff.mp hline
  have hlt := exists_line?_iff.mp ⟨_, hline⟩
  obtain rfl : b.indexOf p = i := Except.ok.inj ((toIndex_eq hlt).symm.trans hi)
  have hlength := indexOf_le_length hlt
  have hindex : b.lineStart p.line + p.character = b.indexOf p := by
    rw [indexOf, hline, Option.getD_some, Nat.min_eq_left hle]
  have hle' : p.character ≤ l.length := hle.trans (Text.dropBreak_prefix l).length_le
  by_cases hhere : p.character < l.length ∨ p.line + 1 = b.lines.length
  · refine .inl (Buffer.toPosition_eq ⟨l, hl, hindex, ?_⟩ hlength)
    omega
  · rw [not_or, Nat.not_lt] at hhere
    have hnext : p.line + 1 < b.lines.length := Nat.lt_of_le_of_ne hlt hhere.2
    refine .inr (Buffer.toPosition_eq ⟨_, List.getElem?_eq_getElem hnext, ?_, ?_⟩ hlength)
    · have hstart := lineStart_succ hl
      rw [Buffer.lineStart] at hstart
      dsimp only
      omega
    · dsimp only
      by_cases hlast : p.line + 1 + 1 = b.lines.length
      · omega
      · have hne := Text.ne_nil_of_getElem?_bufferLinesFrom (List.getElem?_eq_getElem hnext)
          (Nat.lt_of_le_of_ne hnext hlast)
        exact .inl (List.length_pos_iff.mpr hne)

/-- Between CR and LF the position found is not the first one of a line. -/
theorem character_pos_of_splitsReturn (h : b.text.SplitsReturn i) :
    0 < (b.toPosition i).character := by
  obtain ⟨hreturn, hfeed⟩ := h
  obtain ⟨u, hu⟩ := List.getLast?_eq_some_iff.mp hreturn
  obtain ⟨v, hv⟩ := List.head?_eq_some_iff.mp hfeed
  have hi : i ≤ b.text.length := by
    by_contra hlt
    rw [List.drop_eq_nil_of_le (Nat.le_of_not_le hlt)] at hv
    cases hv
  have hlength := congrArg List.length hu
  rw [List.length_take, Nat.min_eq_left hi] at hlength
  have hseat := toPosition_append (u ++ ['\r']) ('\n' :: v)
  rw [← hlength, ← hu, ← hv, List.take_append_drop, hu, hv, Text.lineExtent_append,
    ← Position.add_assoc] at hseat
  rw [hseat, Position.add_character]
  exact Nat.succ_pos _

/-- No position of the document stands between CR and LF. -/
theorem HasPosition.not_splitsReturn (hp : b.HasPosition p) (hi : b.toIndex p = .ok i) :
    ¬ b.text.SplitsReturn i := by
  intro hsplit
  have hpos := character_pos_of_splitsReturn hsplit
  obtain ⟨hreturn, hfeed⟩ := hsplit
  have hhere : b.toPosition i = p := by
    refine (hp.toPosition_eq hi).resolve_right fun hnext => ?_
    rw [hnext] at hpos
    exact Nat.lt_irrefl 0 hpos
  have hle : i ≤ b.text.length := by
    by_contra hlt
    rw [List.drop_eq_nil_of_le (Nat.le_of_not_le hlt)] at hfeed
    cases hfeed
  obtain ⟨l, hl, hsum, hend⟩ : StandsAt b.lines i p := by
    have hstands := standsAt_toPosition b i
    rwa [hhere, Nat.min_eq_left hle] at hstands
  have hshort : p.character ≤ l.dropBreak.length := by
    obtain ⟨line, hline, hchar⟩ := hp
    rw [line?, hl, Option.map_some] at hline
    exact Option.some.inj hline ▸ hchar
  obtain ⟨htake, hdrop⟩ := take_drop_of_standsAt hl (List.take_append_drop p.character l).symm
    (i := i) (by
      rw [List.length_take, Nat.min_eq_left (hshort.trans (Text.dropBreak_prefix l).length_le)]
      exact hsum)
  have hlength : p.character ≤ l.length := hshort.trans (Text.dropBreak_prefix l).length_le
  rw [hdrop] at hfeed
  rw [htake] at hreturn
  cases hrest : l.drop p.character with
  | nil =>
    have hle' := List.drop_eq_nil_iff.mp hrest
    have hlast := (hend.resolve_left (Nat.not_lt.mpr hle')).2
    rw [hrest, hlast, List.drop_length] at hfeed
    cases hfeed
  | cons d y =>
    obtain rfl : d = '\n' := by simpa [hrest] using hfeed
    have hcut : l = l.take p.character ++ '\n' :: y := by rw [← hrest, List.take_append_drop]
    obtain rfl := Text.eq_nil_of_lineFeed List.not_mem_nil (List.mem_of_getElem? hl) hcut
    have hne : l.take p.character ≠ [] := by
      rw [hhere] at hpos
      rw [Ne, ← List.length_eq_zero_iff, List.length_take]
      omega
    rw [List.getLast?_append_of_ne_nil _ hne] at hreturn
    obtain ⟨x, hx⟩ := List.getLast?_eq_some_iff.mp hreturn
    have hbreak := Text.dropBreak_returnLineFeed x.reverse
    rw [hx] at hcut
    rw [List.reverse_cons, List.reverse_cons, List.reverse_reverse, ← hcut] at hbreak
    have hcount := congrArg List.length hx
    rw [List.length_take, Nat.min_eq_left hlength, List.length_append] at hcount
    rw [hbreak] at hshort
    exact absurd hshort (by rw [hcount]; exact Nat.not_succ_le_self _)

/-- Where the inserted text begins in the new document: where its index was found before, unless it
takes the line break from a carriage return. -/
theorem HasPosition.toPosition_seam (hp : b.HasPosition p) (hi : b.toIndex p = .ok i)
    (htext : b.text = u ++ v) (hu : u.length = i) :
    (⟨u ++ (t ++ v)⟩ : Buffer).toPosition i = b.toPosition i ∨
      u.getLast? = some '\r' ∧ t.head? = some '\n' ∧
        b.toPosition i = ⟨((⟨u ++ (t ++ v)⟩ : Buffer).toPosition i).line + 1, 0⟩ := by
  have hsplit := hp.not_splitsReturn hi
  obtain rfl : b = ⟨u ++ v⟩ := congrArg Buffer.mk htext
  subst hu
  have hv : u.getLast? = some '\r' → v.head? ≠ some '\n' := by
    simpa [Text.SplitsReturn] using hsplit
  rw [toPosition_append, toPosition_append]
  by_cases hjoin : u.getLast? = some '\r' ∧ t.head? = some '\n'
  · obtain ⟨w, rfl⟩ := List.getLast?_eq_some_iff.mp hjoin.1
    have hfeed : (t ++ v).head? = some '\n' := by
      obtain ⟨t, rfl⟩ := List.head?_eq_some_iff.mp hjoin.2
      rfl
    rw [Text.lineExtent_return w hfeed (hv hjoin.1), ← Position.add_assoc]
    exact .inr ⟨hjoin.1, hjoin.2, rfl⟩
  · refine .inl (congrArg _ (Text.lineExtent_congr fun hlast => ?_))
    refine iff_of_false (fun hfeed => ?_) (hv hlast)
    cases t with
    | nil => exact hv hlast hfeed
    | cons c t => exact hjoin ⟨hlast, hfeed⟩

/-- Where LF and CRLF are the only line breaks, the text begins at the position. -/
theorem HasPosition.toPosition_seam_of_crLf (hp : b.HasPosition p) (hb : b.text.CrLf)
    (hi : b.toIndex p = .ok i) (htext : b.text = u ++ v) (hu : u.length = i) :
    (⟨u ++ (t ++ v)⟩ : Buffer).toPosition i = p := by
  obtain ⟨pre, post, hcut, hpre, hpost, rfl⟩ := hp.exists_append_of_crLf hb
  have hlength : u.length = pre.length := by
    have hindex := toIndex_endPosition_of_crLf hpre hpost
    rw [← hcut] at hindex
    exact hu.trans (Except.ok.inj (hi.symm.trans hindex))
  obtain ⟨rfl, -⟩ := List.append_inj (htext.symm.trans hcut) hlength
  rcases hp.toPosition_seam hi (t := t) htext hu with hseam | ⟨hreturn, -⟩
  · rw [hseam, toPosition_toIndex hb hp hi]
  · exact absurd hreturn hpre.getLast?_ne

/-- **Where an inserted text ends.** Laying out a text from a position of the document on finds the
position behind the text, once it is inserted there, if and only if the text begins on the line of the
position and has no line break but LF and CRLF; or the text takes a line from the document by joining
a carriage return, and has one other line break, which is not its last one. In a document whose only
line breaks are LF and CRLF the text always begins on the line of the position. -/
theorem advance_eq_toPosition_iff (hp : b.HasPosition p) (t : Text) :
    ∃ i b', b.toIndex p = .ok i ∧ b.apply [.insert p t] = .ok b' ∧
      b'.text = b.text.take i ++ t ++ b.text.drop i ∧
      (p.advance t 0 = b'.toPosition (i + t.length) ↔
        p.line = (b'.toPosition i).line ∧ Text.strays (b.text.drop i) t = 0 ∨
        p.line = (b'.toPosition i).line + 1 ∧ Text.strays (b.text.drop i) t = 1 ∧
          (Text.lineExtent (b.text.drop i) t).last = t.extent.last) ∧
      (b.text.CrLf → (p.advance t 0 = b'.toPosition (i + t.length) ↔
        Text.strays (b.text.drop i) t = 0)) := by
  obtain ⟨line, hline, -⟩ := id hp
  have hlt := exists_line?_iff.mp ⟨line, hline⟩
  have hi := toIndex_eq hlt
  have hlength : (b.text.take (b.indexOf p)).length = b.indexOf p := by
    rw [List.length_take, Nat.min_eq_left (indexOf_le_length hlt)]
  refine ⟨_, _, hi, apply_insert_eq hi, rfl, ?_⟩
  have hseat := hp.toPosition_eq hi
  have hseam := hp.toPosition_seam hi (t := t) (List.take_append_drop _ _).symm hlength
  have hfixed := fun hb : b.text.CrLf =>
    hp.toPosition_seam_of_crLf hb hi (t := t) (List.take_append_drop _ _).symm hlength
  generalize hu : b.text.take (b.indexOf p) = u at *
  generalize hv : b.text.drop (b.indexOf p) = v at *
  generalize b.indexOf p = i at *
  subst hlength
  -- The end of the text is found from its beginning, by the lines of the new document.
  have hlanded : (⟨u ++ t ++ v⟩ : Buffer).toPosition (u.length + t.length) =
      (⟨u ++ t ++ v⟩ : Buffer).toPosition u.length + Text.lineExtent v t := by
    have hbegin := toPosition_append u (t ++ v)
    rw [← List.append_assoc] at hbegin
    rw [hbegin, Position.add_assoc, ← Text.lineExtent_append, ← toPosition_append, List.length_append]
  have hbreaks := Text.lineExtent_breaks v t
  have hlast : Text.strays v t = 0 → (Text.lineExtent v t).last = t.extent.last := fun h => by
    rw [Text.lineExtent_eq_extent h]
  have hjoined : b.toPosition u.length = (⟨u ++ t ++ v⟩ : Buffer).toPosition u.length ∨
      0 < t.extent.breaks ∧ b.toPosition u.length =
        ⟨((⟨u ++ t ++ v⟩ : Buffer).toPosition u.length).line + 1, 0⟩ := by
    rw [← List.append_assoc] at hseam
    refine hseam.imp Eq.symm fun ⟨_, hhead, hnext⟩ => ⟨?_, hnext⟩
    obtain ⟨t, rfl⟩ := List.head?_eq_some_iff.mp hhead
    rw [Text.extent_cons, Extent.add_breaks, Text.charExtent_lineFeed, Nat.add_comm]
    exact Nat.succ_pos _
  have hiff : p.advance t 0 = (⟨u ++ t ++ v⟩ : Buffer).toPosition (u.length + t.length) ↔
      p.line = ((⟨u ++ t ++ v⟩ : Buffer).toPosition u.length).line ∧ Text.strays v t = 0 ∨
      p.line = ((⟨u ++ t ++ v⟩ : Buffer).toPosition u.length).line + 1 ∧ Text.strays v t = 1 ∧
        (Text.lineExtent v t).last = t.extent.last := by
    rw [Position.advance_zero, hlanded]
    clear hlanded hseam hfixed
    simp only [Position.eq_iff, Position.add_line, Position.add_character] at *
    split_ifs <;> omega
  refine ⟨hiff, fun hb => ?_⟩
  have hbegin := hfixed hb
  rw [← List.append_assoc] at hbegin
  rw [hiff, hbegin]
  simp

/-- A text with a CRLF, inserted in front of one. -/
theorem advance_eq_toPosition_returns :
    let b : Buffer := ⟨['a', '\r', '\n', 'b']⟩
    let t : Text := ['x', '\r', '\n', 'y']
    b.HasPosition ⟨0, 1⟩ ∧ b.text.CrLf ∧ ∃ i b', b.toIndex ⟨0, 1⟩ = .ok i ∧
      b.apply [.insert ⟨0, 1⟩ t] = .ok b' ∧
      (⟨0, 1⟩ : Position).advance t 0 = b'.toPosition (i + t.length) := by
  intro b t
  have hp : b.HasPosition ⟨0, 1⟩ := by decide
  have hcrLf : b.text.CrLf := .char (by decide) (.returnLineFeed (.char (by decide) .nil))
  obtain ⟨i, b', hi, happly, -, -, hiff⟩ := advance_eq_toPosition_iff hp t
  obtain rfl : 1 = i := Except.ok.inj hi
  exact ⟨hp, hcrLf, 1, b', hi, happly, (hiff hcrLf).mpr (by decide)⟩

/-- A line separator ends a line of the document, and laying out the text passes over it. -/
theorem not_advance_eq_toPosition_separator :
    let b : Buffer := ⟨[]⟩
    let t : Text := ['a', '\u2028', 'b']
    b.HasPosition ⟨0, 0⟩ ∧ b.toIndex ⟨0, 0⟩ = .ok 0 ∧ b.apply [.insert ⟨0, 0⟩ t] = .ok ⟨t⟩ ∧
      (⟨0, 0⟩ : Position).advance t 0 = ⟨0, 3⟩ ∧
      (⟨t⟩ : Buffer).toPosition (0 + t.length) = ⟨1, 1⟩ := by
  intro b t
  have hi : b.toIndex ⟨0, 0⟩ = .ok 0 := by decide
  exact ⟨by decide, hi, apply_insert_eq hi, by decide, by decide⟩

/-- The coincidence: LF joins the CR in front of it, and VT gives the line back. -/
example :
    (⟨1, 0⟩ : Position).advance ['\n', '\x0b', '\n'] 0 =
      (⟨['\r', '\n', '\x0b', '\n']⟩ : Buffer).toPosition (1 + 3) := by
  decide

end Buffer

end LiveSnippet
