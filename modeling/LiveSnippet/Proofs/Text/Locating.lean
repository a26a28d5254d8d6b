import LiveSnippet.Proofs.Text.Indices

/-!
# The position of a character index

An index stands on the line that has the character behind it, or behind the last character of the
document on its last line. This tells the line and the character apart for every index, so that a
position and its index determine each other wherever the position stands like this.

Two kinds of places do not. Between CR and LF an index has a position behind the text of its line,
and is taken for the place in front of the CR. Behind a break that counts as a character of its line
a position has the index at which the next line begins. The latter does not happen where LF and CRLF
are the only breaks.

## Main definitions

* `Text.SplitsReturn`: an index stands between CR and LF
* `Buffer.StandsAt`: where an index stands among lines

## Main results

* `Buffer.positionFrom_eq`, `Buffer.exists_standsAt`: every index stands at one position
* `Buffer.index_position`: positions and indices determine each other
-/

namespace LiveSnippet

namespace Text

variable {t line l ls : Text} {c : Char} {n i : Nat}

/-- The index stands between a carriage return and its line feed. -/
def SplitsReturn (t : Text) (i : Nat) : Prop :=
  (t.take i).getLast? = some '\r' ∧ (t.drop i).head? = some '\n'

instance (t : Text) (i : Nat) : Decidable (t.SplitsReturn i) := inferInstanceAs (Decidable (_ ∧ _))

/-- What a line ends in. -/
theorem exists_ending (line : Text) :
    ∃ ending : Text, line = line.dropBreak ++ ending ∧
      (ending = ['\r', '\n'] ∨ ending = ['\n'] ∨ ending = [] ∧ line.getLast? ≠ some '\n') := by
  have hline := line.reverse_reverse
  rw [dropBreak]
  split
  · rename_i rest heq
    rw [heq] at hline
    exact ⟨['\r', '\n'], by simpa using hline.symm, .inl rfl⟩
  · rename_i rest _ heq
    rw [heq] at hline
    exact ⟨['\n'], by simpa using hline.symm, .inr (.inl rfl)⟩
  · rename_i hreturn hfeed
    refine ⟨[], (List.append_nil line).symm, .inr (.inr ⟨rfl, fun hlast => ?_⟩)⟩
    rw [List.getLast?_eq_head?_reverse] at hlast
    obtain ⟨rest, hrest⟩ := List.head?_eq_some_iff.mp hlast
    exact hfeed rest hrest

theorem bufferLinesFrom_ne_nil (line t : Text) : bufferLinesFrom line t ≠ [] := by
  induction t generalizing line with
  | nil => exact List.cons_ne_nil _ _
  | cons c t ih =>
    rw [bufferLinesFrom]
    split_ifs
    · exact List.cons_ne_nil _ _
    · exact ih _

/-- Only the last line can be empty. -/
theorem ne_nil_of_getElem?_bufferLinesFrom (hl : (bufferLinesFrom line t)[n]? = some l)
    (hn : n + 1 < (bufferLinesFrom line t).length) : l ≠ [] := by
  induction t generalizing line n with
  | nil => simp [bufferLinesFrom] at hn
  | cons c t ih =>
    rw [bufferLinesFrom] at hl hn
    split_ifs at hl hn
    · cases n with
      | zero =>
        obtain rfl : (c :: line).reverse = l := by simpa using hl
        simp
      | succ n => exact ih (by simpa using hl) (by simpa using hn)
    · exact ih hl hn

/-- The last line does not end in a line feed. -/
theorem getLast?_of_getElem?_bufferLinesFrom (hline : line.head? ≠ some '\n')
    (hl : (bufferLinesFrom line t)[n]? = some l)
    (hn : n + 1 = (bufferLinesFrom line t).length) : l.getLast? ≠ some '\n' := by
  induction t generalizing line n with
  | nil =>
    obtain rfl : n = 0 := by simpa [bufferLinesFrom] using hn
    obtain rfl : line.reverse = l := by simpa [bufferLinesFrom] using hl
    rwa [List.getLast?_reverse]
  | cons c t ih =>
    rw [bufferLinesFrom] at hl hn
    split_ifs at hl hn with hbreak
    · cases n with
      | zero => exact absurd hn (by simp [bufferLinesFrom_ne_nil])
      | succ n =>
        have hnil : ([] : Text).head? ≠ some '\n' := by simp
        exact ih hnil (by simpa using hl) (by simpa using hn)
    · refine ih (fun hhead => ?_) hl hn
      obtain rfl : c = '\n' := by simpa using hhead
      simp at hbreak

/-- Where LF and CRLF are the only breaks, all other lines do. -/
theorem CrLf.getLast?_of_getElem? (ht : t.CrLf) (hl : (bufferLinesFrom line t)[n]? = some l)
    (hn : n + 1 < (bufferLinesFrom line t).length) : l.getLast? = some '\n' := by
  induction ht generalizing line n with
  | nil => simp [bufferLinesFrom] at hn
  | char hb _ ih =>
    rw [bufferLinesFrom_cons _ _ hb] at hl hn
    exact ih hl hn
  | lineFeed _ ih =>
    rw [bufferLinesFrom_lineFeed] at hl hn
    cases n with
    | zero =>
      obtain rfl : ('\n' :: line).reverse = l := by simpa using hl
      simp
    | succ n => exact ih (by simpa using hl) (by simpa using hn)
  | returnLineFeed _ ih =>
    rw [bufferLinesFrom_returnLineFeed] at hl hn
    cases n with
    | zero =>
      obtain rfl : ('\n' :: '\r' :: line).reverse = l := by simpa using hl
      simp
    | succ n => exact ih (by simpa using hl) (by simpa using hn)

end Text

namespace Buffer

variable {b : Buffer} {p q : Position} {i j n : Nat} {ls : List Text} {l : Text}

/-! ### Where an index stands -/

/-- The index stands in front of a character of the line of the position, or at the end of the last
line. -/
def StandsAt (ls : List Text) (i : Nat) (p : Position) : Prop :=
  ∃ l, ls[p.line]? = some l ∧ (ls.take p.line).flatten.length + p.character = i ∧
    (p.character < l.length ∨ p.character = l.length ∧ p.line + 1 = ls.length)

theorem exists_standsAt (hls : ls ≠ []) (hi : i ≤ ls.flatten.length) : ∃ p, StandsAt ls i p := by
  induction ls generalizing i with
  | nil => exact absurd rfl hls
  | cons l ls ih =>
    rw [List.flatten_cons, List.length_append] at hi
    by_cases hlt : i < l.length
    · exact ⟨⟨0, i⟩, l, rfl, Nat.zero_add i, .inl hlt⟩
    · cases ls with
      | nil =>
        rw [List.flatten_nil, List.length_nil] at hi
        exact ⟨⟨0, i⟩, l, rfl, Nat.zero_add i, .inr ⟨by dsimp only; omega, rfl⟩⟩
      | cons l' ls =>
        obtain ⟨p, k, hk, hsum, hend⟩ := ih (List.cons_ne_nil _ _) (i := i - l.length) (by omega)
        refine ⟨⟨p.line + 1, p.character⟩, k, hk, ?_, hend.imp_right fun h => ⟨h.1, ?_⟩⟩
        · rw [List.take_succ_cons, List.flatten_cons, List.length_append]
          dsimp only
          omega
        · rw [List.length_cons, h.2]

/-- An index stands at one position only, which is the one found for it. -/
theorem positionFrom_eq (h : StandsAt ls i p) (n : Nat) :
    positionFrom n ls i = ⟨n + p.line, p.character⟩ := by
  obtain ⟨line, character⟩ := p
  obtain ⟨k, hk, hsum, hend⟩ := h
  induction ls generalizing i n line with
  | nil => simp at hk
  | cons l ls ih =>
    cases line with
    | zero =>
      obtain rfl : l = k := by simpa using hk
      obtain rfl : character = i := by simpa using hsum
      cases ls with
      | nil => rfl
      | cons l' ls =>
        rcases hend with hlt | ⟨-, hlength⟩
        · rw [positionFrom, if_pos hlt]
          rfl
        · simp at hlength
    | succ line =>
      simp only [List.take_succ_cons, List.flatten_cons, List.length_append] at hsum
      cases ls with
      | nil => simp at hk
      | cons l' ls =>
        have hrest := ih (i := i - l.length) (n + 1) line (by simpa using hk)
          (by dsimp only; omega) (by simpa using hend)
        rw [positionFrom, if_neg (by omega), hrest]
        simp only [Nat.add_assoc, Nat.add_comm 1]

theorem lines_ne_nil (b : Buffer) : b.lines ≠ [] := Text.bufferLinesFrom_ne_nil [] b.text

theorem toPosition_eq (h : StandsAt b.lines i p) (hi : i ≤ b.text.length) : b.toPosition i = p := by
  rw [toPosition, Nat.min_eq_left hi, positionFrom_eq h, Nat.zero_add]

theorem standsAt_toPosition (b : Buffer) (i : Nat) :
    StandsAt b.lines (min i b.text.length) (b.toPosition i) := by
  obtain ⟨p, hp⟩ := exists_standsAt (lines_ne_nil b)
    (show min i b.text.length ≤ b.lines.flatten.length by rw [flatten_lines]; exact Nat.min_le_right _ _)
  rwa [toPosition, positionFrom_eq hp, Nat.zero_add]

/-! ### From an index to its position and back -/

theorem toIndex_of_getElem? (hl : b.lines[p.line]? = some l) :
    b.toIndex p = .ok (b.lineStart p.line + min p.character l.dropBreak.length) := by
  simp only [toIndex, line?, hl, Option.map_some]

/-- The text around an index, on the line of the index. -/
theorem take_drop_of_standsAt (hl : b.lines[n]? = some l) {u v : Text} (huv : l = u ++ v)
    (hi : b.lineStart n + u.length = i) :
    b.text.take i = (b.lines.take n).flatten ++ u ∧
      b.text.drop i = v ++ (b.lines.drop (n + 1)).flatten := by
  obtain ⟨hn, rfl⟩ := List.getElem?_eq_some_iff.mp hl
  have htext : b.text = ((b.lines.take n).flatten ++ u) ++ (v ++ (b.lines.drop (n + 1)).flatten) := by
    calc b.text = (b.lines.take n).flatten ++ (b.lines.drop n).flatten := by
          rw [← flatten_lines, ← List.flatten_append, List.take_append_drop]
      _ = _ := by
          rw [List.drop_eq_getElem_cons hn, List.flatten_cons, huv]
          simp only [List.append_assoc]
  have hlength : ((b.lines.take n).flatten ++ u).length = i := by
    rw [List.length_append, ← hi, lineStart]
  rw [htext, ← hlength, List.take_left, List.drop_left]
  exact ⟨rfl, rfl⟩

/-- The position of an index has that index, unless it stands between CR and LF. -/
theorem toIndex_toPosition (hi : i ≤ b.text.length) (hsplit : ¬ b.text.SplitsReturn i) :
    b.toIndex (b.toPosition i) = .ok i := by
  obtain ⟨l, hl, hsum, hend⟩ := standsAt_toPosition b i
  rw [Nat.min_eq_left hi] at hsum
  generalize b.toPosition i = p at *
  obtain ⟨ending, hline, hending⟩ := l.exists_ending
  have hlength := congrArg List.length hline
  rw [List.length_append] at hlength
  have hle : p.character ≤ l.dropBreak.length := by
    rcases hending with rfl | rfl | ⟨rfl, -⟩
    · by_contra hlt
      rcases hend with hchar | ⟨-, hlast⟩
      · refine hsplit ?_
        have hcut : l = (l.dropBreak ++ ['\r']) ++ ['\n'] := by simpa using hline
        obtain ⟨htake, hdrop⟩ := take_drop_of_standsAt hl hcut (i := i) (by
          rw [List.length_append, ← hsum, lineStart]
          simp only [List.length_cons, List.length_nil] at hlength ⊢
          omega)
        rw [Text.SplitsReturn, htake, hdrop]
        simp
      · refine absurd ?_ (Text.getLast?_of_getElem?_bufferLinesFrom (by simp) hl hlast)
        rw [hline]
        simp
    · rcases hend with hchar | ⟨-, hlast⟩
      · simp only [List.length_cons, List.length_nil] at hlength
        omega
      · refine absurd ?_ (Text.getLast?_of_getElem?_bufferLinesFrom (by simp) hl hlast)
        rw [hline]
        simp
    · rw [List.length_nil] at hlength
      omega
  rw [toIndex_of_getElem? hl, Nat.min_eq_left hle, lineStart, hsum]

/-- Where LF and CRLF are the only breaks, every position of the document is that of its index. -/
theorem toPosition_toIndex (hb : b.text.CrLf) (hp : b.HasPosition p) (h : b.toIndex p = .ok i) :
    b.toPosition i = p := by
  obtain ⟨line, hline, hle⟩ := hp
  obtain ⟨l, hl, rfl⟩ := Option.map_eq_some_iff.mp hline
  have hlt := exists_line?_iff.mp ⟨_, hline⟩
  obtain rfl : b.indexOf p = i := Except.ok.inj ((toIndex_eq hlt).symm.trans h)
  refine toPosition_eq ⟨l, hl, ?_, ?_⟩ (indexOf_le_length hlt)
  · rw [indexOf, hline, Option.getD_some, Nat.min_eq_left hle, lineStart]
  · obtain ⟨ending, hcut, hending⟩ := l.exists_ending
    have hlength := congrArg List.length hcut
    rw [List.length_append] at hlength
    rcases hending with rfl | rfl | ⟨rfl, hlast⟩
    · exact .inl (by simp only [List.length_cons] at hlength; omega)
    · exact .inl (by simp only [List.length_cons] at hlength; omega)
    · have hcount : p.line + 1 = b.lines.length := by
        by_contra hne
        exact hlast (hb.getLast?_of_getElem? hl (Nat.lt_of_le_of_ne hlt hne))
      rw [List.length_nil] at hlength
      omega

/-! ### Size -/

theorem le_lineStart (hn : n < b.lines.length) : n ≤ b.lineStart n := by
  induction n with
  | zero => exact Nat.zero_le _
  | succ n ih =>
    obtain ⟨l, hl⟩ : ∃ l, b.lines[n]? = some l :=
      ⟨_, List.getElem?_eq_getElem (Nat.lt_of_succ_lt hn)⟩
    have hne := Text.ne_nil_of_getElem?_bufferLinesFrom hl hn
    have hpos := List.length_pos_iff.mpr hne
    have hrest := ih (Nat.lt_of_succ_lt hn)
    rw [lineStart_succ hl]
    omega

/-- The coordinates of a position are no larger than its index. -/
theorem line_add_character_le (b : Buffer) (i : Nat) :
    (b.toPosition i).line + (b.toPosition i).character ≤ min i b.text.length := by
  obtain ⟨l, hl, hsum, -⟩ := standsAt_toPosition b i
  have hstart := le_lineStart (List.getElem?_eq_some_iff.mp hl).1
  rw [lineStart] at hstart
  omega

/-- **Positions and indices.** In every text the position of an index has that index, unless the
index stands between CR and LF, and its coordinates are no larger than the index; and positions in
order have their indices in order. If LF and CRLF are the only breaks, every position of the document
is the position of its index. -/
theorem index_position (b : Buffer) :
    (∀ i ≤ b.text.length, ¬ b.text.SplitsReturn i → b.toIndex (b.toPosition i) = .ok i) ∧
    (∀ i, (b.toPosition i).line + (b.toPosition i).character ≤ min i b.text.length) ∧
    (∀ p q i j, p ≤ q → b.toIndex p = .ok i → b.toIndex q = .ok j → i ≤ j) ∧
    (b.text.CrLf → ∀ p, b.HasPosition p → ∃ i, b.toIndex p = .ok i ∧ b.toPosition i = p) := by
  refine ⟨fun i => toIndex_toPosition, line_add_character_le b, fun p q i j => toIndex_le_toIndex,
    fun hb p hp => ?_⟩
  obtain ⟨line, hline, -⟩ := id hp
  have hindex := toIndex_eq (exists_line?_iff.mp ⟨line, hline⟩)
  exact ⟨_, hindex, toPosition_toIndex hb hp hindex⟩

/-- The text `a`, VT, `b`, CRLF, `c`: behind VT begins a line, and the position in front of the CR
is the last one on it. -/
theorem index_position_breaks :
    let b : Buffer := ⟨['a', '\x0b', 'b', '\r', '\n', 'c']⟩
    let b' : Buffer := ⟨['a', '\r', '\n', 'c']⟩
    (2 ≤ b.text.length ∧ ¬ b.text.SplitsReturn 2 ∧ b.toIndex (b.toPosition 2) = .ok 2) ∧
    b.text.SplitsReturn 4 ∧ b.toIndex (b.toPosition 4) = .ok 3 ∧
    ((⟨0, 2⟩ : Position) ≤ ⟨1, 1⟩ ∧ b.toIndex ⟨0, 2⟩ = .ok 2 ∧ b.toIndex ⟨1, 1⟩ = .ok 3 ∧ 2 ≤ 3) ∧
    b'.text.CrLf ∧ b'.HasPosition ⟨1, 0⟩ ∧ ∃ i, b'.toIndex ⟨1, 0⟩ = .ok i ∧ b'.toPosition i = ⟨1, 0⟩ := by
  intro b b'
  obtain ⟨hround, -, hmono, -⟩ := index_position b
  obtain ⟨-, -, -, hback⟩ := index_position b'
  have hcrLf : b'.text.CrLf := .char (by decide) (.returnLineFeed (.char (by decide) .nil))
  have hp : b'.HasPosition ⟨1, 0⟩ := by decide
  exact ⟨⟨by decide, by decide, hround 2 (by decide) (by decide)⟩, by decide, by decide,
    ⟨by decide, by decide, by decide, hmono ⟨0, 2⟩ ⟨1, 1⟩ 2 3 (by decide) (by decide) (by decide)⟩,
    hcrLf, hp, hback hcrLf ⟨1, 0⟩ hp⟩

end Buffer

end LiveSnippet
