import LiveSnippet.Proofs.Text.Cuts
import LiveSnippet.Proofs.Text.Patch
import Mathlib.Algebra.Order.Ring.Int

/-!
# The lines of a document under a batch

A batch is applied as a whole or not at all. It is refused if one of its edits names a line that the
document does not have, or if two of its edits overlap. If it is applied, each edit takes the line
breaks of its span from the document and puts in those of its text.

An edge of a tracked span moves by the breaks of the edits in front of it, and falls back to the start
of an edit that swallows it. The breaks that a batch takes away behind the edge are those of disjoint
lines, so whatever is left of the document behind the edge reaches at least as far as the edge: an edge
on a line of the document stays on one.

## Main definitions

* `Edit.Forward`: an edit does not end on a line above the one on which it starts
* `Buffer.Apart`: two edits do not overlap
* `Buffer.Admits`: the edits name lines of the document and do not overlap

## Main results

* `Buffer.admits_iff`: exactly the batches that are applied
* `Buffer.lineCount_apply`: the number of lines after a batch
* `Buffer.line_follow_lt`: a tracked span stays on lines of the document
-/

namespace LiveSnippet

/-! ### Line breaks -/

namespace Text

variable {s t : Text}

/-- In a text whose only line break is LF, there is one line more than there are breaks. -/
theorem length_bufferLinesFrom (h : t.LfOnly) (line : Text) :
    (bufferLinesFrom line t).length = t.extent.breaks + 1 := by
  induction t generalizing line with
  | nil => rfl
  | cons c t ih =>
    obtain ⟨hc, ht⟩ := lfOnly_cons.mp h
    rw [extent_cons, Extent.add_breaks]
    cases hb : isLineBreak c with
    | true =>
      obtain rfl := hc hb
      rw [bufferLinesFrom_lineFeed, List.length_cons, ih ht, charExtent_lineFeed]
      exact congrArg (· + 1) (Nat.add_comm _ 1)
    | false =>
      have hne : c ≠ '\n' := by
        rintro rfl
        simp [isLineBreak] at hb
      rw [bufferLinesFrom_cons _ _ hb, ih ht, charExtent_of_ne hne]
      exact congrArg (· + 1) (Nat.zero_add _).symm

/-- Two character indices cut a text in three. -/
theorem exists_cut (t : Text) {i j : Nat} (hij : i ≤ j) (hj : j ≤ t.length) :
    ∃ pre mid post : Text, t = pre ++ mid ++ post ∧ pre.length = i ∧ mid.length = j - i := by
  refine ⟨t.take i, (t.drop i).take (j - i), (t.drop i).drop (j - i), ?_, ?_, ?_⟩
  · rw [List.append_assoc, List.take_append_drop, List.take_append_drop]
  · rw [List.length_take, Nat.min_eq_left (hij.trans hj)]
  · rw [List.length_take, List.length_drop, Nat.min_eq_left (Nat.sub_le_sub_right hj i)]

/-- The line breaks in front of a character index. -/
def breaksBefore (t : Text) (i : Nat) : Nat := (extent (t.take i)).breaks

theorem breaksBefore_add_drop (t : Text) (i : Nat) :
    t.breaksBefore i + (extent (t.drop i)).breaks = t.extent.breaks := by
  rw [breaksBefore, ← Extent.add_breaks, ← extent_append, List.take_append_drop]

theorem breaksBefore_mono (t : Text) {i j : Nat} (h : i ≤ j) :
    t.breaksBefore i ≤ t.breaksBefore j := by
  obtain ⟨k, rfl⟩ := Nat.exists_eq_add_of_le h
  rw [breaksBefore, breaksBefore, List.take_add, extent_append, Extent.add_breaks]
  exact Nat.le_add_right _ _

end Text

namespace Buffer

variable {b b' : Buffer} {p : Position} {e f : Edit} {es : List Edit} {s t : Splice}
  {ss : List Splice} {i j : Nat}

theorem lineCount_eq (hb : b.text.LfOnly) : b.lineCount = b.text.extent.breaks + 1 :=
  Text.length_bufferLinesFrom hb []

/-! ### Indices -/

theorem exists_toIndex_iff : (∃ i, b.toIndex p = .ok i) ↔ p.line < b.lineCount := by
  rw [← exists_line?_iff, toIndex]
  cases b.line? p.line <;> simp

/-- The line of a position is the number of breaks in front of its index. -/
theorem breaksBefore_of_toIndex (hb : b.text.LfOnly) (h : b.toIndex p = .ok i) :
    i ≤ b.text.length ∧ b.text.breaksBefore i = p.line := by
  obtain ⟨u, v, htext, hcut, rfl⟩ := exists_cutsAt hb h
  rw [htext, ← hcut.line_eq, Text.breaksBefore, List.take_left, Text.endPosition_eq]
  exact ⟨by simp, rfl⟩

/-! ### Splices -/

theorem resolve_eq_ok_iff :
    b.resolve e = .ok s ↔ ∃ i j, b.toIndex e.span.start = .ok i ∧ b.toIndex e.span.stop = .ok j ∧
      s = ⟨i, max j i, e⟩ := by
  rw [resolve, toIndices]
  cases hi : b.toIndex e.span.start with
  | error err => simp [bind, Except.bind]
  | ok i =>
    cases hj : b.toIndex e.span.stop with
    | error err => simp [bind, Except.bind]
    | ok j => simp [bind, Except.bind, pure, Except.pure, eq_comm]

theorem edit_of_resolve (h : b.resolve e = .ok s) : s.edit = e ∧ s.start ≤ s.stop := by
  obtain ⟨i, j, -, -, rfl⟩ := resolve_eq_ok_iff.mp h
  exact ⟨rfl, Nat.le_max_right j i⟩

/-- A list of steps succeeds if and only if each of them does. -/
theorem mapM_eq_ok_iff {α β ε : Type} {g : α → Except ε β} {as : List α} {bs : List β} :
    as.mapM g = .ok bs ↔ List.Forall₂ (fun a b => g a = .ok b) as bs := by
  induction as generalizing bs with
  | nil => cases bs <;> simp [pure, Except.pure]
  | cons a as ih =>
    rw [List.mapM_cons, List.forall₂_cons_left_iff]
    simp only [← ih]
    cases g a with
    | error err => simp [bind, Except.bind]
    | ok b =>
      cases as.mapM g with
      | error err => simp [bind, Except.bind]
      | ok bs' => simp [bind, Except.bind, pure, Except.pure, eq_comm]

/-- The splices of a batch are those of its edits. -/
theorem mapM_resolve_eq_ok_iff :
    es.mapM b.resolve = .ok ss ↔ es = ss.map Splice.edit ∧ ∀ s ∈ ss, b.resolve s.edit = .ok s := by
  rw [mapM_eq_ok_iff]
  constructor
  · intro h
    have hedits : List.Forall₂ Eq es (ss.map Splice.edit) :=
      List.forall₂_map_right_iff.mpr (h.imp fun e s hs => (edit_of_resolve hs).1.symm)
    rw [List.forall₂_eq_eq_eq] at hedits
    subst hedits
    exact ⟨rfl, List.forall₂_same.mp (List.forall₂_map_left_iff.mp h)⟩
  · rintro ⟨rfl, h⟩
    exact List.forall₂_map_left_iff.mpr (List.forall₂_same.mpr h)

theorem exists_resolve_iff :
    (∃ s, b.resolve e = .ok s) ↔
      e.span.start.line < b.lineCount ∧ e.span.stop.line < b.lineCount := by
  rw [← exists_toIndex_iff, ← exists_toIndex_iff]
  constructor
  · rintro ⟨s, hs⟩
    obtain ⟨i, j, hi, hj, -⟩ := resolve_eq_ok_iff.mp hs
    exact ⟨⟨i, hi⟩, j, hj⟩
  · rintro ⟨⟨i, hi⟩, j, hj⟩
    exact ⟨_, resolve_eq_ok_iff.mpr ⟨i, j, hi, hj, rfl⟩⟩

/-- All edits have a splice if all the lines that they name exist. -/
theorem exists_mapM_resolve_iff :
    (∃ ss, es.mapM b.resolve = .ok ss) ↔
      ∀ e ∈ es, e.span.start.line < b.lineCount ∧ e.span.stop.line < b.lineCount := by
  simp only [mapM_eq_ok_iff, ← exists_resolve_iff]
  induction es with
  | nil => exact iff_of_true ⟨[], .nil⟩ (List.forall_mem_nil _)
  | cons e es ih =>
    rw [List.forall_mem_cons, ← ih]
    constructor
    · rintro ⟨_, hall⟩
      obtain ⟨s, ss, hs, hss, rfl⟩ := List.forall₂_cons_left_iff.mp hall
      exact ⟨⟨s, hs⟩, ss, hss⟩
    · rintro ⟨⟨s, hs⟩, ss, hss⟩
      exact ⟨s :: ss, .cons hs hss⟩

/-! ### Batches that are applied -/

namespace Splice

theorem le_iff : Splice.le s t = true ↔ s.start < t.start ∨ s.start = t.start ∧ s.stop ≤ t.stop := by
  simp [Splice.le]

theorem pairwise_mergeSort (ss : List Splice) :
    (ss.mergeSort Splice.le).Pairwise fun s t => Splice.le s t = true := by
  refine List.pairwise_mergeSort ?_ ?_ ss
  · intro s t u hst htu
    rw [le_iff] at *
    omega
  · intro s t
    rw [Bool.or_eq_true, le_iff, le_iff]
    omega

/-- Neither splice reaches into the other. -/
def Apart (s t : Splice) : Prop := s.stop ≤ t.start ∨ t.stop ≤ s.start

theorem apart_of_firstOverlap? (hss : ∀ s ∈ ss, s.start ≤ s.stop)
    (h : firstOverlap? ss = none) : ss.Pairwise fun s t => s.stop ≤ t.start := by
  induction ss with
  | nil => exact .nil
  | cons s ss ih =>
    cases ss with
    | nil => exact List.pairwise_singleton _ _
    | cons t ss =>
      rw [firstOverlap?] at h
      split_ifs at h with hst
      have hrest := ih (fun u hu => hss u (List.mem_cons_of_mem _ hu)) h
      refine List.pairwise_cons.mpr ⟨fun u hu => ?_, hrest⟩
      rcases List.mem_cons.mp hu with rfl | hu
      · exact Nat.le_of_not_lt hst
      · have htu := List.rel_of_pairwise_cons hrest hu
        have htt := hss t (by simp)
        omega

/-- The splices overlap nowhere if and only if none of them reaches into another. -/
theorem firstOverlap?_mergeSort_eq_none_iff (hss : ∀ s ∈ ss, s.start ≤ s.stop) :
    firstOverlap? (ss.mergeSort Splice.le) = none ↔ ss.Pairwise Apart := by
  have hperm := List.mergeSort_perm ss Splice.le
  have hsorted : ∀ s ∈ ss.mergeSort Splice.le, s.start ≤ s.stop :=
    fun s hs => hss s (hperm.mem_iff.mp hs)
  rw [← hperm.pairwise_iff fun h => h.symm]
  constructor
  · exact fun h => (apart_of_firstOverlap? hsorted h).imp Or.inl
  · intro h
    refine Patch.firstOverlap?_eq_none ?_
    refine (List.pairwise_and_iff.mpr ⟨pairwise_mergeSort ss, h⟩).imp_of_mem ?_
    rintro s t hs ht ⟨hle, hst | hts⟩
    · exact hst
    · have hss' := hsorted s hs
      have htt' := hsorted t ht
      rw [le_iff] at hle
      omega

end Splice

/-- The edits do not overlap. -/
def Apart (b : Buffer) (e f : Edit) : Prop :=
  ∀ s t, b.resolve e = .ok s → b.resolve f = .ok t → s.Apart t

/-- The edits name lines of the document and do not overlap. -/
def Admits (b : Buffer) (es : List Edit) : Prop :=
  (∀ e ∈ es, e.span.start.line < b.lineCount ∧ e.span.stop.line < b.lineCount) ∧
    es.Pairwise b.Apart

theorem apply_eq (b : Buffer) (es : List Edit) :
    b.apply es = (es.mapM b.resolve).bind fun ss =>
      match Splice.firstOverlap? (ss.mergeSort Splice.le) with
      | some s => .error (.overlapping s.edit.span.start)
      | none => .ok ⟨(ss.mergeSort Splice.le).foldr Splice.apply b.text⟩ := rfl

/-- A batch without edits changes nothing. -/
@[simp] theorem apply_nil (b : Buffer) : b.apply [] = .ok b := by
  simp [apply_eq, Except.bind, pure, Except.pure, Splice.firstOverlap?]

/-- What the splices of an applied batch are like, in the order of the document. -/
theorem exists_splices (h : b.apply es = .ok b') :
    ∃ ss : List Splice, (ss.map Splice.edit).Perm es ∧ (∀ s ∈ ss, b.resolve s.edit = .ok s) ∧
      ss.Pairwise (fun s t => s.stop ≤ t.start) ∧ b'.text = ss.foldr Splice.apply b.text := by
  rw [apply_eq] at h
  cases hmap : es.mapM b.resolve with
  | error err => simp [hmap, Except.bind] at h
  | ok ss =>
    obtain ⟨rfl, hss⟩ := mapM_resolve_eq_ok_iff.mp hmap
    have hperm := List.mergeSort_perm ss Splice.le
    cases hover : Splice.firstOverlap? (ss.mergeSort Splice.le) with
    | some s => simp [hmap, hover, Except.bind] at h
    | none =>
      simp only [hmap, hover, Except.bind, Except.ok.injEq] at h
      have hsorted : ∀ s ∈ ss.mergeSort Splice.le, b.resolve s.edit = .ok s :=
        fun s hs => hss s (hperm.mem_iff.mp hs)
      exact ⟨_, hperm.map _, hsorted,
        Splice.apart_of_firstOverlap? (fun s hs => (edit_of_resolve (hsorted s hs)).2) hover,
        (congrArg Buffer.text h).symm⟩

/-- **All or nothing.** A batch is applied if and only if its edits name lines of the document and do
not overlap. -/
theorem admits_iff : b.Admits es ↔ ∃ b', b.apply es = .ok b' := by
  rw [Admits, ← exists_mapM_resolve_iff, apply_eq]
  cases hmap : es.mapM b.resolve with
  | error err =>
    exact iff_of_false (fun ⟨⟨_, h⟩, _⟩ => by cases h) (fun ⟨_, h⟩ => by cases h)
  | ok ss =>
    obtain ⟨rfl, hss⟩ := mapM_resolve_eq_ok_iff.mp hmap
    have hapart : (ss.map Splice.edit).Pairwise b.Apart ↔ ss.Pairwise Splice.Apart := by
      rw [List.pairwise_map]
      refine ⟨fun h => ?_, fun h => ?_⟩
      · exact h.imp_of_mem fun hs ht h => h _ _ (hss _ hs) (hss _ ht)
      · refine h.imp_of_mem fun hs ht h => ?_
        intro s' t' hs' ht'
        cases (hss _ hs).symm.trans hs'
        cases (hss _ ht).symm.trans ht'
        exact h
    rw [hapart, ← Splice.firstOverlap?_mergeSort_eq_none_iff
      fun s hs => (edit_of_resolve (hss s hs)).2]
    cases hover : Splice.firstOverlap? (ss.mergeSort Splice.le) with
    | some s => simp [hover, Except.bind]
    | none => simp [hover, Except.bind]

/-! ### Lines of an applied batch -/

/-- The lines between which a splice stands. -/
theorem breaksBefore_of_resolve (hb : b.text.LfOnly) (h : b.resolve e = .ok s) :
    s.stop ≤ b.text.length ∧ b.text.breaksBefore s.start = e.span.start.line ∧
      b.text.breaksBefore s.stop = max e.span.start.line e.span.stop.line := by
  obtain ⟨i, j, hi, hj, rfl⟩ := resolve_eq_ok_iff.mp h
  obtain ⟨hlen, hline⟩ := breaksBefore_of_toIndex hb hi
  obtain ⟨hlen', hline'⟩ := breaksBefore_of_toIndex hb hj
  refine ⟨Nat.max_le.mpr ⟨hlen', hlen⟩, hline, ?_⟩
  dsimp only
  rcases Nat.le_total i j with hij | hji
  · have hmono := b.text.breaksBefore_mono hij
    rw [Nat.max_eq_left hij]
    omega
  · have hmono := b.text.breaksBefore_mono hji
    rw [Nat.max_eq_right hji]
    omega

/-- The characters in front of all splices stay. -/
theorem take_foldr_apply (hss : ∀ s ∈ ss, i ≤ s.start ∧ s.start ≤ b.text.length) :
    (ss.foldr Splice.apply b.text).take i = b.text.take i := by
  induction ss with
  | nil => rfl
  | cons s ss ih =>
    obtain ⟨⟨his, hlen⟩, hrest⟩ := List.forall_mem_cons.mp hss
    have htake := ih hrest
    have hlength : i ≤ ((ss.foldr Splice.apply b.text).take s.start).length := by
      have := congrArg List.length htake
      rw [List.length_take] at this ⊢
      rw [List.length_take] at this
      omega
    rw [List.foldr_cons, Splice.apply, List.append_assoc, List.take_append_of_le_length hlength,
      List.take_take, Nat.min_eq_left his, htake]

theorem breaks_foldr_apply (hlen : ∀ s ∈ ss, s.start ≤ s.stop ∧ s.stop ≤ b.text.length)
    (hord : ss.Pairwise fun s t => s.stop ≤ t.start) :
    (Text.extent (ss.foldr Splice.apply b.text)).breaks +
        (ss.map fun s => b.text.breaksBefore s.stop).sum =
      b.text.extent.breaks + (ss.map fun s => s.edit.text.extent.breaks).sum +
        (ss.map fun s => b.text.breaksBefore s.start).sum := by
  induction ss with
  | nil => rfl
  | cons s ss ih =>
    obtain ⟨⟨hle, hstop⟩, hrest⟩ := List.forall_mem_cons.mp hlen
    obtain ⟨hs, hord⟩ := List.pairwise_cons.mp hord
    have hsum := ih hrest hord
    have htake : ∀ k, k ≤ s.stop →
        (ss.foldr Splice.apply b.text).take k = b.text.take k := fun k hk =>
      take_foldr_apply fun t ht => ⟨Nat.le_trans hk (hs t ht), Nat.le_trans (hrest t ht).1 (hrest t ht).2⟩
    have hdrop := Text.breaksBefore_add_drop (ss.foldr Splice.apply b.text) s.stop
    rw [Text.breaksBefore, htake _ (Nat.le_refl _)] at hdrop
    simp only [List.foldr_cons, List.map_cons, List.sum_cons, Splice.apply, Text.extent_append,
      Extent.add_breaks, htake _ hle, Text.breaksBefore] at hsum hdrop ⊢
    omega

theorem lfOnly_foldr_apply (hb : b.text.LfOnly) (hss : ∀ s ∈ ss, s.edit.text.LfOnly) :
    Text.LfOnly (ss.foldr Splice.apply b.text) := by
  induction ss with
  | nil => exact hb
  | cons s ss ih =>
    obtain ⟨hs, hrest⟩ := List.forall_mem_cons.mp hss
    have hlf := ih hrest
    rw [List.foldr_cons, Splice.apply, Text.lfOnly_append, Text.lfOnly_append]
    exact ⟨⟨fun c hc => hlf c (List.mem_of_mem_take hc), hs⟩,
      fun c hc => hlf c (List.mem_of_mem_drop hc)⟩

section

variable (hb : b.text.LfOnly) (hes : ∀ e ∈ es, e.text.LfOnly) (h : b.apply es = .ok b')

include hb hes h

/-- Batches of texts whose only line break is LF leave such a document. -/
theorem lfOnly_apply : b'.text.LfOnly := by
  obtain ⟨ss, hperm, -, -, htext⟩ := exists_splices h
  rw [htext]
  refine lfOnly_foldr_apply hb fun s hs => hes s.edit ?_
  exact hperm.mem_iff.mp (List.mem_map_of_mem hs)

/-- **Lines after a batch.** Every edit takes away the breaks of its span and puts in those of its
text. -/
theorem lineCount_apply :
    b'.lineCount + (es.map fun e => e.span.stop.line - e.span.start.line).sum =
      b.lineCount + (es.map fun e => e.text.extent.breaks).sum := by
  obtain ⟨ss, hperm, hss, hord, htext⟩ := exists_splices h
  have hlen : ∀ s ∈ ss, s.start ≤ s.stop ∧ s.stop ≤ b.text.length := fun s hs =>
    ⟨(edit_of_resolve (hss s hs)).2, (breaksBefore_of_resolve hb (hss s hs)).1⟩
  have hsum := breaks_foldr_apply hlen hord
  have hstop : (ss.map fun s => b.text.breaksBefore s.stop).sum =
      (ss.map fun s => b.text.breaksBefore s.start).sum +
        (ss.map fun s => s.edit.span.stop.line - s.edit.span.start.line).sum := by
    rw [← List.sum_map_add]
    refine congrArg List.sum (List.map_congr_left fun s hs => ?_)
    obtain ⟨-, hstart, hstop⟩ := breaksBefore_of_resolve hb (hss s hs)
    omega
  have hmap : ∀ g : Edit → Nat, (es.map g).sum = (ss.map fun s => g s.edit).sum := by
    intro g
    rw [← (hperm.map g).sum_eq, List.map_map]
    rfl
  rw [lineCount_eq hb, lineCount_eq (lfOnly_apply hb hes h), htext, hmap, hmap]
  omega

end

/-- The text of a single edit lies on lines of the document. -/
theorem line_add_breaks_lt (hb : b.text.LfOnly) (he : e.text.LfOnly)
    (h : b.apply [e] = .ok b') : e.span.start.line + e.text.extent.breaks < b'.lineCount := by
  have hcount := lineCount_apply hb (List.forall_mem_singleton.mpr he) h
  obtain ⟨hstart, hstop⟩ := (admits_iff.mpr ⟨b', h⟩).1 e (List.mem_singleton_self e)
  simp only [List.map_cons, List.map_nil, List.sum_cons, List.sum_nil] at hcount
  omega

/-- The edits of a batch stand on lines of the document, one behind the other. -/
theorem exists_perm_of_apply (hb : b.text.LfOnly) (h : b.apply es = .ok b') :
    ∃ fs : List Edit, fs.Perm es ∧ fs.Pairwise (fun e f => e.span.stop.line ≤ f.span.start.line) ∧
      ∀ e ∈ fs, e.span.stop.line < b.lineCount := by
  obtain ⟨ss, hperm, hss, hord, -⟩ := exists_splices h
  refine ⟨ss.map Splice.edit, hperm, ?_, ?_⟩
  · rw [List.pairwise_map]
    refine hord.imp_of_mem fun {s t} hs ht hst => ?_
    have hmono := b.text.breaksBefore_mono hst
    rw [(breaksBefore_of_resolve hb (hss s hs)).2.2,
      (breaksBefore_of_resolve hb (hss t ht)).2.1] at hmono
    exact Nat.le_trans (Nat.le_max_right _ _) hmono
  · rw [List.forall_mem_map]
    exact fun s hs => (exists_resolve_iff.mp ⟨s, hss s hs⟩).2

end Buffer

/-! ### Edges on lines of the document -/

namespace Edit

variable {e : Edit} {es : List Edit} {p : Position} {moves : Bool}

/-- The edit does not end on a line above the one on which it starts. -/
def Forward (e : Edit) : Prop := e.span.start.line ≤ e.span.stop.line

instance (e : Edit) : Decidable e.Forward := inferInstanceAs (Decidable (_ ≤ _))

theorem forward_of_start_le_stop (h : e.span.start ≤ e.span.stop) : e.Forward :=
  Position.line_le_of_le h

/-- The line breaks that the edit takes away behind a line. -/
def breaksBehind (line : Nat) (e : Edit) : Nat := e.span.stop.line - max e.span.start.line line

/-- An edge moves by what the edit adds to the document, but for the breaks that it takes away behind
the edge. -/
theorem line_shiftEdge_le (h : e.Forward) (p : Position) (moves : Bool) :
    (e.shiftEdge p moves).line + (e.span.stop.line - e.span.start.line : Nat) ≤
      (e.text.extent.breaks + e.breaksBehind p.line : Nat) := by
  rw [Forward] at h
  simp only [breaksBehind]
  by_cases hbehind : e.span.stop < p ∨ p = e.span.stop ∧ moves = true
  · rw [shiftEdge_behind hbehind]
    simp only [carry, shift]
    omega
  · have hle : p ≤ e.span.stop := by
      by_contra hlt
      exact hbehind (Or.inl (not_le.mp hlt))
    rw [Position.le_iff] at hle
    by_cases hinside : e.span.start < p
    · rw [shiftEdge_inside hbehind hinside]
      rw [Position.lt_iff] at hinside
      dsimp only
      omega
    · rw [shiftEdge_before hbehind hinside]
      rw [Position.lt_iff] at hinside
      simp only [Shift.zero_line]
      omega

/-- Edits one behind the other take away different breaks. -/
theorem sum_breaksBehind_le {last : Nat}
    (hord : es.Pairwise fun e f => e.span.stop.line ≤ f.span.start.line)
    (hlast : ∀ e ∈ es, e.span.stop.line ≤ last) (line : Nat) :
    (es.map (breaksBehind line)).sum ≤ last - line := by
  induction es generalizing line with
  | nil => exact Nat.zero_le _
  | cons e es ih =>
    obtain ⟨he, hord⟩ := List.pairwise_cons.mp hord
    obtain ⟨hstop, hlast⟩ := List.forall_mem_cons.mp hlast
    have hrest := ih hord hlast (max line e.span.stop.line)
    have hcongr : es.map (breaksBehind line) = es.map (breaksBehind (max line e.span.stop.line)) := by
      refine List.map_congr_left fun f hf => ?_
      have hef := he f hf
      simp only [breaksBehind]
      omega
    rw [List.map_cons, List.sum_cons, hcongr]
    simp only [breaksBehind] at hrest ⊢
    omega

theorem line_edgeShift (ms : List (Edit × Bool)) (p : Position) :
    (edgeShift ms p).line = (ms.map fun m => (m.1.shiftEdge p m.2).line).sum := by
  induction ms with
  | nil => rfl
  | cons m ms ih =>
    rw [edgeShift, List.map_cons, List.sum_cons, Shift.add_line, List.map_cons, List.sum_cons, ← ih]
    rfl

/-- What the edits of a batch add up to for an edge. -/
theorem line_edgeShift_le (ms : List (Edit × Bool)) (hms : ∀ m ∈ ms, m.1.Forward) (p : Position) :
    (edgeShift ms p).line + ((ms.map Prod.fst).map fun e =>
        e.span.stop.line - e.span.start.line).sum ≤
      (((ms.map Prod.fst).map fun e => e.text.extent.breaks).sum +
        ((ms.map Prod.fst).map (breaksBehind p.line)).sum : Nat) := by
  induction ms with
  | nil => exact Int.le_refl _
  | cons m ms ih =>
    obtain ⟨hm, hrest⟩ := List.forall_mem_cons.mp hms
    have hstep := line_shiftEdge_le hm p m.2
    have hsum := ih hrest
    rw [line_edgeShift] at hsum ⊢
    simp only [List.map_cons, List.sum_cons] at hsum ⊢
    omega

end Edit

namespace Buffer

variable {b b' : Buffer} {es : List Edit} {ms : List (Edit × Bool)} {p : Position}

/-- An edge on a line of the document stays on one. -/
theorem line_moveBy_lt (hb : b.text.LfOnly) (hes : ∀ e ∈ es, e.text.LfOnly ∧ e.Forward)
    (h : b.apply es = .ok b') (hms : (ms.map Prod.fst).Perm es) (hp : p.line < b.lineCount) :
    (p.moveBy (Edit.edgeShift ms p)).line < b'.lineCount := by
  have hlf : ∀ e ∈ es, e.text.LfOnly := fun e he => (hes e he).1
  have hcount := lineCount_apply hb hlf h
  have hpos : 0 < b'.lineCount := by
    rw [lineCount_eq (lfOnly_apply hb hlf h)]
    exact Nat.succ_pos _
  -- The edits do not take away more lines behind the edge than there are.
  obtain ⟨fs, hperm, hord, hlast⟩ := exists_perm_of_apply hb h
  have hbehind : (fs.map (Edit.breaksBehind p.line)).sum ≤ b.lineCount - 1 - p.line :=
    Edit.sum_breaksBehind_le hord (fun e he => Nat.le_sub_one_of_lt (hlast e he)) p.line
  have hshift := Edit.line_edgeShift_le ms (fun m hm =>
    (hes m.1 (hms.mem_iff.mp (List.mem_map_of_mem hm))).2) p
  have hmap : ∀ g : Edit → Nat, ((ms.map Prod.fst).map g).sum = (es.map g).sum :=
    fun g => (hms.map g).sum_eq
  rw [hmap, hmap, hmap] at hshift
  rw [(hperm.map _).sum_eq] at hbehind
  simp only [Position.moveBy, shiftCoordinate]
  omega

/-- **Spans stay on lines of the document.** A span that follows a batch stays on lines of the
document, whatever the batch does to it. -/
theorem line_follow_lt {s : Span} (hb : b.text.LfOnly) (hes : ∀ e ∈ es, e.text.LfOnly ∧ e.Forward)
    (h : b.apply es = .ok b') {moves : List (Edit × Growth)}
    (hmoves : (moves.map Prod.fst).Perm es) (hstart : s.start.line < b.lineCount)
    (hstop : s.stop.line < b.lineCount) : (s.follow moves).stop.line < b'.lineCount := by
  have hedge : ∀ (f : Growth → Bool) {p : Position}, p.line < b.lineCount →
      (p.moveBy (Edit.edgeShift (moves.map fun m => (m.1, f m.2)) p)).line < b'.lineCount := by
    intro f p hp
    refine line_moveBy_lt hb hes h ?_ hp
    rw [List.map_map]
    exact hmoves
  simp only [Span.follow, Span.batchShift_eq, Position.max_def]
  split_ifs
  · exact hedge Growth.movesStart hstart
  · exact hedge Growth.movesStop hstop

end Buffer

end LiveSnippet
