import LiveSnippet.Proofs.Text.Indices
import LiveSnippet.Session.Host

/-!
# A batch as one splice

A batch is applied from its last edit to its first, after its edits have been put in order and the
neighbours among them compared. What comes out does not depend on any of this: going through the text
once, each index gets the insertions there, in the order of the batch, and the text of the span that
begins there, and each character that a span takes is left out.

## Main definitions

* `Splice.weave`, `Splice.applyAll`: all splices made at once
* `Splice.Overlaps`: of two splices, the later one begins in front of the end of the earlier one
* `Buffer.missingLine?`: the first line that a batch names and the document does not have

## Main results

* `Splice.foldr_apply_eq`: splices in the order of the text, made from the last to the first
* `Splice.applyAll_mergeSort`: the order does not matter for splices that do not overlap
* `Buffer.apply_splices`: which batches are refused, and what the others do
-/

namespace LiveSnippet

namespace Buffer

namespace Splice

variable {s t : Splice} {ss : List Splice} {text u v : Text} {i : Nat}

/-- The new text at an index: that of the insertions, in the order of the list, and behind it that of
the span that begins there. -/
def newTextAt (ss : List Splice) (i : Nat) : Text :=
  (ss.filter fun s => s.start = i && s.stop = i).flatMap (·.edit.text) ++
    (ss.filter fun s => s.start = i && i < s.stop).flatMap (·.edit.text)

/-- Whether a span takes the character at an index. -/
def taken (ss : List Splice) (i : Nat) : Bool := ss.any fun s => s.start ≤ i && i < s.stop

/-- Makes all splices at once in a text, the first character of which has the given index. -/
def weave (ss : List Splice) (i : Nat) : Text → Text
  | [] => newTextAt ss i
  | c :: text => newTextAt ss i ++ ((if taken ss i then [] else [c]) ++ weave ss (i + 1) text)

/-- Makes all splices at once. -/
def applyAll (ss : List Splice) (text : Text) : Text := weave ss 0 text

/-- In the order by start and then by end, the one that comes later starts before the other ends. -/
def Overlaps (s t : Splice) : Prop :=
  Splice.le s t = true ∧ t.start < s.stop ∨ Splice.le t s = true ∧ s.start < t.stop

instance (s t : Splice) : Decidable (s.Overlaps t) := inferInstanceAs (Decidable (_ ∨ _))

theorem apart_iff (hs : s.start ≤ s.stop) (ht : t.start ≤ t.stop) : s.Apart t ↔ ¬ s.Overlaps t := by
  rw [Apart, Overlaps, le_iff, le_iff]
  omega

/-! ### Splices in the order of the text -/

@[simp] theorem weave_nil (i : Nat) (text : Text) : weave [] i text = text := by
  induction text generalizing i with
  | nil => rfl
  | cons c text ih =>
    rw [weave, ih]
    rfl

/-- There is no new text in front of all splices. -/
theorem newTextAt_eq_nil (h : ∀ s ∈ ss, i < s.start) : newTextAt ss i = [] := by
  have hnot : ∀ f : Splice → Bool, (ss.filter fun s => s.start = i && f s) = [] := by
    intro f
    rw [List.filter_eq_nil_iff]
    intro s hs
    have := h s hs
    simp only [Bool.and_eq_true, decide_eq_true_eq]
    omega
  rw [newTextAt, hnot, hnot]
  rfl

theorem taken_eq_false (h : ∀ s ∈ ss, i < s.start) : taken ss i = false := by
  rw [taken, List.any_eq_false]
  intro s hs
  have := h s hs
  simp only [Bool.and_eq_true, decide_eq_true_eq]
  omega

/-- The characters in front of all splices stay. -/
theorem weave_append (h : ∀ s ∈ ss, i + u.length ≤ s.start) :
    weave ss i (u ++ v) = u ++ weave ss (i + u.length) v := by
  induction u generalizing i with
  | nil => rfl
  | cons c u ih =>
    have hbehind : ∀ s ∈ ss, i < s.start := by
      intro s hs
      have := h s hs
      rw [List.length_cons] at this
      omega
    have hrest : ∀ s ∈ ss, i + 1 + u.length ≤ s.start := by
      intro s hs
      have := h s hs
      rw [List.length_cons] at this
      omega
    rw [List.cons_append, weave, newTextAt_eq_nil hbehind, taken_eq_false hbehind, ih hrest,
      List.length_cons, Nat.add_right_comm]
    rfl

/-- A span takes the characters from its start up to its end. -/
theorem taken_cons (hstart : s.start ≤ i) (hstop : i < s.stop) : taken (s :: ss) i = true := by
  simp only [taken, List.any_cons, hstart, hstop, decide_true, Bool.true_and, Bool.true_or]

theorem taken_cons_of_stop_le (h : s.stop ≤ i) : taken (s :: ss) i = taken ss i := by
  simp [taken, Nat.not_lt.mpr h]

theorem newTextAt_cons_of_ne (h : s.start ≠ i) : newTextAt (s :: ss) i = newTextAt ss i := by
  simp [newTextAt, h]

/-- A splice changes nothing behind its end. -/
theorem weave_cons_of_lt (hstart : s.start < i) (hstop : s.stop ≤ i) :
    weave (s :: ss) i text = weave ss i text := by
  induction text generalizing i with
  | nil => exact newTextAt_cons_of_ne (Nat.ne_of_lt hstart)
  | cons c text ih =>
    rw [weave, weave, newTextAt_cons_of_ne (Nat.ne_of_lt hstart), taken_cons_of_stop_le hstop,
      ih (Nat.lt_succ_of_lt hstart) (Nat.le_succ_of_le hstop)]

/-- What is left of a span that has begun is taken. -/
theorem weave_cons_inside (hstart : s.start < i) (hstop : s.stop = i + u.length)
    (hss : ∀ t ∈ ss, s.stop ≤ t.start) :
    weave (s :: ss) i (u ++ v) = weave ss s.stop v := by
  -- By induction on what is left of the span: no other splice has begun, so nothing is put in.
  induction u generalizing i with
  | nil =>
    rw [List.length_nil, Nat.add_zero] at hstop
    rw [List.nil_append, weave_cons_of_lt hstart hstop.le, hstop]
  | cons c u ih =>
    rw [List.length_cons] at hstop
    have hbehind : ∀ t ∈ ss, i < t.start := by
      intro t ht
      have := hss t ht
      omega
    rw [List.cons_append, weave, newTextAt_cons_of_ne (Nat.ne_of_lt hstart),
      newTextAt_eq_nil hbehind, taken_cons hstart.le (by omega),
      ih (Nat.lt_succ_of_lt hstart) (by omega)]
    rfl

/-- A splice in front of all others exchanges what its span cuts out. -/
theorem weave_cons (hstart : s.start = i) (hstop : s.stop = i + u.length)
    (hss : ∀ t ∈ ss, s.stop ≤ t.start) :
    weave (s :: ss) i (u ++ v) = s.edit.text ++ weave ss s.stop v := by
  cases u with
  | nil =>
    obtain rfl : s.stop = i := hstop
    have hnew : newTextAt (s :: ss) s.stop = s.edit.text ++ newTextAt ss s.stop := by
      simp [newTextAt, hstart]
    cases v with
    | nil => exact hnew
    | cons c v =>
      rw [List.nil_append, weave, hnew, taken_cons_of_stop_le (Nat.le_refl _), List.append_assoc,
        weave_cons_of_lt (by omega) (Nat.le_succ _)]
      rfl
  | cons c u =>
    rw [List.length_cons] at hstop
    have hbehind : ∀ t ∈ ss, i < t.start := by
      intro t ht
      have := hss t ht
      omega
    have hnew : newTextAt (s :: ss) i = s.edit.text ++ newTextAt ss i := by
      have hlt : i < s.stop := by omega
      have hne : s.stop ≠ i := by omega
      have hnone : (ss.filter fun t => t.start = i && t.stop = i) = [] := by
        rw [List.filter_eq_nil_iff]
        intro t ht
        simp [Nat.ne_of_gt (hbehind t ht)]
      simp [newTextAt, hstart, hlt, hne, hnone]
    rw [List.cons_append, weave, hnew, newTextAt_eq_nil hbehind, taken_cons hstart.le (by omega),
      weave_cons_inside (by omega) (by omega) hss, List.append_nil]
    rfl

/-- Splices in the order of the text can be made one by one, from the last to the first. -/
theorem foldr_apply_eq (hss : ∀ s ∈ ss, s.start ≤ s.stop ∧ s.stop ≤ text.length)
    (hord : ss.Pairwise fun s t => s.stop ≤ t.start) :
    ss.foldr Splice.apply text = applyAll ss text := by
  induction ss with
  | nil => exact (weave_nil 0 text).symm
  | cons s ss ih =>
    obtain ⟨⟨hle, hlen⟩, hrest⟩ := List.forall_mem_cons.mp hss
    obtain ⟨hs, hord⟩ := List.pairwise_cons.mp hord
    obtain ⟨pre, mid, post, rfl, hpre, hmid⟩ := Text.exists_cut text hle hlen
    have hstop : s.stop = (pre ++ mid).length := by
      rw [List.length_append]
      omega
    have hbehind : ∀ t ∈ ss, 0 + (pre ++ mid).length ≤ t.start := by
      intro t ht
      rw [Nat.zero_add, ← hstop]
      exact hs t ht
    have hfront : ∀ t ∈ s :: ss, 0 + pre.length ≤ t.start := by
      refine List.forall_mem_cons.mpr ⟨by omega, fun t ht => ?_⟩
      have := hs t ht
      omega
    have hfold : ss.foldr Splice.apply (pre ++ mid ++ post) =
        pre ++ mid ++ weave ss s.stop post := by
      rw [ih hrest hord, applyAll, weave_append hbehind, Nat.zero_add, hstop]
    have htake : (pre ++ mid ++ weave ss s.stop post).take s.start = pre := by
      rw [← hpre, List.append_assoc, List.take_left]
    have hdrop : (pre ++ mid ++ weave ss s.stop post).drop s.stop = weave ss s.stop post :=
      List.drop_left' hstop.symm
    calc Splice.apply s (ss.foldr Splice.apply (pre ++ mid ++ post))
        = pre ++ s.edit.text ++ weave ss s.stop post := by
          rw [Splice.apply, hfold, htake, hdrop]
      _ = pre ++ weave (s :: ss) (0 + pre.length) (mid ++ post) := by
          rw [weave_cons (by omega) (by omega) hs, List.append_assoc]
      _ = applyAll (s :: ss) (pre ++ mid ++ post) := by
          rw [applyAll, List.append_assoc, weave_append hfront]

/-! ### Splices in any order -/

/-- Sorting keeps the order of those splices that are in order already. -/
theorem filter_mergeSort {f : Splice → Bool}
    (h : (ss.filter f).Pairwise fun s t => Splice.le s t = true) :
    (ss.mergeSort Splice.le).filter f = ss.filter f := by
  have hsub : (ss.filter f).Sublist (ss.mergeSort Splice.le) := by
    refine List.sublist_mergeSort ?_ ?_ h List.filter_sublist
    · intro s t u hst htu
      rw [le_iff] at *
      omega
    · intro s t
      rw [Bool.or_eq_true, le_iff, le_iff]
      omega
  -- The one is a sublist of the other, and both have the same length.
  have hfilter := hsub.filter f
  rw [List.filter_filter] at hfilter
  simp only [Bool.and_self] at hfilter
  exact (hfilter.eq_of_length ((List.mergeSort_perm ss Splice.le).filter f).length_eq.symm).symm

/-- Of splices that do not overlap, only insertions share an index, and sorting keeps their order. -/
theorem newTextAt_mergeSort (h : ss.Pairwise Apart) (i : Nat) :
    newTextAt (ss.mergeSort Splice.le) i = newTextAt ss i := by
  rw [newTextAt, filter_mergeSort, filter_mergeSort, newTextAt]
  · refine (h.filter _).imp_of_mem fun {s t} hs ht hst => ?_
    simp only [List.mem_filter, Bool.and_eq_true, decide_eq_true_eq] at hs ht
    rw [Apart] at hst
    omega
  · refine (h.filter _).imp_of_mem fun {s t} hs ht _ => ?_
    simp only [List.mem_filter, Bool.and_eq_true, decide_eq_true_eq] at hs ht
    rw [le_iff]
    omega

theorem weave_mergeSort (h : ss.Pairwise Apart) (i : Nat) (text : Text) :
    weave (ss.mergeSort Splice.le) i text = weave ss i text := by
  have htaken : ∀ i, taken (ss.mergeSort Splice.le) i = taken ss i :=
    fun i => (List.mergeSort_perm ss Splice.le).any_eq
  induction text generalizing i with
  | nil => exact newTextAt_mergeSort h i
  | cons c text ih => rw [weave, weave, newTextAt_mergeSort h, htaken, ih]

/-- For splices that do not overlap, the order matters among insertions at one index only. -/
theorem applyAll_mergeSort (h : ss.Pairwise Apart) :
    applyAll (ss.mergeSort Splice.le) text = applyAll ss text := weave_mergeSort h 0 text

end Splice

/-! ### Batches -/

variable {b b' : Buffer} {edits : List Edit}

/-- The first line that a batch names and the document does not have. -/
def missingLine? (b : Buffer) (edits : List Edit) : Option Nat :=
  (edits.flatMap fun e => [e.span.start.line, e.span.stop.line]).find? (b.lineCount ≤ ·)

theorem spliceOf_start_le_stop (b : Buffer) (e : Edit) :
    (b.spliceOf e).start ≤ (b.spliceOf e).stop := Nat.le_max_right _ _

theorem missingLine?_eq_none :
    b.missingLine? edits = none ↔
      ∀ e ∈ edits, e.span.start.line < b.lineCount ∧ e.span.stop.line < b.lineCount := by
  simp [missingLine?]

/-- The splices of a batch, or the first line that is missing. -/
theorem mapM_resolve_eq (b : Buffer) (edits : List Edit) :
    edits.mapM b.resolve = match b.missingLine? edits with
      | some line => .error (.lineOutOfBounds line b.lineCount)
      | none => .ok (edits.map b.spliceOf) := by
  induction edits with
  | nil => rfl
  | cons e edits ih =>
    rw [List.mapM_cons, missingLine?, List.flatMap_cons]
    by_cases hstart : e.span.start.line < b.lineCount
    · by_cases hstop : e.span.stop.line < b.lineCount
      · rw [resolve_eq hstart hstop, ih, missingLine?]
        simp only [List.cons_append, List.nil_append, List.find?_cons, Nat.not_le.mpr hstart,
          Nat.not_le.mpr hstop, decide_false]
        cases (edits.flatMap fun e => [e.span.start.line, e.span.stop.line]).find?
          (b.lineCount ≤ ·) <;> rfl
      · simp only [List.cons_append, List.nil_append, List.find?_cons, Nat.not_le.mpr hstart,
          Nat.not_lt.mp hstop, decide_false, decide_true, resolve, toIndices, toIndex_eq hstart,
          toIndex_eq_error (Nat.not_lt.mp hstop)]
        rfl
    · simp only [List.cons_append, List.find?_cons, Nat.not_lt.mp hstart, decide_true, resolve,
        toIndices, toIndex_eq_error (Nat.not_lt.mp hstart)]
      rfl

/-- Splices of a document do not overlap if none of them reaches into another. -/
theorem pairwise_apart_iff :
    (edits.map b.spliceOf).Pairwise Splice.Apart ↔
      ∀ s t, [s, t].Sublist (edits.map b.spliceOf) → ¬ s.Overlaps t := by
  have hle : ∀ s ∈ edits.map b.spliceOf, s.start ≤ s.stop :=
    List.forall_mem_map.mpr fun e _ => spliceOf_start_le_stop b e
  rw [List.pairwise_iff_forall_sublist]
  refine forall₂_congr fun s t => forall_congr' fun hsub => ?_
  exact Splice.apart_iff (hle s (hsub.subset (by simp))) (hle t (hsub.subset (by simp)))

theorem spliceOf_stop_le_length {e : Edit} (hstart : e.span.start.line < b.lineCount)
    (hstop : e.span.stop.line < b.lineCount) : (b.spliceOf e).stop ≤ b.text.length :=
  Nat.max_le.mpr ⟨indexOf_le_length hstop, indexOf_le_length hstart⟩

/-- Edits that do not overlap are made at once. -/
theorem apply_eq_ok (hlines : b.missingLine? edits = none)
    (hapart : (edits.map b.spliceOf).Pairwise Splice.Apart) :
    b.apply edits = .ok ⟨Splice.applyAll (edits.map b.spliceOf) b.text⟩ := by
  have hss : ∀ s ∈ edits.map b.spliceOf, s.start ≤ s.stop ∧ s.stop ≤ b.text.length := by
    refine List.forall_mem_map.mpr fun e he => ⟨spliceOf_start_le_stop b e, ?_⟩
    obtain ⟨hstart, hstop⟩ := missingLine?_eq_none.mp hlines e he
    exact spliceOf_stop_le_length hstart hstop
  have hperm := List.mergeSort_perm (edits.map b.spliceOf) Splice.le
  have hsorted : ∀ s ∈ (edits.map b.spliceOf).mergeSort Splice.le,
      s.start ≤ s.stop ∧ s.stop ≤ b.text.length := fun s hs => hss s (hperm.mem_iff.mp hs)
  have hover := (Splice.firstOverlap?_mergeSort_eq_none_iff fun s hs => (hss s hs).1).mpr hapart
  have hord := Splice.apart_of_firstOverlap? (fun s hs => (hsorted s hs).1) hover
  have hfold := Splice.foldr_apply_eq hsorted hord
  rw [Splice.applyAll_mergeSort hapart] at hfold
  rw [apply_eq, mapM_resolve_eq, hlines]
  simp only [Except.bind, hover, hfold]

/-- A splice that reaches into another one is found, whatever the order of the batch. -/
theorem apply_eq_overlapping (hlines : b.missingLine? edits = none)
    (hapart : ¬ (edits.map b.spliceOf).Pairwise Splice.Apart) :
    ∃ start, b.apply edits = .error (.overlapping start) := by
  have hle : ∀ s ∈ edits.map b.spliceOf, s.start ≤ s.stop :=
    List.forall_mem_map.mpr fun e _ => spliceOf_start_le_stop b e
  rw [← Splice.firstOverlap?_mergeSort_eq_none_iff hle] at hapart
  obtain ⟨s, hover⟩ := Option.ne_none_iff_exists'.mp hapart
  refine ⟨s.edit.span.start, ?_⟩
  rw [apply_eq, mapM_resolve_eq, hlines]
  simp only [Except.bind, hover]

theorem apply_eq_missingLine {line : Nat} (hlines : b.missingLine? edits = some line) :
    b.apply edits = .error (.lineOutOfBounds line b.lineCount) := by
  rw [apply_eq, mapM_resolve_eq, hlines]
  rfl

/-- **A batch is one splice.** A batch is refused for the first line that it names and the document
does not have; else it is refused if two of its splices overlap; else all of them are made at once.
A refused batch leaves its host as it was, the document included. -/
theorem apply_splices (b : Buffer) (edits : List Edit) :
    (∀ line count, b.apply edits = .error (.lineOutOfBounds line count) ↔
      b.missingLine? edits = some line ∧ count = b.lineCount) ∧
    ((∃ start, b.apply edits = .error (.overlapping start)) ↔
      b.missingLine? edits = none ∧
        ∃ s t, [s, t].Sublist (edits.map b.spliceOf) ∧ s.Overlaps t) ∧
    (∀ b', b.apply edits = .ok b' ↔
      b.missingLine? edits = none ∧
        (∀ s t, [s, t].Sublist (edits.map b.spliceOf) → ¬ s.Overlaps t) ∧
        b' = ⟨Splice.applyAll (edits.map b.spliceOf) b.text⟩) ∧
    ∀ h : Host, h.buffer = b → ∀ err, b.apply edits = .error err → h.edit edits = (.error err, h) := by
  have hhost : ∀ h : Host, h.buffer = b → ∀ err, b.apply edits = .error err →
      h.edit edits = (.error err, h) := by
    rintro h rfl err herr
    simp only [Host.edit, herr]
  have hnot : (∃ s t, [s, t].Sublist (edits.map b.spliceOf) ∧ s.Overlaps t) ↔
      ¬ (edits.map b.spliceOf).Pairwise Splice.Apart := by
    simp only [pairwise_apart_iff, not_forall, not_not, exists_prop]
  rw [hnot]
  simp only [← pairwise_apart_iff]
  cases hlines : b.missingLine? edits with
  | some line =>
    have happly := apply_eq_missingLine hlines
    exact ⟨by simp [happly, eq_comm], by simp [happly], by simp [happly], hhost⟩
  | none =>
    by_cases hapart : (edits.map b.spliceOf).Pairwise Splice.Apart
    · have happly := apply_eq_ok hlines hapart
      exact ⟨by simp [happly], by simp [happly, hapart], by simp [happly, hapart, eq_comm], hhost⟩
    · obtain ⟨start, happly⟩ := apply_eq_overlapping hlines hapart
      exact ⟨by simp [happly], by simp [happly, hapart], by simp [happly, hapart], hhost⟩

/-- Two insertions keep their order and stand in front of what replaces the span behind them. -/
example : Splice.applyAll
    [⟨1, 2, ⟨⟨⟨0, 1⟩, ⟨0, 2⟩⟩, ['z']⟩⟩, ⟨1, 1, .insert ⟨0, 1⟩ ['x']⟩, ⟨1, 1, .insert ⟨0, 1⟩ ['y']⟩]
    ['a', 'b', 'c'] = ['a', 'x', 'y', 'z', 'c'] := by
  decide

end Buffer

end LiveSnippet
