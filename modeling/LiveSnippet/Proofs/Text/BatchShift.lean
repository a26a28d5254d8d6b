import LiveSnippet.Proofs.Text.Extent
import LiveSnippet.Text.Tracked
import Mathlib.Algebra.BigOperators.Group.List.Basic

/-!
# Shifts of a batch

The shifts of a batch are measured against the document as it was and then added up. That is right
as long as no edit that touches the lines of the document stands behind an edit that has moved the
columns of the same line: such an edit resets or joins columns, and the sum does not know it.

An edge of a span is carried along from edit to edit: everything behind the last edit keeps its
distance from the end of that edit. `Edit.Carries` is this invariant, and `Edit.landing` is the
place where an edge ends up.

## Main definitions

* `Shift.Takes`: a shift that moves one position exactly to another
* `Edit.Carries`: the edits so far take everything behind one position to another one
* `Edit.AddUp`: the shifts of a batch may be added up
* `Edit.landing`: where an edge of a span ends up

## Main results

* `Edit.Carries.snoc`: one more edit
* `Edit.takes_landing`: the sum of the shifts takes an edge to its landing
* `Edit.landing_le_landing`: landings keep the order of edges
* `Span.batchShift_eq`, `Span.follow_eq`: a span follows a batch edge by edge
-/

namespace LiveSnippet

namespace Shift

variable {s t : Shift} {p q r : Position}

theorem eq_iff : s = t ↔ s.line = t.line ∧ s.character = t.character := by
  cases s
  cases t
  simp

@[simp] theorem zero_line : (0 : Shift).line = 0 := rfl

@[simp] theorem zero_character : (0 : Shift).character = 0 := rfl

@[simp] theorem add_line (s t : Shift) : (s + t).line = s.line + t.line := rfl

@[simp] theorem add_character (s t : Shift) :
    (s + t).character = s.character + t.character := rfl

instance : AddCommMonoid Shift where
  add_assoc s t u := by simp [eq_iff, Int.add_assoc]
  zero_add s := by simp [eq_iff]
  add_zero s := by simp [eq_iff]
  add_comm s t := by simp [eq_iff, Int.add_comm]
  nsmul := nsmulRec

/-- The shift moves `p` exactly to `q`. -/
def Takes (s : Shift) (p q : Position) : Prop :=
  (q.line : Int) = p.line + s.line ∧ (q.character : Int) = p.character + s.character

theorem takes_zero (p : Position) : (0 : Shift).Takes p p := by simp [Takes]

theorem takes_zero_iff : (0 : Shift).Takes p q ↔ p = q := by
  simp only [Takes, zero_line, zero_character, Position.eq_iff]
  omega

end Shift

namespace Position

/-- Neither coordinate is above the largest one. -/
def Addressable (p : Position) : Prop := p.line ≤ maxCoordinate ∧ p.character ≤ maxCoordinate

instance (p : Position) : Decidable p.Addressable := inferInstanceAs (Decidable (_ ∧ _))

theorem moveBy_eq {s : Shift} {p q : Position} (h : s.Takes p q) (hq : q.Addressable) :
    p.moveBy s = q := by
  obtain ⟨hl, hc⟩ := h
  obtain ⟨hl', hc'⟩ := hq
  simp only [eq_iff, moveBy, shiftCoordinate]
  omega

/-- A coordinate that is too large is cut off, so a move never goes beyond its aim. -/
theorem moveBy_le {s : Shift} {p q : Position} (h : s.Takes p q) : p.moveBy s ≤ q := by
  obtain ⟨hl, hc⟩ := h
  rw [le_iff]
  simp only [moveBy, shiftCoordinate]
  omega

end Position

namespace Shift

/-- The shift takes the position to coordinates that can be stored. -/
def Fits (s : Shift) (p : Position) : Prop :=
  (p.line : Int) + s.line ≤ maxCoordinate ∧ (p.character : Int) + s.character ≤ maxCoordinate

instance (s : Shift) (p : Position) : Decidable (s.Fits p) := inferInstanceAs (Decidable (_ ∧ _))

theorem Fits.addressable {s : Shift} {p q : Position} (h : s.Fits p) (hq : s.Takes p q) :
    q.Addressable := by
  obtain ⟨hl, hc⟩ := h
  obtain ⟨hl', hc'⟩ := hq
  simp only [Position.Addressable]
  omega

end Shift

namespace Edit

variable {e f : Edit} {es done : List Edit} {a b p q : Position} {k o : Extent} {moves : Bool}

/-- The edit lies on one line and puts in a part of a line. -/
def Inline (e : Edit) : Prop :=
  e.span.start.line = e.span.stop.line ∧ e.text.extent.breaks = 0

instance (e : Edit) : Decidable e.Inline := inferInstanceAs (Decidable (_ ∧ _))

/-- The shift of a position behind the edit. -/
def carry (e : Edit) (p : Position) : Shift :=
  ⟨e.shift.line, if p.line = e.span.stop.line then e.shift.character else 0⟩

theorem shiftEdge_behind (h : e.span.stop < p ∨ p = e.span.stop ∧ moves = true) :
    e.shiftEdge p moves = e.carry p := if_pos h

theorem shiftEdge_inside (h : ¬(e.span.stop < p ∨ p = e.span.stop ∧ moves = true))
    (hs : e.span.start < p) :
    e.shiftEdge p moves =
      ⟨e.span.start.line - p.line, e.span.start.character - p.character⟩ := by
  rw [shiftEdge, if_neg h, if_pos hs]

theorem shiftEdge_before (h : ¬(e.span.stop < p ∨ p = e.span.stop ∧ moves = true))
    (hs : ¬e.span.start < p) : e.shiftEdge p moves = 0 := by
  rw [shiftEdge, if_neg h, if_neg hs]

/-! ### Carrying everything behind a batch -/

/-- The shifts of a position behind all edits, added up. -/
def carrySum (es : List Edit) (p : Position) : Shift := (es.map fun e => e.carry p).sum

@[simp] theorem carrySum_nil (p : Position) : carrySum [] p = 0 := rfl

@[simp] theorem carrySum_cons (e : Edit) (es : List Edit) (p : Position) :
    carrySum (e :: es) p = e.carry p + carrySum es p := rfl

theorem carrySum_append (es fs : List Edit) (p : Position) :
    carrySum (es ++ fs) p = carrySum es p + carrySum fs p := by
  simp [carrySum]

/-- The shifts of the edits take everything behind `a` to the same distance behind `b`. -/
def Carries (es : List Edit) (a b : Position) : Prop :=
  ∀ x : Extent, (carrySum es (a + x)).Takes (a + x) (b + x)

theorem carries_nil (a : Position) : Carries [] a a := fun _ => Shift.takes_zero _

theorem Carries.takes (h : Carries es a b) (hp : a ≤ p) :
    (carrySum es p).Takes p (b + (p - a)) := by
  have := h (p - a)
  rwa [Position.add_sub_cancel_of_le hp] at this

/-- One more edit behind a batch. Either it stays on its line, or the columns on which it starts
have not moved. -/
theorem Carries.snoc (h : Carries es a b) (hs : e.span.start = a + k)
    (ht : e.span.stop = a + k + o) (hcol : e.Inline ∨ (b + k).character = (a + k).character) :
    Carries (es ++ [e]) (a + k + o) (b + k + e.text.extent) := by
  intro x
  have hx := h (k + (o + x))
  rw [← Position.add_assoc, ← Position.add_assoc, ← Position.add_assoc, ← Position.add_assoc] at hx
  rw [carrySum_append, carrySum_cons, carrySum_nil, add_zero]
  simp only [Shift.Takes, Shift.add_line, Shift.add_character] at hx ⊢
  generalize carrySum es (a + k + o + x) = s at hx ⊢
  generalize hu : e.text.extent = u at hcol ⊢
  simp only [Inline, hu, hs, ht] at hcol
  simp only [carry, shift, hu, hs, ht, Position.add_line, Position.add_character] at hx hcol ⊢
  split_ifs at hx hcol ⊢ <;> omega

theorem carrySum_character_eq_zero
    (h : ∀ f ∈ es, f.span.stop.line = p.line → f.shift.character = 0) :
    (carrySum es p).character = 0 := by
  induction es with
  | nil => rfl
  | cons f es ih =>
    rw [List.forall_mem_cons] at h
    rw [carrySum_cons, Shift.add_character, ih h.2, Int.add_zero]
    by_cases hl : p.line = f.span.stop.line
    · simp [carry, hl, h.1 hl.symm]
    · simp [carry, hl]

theorem carrySum_line_eq (p q : Position) (es : List Edit) :
    (carrySum es p).line = (carrySum es q).line := by
  induction es with
  | nil => rfl
  | cons f es ih => simpa [carry] using ih

/-! ### Batches whose shifts add up -/

/-- `e` stands behind `f`, and the columns of `e` do not depend on those that `f` has moved. -/
def Behind (f e : Edit) : Prop :=
  f.span.stop ≤ e.span.start ∧
    (f.span.stop.line = e.span.start.line → f.shift.character = 0 ∨ e.Inline)

instance (f e : Edit) : Decidable (f.Behind e) := inferInstanceAs (Decidable (_ ∧ (_ → _)))

/-- The shifts of the edits may be added up: the edits stand in the order of the document, and none
that touches the lines starts on a line whose columns an earlier one has moved. -/
def AddUp (es : List Edit) : Prop := (∀ e ∈ es, e.span.start ≤ e.span.stop) ∧ es.Pairwise Behind

instance (es : List Edit) : Decidable (AddUp es) := inferInstanceAs (Decidable (_ ∧ _))

theorem AddUp.sublist {fs : List Edit} (h : AddUp es) (hsub : fs.Sublist es) : AddUp fs :=
  ⟨fun e he => h.1 e (hsub.subset he), h.2.sublist hsub⟩

theorem Carries.snoc_of_behind (h : Carries done a b) (hbehind : ∀ f ∈ done, f.Behind e)
    (ha : a ≤ e.span.start) (hspan : e.span.start ≤ e.span.stop) :
    Carries (done ++ [e]) e.span.stop (b + (e.span.start - a) + e.text.extent) := by
  have hs := Position.add_sub_cancel_of_le ha
  have ht := Position.add_sub_cancel_of_le hspan
  have hcol : e.Inline ∨ (b + (e.span.start - a)).character =
      (a + (e.span.start - a)).character := by
    by_cases hin : e.Inline
    · exact Or.inl hin
    · -- No edit done so far has moved the columns of the line on which this one starts.
      have hsum := (h.takes ha).2
      rw [carrySum_character_eq_zero fun f hf hl =>
        ((hbehind f hf).2 hl).resolve_right hin] at hsum
      rw [hs]
      exact Or.inr (by omega)
  have hsnoc := h.snoc hs.symm (hs.symm ▸ ht.symm) hcol
  rwa [hs, ht] at hsnoc

/-! ### Where an edge ends up -/

/-- Where an edge `p` ends up. Everything behind `a` has been carried behind `b`; the edits to come
say whether an edge at their end moves on. -/
def landing (a b : Position) : List (Edit × Bool) → Position → Position
  | [], p => b + (p - a)
  | (e, moves) :: rest, p =>
    if e.span.stop < p ∨ p = e.span.stop ∧ moves = true then
      landing e.span.stop (b + (e.span.start - a) + e.text.extent) rest p
    else if e.span.start < p then b + (e.span.start - a)
    else b + (p - a)

/-- The shift of an edge under the edits, each with whether an edge at its end moves on. -/
def edgeShift (ms : List (Edit × Bool)) (p : Position) : Shift :=
  (ms.map fun m => m.1.shiftEdge p m.2).sum

theorem edgeShift_append (ms ns : List (Edit × Bool)) (p : Position) :
    edgeShift (ms ++ ns) p = edgeShift ms p + edgeShift ns p := by
  simp [edgeShift]

theorem edgeShift_singleton (e : Edit) (moves : Bool) (p : Position) :
    edgeShift [(e, moves)] p = e.shiftEdge p moves := by
  simp [edgeShift]

/-- An edge behind all edits, which moves on wherever one of them ends at it, is carried along. -/
theorem edgeShift_of_le (h : ∀ e ∈ es, e.span.stop ≤ p) :
    edgeShift (es.map (·, true)) p = carrySum es p := by
  rw [edgeShift, carrySum, List.map_map]
  refine congrArg List.sum (List.map_congr_left fun e he => ?_)
  refine shiftEdge_behind ((h e he).lt_or_eq.imp id fun heq => ⟨heq.symm, rfl⟩)

theorem edgeShift_eq_zero {ms : List (Edit × Bool)} (hstop : ∀ m ∈ ms, ¬(m.1.span.stop < p ∨
    p = m.1.span.stop ∧ m.2 = true)) (hstart : ∀ m ∈ ms, p ≤ m.1.span.start) :
    edgeShift ms p = 0 := by
  induction ms with
  | nil => rfl
  | cons m ms ih =>
    rw [List.forall_mem_cons] at hstop hstart
    have := ih hstop.2 hstart.2
    rw [edgeShift] at this ⊢
    rw [List.map_cons, List.sum_cons, this, shiftEdge_before hstop.1 (not_lt.mpr hstart.1)]
    rfl

/-- **The shifts add up.** The sum of the shifts of an edge takes it to its landing. -/
theorem takes_landing {ms : List (Edit × Bool)} (hadd : AddUp (done ++ ms.map Prod.fst))
    (hcarry : Carries done a b) (ha : ∀ m ∈ ms, a ≤ m.1.span.start) (hp : a ≤ p)
    (hmoves : ms.Pairwise fun m n => n.2 = true → m.2 = true) :
    (carrySum done p + edgeShift ms p).Takes p (landing a b ms p) := by
  induction ms generalizing done a b with
  | nil => simpa [edgeShift, landing] using hcarry.takes hp
  | cons m ms ih =>
    obtain ⟨e, moves⟩ := m
    have ha : a ≤ e.span.start := ha _ List.mem_cons_self
    rw [List.pairwise_cons] at hmoves
    have hpair := List.pairwise_append.mp hadd.2
    have hbehind : ∀ f ∈ done, f.Behind e := fun f hf => hpair.2.2 f hf e (by simp)
    have hafter : ∀ n ∈ ms, e.Behind n.1 := fun n hn =>
      (List.pairwise_cons.mp hpair.2.1).1 n.1 (List.mem_map_of_mem hn)
    have hspan : e.span.start ≤ e.span.stop := hadd.1 e (by simp)
    rw [edgeShift, List.map_cons, List.sum_cons, ← edgeShift, landing]
    by_cases hb : e.span.stop < p ∨ p = e.span.stop ∧ moves = true
    · rw [if_pos hb, shiftEdge_behind hb, ← add_assoc]
      have hadd' : AddUp ((done ++ [e]) ++ ms.map Prod.fst) := by simpa using hadd
      have hnext := ih hadd'
        (hcarry.snoc_of_behind hbehind ha hspan) (fun n hn => (hafter n hn).1)
        (hb.elim le_of_lt fun h => h.1.ge) hmoves.2
      simpa [carrySum_append] using hnext
    · -- The edge is not behind this edit, so the later edits stand behind the edge.
      rw [if_neg hb]
      have hle : p ≤ e.span.stop := not_lt.mp fun h => hb (Or.inl h)
      have hrest : edgeShift ms p = 0 := by
        refine edgeShift_eq_zero (fun n hn hn' => ?_) fun n hn => hle.trans (hafter n hn).1
        have hstop : e.span.stop ≤ n.1.span.stop :=
          (hafter n hn).1.trans (hadd.1 n.1 (by simp [List.mem_map_of_mem hn]))
        rcases hn' with hlt | ⟨heq, hmove⟩
        · exact absurd (hle.trans hstop) (not_le.mpr hlt)
        · exact hb (Or.inr ⟨le_antisymm hle (heq ▸ hstop), hmoves.1 n hn hmove⟩)
      rw [hrest, add_zero]
      by_cases hs : e.span.start < p
      · -- The edge is inside the edit and goes to its start, as far as that has been carried.
        rw [if_pos hs, shiftEdge_inside hb hs]
        obtain ⟨hline, hchar⟩ := hcarry.takes ha
        rw [carrySum_line_eq e.span.start p] at hline
        have hsum : (carrySum done p).character = (carrySum done e.span.start).character := by
          by_cases hl : p.line = e.span.start.line
          · simp only [carrySum, carry, hl]
          · -- The edit goes over a line end, so no column in front of it has moved.
            rw [Position.lt_iff] at hs
            rw [Position.le_iff] at hle
            rw [carrySum_character_eq_zero, carrySum_character_eq_zero]
            · intro f hf hfl
              refine ((hbehind f hf).2 hfl).resolve_right fun hin => ?_
              have := hin.1
              omega
            · intro f hf hfl
              have := (hbehind f hf).1
              rw [Position.le_iff] at this
              omega
        refine ⟨?_, ?_⟩ <;> simp only [Shift.add_line, Shift.add_character, hsum] <;> omega
      · rw [if_neg hs, shiftEdge_before hb hs, add_zero]
        exact hcarry.takes hp

/-- The shifts of a whole batch take an edge to its landing. -/
theorem takes_landing_origin {ms : List (Edit × Bool)} (hadd : AddUp (ms.map Prod.fst))
    (hmoves : ms.Pairwise fun m n => n.2 = true → m.2 = true) (p : Position) :
    (edgeShift ms p).Takes p (landing .origin .origin ms p) := by
  have h := takes_landing (hadd : AddUp ([] ++ ms.map Prod.fst)) (carries_nil .origin)
    (fun m _ => m.1.span.start.origin_le) p.origin_le hmoves
  rwa [carrySum_nil, zero_add] at h

theorem anchor_le_landing (a b : Position) (ms : List (Edit × Bool)) (p : Position) :
    b ≤ landing a b ms p := by
  induction ms generalizing a b with
  | nil => exact Position.le_add _ _
  | cons m ms ih =>
    rw [landing]
    split_ifs
    · exact ((Position.le_add _ _).trans (Position.le_add _ _)).trans (ih _ _)
    · exact Position.le_add _ _
    · exact Position.le_add _ _

/-- The same edit, which moves an edge at its end for `m` only if it does for `n`. -/
def Milder (m n : Edit × Bool) : Prop := m.1 = n.1 ∧ (m.2 = true → n.2 = true)

/-- **Landings keep the order of edges**, if the right edge moves on wherever the left one does. -/
theorem landing_le_landing {ms ns : List (Edit × Bool)} (ha : ∀ m ∈ ms, a ≤ m.1.span.start)
    (hp : a ≤ p) (hpq : p ≤ q) (hpair : (ms.map Prod.fst).Pairwise Behind)
    (hms : List.Forall₂ Milder ms ns) : landing a b ms p ≤ landing a b ns q := by
  induction hms generalizing a b with
  | nil => exact Position.add_sub_le_add_sub b hp hpq
  | @cons m n ms ns hmn hrest ih =>
    obtain ⟨e, moves⟩ := m
    obtain ⟨e', moves'⟩ := n
    obtain ⟨rfl, hmoves⟩ : e = e' ∧ (moves = true → moves' = true) := hmn
    rw [List.forall_mem_cons] at ha
    rw [List.map_cons, List.pairwise_cons] at hpair
    rw [landing, landing]
    by_cases hb : e.span.stop < p ∨ p = e.span.stop ∧ moves = true
    · have hb' : e.span.stop < q ∨ q = e.span.stop ∧ moves' = true := by
        rcases hb with h | ⟨h, hm⟩
        · exact Or.inl (h.trans_le hpq)
        · rcases (h ▸ hpq).lt_or_eq with hlt | heq
          · exact Or.inl hlt
          · exact Or.inr ⟨heq.symm, hmoves hm⟩
      rw [if_pos hb, if_pos hb']
      exact ih (fun n hn => (hpair.1 n.1 (List.mem_map_of_mem hn)).1)
        (hb.elim le_of_lt fun h => h.1.ge) hpair.2
    · rw [if_neg hb]
      have hleft : (if e.span.start < p then b + (e.span.start - a) else b + (p - a)) ≤
          b + (e.span.start - a) := by
        split_ifs with hs
        · exact le_rfl
        · exact Position.add_sub_le_add_sub b hp (not_lt.mp hs)
      split_ifs at hleft ⊢ with hs hb' hs' hb' hs'
      · exact ((hleft.trans (Position.le_add _ _)).trans (anchor_le_landing _ _ _ _))
      · exact le_rfl
      · exact absurd (hs.trans_le hpq) hs'
      · exact ((hleft.trans (Position.le_add _ _)).trans (anchor_le_landing _ _ _ _))
      · exact hleft
      · exact Position.add_sub_le_add_sub b hp hpq

/-- More edits that end behind an edge, and do not move it, take it no further. -/
theorem landing_append_le {ms ns : List (Edit × Bool)} (ha : ∀ m ∈ ms ++ ns, a ≤ m.1.span.start)
    (hp : a ≤ p) (hpair : ((ms ++ ns).map Prod.fst).Pairwise Behind)
    (hns : ∀ n ∈ ns, p ≤ n.1.span.stop ∧ n.2 = false) :
    landing a b (ms ++ ns) p ≤ landing a b ms p := by
  induction ms generalizing a b with
  | nil =>
    cases ns with
    | nil => exact le_rfl
    | cons n ns =>
      obtain ⟨e, moves⟩ := n
      obtain ⟨hstop, rfl⟩ : p ≤ e.span.stop ∧ moves = false := hns _ List.mem_cons_self
      rw [List.nil_append, landing, landing, if_neg (by simp [hstop])]
      split_ifs with hs
      · exact Position.add_sub_le_add_sub b (ha _ List.mem_cons_self) hs.le
      · exact le_rfl
  | cons m ms ih =>
    rw [List.cons_append, List.forall_mem_cons] at ha
    rw [List.cons_append, List.map_cons, List.pairwise_cons] at hpair
    rw [List.cons_append, landing, landing]
    split_ifs with hb hs
    · exact ih (fun n hn => (hpair.1 n.1 (List.mem_map_of_mem hn)).1)
        (hb.elim le_of_lt fun h => h.1.ge) hpair.2
    · exact le_rfl
    · exact le_rfl

/-- More edits that begin behind an edge, and do not move it, leave it where it is. -/
theorem landing_append_eq {ms ns : List (Edit × Bool)}
    (hns : ∀ n ∈ ns, p ≤ n.1.span.start ∧ n.1.span.start ≤ n.1.span.stop ∧ n.2 = false) :
    landing a b (ms ++ ns) p = landing a b ms p := by
  induction ms generalizing a b with
  | nil =>
    cases ns with
    | nil => rfl
    | cons n ns =>
      obtain ⟨e, moves⟩ := n
      obtain ⟨hstart, hspan, rfl⟩ := hns _ List.mem_cons_self
      rw [List.nil_append, landing, landing, if_neg (by simpa using hstart.trans hspan),
        if_neg (not_lt.mpr hstart)]
  | cons m ms ih =>
    rw [List.cons_append, landing, landing, ih]

/-- Landings keep the order of edges, also if the left edge has been handed fewer edits, as long as
the other ones begin behind it. -/
theorem landing_le_landing_of_take {ms ns : List (Edit × Bool)} (hadd : AddUp (ns.map Prod.fst))
    (ha : ∀ n ∈ ns, a ≤ n.1.span.start) (hp : a ≤ p) (hpq : p ≤ q)
    (hms : List.Forall₂ Milder ms (ns.take ms.length))
    (hrest : ∀ n ∈ ns.drop ms.length, p ≤ n.1.span.start) :
    landing a b ms p ≤ landing a b ns q := by
  -- The left edge may be handed the missing edits as well: they begin behind it and leave it alone.
  have hlast : List.Forall₂ Milder ((ns.drop ms.length).map fun n => (n.1, false))
      (ns.drop ms.length) :=
    List.forall₂_map_left_iff.mpr (List.forall₂_same.mpr fun n _ => ⟨rfl, Bool.noConfusion⟩)
  have hall : List.Forall₂ Milder (ms ++ (ns.drop ms.length).map fun n => (n.1, false)) ns := by
    have happ := List.rel_append hms hlast
    dsimp only at happ
    rwa [List.take_append_drop] at happ
  have hfst : (ms ++ (ns.drop ms.length).map fun n => (n.1, false)).map Prod.fst =
      ns.map Prod.fst := by
    rw [← List.forall₂_eq_eq_eq, List.forall₂_map_left_iff, List.forall₂_map_right_iff]
    exact hall.imp fun _ _ h => h.1
  have hlater : ∀ m ∈ (ns.drop ms.length).map fun n => (n.1, false),
      p ≤ m.1.span.start ∧ m.1.span.start ≤ m.1.span.stop ∧ m.2 = false := by
    intro m hm
    obtain ⟨n, hn, rfl⟩ := List.mem_map.mp hm
    exact ⟨hrest n hn, hadd.1 n.1 (List.mem_map_of_mem ((List.drop_sublist _ _).subset hn)), rfl⟩
  rw [← landing_append_eq hlater]
  refine landing_le_landing ?_ hp hpq (hfst ▸ hadd.2) hall
  intro m hm
  have hmem := hfst ▸ List.mem_map_of_mem (f := Prod.fst) hm
  obtain ⟨n, hn, heq⟩ := List.mem_map.mp hmem
  exact heq ▸ ha n hn

end Edit

namespace Span

/-- The shifts that a batch adds up for the two edges. -/
theorem batchShift_eq (s : Span) (moves : List (Edit × Growth)) :
    s.batchShift moves =
      (Edit.edgeShift (moves.map fun m => (m.1, m.2.movesStart)) s.start,
        Edit.edgeShift (moves.map fun m => (m.1, m.2.movesStop)) s.stop) := by
  have hfold : ∀ (ms : List (Edit × Growth)) (x : Shift × Shift),
      ms.foldl (fun sum m => let step := m.1.shiftSpan s m.2; (sum.1 + step.1, sum.2 + step.2)) x =
        (x.1 + Edit.edgeShift (ms.map fun m => (m.1, m.2.movesStart)) s.start,
          x.2 + Edit.edgeShift (ms.map fun m => (m.1, m.2.movesStop)) s.stop) := by
    intro ms
    induction ms with
    | nil => simp [Edit.edgeShift]
    | cons m ms ih =>
      intro x
      rw [List.foldl_cons, ih]
      simp [Edit.edgeShift, Edit.shiftSpan, add_assoc]
  rw [batchShift, hfold]
  simp

/-- A span follows a batch to the places to which its edges are taken. -/
theorem follow_eq {s : Span} {moves : List (Edit × Growth)} {p q : Position}
    (hstart : (s.batchShift moves).1.Takes s.start p)
    (hstop : (s.batchShift moves).2.Takes s.stop q) (hpq : p ≤ q) (hp : p.Addressable)
    (hq : q.Addressable) : s.follow moves = ⟨p, q⟩ := by
  simp only [follow, Position.moveBy_eq hstart hp, Position.moveBy_eq hstop hq]
  rw [max_eq_left hpq]

end Span

end LiveSnippet
