import LiveSnippet.Proofs.Session.Routing
import LiveSnippet.Proofs.Text.BatchShift

/-!
# What a batch hands to parts

The edits of a batch go along the parts one after the other, and a part that one of them passes by
or is offered to is not handed any later one. So a part follows a beginning of the batch: edits in
front of it, and then perhaps one more that is offered to it. Of two parts the one behind follows at
least as many, and moves on wherever the one in front does.

## Main definitions

* `Routed.Handed`: the edits that a part follows
* `Routed.Under`: the edits of one part are among those of another one behind it

## Main results

* `handed_route`: every part follows a beginning of the batch
* `under_route`: parts behind follow more
-/

namespace LiveSnippet

variable {absorbs : Edit → Part → Bool} {e : Edit} {es done : List Edit} {r s : Routed}
  {rs : List Routed} {g g' : Growth}

namespace Routed

/-- The moves of a part that stands behind all of the edits. -/
def pushes (done : List Edit) : List (Edit × Growth) := done.map (·, .fixRight)

@[simp] theorem pushes_nil : pushes [] = [] := rfl

@[simp] theorem pushes_length (done : List Edit) : (pushes done).length = done.length :=
  List.length_map _

@[simp] theorem map_fst_pushes (done : List Edit) : (pushes done).map Prod.fst = done := by
  simp [pushes, Function.comp_def]

theorem pushes_snoc (done : List Edit) (e : Edit) :
    pushes (done ++ [e]) = pushes done ++ [(e, .fixRight)] := List.map_append

/-- All edits behind the first one, too, stand in front of the part. -/
theorem pairwise_pushes (done : List Edit) :
    (pushes done).Pairwise fun m _ => m.2 = .fixRight :=
  List.pairwise_map.mpr (List.pairwise_of_forall fun _ _ => rfl)

theorem give_moves_of (h : r.moves = pushes done) :
    (r.give e g).moves = pushes done ++ [(e, g)] := by rw [give_moves, h]

theorem absorb_moves_of (h : r.moves = pushes done) :
    (r.absorb e).moves = pushes done ++ [(e, .grow)] := by rw [absorb_moves, h]

/-- Parts that an edit pushes on have one more edit in front of them. -/
theorem moves_of_pushed {rs' : List Routed} (hrs : ∀ r ∈ rs, r.moves = pushes done)
    (hrs' : ∀ r₁ ∈ rs', ∃ r₀ ∈ rs, r₁ = r₀.give e .fixRight) :
    ∀ r₁ ∈ rs', r₁.moves = pushes (done ++ [e]) := by
  intro r₁ hr₁
  obtain ⟨r₀, hr₀, rfl⟩ := hrs' r₁ hr₁
  rw [give_moves_of (hrs r₀ hr₀), pushes_snoc]

/-- The part follows a beginning of the batch, all but the last edit in front of it, and the rest of
the batch does not end in front of it. -/
structure Handed (es : List Edit) (r : Routed) : Prop where
  edits : r.moves.map Prod.fst <+: es
  pushed : r.moves.Pairwise fun m _ => m.2 = .fixRight
  rest : ∀ f ∈ es.drop r.moves.length, r.part.range.start ≤ f.span.stop

/-- The second part is handed all edits of the first one, and its start moves on wherever the end of
the first one does. -/
def Under (r s : Routed) : Prop :=
  List.Forall₂ (fun m n => m.1 = n.1 ∧ (m.2.movesStop = true → n.2.movesStart = true)) r.moves
    (s.moves.take r.moves.length)

theorem Under.of_pushes (hr : r.moves = pushes done) (hs : pushes done <+: s.moves) :
    r.Under s := by
  obtain ⟨rest, hs⟩ := hs
  rw [Under, hr, ← hs, List.take_left, List.forall₂_same]
  intro m hm
  obtain ⟨f, -, rfl⟩ := List.mem_map.mp hm
  exact ⟨rfl, fun _ => rfl⟩

theorem Under.of_offered (hr : r.moves = pushes done ++ [(e, g)])
    (hs : pushes done ++ [(e, g')] <+: s.moves)
    (hg : g.movesStop = true → g'.movesStart = true) : r.Under s := by
  obtain ⟨rest, hs⟩ := hs
  have hlength : (pushes done ++ [(e, g)]).length = (pushes done ++ [(e, g')]).length := by simp
  rw [Under, hr, ← hs, hlength, List.take_left]
  refine List.rel_append (List.forall₂_same.mpr fun m hm => ?_) (.cons ⟨rfl, hg⟩ .nil)
  obtain ⟨f, -, rfl⟩ := List.mem_map.mp hm
  exact ⟨rfl, fun _ => rfl⟩

end Routed

open Routed

/-- What a part has been handed in front of a batch comes first. -/
theorem pushes_prefix_route (hrs : ∀ r ∈ rs, r.moves = pushes done)
    (h : r ∈ route absorbs es rs) : pushes done <+: r.moves := by
  induction es generalizing rs done with
  | nil => exact (hrs r h) ▸ List.prefix_rfl
  | cons e es ih =>
    rcases mem_route_cons h with ⟨hr, -⟩ | ⟨r₀, hr₀, -, h₀⟩ | ⟨rs', hr, hrs'⟩
    · exact (hrs r hr) ▸ List.prefix_rfl
    · rcases h₀ with ⟨-, rfl⟩ | ⟨-, rfl⟩
      · exact ⟨[(e, .grow)], (absorb_moves_of (hrs r₀ hr₀)).symm⟩
      · exact ⟨[(e, .fixLeft)], (give_moves_of (hrs r₀ hr₀)).symm⟩
    · have hpre := ih (moves_of_pushed hrs hrs') hr
      rw [pushes_snoc] at hpre
      exact (List.prefix_append _ _).trans hpre

theorem handed_offered (hadd : Edit.AddUp (done ++ e :: es)) (hcov : r.part.range.covers e.span)
    (hr : r.moves = pushes done ++ [(e, g)]) : Handed (done ++ e :: es) r := by
  have hmap : r.moves.map Prod.fst = done ++ [e] := by simp [hr]
  have hlen : r.moves.length = (done ++ [e]).length := by simp [hr]
  have hes : done ++ e :: es = (done ++ [e]) ++ es := by simp
  refine ⟨?_, ?_, ?_⟩
  · rw [hmap, hes]
    exact List.prefix_append _ _
  · rw [hr, List.pairwise_append]
    refine ⟨pairwise_pushes done, List.pairwise_singleton _ _, fun m hm _ _ => ?_⟩
    obtain ⟨f, -, rfl⟩ := List.mem_map.mp hm
    rfl
  · rw [hlen, hes, List.drop_left]
    intro f hf
    have hspan := hadd.1 e (by simp)
    have hafter := (List.pairwise_cons.mp (List.pairwise_append.mp hadd.2).2.1).1 f hf
    exact (((TrackedSpan.covers_iff.mp hcov).1.trans hspan).trans hafter.1).trans
      (hadd.1 f (by simp [hf]))

/-- **Beginnings.** Every part follows a beginning of the batch. -/
theorem handed_route (hrs : ∀ r ∈ rs, r.moves = pushes done) (hadd : Edit.AddUp (done ++ es))
    (h : r ∈ route absorbs es rs) : Handed (done ++ es) r := by
  induction es generalizing rs done with
  | nil =>
    have hr := hrs r h
    refine ⟨by simp [hr], ?_, by simp [hr]⟩
    rw [hr]
    exact pairwise_pushes done
  | cons e es ih =>
    rcases mem_route_cons h with ⟨hr, hstop⟩ | ⟨r₀, hr₀, hcov, h₀⟩ | ⟨rs', hr, hrs'⟩
    · have hmoves := hrs r hr
      refine ⟨by simp [hmoves], ?_, ?_⟩
      · rw [hmoves]
        exact pairwise_pushes done
      · rw [hmoves, pushes_length, List.drop_left]
        intro f hf
        refine (r.part.range.start_le_stop.trans hstop.le).trans ?_
        rcases List.mem_cons.mp hf with rfl | hf
        · exact le_rfl
        · have hafter := (List.pairwise_cons.mp (List.pairwise_append.mp hadd.2).2.1).1 f hf
          exact hafter.1.trans (hadd.1 f (by simp [hf]))
    · rcases h₀ with ⟨-, rfl⟩ | ⟨-, rfl⟩
      · exact handed_offered hadd hcov (absorb_moves_of (hrs r₀ hr₀))
      · exact handed_offered hadd hcov (give_moves_of (hrs r₀ hr₀))
    · have hsplit : done ++ e :: es = (done ++ [e]) ++ es := by simp
      rw [hsplit] at hadd ⊢
      exact ih (moves_of_pushed hrs hrs') hadd hr

/-- Of two parts that an edit is offered to, only the last one can absorb it. -/
theorem under_offer {absorbs : Part → Bool} (hrs : ∀ r ∈ rs, r.moves = pushes done) :
    (offer absorbs e rs).1.Pairwise Under := by
  induction rs with
  | nil => exact .nil
  | cons r rs ih =>
    rw [List.forall_mem_cons] at hrs
    rw [offer]
    split_ifs
    · -- The first part absorbs the edit, so no other one is offered it.
      exact List.pairwise_singleton _ _
    · refine List.pairwise_cons.mpr ⟨fun s hs => ?_, ih hrs.2⟩
      obtain ⟨s₀, hs₀, -, h₀⟩ := exists_of_mem_offer_fst hs
      rcases h₀ with ⟨-, rfl⟩ | ⟨-, rfl⟩
      · have hs₁ := absorb_moves_of (e := e) (hrs.2 s₀ hs₀)
        exact .of_offered (give_moves_of hrs.1) ⟨[], by rw [hs₁, List.append_nil]⟩ Bool.noConfusion
      · have hs₁ := give_moves_of (e := e) (g := .fixLeft) (hrs.2 s₀ hs₀)
        exact .of_offered (give_moves_of hrs.1) ⟨[], by rw [hs₁, List.append_nil]⟩ Bool.noConfusion
    · exact .nil

/-- **More behind.** Of two parts, the one behind is handed at least as much. -/
theorem under_route (hrs : ∀ r ∈ rs, r.moves = pushes done) :
    (route absorbs es rs).Pairwise Under := by
  induction es generalizing rs done with
  | nil =>
    exact List.pairwise_of_forall_mem_list fun r hr s hs =>
      .of_pushes (hrs r hr) (hrs s hs ▸ List.prefix_rfl)
  | cons e es ih =>
    rw [route]
    set endsBefore := fun r : Routed => decide (r.part.range.stop < e.span.stop)
    have hfront : ∀ r ∈ rs.takeWhile endsBefore, r.moves = pushes done :=
      fun r hr => hrs r ((List.takeWhile_prefix _).subset hr)
    have hdrop : ∀ r ∈ rs.dropWhile endsBefore, r.moves = pushes done :=
      fun r hr => hrs r ((List.dropWhile_suffix _).subset hr)
    have hrest : ∀ r ∈ (offer (absorbs e) e (rs.dropWhile endsBefore)).2,
        r.moves = pushes (done ++ [e]) := moves_of_pushed hdrop fun _ => exists_of_mem_offer_snd
    -- Three groups of parts: passed by, offered the edit, and behind it.
    refine List.pairwise_append.mpr ⟨List.pairwise_append.mpr ⟨?_, under_offer hdrop, ?_⟩,
      ih hrest, ?_⟩
    · exact List.pairwise_of_forall_mem_list fun r hr s hs =>
        .of_pushes (hfront r hr) (hfront s hs ▸ List.prefix_rfl)
    · intro r hr s hs
      obtain ⟨s₀, hs₀, -, h₀⟩ := exists_of_mem_offer_fst hs
      rcases h₀ with ⟨-, rfl⟩ | ⟨-, rfl⟩
      · exact .of_pushes (hfront r hr)
          (absorb_moves_of (hdrop s₀ hs₀) ▸ List.prefix_append _ _)
      · exact .of_pushes (hfront r hr)
          (give_moves_of (hdrop s₀ hs₀) ▸ List.prefix_append _ _)
    · intro r hr s hs
      have hpre := pushes_prefix_route hrest hs
      rw [pushes_snoc] at hpre
      rcases List.mem_append.mp hr with hr | hr
      · exact .of_pushes (hfront r hr) ((List.prefix_append _ _).trans hpre)
      · obtain ⟨r₀, hr₀, -, h₀⟩ := exists_of_mem_offer_fst hr
        rcases h₀ with ⟨-, rfl⟩ | ⟨-, rfl⟩
        · exact .of_offered (absorb_moves_of (hdrop r₀ hr₀)) hpre fun _ => rfl
        · exact .of_offered (give_moves_of (hdrop r₀ hr₀)) hpre fun _ => rfl

end LiveSnippet
