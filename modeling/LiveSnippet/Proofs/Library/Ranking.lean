import LiveSnippet.Library
import LiveSnippet.Proofs.Template.Entries

/-!
# Templates by descending priority

The templates that a language can use are reordered by descending priority, and those of one
priority stay in their order. Where a template stands decides which automatic one wins, so the order
is stated apart from the sort that brings it about: it says where every template goes, and there is
no other way to rank the same templates.

## Main definitions

* `Template.ofPriority`: the templates of one priority
* `Template.Ranks`: templates reordered by descending priority, those of one priority in their order

## Main results

* `Template.Ranks.unique`: templates can be ranked in one way only
* `Template.Ranks.perm`: nothing is lost or duplicated
* `Library.ranks_templatesFor`: what a language can use is ranked
-/

namespace LiveSnippet

namespace Template

variable {ts us vs : List Template} {t u : Template} {p : Int}

/-- The templates of one priority. -/
def ofPriority (p : Int) (ts : List Template) : List Template := ts.filter (·.priority == p)

theorem ofPriority_append (p : Int) (ts us : List Template) :
    ofPriority p (ts ++ us) = ofPriority p ts ++ ofPriority p us := List.filter_append ..

theorem ofPriority_cons_of_eq (h : t.priority = p) (ts : List Template) :
    ofPriority p (t :: ts) = t :: ofPriority p ts :=
  List.filter_cons_of_pos (beq_iff_eq.mpr h)

theorem ofPriority_cons_of_ne (h : t.priority ≠ p) (ts : List Template) :
    ofPriority p (t :: ts) = ofPriority p ts :=
  List.filter_cons_of_neg (by rwa [beq_iff_eq])

theorem mem_ofPriority : t ∈ ofPriority p ts ↔ t ∈ ts ∧ t.priority = p := by
  rw [ofPriority, List.mem_filter, beq_iff_eq]

/-- Lists that agree on the templates of every priority have the same members. -/
theorem mem_of_ofPriority_eq (h : ∀ p, ofPriority p us = ofPriority p vs) (ht : t ∈ us) :
    t ∈ vs := by
  have hmem : t ∈ ofPriority t.priority us := mem_ofPriority.mpr ⟨ht, rfl⟩
  rw [h] at hmem
  exact (mem_ofPriority.mp hmem).1

/-- The templates `us` are `ts` by descending priority, and those of one priority have kept their
order. -/
structure Ranks (ts us : List Template) : Prop where
  descending : us.Pairwise fun t u => u.priority ≤ t.priority
  stable : ∀ p, ofPriority p us = ofPriority p ts

theorem priority_le_head (h : (t :: ts).Pairwise fun t u => u.priority ≤ t.priority)
    (hu : u ∈ t :: ts) : u.priority ≤ t.priority := by
  rcases List.mem_cons.mp hu with rfl | hu
  · exact Int.le_refl _
  · exact List.rel_of_pairwise_cons h hu

/-- Templates by descending priority are known from those of each priority. -/
theorem eq_of_ofPriority_eq (hus : us.Pairwise fun t u => u.priority ≤ t.priority)
    (hvs : vs.Pairwise fun t u => u.priority ≤ t.priority)
    (hsame : ∀ p, ofPriority p us = ofPriority p vs) : us = vs := by
  induction us generalizing vs with
  | nil =>
    refine (List.eq_nil_iff_forall_not_mem.mpr fun v hv => ?_).symm
    exact List.not_mem_nil (mem_of_ofPriority_eq (fun p => (hsame p).symm) hv)
  | cons u us ih =>
    cases vs with
    | nil => exact (List.not_mem_nil (mem_of_ofPriority_eq hsame List.mem_cons_self)).elim
    | cons v vs =>
      -- Each head is in the other list, so both have the largest priority of all, and both are the
      -- first of that priority.
      have huv : u.priority ≤ v.priority :=
        priority_le_head hvs (mem_of_ofPriority_eq hsame List.mem_cons_self)
      have hvu : v.priority ≤ u.priority :=
        priority_le_head hus (mem_of_ofPriority_eq (fun p => (hsame p).symm) List.mem_cons_self)
      have hpriority : v.priority = u.priority := Int.le_antisymm hvu huv
      have hfirst := hsame u.priority
      rw [ofPriority_cons_of_eq rfl, ofPriority_cons_of_eq hpriority] at hfirst
      obtain ⟨rfl, hrest⟩ := List.cons.inj hfirst
      refine congrArg (u :: ·) (ih hus.of_cons hvs.of_cons fun p => ?_)
      by_cases hp : u.priority = p
      · exact hp ▸ hrest
      · have hp' := hsame p
        rwa [ofPriority_cons_of_ne hp, ofPriority_cons_of_ne hp] at hp'

/-- Templates can be ranked in one way only. -/
theorem Ranks.unique (hus : Ranks ts us) (hvs : Ranks ts vs) : us = vs :=
  eq_of_ofPriority_eq hus.descending hvs.descending fun p =>
    (hus.stable p).trans (hvs.stable p).symm

theorem priority_ge_trans (t u v : Template) (htu : decide (u.priority ≤ t.priority))
    (huv : decide (v.priority ≤ u.priority)) : decide (v.priority ≤ t.priority) :=
  decide_eq_true (Int.le_trans (of_decide_eq_true huv) (of_decide_eq_true htu))

theorem priority_ge_total (t u : Template) :
    decide (u.priority ≤ t.priority) || decide (t.priority ≤ u.priority) := by
  rw [Bool.or_eq_true, decide_eq_true_eq, decide_eq_true_eq]
  exact Int.le_total _ _

theorem ranks_mergeSort (ts : List Template) :
    Ranks ts (ts.mergeSort fun t u => decide (u.priority ≤ t.priority)) where
  descending :=
    (List.pairwise_mergeSort priority_ge_trans priority_ge_total ts).imp of_decide_eq_true
  stable p := by
    rw [ofPriority, ofPriority, ← mergeSort_filter priority_ge_trans priority_ge_total]
    refine List.mergeSort_of_pairwise (List.pairwise_of_forall_mem_list fun t ht u hu => ?_)
    rw [(mem_ofPriority.mp ht).2, (mem_ofPriority.mp hu).2]
    exact decide_eq_true (Int.le_refl p)

theorem Ranks.perm (h : Ranks ts us) : us.Perm ts := by
  rw [h.unique (ranks_mergeSort ts)]
  exact List.mergeSort_perm _ _

end Template

namespace Library

/-- The templates for everywhere, as far as a language does not have them as its own. -/
def sharedWith (library : Library) (language : Text) : List Template :=
  if language = everywhere then [] else library.templates everywhere

theorem ranks_templatesFor (library : Library) (language : Text) :
    Template.Ranks (library.templates language ++ library.sharedWith language)
      (library.templatesFor language) := Template.ranks_mergeSort _

end Library

end LiveSnippet
