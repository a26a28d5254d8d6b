import LiveSnippet.Proofs.Library.Ranking
import Mathlib.Algebra.BigOperators.Group.Finset.Piecewise

/-!
# What has been added to a library

A library keeps its languages in ascending order, so that each is there once, and a source goes
behind what its language has. After any additions a language therefore has the templates of the
sources that were added for it, in the order of the additions, whatever was added for other
languages in between. Which templates a language can use, and in which order, depends on its own
additions and on those for everywhere. All of this holds however sources are compiled.

## Main definitions

* `Addition`, `Library.addSources`: sources added one after the other
* `Library.additionsFor`, `Library.added`: the additions for a language, and their templates
* `Library.Ascending`: the languages ascend

## Main results

* `Library.lookup_addTemplates_of_ne`: an addition changes nothing for other languages
* `Library.templates_addSources`: a language has what was added for it
* `Library.size_addSources`: the size of a library is the total over its languages
* `Library.templatesFor_addSources`: what a language can use after any additions
-/

namespace LiveSnippet

/-- A source and the language for which it is added. -/
structure Addition where
  language : Text
  source : Text
deriving DecidableEq, Repr

namespace Library

variable {compiler : Text → CompiledFile} {library : Library} {k l : Text} {ts : List Template}
  {languages : List (Text × List Template)}

/-! ### Histories -/

/-- Adds sources one after the other, given how they are compiled. -/
def addSources (compiler : Text → CompiledFile) (library : Library) (xs : List Addition) :
    Library :=
  xs.foldl (fun library x => library.addSourceBy compiler x.language x.source) library

/-- The additions for a language. -/
def additionsFor (l : Text) (xs : List Addition) : List Addition := xs.filter (·.language == l)

/-- The templates that the additions for a language compile to. -/
def added (compiler : Text → CompiledFile) (l : Text) (xs : List Addition) : List Template :=
  (additionsFor l xs).flatMap fun x => (compiler x.source).templates

/-- Those of the additions for everywhere, as far as they are not the language's own. -/
def addedShared (compiler : Text → CompiledFile) (l : Text) (xs : List Addition) :
    List Template :=
  if l = everywhere then [] else added compiler everywhere xs

theorem added_cons (k : Text) (x : Addition) (xs : List Addition) :
    added compiler k (x :: xs) =
      (if x.language = k then (compiler x.source).templates else []) ++ added compiler k xs := by
  rw [added, additionsFor, List.filter_cons]
  by_cases h : x.language = k
  · rw [if_pos h, if_pos (beq_iff_eq.mpr h), List.flatMap_cons]
    rfl
  · rw [if_neg h, if_neg (by rwa [beq_iff_eq])]
    rfl

/-! ### Languages -/

/-- The languages ascend, so that none is there twice. -/
def Ascending (languages : List (Text × List Template)) : Prop :=
  languages.Pairwise fun x y => x.1 < y.1

/-- Templates are added to a language that is there, or under its own. -/
theorem forall_mem_addTemplates {P : Text → Prop} (hl : P l) (h : ∀ x ∈ languages, P x.1) :
    ∀ x ∈ addTemplates l ts languages, P x.1 := by
  induction languages with
  | nil => exact List.forall_mem_singleton.mpr hl
  | cons y languages ih =>
    rw [addTemplates]
    obtain ⟨hy, hrest⟩ := List.forall_mem_cons.mp h
    split_ifs
    · exact List.forall_mem_cons.mpr ⟨hy, hrest⟩
    · exact List.forall_mem_cons.mpr ⟨hl, h⟩
    · exact List.forall_mem_cons.mpr ⟨hy, ih hrest⟩

theorem Ascending.addTemplates (h : Ascending languages) :
    Ascending (addTemplates l ts languages) := by
  induction languages with
  | nil => exact List.pairwise_singleton _ _
  | cons y languages ih =>
    rw [Library.addTemplates]
    obtain ⟨hy, hrest⟩ := List.pairwise_cons.mp h
    split_ifs with heq hlt
    · exact List.pairwise_cons.mpr ⟨hy, hrest⟩
    · refine List.pairwise_cons.mpr ⟨List.forall_mem_cons.mpr ⟨hlt, ?_⟩, h⟩
      exact fun x hx => List.lt_trans hlt (hy x hx)
    · have hbehind : y.1 < l := Std.lt_of_le_of_ne (Std.not_lt.mp hlt) (Ne.symm heq)
      exact List.pairwise_cons.mpr ⟨forall_mem_addTemplates hbehind hy, ih hrest⟩

theorem lookup_eq_none (h : ∀ x ∈ languages, l < x.1) : languages.lookup l = none :=
  List.lookup_eq_none_iff.mpr fun x hx => bne_iff_ne.mpr (Std.ne_of_lt (h x hx))

theorem lookup_cons_of_ne {us : List Template} (h : k ≠ l) :
    List.lookup k ((l, us) :: languages) = languages.lookup k := by
  rw [List.lookup_cons, beq_eq_false_iff_ne.mpr h]

/-- The other languages keep what they have. -/
theorem lookup_addTemplates_of_ne (h : k ≠ l) :
    (Library.addTemplates l ts languages).lookup k = languages.lookup k := by
  induction languages with
  | nil => exact lookup_cons_of_ne h
  | cons y languages ih =>
    obtain ⟨m, us⟩ := y
    rw [Library.addTemplates]
    split_ifs with heq hlt
    · subst heq
      rw [lookup_cons_of_ne h, lookup_cons_of_ne h]
    · exact lookup_cons_of_ne h
    · by_cases hk : k = m
      · rw [hk, List.lookup_cons_self, List.lookup_cons_self]
      · rw [lookup_cons_of_ne hk, lookup_cons_of_ne hk, ih]

/-- Templates go behind what their language has. -/
theorem lookup_addTemplates_self (h : Ascending languages) :
    (Library.addTemplates l ts languages).lookup l = some ((languages.lookup l).getD [] ++ ts) := by
  induction languages with
  | nil => exact List.lookup_cons_self
  | cons y languages ih =>
    obtain ⟨m, us⟩ := y
    obtain ⟨hy, hrest⟩ := List.pairwise_cons.mp h
    rw [Library.addTemplates]
    split_ifs with heq hlt
    · subst heq
      rw [List.lookup_cons_self, List.lookup_cons_self]
      rfl
    · -- The language is new, since all that are there come behind it.
      have hnone : List.lookup l ((m, us) :: languages) = none :=
        lookup_eq_none (List.forall_mem_cons.mpr ⟨hlt, fun x hx => List.lt_trans hlt (hy x hx)⟩)
      rw [hnone]
      exact List.lookup_cons_self
    · rw [lookup_cons_of_ne heq, lookup_cons_of_ne heq, ih hrest]

/-- All templates are those of some languages, where a language that is not there has none. -/
theorem length_flatMap_eq_sum (h : Ascending languages) {s : Finset Text}
    (hs : ∀ x ∈ languages, x.1 ∈ s) :
    (languages.flatMap (·.2)).length = ∑ l ∈ s, ((languages.lookup l).getD []).length := by
  induction languages with
  | nil => exact (Finset.sum_eq_zero fun _ _ => rfl).symm
  | cons y languages ih =>
    obtain ⟨m, us⟩ := y
    obtain ⟨hy, hrest⟩ := List.pairwise_cons.mp h
    obtain ⟨hm, hs⟩ := List.forall_mem_cons.mp hs
    have hlookup : ∀ l ∈ s, (((m, us) :: languages).lookup l |>.getD []).length =
        (if l = m then us.length else 0) + ((languages.lookup l).getD []).length := by
      intro l _
      split_ifs with hl
      · rw [hl, List.lookup_cons_self, lookup_eq_none hy]
        rfl
      · rw [lookup_cons_of_ne hl, Nat.zero_add]
    rw [Finset.sum_congr rfl hlookup, Finset.sum_add_distrib, Finset.sum_ite_eq' s m, if_pos hm,
      ← ih hrest hs, List.flatMap_cons, List.length_append]

/-! ### Libraries after additions -/

theorem ascending_empty : Ascending empty.languages := List.Pairwise.nil

theorem templates_addSourceBy (h : Ascending library.languages) (x : Addition) (k : Text) :
    (library.addSourceBy compiler x.language x.source).templates k =
      library.templates k ++ if x.language = k then (compiler x.source).templates else [] := by
  rw [templates, templates, addSourceBy, addFileBy]
  dsimp only
  split_ifs with hk
  · subst hk
    rw [lookup_addTemplates_self h, Option.getD_some]
  · rw [lookup_addTemplates_of_ne (Ne.symm hk), List.append_nil]

theorem ascending_addSources (h : Ascending library.languages) (xs : List Addition) :
    Ascending (library.addSources compiler xs).languages := by
  induction xs generalizing library with
  | nil => exact h
  | cons x xs ih => exact ih h.addTemplates

/-- A language has what it had and, behind it, what was added for it. -/
theorem templates_addSources (h : Ascending library.languages) (xs : List Addition) (k : Text) :
    (library.addSources compiler xs).templates k = library.templates k ++ added compiler k xs := by
  induction xs generalizing library with
  | nil => exact (List.append_nil _).symm
  | cons x xs ih =>
    rw [added_cons, ← List.append_assoc, ← templates_addSourceBy h]
    exact ih h.addTemplates

theorem language_mem_addSources {s : Finset Text} (h : ∀ x ∈ library.languages, x.1 ∈ s)
    {xs : List Addition} (hxs : ∀ x ∈ xs, x.language ∈ s) :
    ∀ x ∈ (library.addSources compiler xs).languages, x.1 ∈ s := by
  induction xs generalizing library with
  | nil => exact h
  | cons x xs ih =>
    obtain ⟨hx, hxs⟩ := List.forall_mem_cons.mp hxs
    exact ih (forall_mem_addTemplates hx h) hxs

theorem size_addSources (xs : List Addition) :
    (empty.addSources compiler xs).size =
      ∑ m ∈ (xs.map (·.language)).toFinset,
        ((empty.addSources compiler xs).templates m).length := by
  refine length_flatMap_eq_sum (ascending_addSources ascending_empty xs) ?_
  refine language_mem_addSources (List.forall_mem_nil _) fun x hx => ?_
  exact List.mem_toFinset.mpr (List.mem_map_of_mem hx)

/-- What a language can use is what was added for it and for everywhere, ranked. -/
theorem ranks_addSources (compiler : Text → CompiledFile) (l : Text) (xs : List Addition) :
    Template.Ranks (added compiler l xs ++ addedShared compiler l xs)
      ((empty.addSources compiler xs).templatesFor l) := by
  have htemplates : ∀ m, (empty.addSources compiler xs).templates m = added compiler m xs :=
    templates_addSources ascending_empty xs
  have hranks := ranks_templatesFor (empty.addSources compiler xs) l
  rwa [sharedWith, htemplates, htemplates] at hranks

open Template in
/-- **Selections ignore unrelated additions.** After any additions, a language has the templates
that were added for it, in the order of the additions. It can use them and, behind them, those for
everywhere, ranked. So the same additions for it and for everywhere give it the same templates,
whatever is added in between; nothing is lost or duplicated; and of the templates of one priority
its own come first. The size of the library is the total over its languages. -/
theorem templatesFor_addSources (compiler : Text → CompiledFile) (l : Text) (xs : List Addition) :
    (∀ m, (empty.addSources compiler xs).templates m = added compiler m xs) ∧
    (∀ ys, additionsFor l ys = additionsFor l xs →
      additionsFor everywhere ys = additionsFor everywhere xs →
      (empty.addSources compiler ys).templatesFor l =
        (empty.addSources compiler xs).templatesFor l) ∧
    Ranks (added compiler l xs ++ addedShared compiler l xs)
      ((empty.addSources compiler xs).templatesFor l) ∧
    ((empty.addSources compiler xs).templatesFor l).Perm
      (added compiler l xs ++ addedShared compiler l xs) ∧
    (∀ p, ofPriority p ((empty.addSources compiler xs).templatesFor l) =
      ofPriority p (added compiler l xs) ++ ofPriority p (addedShared compiler l xs)) ∧
    (empty.addSources compiler xs).size =
      ∑ m ∈ (xs.map (·.language)).toFinset,
        ((empty.addSources compiler xs).templates m).length := by
  have hranks := ranks_addSources compiler l xs
  refine ⟨templates_addSources ascending_empty xs, ?agree, hranks, hranks.perm, ?equal,
    size_addSources xs⟩
  case agree =>
    intro ys hown hshared
    have hys := ranks_addSources compiler l ys
    rw [added, addedShared, added, hown, hshared] at hys
    exact hys.unique hranks
  case equal =>
    intro p
    rw [hranks.stable p, ofPriority_append]

/-- A source for another language comes in between, and the one for everywhere is added first. The
same templates can be used, and that for everywhere comes behind the others of its priority. -/
theorem templatesFor_addSources_interleaved :
    let ab : Addition :=
      ⟨"md".toList, "snippet a\nendsnippet\npriority 1\nsnippet b\nendsnippet".toList⟩
    let c : Addition := ⟨"md".toList, "priority 1\nsnippet c\nendsnippet".toList⟩
    let d : Addition := ⟨"all".toList, "priority 1\nsnippet d\nendsnippet".toList⟩
    let e : Addition := ⟨"tex".toList, "priority 1\nsnippet\nendsnippet\nsnippet e".toList⟩
    (empty.addSources compile [d, ab, e, c]).templatesFor "md".toList =
      (empty.addSources compile [ab, c, d]).templatesFor "md".toList ∧
    (Template.ofPriority 1 ((empty.addSources compile [ab, c, d]).templatesFor "md".toList)).map
      (·.name) = [['b'], ['c'], ['d']] := by
  intro ab c d e
  obtain ⟨-, hagree, -, -, hequal, -⟩ := templatesFor_addSources compile "md".toList [ab, c, d]
  refine ⟨hagree _ (by decide) (by decide), ?_⟩
  rw [hequal]
  decide +kernel

end Library

end LiveSnippet
