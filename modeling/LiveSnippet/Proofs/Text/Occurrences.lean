import LiveSnippet.Proofs.Text.Replacing
import Mathlib.Data.List.Infix

/-!
# Occurrences

The occurrences of a word in a text are looked for from left to right, each behind the last one. That
fixes the pieces of the text between them. Splitting gives these pieces, replacing puts something
else between them, and counting finds one occurrence less than there are pieces: the three scans of
the text agree on where the word occurs, also where occurrences could overlap, stand next to each
other or at the ends.

## Main definitions

* `Text.CutAt`: the pieces of a text between the occurrences of a word

## Main results

* `Text.CutAt.unique`: there is one way to cut a text
* `Text.CutAt.join_eq`: the pieces with the word between them are the text
* `Text.cutAt_splitOn`: splitting cuts a text
* `Text.length_splitOn`: there is one piece more than there are occurrences
-/

namespace LiveSnippet.Text

/-- The pieces of a text between the occurrences of `needle`: the first occurrence is looked for, and
then the text behind it is cut. -/
inductive CutAt (needle : Text) : Text → List Text → Prop
  | whole {text : Text} (h : ¬ needle <:+: text) : CutAt needle text [text]
  | first {front rest : Text} {pieces : List Text}
      (hfirst : ∀ i < front.length, ¬ needle <+: (front ++ (needle ++ rest)).drop i)
      (hrest : CutAt needle rest pieces) : CutAt needle (front ++ (needle ++ rest)) (front :: pieces)

variable {needle text front rest : Text} {pieces : List Text}

/-- Without anything between them, pieces are put one behind the other. -/
theorem join_nil (pieces : List Text) : join [] pieces = pieces.flatten := by
  induction pieces with
  | nil => rfl
  | cons p pieces ih =>
    cases pieces with
    | nil => simp [join]
    | cons q rest =>
      rw [join, List.intercalate_cons_cons, List.append_nil, ← join, ih]
      rfl

namespace CutAt

theorem ne_nil (h : CutAt needle text pieces) : pieces ≠ [] := by
  cases h <;> exact List.cons_ne_nil _ _

/-- The pieces with the word between them are the text. -/
theorem join_eq (h : CutAt needle text pieces) : join needle pieces = text := by
  induction h with
  | whole _ => exact List.intercalate_singleton
  | @first front rest pieces _ hrest ih =>
    obtain ⟨p, ps, rfl⟩ := List.exists_cons_of_ne_nil hrest.ne_nil
    rw [join, List.intercalate_cons_cons, List.append_assoc]
    exact congrArg (fun t => front ++ (needle ++ t)) ih

/-- The first occurrence is at one place only. -/
theorem front_unique {front' rest' : Text}
    (hfirst : ∀ i < front.length, ¬ needle <+: (front ++ (needle ++ rest)).drop i)
    (hfirst' : ∀ i < front'.length, ¬ needle <+: (front' ++ (needle ++ rest')).drop i)
    (h : front ++ (needle ++ rest) = front' ++ (needle ++ rest')) : front = front' ∧ rest = rest' := by
  have hhere (p t : Text) : needle <+: (p ++ (needle ++ t)).drop p.length := by
    rw [List.drop_left]
    exact List.prefix_append _ _
  have hlength : front.length = front'.length := by
    apply Nat.le_antisymm <;> by_contra hlt <;> rw [Nat.not_le] at hlt
    · exact hfirst _ hlt (h ▸ hhere front' rest')
    · exact hfirst' _ hlt (h ▸ hhere front rest)
  obtain ⟨rfl, hback⟩ := List.append_inj h hlength
  exact ⟨rfl, List.append_cancel_left hback⟩

/-- There is one way to cut a text. -/
theorem unique {pieces' : List Text} (h : CutAt needle text pieces)
    (h' : CutAt needle text pieces') : pieces = pieces' := by
  have hoccurs (front rest : Text) : needle <:+: front ++ (needle ++ rest) :=
    ⟨front, rest, List.append_assoc _ _ _⟩
  induction h generalizing pieces' with
  | whole hnone =>
    cases h' with
    | whole _ => rfl
    | first _ _ => exact absurd (hoccurs _ _) hnone
  | @first front rest pieces hfirst hrest ih =>
    generalize htext : front ++ (needle ++ rest) = text at h'
    cases h' with
    | whole hnone =>
      rw [← htext] at hnone
      exact absurd (hoccurs _ _) hnone
    | first hfirst' hrest' =>
      obtain ⟨rfl, rfl⟩ := front_unique hfirst hfirst' htext
      rw [ih hrest']

end CutAt

/-! ### Splitting -/

theorem splitFrom_done (needle : Text) (done : List Text) (piece : Text) (skip : Nat)
    (text : Text) :
    splitFrom needle done piece skip text = done.reverse ++ splitFrom needle [] piece skip text := by
  induction text generalizing done piece skip with
  | nil => simp [splitFrom]
  | cons c text ih =>
    cases skip with
    | succ skip => exact ih done piece skip
    | zero =>
      rw [splitFrom, splitFrom]
      split_ifs
      · rw [ih (piece.reverse :: done), ih [piece.reverse]]
        simp
      · exact ih done (c :: piece) 0

theorem splitFrom_skip (needle : Text) (done : List Text) (piece : Text) (skip : Nat)
    (text : Text) :
    splitFrom needle done piece skip text = splitFrom needle done piece 0 (text.drop skip) := by
  induction text generalizing skip with
  | nil => rw [List.drop_nil, splitFrom, splitFrom]
  | cons c text ih =>
    cases skip with
    | succ skip => exact ih skip
    | zero => rfl

/-- Behind the first character of an occurrence, the rest of it is passed over. -/
theorem eq_append_of_isPrefixOf {c : Char} (hne : needle ≠ [])
    (h : needle.isPrefixOf (c :: text) = true) :
    c :: text = needle ++ text.drop (needle.length - 1) := by
  obtain ⟨d, tail, rfl⟩ := List.exists_cons_of_ne_nil hne
  obtain ⟨back, hback⟩ := List.isPrefixOf_iff_prefix.mp h
  rw [List.cons_append] at hback
  obtain ⟨rfl, rfl⟩ := List.cons.inj hback
  simp

/-- Splitting goes on with a piece that has been begun, if no occurrence begins in it. -/
theorem cutAt_splitFrom (hne : needle ≠ []) (piece text : Text)
    (hpiece : ∀ i < piece.length, ¬ needle <+: (piece.reverse ++ text).drop i) :
    CutAt needle (piece.reverse ++ text) (splitFrom needle [] piece 0 text) := by
  induction hn : text.length using Nat.strong_induction_on generalizing text piece with
  | _ n ih =>
    cases text with
    | nil =>
      rw [splitFrom, List.append_nil]
      refine .whole ?_
      rintro ⟨front, rest, hinfix⟩
      refine hpiece front.length ?_ ?_
      · have hlength := congrArg List.length hinfix
        have hpos := List.length_pos_iff.mpr hne
        simp only [List.length_append, List.length_reverse] at hlength
        omega
      · rw [List.append_nil, ← hinfix, List.append_assoc, List.drop_left]
        exact List.prefix_append _ _
    | cons c rest =>
      rw [splitFrom]
      split_ifs with hhere
      · have hlt : (rest.drop (needle.length - 1)).length < n := by
          rw [← hn, List.length_drop, List.length_cons]
          omega
        have hrest := ih _ hlt [] _ (by simp) rfl
        have hbehind := eq_append_of_isPrefixOf hne hhere
        rw [hbehind] at hpiece ⊢
        rw [splitFrom_done, splitFrom_skip]
        exact .first (by simpa using hpiece) hrest
      · have hlt : rest.length < n := by
          rw [← hn, List.length_cons]
          exact Nat.lt_succ_self _
        have hnext := ih _ hlt (c :: piece) rest (fun i hi => ?_) rfl
        · simpa using hnext
        · rw [List.reverse_cons, List.append_assoc, List.singleton_append]
          rcases Nat.lt_succ_iff_lt_or_eq.mp hi with hi | rfl
          · exact hpiece i hi
          · rw [← List.length_reverse, List.drop_left]
            exact fun hprefix => hhere (List.isPrefixOf_iff_prefix.mpr hprefix)

/-- Splitting cuts a text at the occurrences of a word. -/
theorem cutAt_splitOn (h : needle ≠ []) (text : Text) : CutAt needle text (splitOn needle text) :=
  cutAt_splitFrom h [] text (by simp)

/-- The pieces of a text joined again. -/
theorem join_splitOn (h : needle ≠ []) (text : Text) : join needle (splitOn needle text) = text :=
  (cutAt_splitOn h text).join_eq

/-! ### Counting -/

theorem length_splitFrom (needle : Text) (done : List Text) (piece : Text) (count skip : Nat)
    (text : Text) (h : done.length = count) :
    (splitFrom needle done piece skip text).length =
      occurrencesFrom needle count skip text + 1 := by
  induction text generalizing done piece count skip with
  | nil => simp [splitFrom, occurrencesFrom, h]
  | cons c text ih =>
    cases skip with
    | succ skip => exact ih done piece count skip h
    | zero =>
      rw [splitFrom, occurrencesFrom]
      split_ifs
      · exact ih (piece.reverse :: done) [] (count + 1) _ (congrArg (· + 1) h)
      · exact ih done (c :: piece) count 0 h

/-- There is one piece more than there are occurrences. -/
theorem length_splitOn (h : needle ≠ []) (text : Text) :
    (splitOn needle text).length = occurrences needle text + 1 := by
  rw [splitOn, occurrences, if_neg (by simpa using h)]
  exact length_splitFrom needle [] [] 0 0 text rfl

end LiveSnippet.Text
