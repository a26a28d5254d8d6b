import LiveSnippet.Proofs.Text.Addressing
import LiveSnippet.Text.Search

/-!
# Replacing in texts

Replacing a single character acts on one character after the other. Replacing a longer text puts
the replacement between the pieces of the text, and brings in no characters but those of the
replacement. A text that is indented reaches as far as the layout of an expansion says.

## Main definitions

* `Text.indented`: a text with its further lines indented

## Main results

* `Text.replaceAll_lineFeed`: indenting is replacing the line feeds
* `Text.replaceAll_eq_intercalate`: replacing is splitting and joining
* `Text.replaceAll_of_not_infix`: nothing to replace
* `Text.mem_of_mem_replaceAll`: where the characters of a replaced text come from
* `Position.advance_eq`: layout with indentation is moving on by the indented text
-/

namespace LiveSnippet

namespace Text

variable {needle replacement text done indent sep : Text} {pieces : List Text} {c : Char}
  {skip : Nat}

/-- The text with further lines indented. -/
def indented (indent text : Text) : Text :=
  text.flatMap fun c => if c = '\n' then '\n' :: indent else [c]

@[simp] theorem indented_nil (indent : Text) : indented indent [] = [] := rfl

@[simp] theorem indented_append (indent s t : Text) :
    indented indent (s ++ t) = indented indent s ++ indented indent t := List.flatMap_append

theorem indented_cons (indent : Text) (c : Char) (t : Text) :
    indented indent (c :: t) = (if c = '\n' then '\n' :: indent else [c]) ++ indented indent t :=
  List.flatMap_cons

/-- A text without line feeds stays as it is. -/
theorem indented_of_not_mem (h : '\n' ∉ text) : indented indent text = text := by
  induction text with
  | nil => rfl
  | cons c t ih =>
    rw [List.mem_cons, not_or] at h
    rw [indented_cons, if_neg (Ne.symm h.1), ih h.2]
    rfl

theorem replaceFrom_lineFeed (indent done text : Text) :
    replaceFrom ['\n'] ('\n' :: indent) done 0 text = done.reverse ++ indented indent text := by
  induction text generalizing done with
  | nil => simp [replaceFrom]
  | cons c t ih =>
    rw [replaceFrom, indented_cons]
    by_cases hc : c = '\n'
    · subst hc
      rw [if_pos (by simp), if_pos rfl]
      simpa using ih (('\n' :: indent).reverse ++ done)
    · rw [if_neg (by simp [Ne.symm hc]), if_neg hc]
      simpa using ih (c :: done)

/-- Indenting is replacing the line feeds. -/
theorem replaceAll_lineFeed (indent text : Text) :
    replaceAll ['\n'] ('\n' :: indent) text = indented indent text := by
  rw [replaceAll, if_neg (by simp), replaceFrom_lineFeed]
  rfl

theorem mem_of_mem_replaceFrom (h : c ∈ replaceFrom needle replacement done skip text) :
    c ∈ done ∨ c ∈ replacement ∨ c ∈ text := by
  induction text generalizing done skip with
  | nil =>
    rw [replaceFrom, List.mem_reverse] at h
    exact Or.inl h
  | cons d t ih =>
    rw [List.mem_cons]
    cases skip with
    | succ skip =>
      rcases ih h with h | h | h
      · exact Or.inl h
      · exact Or.inr (Or.inl h)
      · exact Or.inr (Or.inr (Or.inr h))
    | zero =>
      rw [replaceFrom] at h
      split_ifs at h
      · rcases ih h with h | h | h
        · rw [List.mem_append, List.mem_reverse] at h
          exact h.elim (fun h => Or.inr (Or.inl h)) Or.inl
        · exact Or.inr (Or.inl h)
        · exact Or.inr (Or.inr (Or.inr h))
      · rcases ih h with h | h | h
        · exact (List.mem_cons.mp h).elim (fun h => Or.inr (Or.inr (Or.inl h))) Or.inl
        · exact Or.inr (Or.inl h)
        · exact Or.inr (Or.inr (Or.inr h))

/-- Every character of a text in which something has been replaced was there before or comes from
the replacement. -/
theorem mem_of_mem_replaceAll (hn : needle ≠ []) (h : c ∈ replaceAll needle replacement text) :
    c ∈ replacement ∨ c ∈ text := by
  rw [replaceAll, if_neg (by simpa using hn)] at h
  simpa using mem_of_mem_replaceFrom h

theorem replaceFrom_of_not_infix (h : ¬ needle <:+: text) :
    replaceFrom needle replacement done 0 text = done.reverse ++ text := by
  induction text generalizing done with
  | nil => rw [replaceFrom, List.append_nil]
  | cons c t ih =>
    have hhere : ¬ needle.isPrefixOf (c :: t) = true := by
      rw [List.isPrefixOf_iff_prefix]
      exact fun hprefix => h hprefix.isInfix
    have hbehind : ¬ needle <:+: t := fun hpart => h (hpart.trans (List.suffix_cons c t).isInfix)
    rw [replaceFrom, if_neg hhere, ih hbehind, List.reverse_cons, List.append_assoc,
      List.singleton_append]

/-- A text in which nothing is to be replaced stays as it is. -/
theorem replaceAll_of_not_infix (h : ¬ needle <:+: text) :
    replaceAll needle replacement text = text := by
  have hne : needle ≠ [] := by
    rintro rfl
    exact h List.nil_infix
  rw [replaceAll, if_neg (by simpa using hne), replaceFrom_of_not_infix h]
  rfl

theorem intercalate_concat (h : pieces ≠ []) (p : Text) :
    sep.intercalate (pieces ++ [p]) = sep.intercalate pieces ++ sep ++ p := by
  induction pieces with
  | nil => exact absurd rfl h
  | cons q pieces ih =>
    cases pieces with
    | nil => simp [List.intercalate_cons_cons]
    | cons r rest =>
      rw [List.cons_append, List.cons_append, List.intercalate_cons_cons, ← List.cons_append,
        ih (List.cons_ne_nil _ _), List.intercalate_cons_cons]
      simp

theorem intercalate_concat_append (pieces : List Text) (p t : Text) :
    sep.intercalate (pieces ++ [p ++ t]) = sep.intercalate (pieces ++ [p]) ++ t := by
  cases pieces with
  | nil => simp
  | cons q pieces =>
    rw [intercalate_concat (List.cons_ne_nil _ _), intercalate_concat (List.cons_ne_nil _ _),
      List.append_assoc _ p]

theorem replaceFrom_eq_intercalate (needle sep : Text) (done : List Text) (piece : Text)
    (skip : Nat) (text : Text) :
    replaceFrom needle sep (sep.intercalate (done.reverse ++ [piece.reverse])).reverse skip text =
      sep.intercalate (splitFrom needle done piece skip text) := by
  induction text generalizing done piece skip with
  | nil => simp [replaceFrom, splitFrom]
  | cons c text ih =>
    cases skip with
    | succ skip => exact ih done piece skip
    | zero =>
      rw [replaceFrom, splitFrom]
      split_ifs
      · have hdone : (piece.reverse :: done).reverse ≠ [] := by simp
        rw [← ih, List.reverse_nil, intercalate_concat hdone, List.reverse_cons]
        simp
      · rw [← ih, List.reverse_cons, intercalate_concat_append]
        simp

/-- Replacing a word puts the replacement between the pieces of the text. -/
theorem replaceAll_eq_intercalate (h : needle ≠ []) (sep text : Text) :
    replaceAll needle sep text = sep.intercalate (splitOn needle text) := by
  rw [replaceAll, if_neg (by simpa using h), splitOn, ← replaceFrom_eq_intercalate]
  simp

/-- The extent of an indented text: the indentation counts on the last line. -/
theorem extent_indented (hindent : '\n' ∉ indent) (text : Text) :
    (indented indent text).extent =
      ⟨text.extent.breaks,
        if text.extent.breaks = 0 then text.extent.last else indent.length + text.extent.last⟩ := by
  induction text with
  | nil => rfl
  | cons c t ih =>
    rw [indented_cons, extent_append, ih, extent_cons]
    by_cases hc : c = '\n'
    · rw [if_pos hc, extent_cons, extent_eq_length hindent, hc, charExtent_lineFeed, Extent.eq_iff]
      by_cases hb : (extent t).breaks = 0 <;> simp [Extent.add_last, hb]
    · rw [if_neg hc, extent_cons, charExtent_of_ne hc, extent_nil, Extent.eq_iff]
      by_cases hb : (extent t).breaks = 0 <;> simp [Extent.add_last, hb]

end Text

/-- Layout with indentation is moving on by the indented text. -/
theorem Position.advance_eq {indent : Text} (hindent : '\n' ∉ indent) (p : Position) (t : Text) :
    p.advance t indent.length = p + (Text.indented indent t).extent := by
  rw [Text.extent_indented hindent]
  simp only [advance, eq_iff, add_line, add_character]
  split_ifs <;> simp_all

end LiveSnippet
