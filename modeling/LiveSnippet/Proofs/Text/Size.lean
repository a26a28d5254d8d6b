import LiveSnippet.Text.Search
import Mathlib.Algebra.GroupWithZero.Nat
import Mathlib.Data.List.Basic
import Mathlib.Data.List.Infix

/-!
# The size of texts

The byte size of a text is the sum over its characters, so the size of all that is built from texts
can be told from theirs.

## Main results

* `byteSize_append`, `byteSize_flatten_replicate`, `byteSize_join`: texts one after another
* `byteSize_le_of_sublist`, `byteSize_le_of_mem_splitOn`: parts of a text
* `byteSize_replaceAll`: a text with all occurrences of another replaced
-/

namespace LiveSnippet.Text

variable {s t needle replacement : Text}

@[simp] theorem byteSize_nil : byteSize [] = 0 := rfl

@[simp] theorem byteSize_cons (c : Char) (t : Text) : byteSize (c :: t) = c.utf8Size + byteSize t :=
  rfl

@[simp] theorem byteSize_append (s t : Text) : byteSize (s ++ t) = byteSize s + byteSize t := by
  induction s with
  | nil => simp
  | cons c s ih => simp [ih, Nat.add_assoc]

@[simp] theorem byteSize_reverse (t : Text) : byteSize t.reverse = byteSize t := by
  induction t with
  | nil => rfl
  | cons c t ih => simp [ih, Nat.add_comm]

theorem byteSize_flatten_replicate (n : Nat) (t : Text) :
    byteSize (List.replicate n t).flatten = byteSize t * n := by
  induction n with
  | zero => rfl
  | succ n ih => rw [List.replicate_succ, List.flatten_cons, byteSize_append, ih, Nat.mul_succ,
      Nat.add_comm]

theorem byteSize_le_of_forall {n : Nat} (h : ∀ c ∈ t, c.utf8Size ≤ n) :
    byteSize t ≤ t.length * n := by
  induction t with
  | nil => simp
  | cons c t ih =>
    obtain ⟨hc, ht⟩ := List.forall_mem_cons.mp h
    have hrest := ih ht
    rw [byteSize_cons, List.length_cons, Nat.succ_mul]
    omega

theorem byteSize_le_length (t : Text) : byteSize t ≤ t.length * 4 :=
  byteSize_le_of_forall fun c _ => c.utf8Size_le_four

/-- A part of a text is not larger. -/
theorem byteSize_le_of_sublist (h : s.Sublist t) : byteSize s ≤ byteSize t := by
  induction h with
  | slnil => exact le_rfl
  | cons c _ ih => exact ih.trans (Nat.le_add_left _ _)
  | cons_cons c _ ih => exact Nat.add_le_add_left ih _

theorem byteSize_flatten (pieces : List Text) :
    byteSize pieces.flatten = pieces.foldr (fun p bytes => byteSize p + bytes) 0 := by
  induction pieces with
  | nil => rfl
  | cons p pieces ih => rw [List.flatten_cons, byteSize_append, ih, List.foldr_cons]

theorem byteSize_join (separator : Text) (pieces : List Text) :
    byteSize (join separator pieces) =
      byteSize pieces.flatten + byteSize separator * (pieces.length - 1) := by
  induction pieces with
  | nil => rfl
  | cons p pieces ih =>
    cases pieces with
    | nil => simp [join, List.intercalate]
    | cons p' pieces =>
      have hcons : join separator (p :: p' :: pieces) =
          p ++ (separator ++ join separator (p' :: pieces)) := by
        simp [join, List.intercalate, List.intersperse]
      rw [hcons, byteSize_append, byteSize_append, ih]
      simp only [List.flatten_cons, byteSize_append, List.length_cons, Nat.add_sub_cancel,
        Nat.mul_succ]
      omega

/-! ### Pieces -/

theorem byteSize_le_of_mem_splitFrom {done : List Text} {piece : Text} {skip : Nat} {p : Text}
    (h : p ∈ splitFrom needle done piece skip t) :
    p ∈ done ∨ byteSize p ≤ byteSize piece + byteSize t := by
  induction t generalizing done piece skip with
  | nil =>
    simp only [splitFrom, List.mem_reverse, List.mem_cons] at h
    rcases h with rfl | h
    · exact .inr (by simp)
    · exact .inl h
  | cons c t ih =>
    have hsize : byteSize t ≤ byteSize (c :: t) := Nat.le_add_left _ _
    cases skip with
    | succ skip => exact (ih h).imp_right fun hp => hp.trans (Nat.add_le_add_left hsize _)
    | zero =>
      rw [splitFrom] at h
      split_ifs at h
      · rcases ih h with hp | hp
        · rcases List.mem_cons.mp hp with rfl | hp
          · exact .inr (by simp)
          · exact .inl hp
        · simp only [byteSize_nil, Nat.zero_add] at hp
          exact .inr ((hp.trans hsize).trans (Nat.le_add_left _ _))
      · refine (ih h).imp_right fun hp => hp.trans ?_
        simp only [byteSize_cons]
        omega

/-- No piece of a text is larger than the text. -/
theorem byteSize_le_of_mem_splitOn {p : Text} (h : p ∈ splitOn needle t) :
    byteSize p ≤ byteSize t := by
  rcases byteSize_le_of_mem_splitFrom h with hp | hp
  · simp at hp
  · simpa using hp

/-! ### Replacing -/

theorem occurrencesFrom_eq_add (needle : Text) (count skip : Nat) (t : Text) :
    occurrencesFrom needle count skip t = count + occurrencesFrom needle 0 skip t := by
  induction t generalizing count skip with
  | nil => rfl
  | cons c t ih =>
    cases skip with
    | succ skip => exact ih count skip
    | zero =>
      rw [occurrencesFrom, occurrencesFrom]
      split_ifs
      · rw [ih (count + 1), ih (0 + 1)]
        omega
      · exact ih count 0

/-- An occurrence of a text that is not empty, at the first character: the rest of the occurrence,
and what is behind it. -/
theorem byteSize_of_isPrefixOf {c : Char} (hne : needle ≠ [])
    (h : needle.isPrefixOf (c :: t) = true) :
    byteSize (c :: t) = byteSize needle + byteSize (t.drop (needle.length - 1)) := by
  obtain ⟨n, needle, rfl⟩ := List.exists_cons_of_ne_nil hne
  obtain ⟨rest, hrest⟩ := List.isPrefixOf_iff_prefix.mp h
  obtain ⟨rfl, rfl⟩ := List.cons.inj hrest
  simp [Nat.add_assoc]

theorem byteSize_replaceFrom (hne : needle ≠ []) (replacement done : Text) (skip : Nat) (t : Text) :
    byteSize (replaceFrom needle replacement done skip t) +
        occurrencesFrom needle 0 skip t * byteSize needle =
      byteSize done + byteSize (t.drop skip) +
        occurrencesFrom needle 0 skip t * byteSize replacement := by
  induction t generalizing done skip with
  | nil => simp [replaceFrom, occurrencesFrom]
  | cons c t ih =>
    cases skip with
    | succ skip => exact ih done skip
    | zero =>
      rw [replaceFrom, occurrencesFrom]
      split_ifs with h
      · have hrest := ih (replacement.reverse ++ done) (needle.length - 1)
        rw [occurrencesFrom_eq_add, Nat.zero_add, Nat.add_mul, Nat.add_mul, Nat.one_mul, Nat.one_mul,
          List.drop_zero, byteSize_of_isPrefixOf hne h]
        rw [byteSize_append, byteSize_reverse] at hrest
        omega
      · have hrest := ih (c :: done) 0
        simp only [byteSize_cons, List.drop_zero] at hrest ⊢
        omega

/-- Every occurrence gives way to the replacement. -/
theorem byteSize_replaceAll (needle replacement t : Text) :
    byteSize (replaceAll needle replacement t) =
      byteSize t - occurrences needle t * byteSize needle +
        occurrences needle t * byteSize replacement := by
  rw [replaceAll, occurrences]
  split_ifs with h
  · have hmap : byteSize (t.flatMap fun c => c :: replacement) =
        byteSize t + t.length * byteSize replacement := by
      clear h
      induction t with
      | nil => simp
      | cons c t ih =>
        simp only [List.flatMap_cons, byteSize_append, byteSize_cons, ih, List.length_cons,
          Nat.succ_mul]
        omega
    rw [List.isEmpty_iff.mp h, byteSize_append, hmap, byteSize_nil, Nat.mul_zero, Nat.succ_mul]
    omega
  · have hne : needle ≠ [] := fun hnil => h (List.isEmpty_iff.mpr hnil)
    have hreplace := byteSize_replaceFrom hne replacement [] 0 t
    -- With nothing in their place it is seen that the occurrences fit into the text.
    have hfits := byteSize_replaceFrom hne [] [] 0 t
    simp only [byteSize_nil, Nat.zero_add, Nat.mul_zero, Nat.add_zero, List.drop_zero]
      at hreplace hfits
    omega

end LiveSnippet.Text
