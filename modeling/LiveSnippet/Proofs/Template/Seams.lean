import LiveSnippet.Proofs.Template.Rendering
import Mathlib.Data.List.TakeWhile

/-!
# Seams

Texts that are put one behind the other are scanned as one. A dollar at the end of one text and a
digit at the start of the next then make a marker that neither of them has, and a backslash escapes
a dollar that was a marker. Nothing of that kind happens at a safe seam: either the text in front
ends with a character behind which nothing goes on, or the text behind it starts with one that goes
on with nothing.

## Main definitions

* `Marker.SafeSeam`: no marker and no escape can run over the seam between two texts
* `Marker.SafeSeams`: each of some texts has a safe seam with what comes behind it

## Main results

* `Marker.step_append`: when a step does not look behind a seam
* `Marker.lexemes_append`: the scan goes on afresh behind a safe seam
* `Marker.items_flatten`, `Marker.render_flatten`: texts with safe seams are read one by one
-/

namespace LiveSnippet.Marker

/-- Whether a marker or an escape may be unfinished behind the character. -/
def isOpening (c : Char) : Bool := c = '\\' || c = '$' || c = '\x7b' || isDecimalDigit c

/-- Whether the character may belong to a marker or an escape that has begun in front of it. -/
def isContinuing (c : Char) : Bool := c = '$' || c = '\x7b' || c = '\x7d' || isDecimalDigit c

/-- No marker and no escape can run over the seam between the texts. -/
def SafeSeam (s t : Text) : Prop :=
  (∀ c ∈ s.getLast?, isOpening c = false) ∨ ∀ c ∈ t.head?, isContinuing c = false

instance (s t : Text) : Decidable (SafeSeam s t) :=
  decidable_of_iff ((s.getLast?.all (!isOpening ·) || t.head?.all (!isContinuing ·)) = true) <| by
    rw [SafeSeam, Bool.or_eq_true, Option.all_eq_true, Option.all_eq_true]
    simp only [Bool.not_eq_eq_eq_not, Bool.not_true, Option.mem_def]

/-- Each of the texts has a safe seam with the texts behind it. -/
def SafeSeams : List Text → Prop
  | [] => True
  | t :: texts => SafeSeam t texts.flatten ∧ SafeSeams texts

instance SafeSeams.decidable : (texts : List Text) → Decidable (SafeSeams texts)
  | [] => .isTrue trivial
  | t :: texts =>
    have := decidable texts
    inferInstanceAs (Decidable (SafeSeam t texts.flatten ∧ SafeSeams texts))

variable {s s' t : Text} {c : Char}

theorem SafeSeam.of_suffix (h : SafeSeam s t) (hs : s' <:+ s) : SafeSeam s' t := by
  obtain ⟨front, rfl⟩ := hs
  refine h.imp_left fun hlast c hc => hlast c ?_
  rw [Option.mem_def] at hc ⊢
  rw [List.getLast?_append, hc, Option.some_or]

/-- Whether a marker may go on behind the text, which stands behind its dollar: there is an opening
brace and digits at most. -/
def isUnfinished : Text → Bool
  | '\x7b' :: rest => rest.all isDecimalDigit
  | rest => rest.all isDecimalDigit

theorem isUnfinished_of_head?_ne (h : s.head? ≠ some '\x7b') :
    isUnfinished s = s.all isDecimalDigit := by
  unfold isUnfinished
  split
  · simp at h
  · rfl

theorem isOpening_of_isUnfinished (h : isUnfinished s = true) : ∀ d ∈ s, isOpening d = true := by
  have hdigit {d : Char} (hd : isDecimalDigit d = true) : isOpening d = true := by
    simp [isOpening, hd]
  by_cases hs : s.head? = some '\x7b'
  · obtain ⟨u, rfl⟩ := List.head?_eq_some_iff.mp hs
    exact List.forall_mem_cons.mpr ⟨rfl, fun d hd => hdigit (List.all_eq_true.mp h d hd)⟩
  · rw [isUnfinished_of_head?_ne hs] at h
    exact fun d hd => hdigit (List.all_eq_true.mp h d hd)

/-- No marker that begins in front of a safe seam goes on behind it. -/
theorem SafeSeam.finished (h : SafeSeam ('$' :: s) t) :
    isUnfinished s = false ∨ ∀ d ∈ t.head?, isContinuing d = false := by
  refine h.imp_left fun hlast => ?_
  by_contra hs
  rw [Bool.not_eq_false] at hs
  have hall : ∀ d ∈ '$' :: s, isOpening d = true :=
    List.forall_mem_cons.mpr ⟨rfl, isOpening_of_isUnfinished hs⟩
  obtain ⟨d, hd⟩ : ∃ d, ('$' :: s).getLast? = some d := ⟨_, List.getLast?_cons⟩
  exact absurd (hall d (List.mem_of_getLast? hd)) (by rw [hlast d hd]; exact Bool.false_ne_true)

theorem SafeSeam.head?_ne (h : SafeSeam ['\\'] t) : t.head? ≠ some '$' := by
  intro hhead
  rcases h with h | h
  · exact absurd (h '\\' rfl) (by decide)
  · exact absurd (h '$' hhead) (by decide)

/-! ### Markers in front of a seam -/

/-- Digits that stop in front of a seam, or at it, are the same without the text behind it. -/
theorem takeWhile_dropWhile_append
    (h : (∃ d ∈ s, isDecimalDigit d = false) ∨ ∀ d ∈ t.head?, isDecimalDigit d = false) :
    (s ++ t).takeWhile isDecimalDigit = s.takeWhile isDecimalDigit ∧
      (s ++ t).dropWhile isDecimalDigit = s.dropWhile isDecimalDigit ++ t := by
  induction s with
  | nil =>
    rcases h with ⟨d, hd, -⟩ | hhead
    · cases hd
    · cases t with
      | nil => exact ⟨rfl, rfl⟩
      | cons d t => simp [hhead d rfl]
  | cons c s ih =>
    cases hc : isDecimalDigit c with
    | false => simp [hc]
    | true =>
      have hrest := ih (h.imp_left fun ⟨d, hd, hdigit⟩ => by
        rcases List.mem_cons.mp hd with rfl | hd
        · simp [hc] at hdigit
        · exact ⟨d, hd, hdigit⟩)
      simpa [hc] using hrest

theorem leadingDigits?_append
    (h : (∃ d ∈ s, isDecimalDigit d = false) ∨ ∀ d ∈ t.head?, isDecimalDigit d = false) :
    leadingDigits? (s ++ t) = (leadingDigits? s).map fun found => (found.1, found.2 ++ t) := by
  obtain ⟨htake, hdrop⟩ := takeWhile_dropWhile_append h
  rw [leadingDigits?, leadingDigits?, htake, hdrop]
  split_ifs <;> rfl

theorem digits?_of_head?_ne (h : s.head? ≠ some '\x7b') : digits? s = leadingDigits? s := by
  unfold digits?
  split
  · simp at h
  · rfl

theorem isDecimalDigit_of_isContinuing (h : isContinuing c = false) : isDecimalDigit c = false := by
  simp only [isContinuing, Bool.or_eq_false_iff] at h
  exact h.2

/-- A marker that is finished, or behind which nothing goes on, does not look behind the seam. -/
theorem digits?_append (h : isUnfinished s = false ∨ ∀ d ∈ t.head?, isContinuing d = false) :
    digits? (s ++ t) = (digits? s).map fun found => (found.1, found.2 ++ t) := by
  have hstops {u : Text} (hu : isUnfinished s = u.all isDecimalDigit) :
      (∃ d ∈ u, isDecimalDigit d = false) ∨ ∀ d ∈ t.head?, isDecimalDigit d = false := by
    refine h.imp (fun hs => ?_) fun hhead d hd => isDecimalDigit_of_isContinuing (hhead d hd)
    rw [hu, List.all_eq_false] at hs
    simpa using hs
  by_cases hs : s.head? = some '\x7b'
  · obtain ⟨u, rfl⟩ := List.head?_eq_some_iff.mp hs
    rw [List.cons_append, digits?, digits?, leadingDigits?_append (hstops rfl)]
    cases hu : leadingDigits? u with
    | none => rfl
    | some found =>
      obtain ⟨digits, after⟩ := found
      cases after with
      | cons d after =>
        by_cases hd : d = '\x7d'
        · rw [hd]
          rfl
        · simp [hd]
      | nil =>
        -- Only digits stand in front of the seam, so no closing brace comes behind it.
        have hall : isUnfinished ('\x7b' :: u) = true := by
          obtain ⟨rfl, hdigits⟩ := eq_append_of_leadingDigits? hu
          rw [isUnfinished, List.append_nil]
          exact List.all_eq_true.mpr hdigits
        have hhead : ∀ d ∈ t.head?, isContinuing d = false :=
          h.resolve_left (by simp [hall])
        cases t with
        | nil => rfl
        | cons d t =>
          have hd : d ≠ '\x7d' := by
            rintro rfl
            simpa [isContinuing] using hhead _ rfl
          simp [hd]
  · have hs' : (s ++ t).head? ≠ some '\x7b' := by
      cases s with
      | cons d s => exact hs
      | nil =>
        rcases h with hfinished | hhead
        · cases hfinished
        · intro hbrace
          simpa [isContinuing] using hhead _ hbrace
    rw [digits?_of_head?_ne hs', digits?_of_head?_ne hs,
      leadingDigits?_append (hstops (isUnfinished_of_head?_ne hs))]

/-- A step does not look behind the seam if no marker goes on there and no escape runs over it. -/
theorem step_append
    (hmarker : c = '$' → isUnfinished s = false ∨ ∀ d ∈ t.head?, isContinuing d = false)
    (hescape : c = '\\' → s = [] → t.head? ≠ some '$') :
    step c (s ++ t) = ((step c s).1, (step c s).2 ++ t) := by
  by_cases hdollar : c = '$'
  · have hdigits := digits?_append (hmarker hdollar)
    subst hdollar
    rw [step, if_neg (by simp), if_pos rfl, step, if_neg (by simp), if_pos rfl, hdigits]
    cases hs : digits? s with
    | none => rfl
    | some found =>
      obtain ⟨digits, after⟩ := found
      have hsource : (s ++ t).take ((s ++ t).length - (after ++ t).length) =
          s.take (s.length - after.length) := by
        rw [List.length_append, List.length_append, Nat.add_sub_add_right,
          List.take_append_of_le_length (Nat.sub_le _ _)]
      simp only [Option.map_some, hsource]
      cases readId? digits <;> rfl
  · by_cases hbackslash : c = '\\' ∧ (s ++ t).head? = some '$'
    · obtain ⟨rfl, hhead⟩ := hbackslash
      cases s with
      | cons d s =>
        obtain rfl : d = '$' := by simpa using hhead
        rfl
      | nil => exact absurd hhead (hescape rfl rfl)
    · have hbackslash' : ¬ (c = '\\' ∧ s.head? = some '$') := by
        rintro ⟨hc, hhead⟩
        exact hbackslash ⟨hc, by rw [List.head?_append, hhead, Option.some_or]⟩
      rw [step_plain hbackslash hdollar, step_plain hbackslash' hdollar]

/-- The scan goes on afresh behind a safe seam. -/
theorem lexemes_append (h : SafeSeam s t) : lexemes (s ++ t) = lexemes s ++ lexemes t := by
  -- What a step leaves of `s` ends as `s` does, so the seam stays safe.
  induction s using scan_induction with
  | nil => rw [lexemes_nil, List.nil_append, List.nil_append]
  | cons c rest ih =>
    have hsuffix : (step c rest).2 <:+ c :: rest :=
      (step_suffix c rest).1.trans (List.suffix_cons _ _)
    have hstep : step c (rest ++ t) = ((step c rest).1, (step c rest).2 ++ t) :=
      step_append (fun hc => (hc ▸ h).finished) fun hc hrest => (hrest ▸ hc ▸ h).head?_ne
    rw [List.cons_append, lexemes_cons, lexemes_cons, hstep, ih (h.of_suffix hsuffix),
      List.cons_append]

/-! ### Texts with safe seams -/

section

variable {texts : List Text} (h : SafeSeams texts)

include h

theorem lexemes_flatten : lexemes texts.flatten = texts.flatMap lexemes := by
  induction texts with
  | nil => exact lexemes_nil
  | cons t texts ih => rw [List.flatten_cons, lexemes_append h.1, ih h.2, List.flatMap_cons]

/-- Texts with safe seams have the same characters and markers together as one by one. -/
theorem items_flatten : items texts.flatten = texts.flatMap items := by
  rw [items_eq, lexemes_flatten h, List.flatMap_assoc]
  exact List.flatMap_congr fun t _ => (items_eq t).symm

/-- Texts with safe seams are rendered one by one. -/
theorem render_flatten : render texts.flatten = texts.flatMap render :=
  render_flatten_of_items (items_flatten h)

end

end LiveSnippet.Marker
