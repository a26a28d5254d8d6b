import LiveSnippet.Template.Marker
import Mathlib.Data.List.Infix
import Mathlib.Data.List.TakeWhile

/-!
# Rendering literal text

The scan of a text finds shown characters and markers, its items, and rendering shows the characters
of the items. Computed text brings in no markers: when its dollars are escaped, the items are its
characters, and rendering gives the text back. Rendering never shows a character that is not in the
text.

## Main definitions

* `Marker.Item`, `Marker.items`: the shown characters and the markers of a text, in its order
* `Marker.Lexeme.shown`: what a step of the scan shows

## Main results

* `Marker.items_eq`, `Marker.render_eq`: items and rendering, step by step
* `Marker.items_escapeDollars`, `Marker.render_escapeDollars`: rendering undoes escaping
* `Marker.escapeDollars_protects`: escaped text has no markers
* `Marker.mem_of_mem_render`: what is shown was in the text
-/

namespace LiveSnippet.Marker

/-- A character that is shown, or a marker. -/
inductive Item
  | char (c : Char)
  | marker (id : Nat)
deriving DecidableEq, Repr

/-- What an item shows. -/
def Item.shown : Item → Text
  | char c => [c]
  | marker _ => []

/-- The items of a piece. -/
def Piece.items : Piece → List Item
  | text run => run.map .char
  | dollar => [.char '$']
  | marker id => [.marker id]

/-- The items of a step of the scan. -/
def Lexeme.items : Lexeme → List Item
  | plain s => s.map .char
  | dollar => [.char '$']
  | marker id _ => [.marker id]

/-- The shown characters and the markers of a text. -/
def items (text : Text) : List Item := (pieces text).flatMap Piece.items

/-- What a step of the scan shows. -/
def Lexeme.shown : Lexeme → Text
  | plain s => s
  | dollar => ['$']
  | marker _ _ => []

variable {text : Text} {c d : Char}

@[simp] theorem flatMap_shown_char (s : Text) : (s.map Item.char).flatMap Item.shown = s := by
  rw [List.flatMap_map]
  exact List.flatMap_singleton' s

theorem Piece.flatMap_shown_items (piece : Piece) :
    piece.items.flatMap Item.shown = piece.shown := by
  cases piece with
  | text run => exact flatMap_shown_char run
  | dollar => rfl
  | marker id => rfl

theorem Lexeme.flatMap_shown_items (step : Lexeme) :
    step.items.flatMap Item.shown = step.shown := by
  cases step with
  | plain s => exact flatMap_shown_char s
  | dollar => rfl
  | marker id s => rfl

/-! ### The steps of the scan -/

/-- A character that is neither a dollar nor escapes one is plain. -/
theorem step_plain {rest : Text} (hescape : ¬ (c = '\\' ∧ rest.head? = some '$'))
    (hdollar : c ≠ '$') : step c rest = (.plain [c], rest) := by
  rw [step, if_neg (by simpa using hescape), if_neg hdollar]

theorem flatMap_items_flush (run : Text) :
    (flush run).flatMap Piece.items = run.reverse.map .char := by
  cases run with
  | nil => rfl
  | cons c run => simp [flush, Piece.items]

theorem flatMap_items_glue (run : Text) (steps : List Lexeme) :
    (glue run steps).flatMap Piece.items =
      run.reverse.map .char ++ steps.flatMap Lexeme.items := by
  induction steps generalizing run with
  | nil => simpa [glue] using flatMap_items_flush run
  | cons step steps ih =>
    cases step with
    | plain s => simp [glue, ih, Lexeme.items]
    | dollar => simp [glue, ih, Lexeme.items, Piece.items, flatMap_items_flush]
    | marker id s => simp [glue, ih, Lexeme.items, Piece.items, flatMap_items_flush]

/-- The items of a text are those of the steps of its scan. -/
theorem items_eq (text : Text) : items text = (lexemes text).flatMap Lexeme.items :=
  flatMap_items_glue [] (lexemes text)

/-- Rendering shows the items. -/
theorem render_eq_flatMap_items (text : Text) :
    render text = (items text).flatMap Item.shown := by
  rw [render, items, List.flatMap_assoc]
  exact List.flatMap_congr fun piece _ => piece.flatMap_shown_items.symm

/-- Texts that have the same items together as one by one are rendered one by one. -/
theorem render_flatten_of_items {texts : List Text}
    (h : items texts.flatten = texts.flatMap items) :
    render texts.flatten = texts.flatMap render := by
  rw [render_eq_flatMap_items, h, List.flatMap_assoc]
  exact List.flatMap_congr fun text _ => (render_eq_flatMap_items text).symm

/-- Rendering shows the steps of the scan one after the other. -/
theorem render_eq (text : Text) : render text = (lexemes text).flatMap Lexeme.shown := by
  rw [render_eq_flatMap_items, items_eq, List.flatMap_assoc]
  exact List.flatMap_congr fun step _ => step.flatMap_shown_items

/-- Induction over the steps of a scan, each of which may take several characters. -/
@[elab_as_elim]
theorem scan_induction {motive : Text → Prop} (nil : motive [])
    (cons : ∀ c rest, motive (step c rest).2 → motive (c :: rest)) (text : Text) : motive text := by
  induction hn : text.length using Nat.strong_induction_on generalizing text with
  | _ n ih =>
    cases text with
    | nil => exact nil
    | cons c rest =>
      have hlt : (step c rest).2.length < n := by
        have := length_step_le c rest
        rw [← hn, List.length_cons]
        omega
      exact cons c rest (ih _ hlt _ rfl)

theorem lexemesFrom_eq (done : List Lexeme) (text : Text) :
    lexemesFrom done text = done.reverse ++ lexemes text := by
  induction text using scan_induction generalizing done with
  | nil => simp [lexemes, lexemesFrom]
  | cons c rest ih =>
    rw [lexemes, lexemesFrom, lexemesFrom, ih, ih [_]]
    simp

theorem lexemes_nil : lexemes [] = [] := by rw [lexemes, lexemesFrom, List.reverse_nil]

theorem lexemes_cons (c : Char) (rest : Text) :
    lexemes (c :: rest) = (step c rest).1 :: lexemes (step c rest).2 := by
  rw [lexemes, lexemesFrom, lexemesFrom_eq]
  rfl

theorem items_cons (c : Char) (rest : Text) :
    items (c :: rest) = (step c rest).1.items ++ items (step c rest).2 := by
  rw [items_eq, items_eq, lexemes_cons, List.flatMap_cons]

theorem render_cons (c : Char) (rest : Text) :
    render (c :: rest) = (step c rest).1.shown ++ render (step c rest).2 := by
  rw [render_eq, render_eq, lexemes_cons, List.flatMap_cons]

/-! ### Escaped text -/

theorem head?_escapeDollars (text : Text) : (escapeDollars text).head? ≠ some '$' := by
  cases text with
  | nil => simp [escapeDollars]
  | cons c rest =>
    rw [escapeDollars, List.flatMap_cons]
    split_ifs with hc
    · simp
    · simpa using hc

/-- The items of an escaped text are the characters of the text. -/
theorem items_escapeDollars (text : Text) : items (escapeDollars text) = text.map .char := by
  induction text with
  | nil =>
    rw [items_eq, escapeDollars, List.flatMap_nil, lexemes_nil]
    rfl
  | cons c rest ih =>
    have hcons : escapeDollars (c :: rest) =
        (if c = '$' then ['\\', '$'] else [c]) ++ escapeDollars rest := List.flatMap_cons
    rw [hcons]
    by_cases hc : c = '$'
    · rw [if_pos hc, List.cons_append, items_cons]
      have hstep : step '\\' (['$'] ++ escapeDollars rest) = (.dollar, escapeDollars rest) := rfl
      rw [hstep, ih, hc]
      rfl
    · -- A backslash is plain here, because no dollar without one is left behind it.
      rw [if_neg hc, List.cons_append, List.nil_append, items_cons]
      rw [step_plain (fun h => head?_escapeDollars rest h.2) hc, ih]
      rfl

/-- Rendering undoes escaping. -/
theorem render_escapeDollars (text : Text) : render (escapeDollars text) = text := by
  rw [render_eq_flatMap_items, items_escapeDollars, flatMap_shown_char]

/-- A marker of a text is one of its items. -/
theorem marker_mem_items {id : Nat} (h : .marker id ∈ pieces text) : .marker id ∈ items text :=
  List.mem_flatMap.mpr ⟨.marker id, h, List.mem_singleton_self _⟩

/-- An escaped text has no markers, because all of its items are characters. -/
theorem isMarker_of_mem_pieces_escapeDollars {piece : Piece}
    (h : piece ∈ pieces (escapeDollars text)) : piece.isMarker = false := by
  cases piece with
  | text run => rfl
  | dollar => rfl
  | marker id =>
    have hitem := marker_mem_items h
    rw [items_escapeDollars] at hitem
    obtain ⟨c, -, hc⟩ := List.mem_map.mp hitem
    cases hc

/-- **Escaping.** Whatever a text is, it has no markers when its dollars are escaped, and rendering
gives it back. -/
theorem escapeDollars_protects (text : Text) :
    (∀ piece ∈ pieces (escapeDollars text), piece.isMarker = false) ∧
      count (escapeDollars text) = 0 ∧ render (escapeDollars text) = text := by
  have hpieces : ∀ piece ∈ pieces (escapeDollars text), piece.isMarker = false :=
    fun _ h => isMarker_of_mem_pieces_escapeDollars h
  refine ⟨hpieces, ?_, render_escapeDollars text⟩
  rw [count, List.countP_eq_zero]
  intro piece hpiece
  rw [hpieces piece hpiece]
  exact Bool.false_ne_true

/-! ### Characters -/

theorem eq_append_of_leadingDigits? {digits after : Text}
    (h : leadingDigits? text = some (digits, after)) :
    text = digits ++ after ∧ ∀ c ∈ digits, isDecimalDigit c = true := by
  rw [leadingDigits?] at h
  split_ifs at h
  obtain ⟨rfl, rfl⟩ := Prod.mk.inj (Option.some.inj h)
  exact ⟨List.takeWhile_append_dropWhile.symm, fun c hc => List.mem_takeWhile_imp hc⟩

/-- The number of a marker is written in digits, with braces at most. -/
theorem exists_of_digits? {digits after : Text} (h : digits? text = some (digits, after)) :
    ∃ written, text = written ++ after ∧
      ∀ c ∈ written, c = '\x7b' ∨ c = '\x7d' ∨ isDecimalDigit c = true := by
  unfold digits? at h
  split at h
  · split at h
    · rename_i hdigits
      cases h
      obtain ⟨rfl, hwritten⟩ := eq_append_of_leadingDigits? hdigits
      refine ⟨'\x7b' :: (digits ++ ['\x7d']), by simp, fun c hc => ?_⟩
      rw [List.mem_cons, List.mem_append, List.mem_singleton] at hc
      rcases hc with hc | hc | hc
      · exact .inl hc
      · exact .inr (.inr (hwritten c hc))
      · exact .inr (.inl hc)
    · cases h
  · obtain ⟨htext, hwritten⟩ := eq_append_of_leadingDigits? h
    exact ⟨digits, htext, fun c hc => .inr (.inr (hwritten c hc))⟩

theorem suffix_of_digits? {digits after : Text} (h : digits? text = some (digits, after)) :
    after <:+ text := by
  obtain ⟨written, rfl, -⟩ := exists_of_digits? h
  exact List.suffix_append _ _

/-- A step leaves the end of the text, and shows characters of the text only. -/
theorem step_suffix (c : Char) (rest : Text) :
    (step c rest).2 <:+ rest ∧ (step c rest).1.shown ⊆ c :: rest := by
  rw [step]
  split_ifs with hescape hdollar
  · have hhead : rest.head? = some '$' := by
      simp only [Bool.and_eq_true, decide_eq_true_eq] at hescape
      exact hescape.2
    refine ⟨List.tail_suffix rest, List.cons_subset.mpr ⟨?_, List.nil_subset _⟩⟩
    exact List.mem_cons_of_mem _ (List.mem_of_mem_head? hhead)
  · cases hd : digits? rest with
    | none => exact ⟨List.suffix_rfl, List.cons_subset.mpr ⟨List.mem_cons_self, List.nil_subset _⟩⟩
    | some found =>
      obtain ⟨digits, after⟩ := found
      have hsource : '$' :: rest.take (rest.length - after.length) ⊆ c :: rest := by
        rw [hdollar]
        exact List.cons_subset_cons _ (List.take_subset _ _)
      dsimp only
      cases readId? digits with
      | none => exact ⟨suffix_of_digits? hd, hsource⟩
      | some id => exact ⟨suffix_of_digits? hd, List.nil_subset _⟩
  · exact ⟨List.suffix_rfl, List.cons_subset.mpr ⟨List.mem_cons_self, List.nil_subset _⟩⟩

/-- What is shown was in the text. -/
theorem mem_of_mem_render (h : c ∈ render text) : c ∈ text := by
  induction text using scan_induction with
  | nil =>
    rw [render_eq, lexemes_nil] at h
    cases h
  | cons d rest ih =>
    obtain ⟨hsuffix, hshown⟩ := step_suffix d rest
    rw [render_cons, List.mem_append] at h
    rcases h with h | h
    · exact hshown h
    · exact List.mem_cons_of_mem _ (hsuffix.subset (ih h))

end LiveSnippet.Marker
