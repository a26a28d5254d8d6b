import LiveSnippet.Proofs.Template.Seams

/-!
# Escaped text among markers

Computed text is put between pieces of literal text with its dollars escaped. By itself it has no
markers, but it can still change those of the literal text: it goes on with a marker that is
unfinished in front of it, and a backslash at its end escapes the dollar of a marker behind it. If
no piece in front ends with an unfinished marker and no piece behind begins with a marker, then the
markers are those of the pieces, whatever the computed text is.

## Main definitions

* `Marker.ids`: the numbers of the markers of a text
* `Marker.beginsMarked`, `Marker.endsOpen`: the ends of a piece at which computed text matters

## Main results

* `Marker.ids_append`: the markers of a text in front of another
* `Marker.ids_intercalate`: the markers of pieces with escaped text between them
-/

namespace LiveSnippet.Marker

/-! ### The numbers of the markers -/

/-- The number of a marker. -/
def Piece.id? : Piece → Option Nat
  | marker id => some id
  | _ => none

/-- The number of a step that is a marker. -/
def Lexeme.id? : Lexeme → Option Nat
  | marker id _ => some id
  | _ => none

/-- The numbers of the markers of a text, in its order. -/
def ids (text : Text) : List Nat := (pieces text).filterMap Piece.id?

/-- Whether the scan of a text begins with a marker. -/
def beginsMarked (text : Text) : Bool := (lexemes text).head?.any (·.id?.isSome)

variable {s t front : Text} {c : Char}

theorem filterMap_id?_glue (run : Text) (steps : List Lexeme) :
    (glue run steps).filterMap Piece.id? = steps.filterMap Lexeme.id? := by
  have hflush (run : Text) : (flush run).filterMap Piece.id? = [] := by
    cases run <;> rfl
  induction steps generalizing run with
  | nil => exact hflush run
  | cons step steps ih =>
    cases step with
    | plain s => exact ih _
    | dollar => simp [glue, hflush, ih, List.filterMap_cons, Piece.id?, Lexeme.id?]
    | marker id s => simp [glue, hflush, ih, Piece.id?, Lexeme.id?]

theorem ids_eq (text : Text) : ids text = (lexemes text).filterMap Lexeme.id? :=
  filterMap_id?_glue [] (lexemes text)

theorem ids_nil : ids [] = [] := by
  rw [ids_eq, lexemes_nil]
  rfl

theorem ids_cons (c : Char) (rest : Text) :
    ids (c :: rest) = (step c rest).1.id?.toList ++ ids (step c rest).2 := by
  rw [ids_eq, ids_eq, lexemes_cons, List.filterMap_cons]
  cases (step c rest).1.id? <;> rfl

theorem beginsMarked_nil : beginsMarked [] = false := by
  rw [beginsMarked, lexemes_nil]
  rfl

theorem beginsMarked_cons (c : Char) (rest : Text) :
    beginsMarked (c :: rest) = (step c rest).1.id?.isSome := by
  rw [beginsMarked, lexemes_cons]
  rfl

/-- Characters that neither begin a marker nor escape a dollar are passed over. -/
theorem ids_append_of_forall (hs : ∀ c ∈ s, c ≠ '$' ∧ c ≠ '\\') (t : Text) :
    ids (s ++ t) = ids t := by
  induction s with
  | nil => rfl
  | cons c s ih =>
    obtain ⟨⟨hdollar, hbackslash⟩, hs⟩ := List.forall_mem_cons.mp hs
    rw [List.cons_append, ids_cons, step_plain (fun h => hbackslash h.1) hdollar, ih hs]
    rfl

/-- A dollar that does not begin a marker is passed over. -/
theorem ids_dollar (h : beginsMarked ('$' :: t) = false) : ids ('$' :: t) = ids t := by
  rw [beginsMarked_cons] at h
  rw [ids_cons]
  rw [step, if_neg (by simp), if_pos rfl] at h ⊢
  cases hdigits : digits? t with
  | none => rfl
  | some found =>
    obtain ⟨digits, after⟩ := found
    rw [hdigits] at h
    dsimp only at h ⊢
    cases hid : readId? digits with
    | some id =>
      rw [hid] at h
      cases h
    | none =>
      obtain ⟨written, rfl, hwritten⟩ := exists_of_digits? hdigits
      rw [ids_append_of_forall]
      · rfl
      · intro c hc
        constructor <;> rintro rfl <;> exact absurd (hwritten _ hc) (by decide)

theorem beginsMarked_backslash (t : Text) : beginsMarked ('\\' :: t) = false := by
  rw [beginsMarked_cons, step]
  split_ifs with hescape hdollar
  · rfl
  · exact absurd hdollar (by decide)
  · rfl

/-- A backslash does not matter in front of a text that does not begin with a marker. -/
theorem ids_backslash (h : beginsMarked t = false) :
    ids ('\\' :: t) = ids t := by
  rw [ids_cons]
  by_cases hhead : t.head? = some '$'
  · obtain ⟨rest, rfl⟩ := List.head?_eq_some_iff.mp hhead
    exact (ids_dollar h).symm
  · rw [step_plain (fun hc => hhead hc.2) (by decide)]
    rfl

/-- Escaped text does not matter in front of a text that does not begin with a marker. -/
theorem ids_escapeDollars_append (s : Text) (h : beginsMarked t = false) :
    ids (escapeDollars s ++ t) = ids t ∧ beginsMarked (escapeDollars s ++ t) = false := by
  induction s with
  | nil => exact ⟨rfl, h⟩
  | cons c s ih =>
    obtain ⟨hids, hbegins⟩ := ih
    have hcons : escapeDollars (c :: s) ++ t =
        (if c = '$' then ['\\', '$'] else [c]) ++ (escapeDollars s ++ t) := by
      rw [escapeDollars, List.flatMap_cons, List.append_assoc]
      rfl
    rw [hcons]
    by_cases hdollar : c = '$'
    · rw [if_pos hdollar, List.cons_append, ids_cons, beginsMarked_cons]
      exact ⟨hids, rfl⟩
    · rw [if_neg hdollar, List.singleton_append, ← hids]
      by_cases hbackslash : c = '\\'
      · rw [hbackslash]
        exact ⟨ids_backslash hbegins, beginsMarked_backslash _⟩
      · rw [ids_cons, beginsMarked_cons, step_plain (fun hc => hbackslash hc.1) hdollar]
        exact ⟨rfl, rfl⟩

/-! ### Unfinished markers -/

/-- Whether a marker is unfinished at the end of the text: there is a dollar that is not escaped,
with an opening brace and digits behind it at most. `escaped` tells whether a backslash stands in
front of the text. -/
def endsOpenFrom (escaped : Bool) : Text → Bool
  | [] => false
  | c :: rest =>
    (c = '$' && !escaped && isUnfinished rest) || endsOpenFrom (c = '\\') rest

/-- Whether a marker is unfinished at the end of the text. -/
def endsOpen (text : Text) : Bool := endsOpenFrom false text

theorem endsOpenFrom_of_head?_ne (h : t.head? ≠ some '$') :
    endsOpenFrom true t = endsOpenFrom false t := by
  cases t with
  | nil => rfl
  | cons c t =>
    have hc : c ≠ '$' := fun hc => h (congrArg some hc)
    simp [endsOpenFrom, hc]

theorem endsOpenFrom_of_append {escaped : Bool} (hs : ∀ c ∈ s, c ≠ '\\')
    (h : endsOpenFrom escaped (s ++ t) = false) (hescaped : s = [] → escaped = false) :
    endsOpen t = false := by
  induction s generalizing escaped with
  | nil =>
    rw [hescaped rfl] at h
    exact h
  | cons c s ih =>
    obtain ⟨hc, hs⟩ := List.forall_mem_cons.mp hs
    rw [List.cons_append, endsOpenFrom, Bool.or_eq_false_iff] at h
    exact ih hs h.2 fun _ => decide_eq_false hc

/-- No marker is unfinished at the end of the rest of a text either. -/
theorem endsOpen_step {rest : Text} (h : endsOpen (c :: rest) = false) :
    endsOpen (step c rest).2 = false ∧ (c = '$' → isUnfinished rest = false) := by
  rw [endsOpen, endsOpenFrom, Bool.or_eq_false_iff] at h
  obtain ⟨hhere, hrest⟩ := h
  refine ⟨?_, fun hc => by simpa [hc] using hhere⟩
  rw [step]
  split_ifs with hescape hdollar
  · simp only [Bool.and_eq_true, decide_eq_true_eq] at hescape
    obtain ⟨rest, rfl⟩ := List.head?_eq_some_iff.mp hescape.2
    rw [endsOpenFrom, Bool.or_eq_false_iff] at hrest
    exact hrest.2
  · rw [hdollar] at hrest
    cases hdigits : digits? rest with
    | none => exact hrest
    | some found =>
      obtain ⟨digits, after⟩ := found
      obtain ⟨written, rfl, hwritten⟩ := exists_of_digits? hdigits
      have hafter : endsOpen after = false := by
        refine endsOpenFrom_of_append (fun c hc => ?_) hrest fun _ => rfl
        rintro rfl
        exact absurd (hwritten _ hc) (by decide)
      dsimp only
      cases readId? digits <;> exact hafter
  · by_cases hc : c = '\\'
    · have hhead : rest.head? ≠ some '$' := fun hhead => hescape (by simp [hc, hhead])
      rwa [decide_eq_true hc, endsOpenFrom_of_head?_ne hhead] at hrest
    · rwa [decide_eq_false hc] at hrest

/-- The markers in front of a text that does not begin with one, if none is unfinished. -/
theorem ids_append (hfront : endsOpen front = false) (ht : beginsMarked t = false) :
    ids (front ++ t) = ids front ++ ids t := by
  induction front using scan_induction with
  | nil => rw [ids_nil, List.nil_append, List.nil_append]
  | cons c rest ih =>
    obtain ⟨hopen, hfinished⟩ := endsOpen_step hfront
    by_cases hseam : c = '\\' ∧ rest = []
    · obtain ⟨rfl, rfl⟩ := hseam
      rw [List.singleton_append, ids_backslash ht, ids_backslash beginsMarked_nil, ids_nil,
        List.nil_append]
    · have hstep : step c (rest ++ t) = ((step c rest).1, (step c rest).2 ++ t) :=
        step_append (fun hc => .inl (hfinished hc)) fun hc hrest => absurd ⟨hc, hrest⟩ hseam
      rw [List.cons_append, ids_cons, hstep, ids_cons, ih hopen, List.append_assoc]

theorem beginsMarked_append (hne : front ≠ []) (hfront : endsOpen front = false) (t : Text) :
    beginsMarked (front ++ t) = beginsMarked front := by
  cases front with
  | nil => exact absurd rfl hne
  | cons c rest =>
    by_cases hc : c = '\\'
    · rw [hc, List.cons_append, beginsMarked_backslash, beginsMarked_backslash]
    · have hstep : step c (rest ++ t) = ((step c rest).1, (step c rest).2 ++ t) :=
        step_append (fun hdollar => .inl ((endsOpen_step hfront).2 hdollar))
          fun hbackslash => absurd hbackslash hc
      rw [List.cons_append, beginsMarked_cons, beginsMarked_cons, hstep]

/-! ### Escaped text between pieces -/

variable {pieces : List Text}

theorem beginsMarked_intercalate (s : Text)
    (hfinished : ∀ p ∈ pieces.dropLast, endsOpen p = false)
    (hunmarked : ∀ p ∈ pieces, beginsMarked p = false) :
    beginsMarked ((escapeDollars s).intercalate pieces) = false := by
  induction pieces with
  | nil => exact beginsMarked_nil
  | cons p pieces ih =>
    obtain ⟨hp, hpieces⟩ := List.forall_mem_cons.mp hunmarked
    cases pieces with
    | nil => simpa using hp
    | cons q rest =>
      rw [List.dropLast_cons_cons, List.forall_mem_cons] at hfinished
      have hrest := ids_escapeDollars_append s (ih hfinished.2 hpieces)
      rw [List.intercalate_cons_cons, List.append_assoc]
      by_cases hne : p = []
      · rw [hne, List.nil_append]
        exact hrest.2
      · rwa [beginsMarked_append hne hfinished.1]

/-- Escaped text between the pieces of a text does not change the markers, if none is unfinished in
front of it and none begins right behind it. -/
theorem ids_intercalate (s : Text) (hfinished : ∀ p ∈ pieces.dropLast, endsOpen p = false)
    (hunmarked : ∀ p ∈ pieces.tail, beginsMarked p = false) :
    ids ((escapeDollars s).intercalate pieces) = pieces.flatMap ids := by
  induction pieces with
  | nil => exact ids_nil
  | cons p pieces ih =>
    cases pieces with
    | nil => simp
    | cons q rest =>
      rw [List.dropLast_cons_cons, List.forall_mem_cons] at hfinished
      obtain ⟨hp, hfinished⟩ := hfinished
      have hbegins := beginsMarked_intercalate s hfinished hunmarked
      obtain ⟨hids, hbegins⟩ := ids_escapeDollars_append s hbegins
      rw [List.intercalate_cons_cons, List.append_assoc, ids_append hp hbegins, hids,
        ih hfinished (List.forall_mem_cons.mp hunmarked).2]
      rfl

end LiveSnippet.Marker
