import LiveSnippet.Proofs.Template.Seams
import Mathlib.Data.List.Chain
import Mathlib.Data.List.Forall2

/-!
# The pieces of literal text

Nothing of a text is lost when it is cut into pieces: as they are spelled there, one behind the other,
they are the text. It is cut only at escaped dollars and at markers, so plain text is never empty and
never stands next to plain text.

A marker can be spelled in more than one way, with braces or without, and with zeros in front. When
the pieces are written back, all markers in the same way, they make another text that has the same
pieces. The scan of that text goes step by step with the scan of the text itself, because a step
looks ahead only at what is written back as it was: at the first character of what follows, and at
digits and braces.

## Main definitions

* `Marker.Piece.Spelling`: how a piece may stand in a text
* `Marker.normal`: a text with its pieces written back
* `Marker.Stepped`: what a step of the scan can do

## Main results

* `Marker.exists_slices`: the pieces are the text
* `Marker.isChain_pieces`: plain text does not stand next to plain text
* `Marker.lexemes_normal`: the scan of a text that is written back
* `Marker.pieces_canonical`: all of this together
-/

namespace LiveSnippet.Marker

/-- How a piece may stand in a text. -/
inductive Piece.Spelling : Piece → Text → Prop
  | text (run : Text) : Spelling (.text run) run
  | dollar : Spelling .dollar ['\\', '$']
  | bare {digits : Text} {id : Nat} (h : readId? digits = some id) :
      Spelling (.marker id) ('$' :: digits)
  | braced {digits : Text} {id : Nat} (h : readId? digits = some id) :
      Spelling (.marker id) ('$' :: '\x7b' :: digits ++ ['\x7d'])

/-- Whether the piece is plain text. -/
def Piece.isText : Piece → Bool
  | text _ => true
  | _ => false

/-- The step over a piece that is written back. -/
def Lexeme.normal : Lexeme → Lexeme
  | marker id _ => marker id (Piece.marker id).written
  | step => step

/-- The text with its pieces written back: markers in braces, without zeros in front. -/
def normal (text : Text) : Text := (pieces text).flatMap Piece.written

variable {c : Char} {text rest digits written after : Text}

/-! ### Steps -/

/-- The number of a marker as it stands behind the dollar. -/
theorem exists_written_of_digits? (h : digits? text = some (digits, after)) :
    ∃ written, text = written ++ after ∧ (∀ c ∈ digits, isDecimalDigit c = true) ∧
      (written = digits ∨ written = '\x7b' :: digits ++ ['\x7d']) := by
  unfold digits? at h
  split at h
  · split at h
    · rename_i hdigits
      cases h
      obtain ⟨rfl, hall⟩ := eq_append_of_leadingDigits? hdigits
      exact ⟨'\x7b' :: digits ++ ['\x7d'], by simp, hall, .inr rfl⟩
    · cases h
  · obtain ⟨htext, hall⟩ := eq_append_of_leadingDigits? h
    exact ⟨digits, htext, hall, .inl rfl⟩

/-- The step over a dollar with a number behind it. -/
theorem step_dollar (h : digits? (written ++ after) = some (digits, after)) :
    step '$' (written ++ after) =
      (match readId? digits with
        | some id => .marker id ('$' :: written)
        | none => .plain ('$' :: written), after) := by
  have htake : (written ++ after).take ((written ++ after).length - after.length) = written := by
    simp
  rw [step, if_neg (by simp), if_pos rfl, h]
  dsimp only
  rw [htake]
  cases readId? digits <;> rfl

/-- What a step can do at a character, with `rest` behind it: what the step is, and what it
leaves. -/
inductive Stepped : Char → Text → Lexeme → Text → Prop
  | dollar (rest : Text) : Stepped '\\' ('$' :: rest) .dollar rest
  | marker {written digits after : Text} {id : Nat}
      (hdigits : digits? (written ++ after) = some (digits, after))
      (hid : readId? digits = some id)
      (hwritten : written = digits ∨ written = '\x7b' :: digits ++ ['\x7d']) :
      Stepped '$' (written ++ after) (.marker id ('$' :: written)) after
  | unnumbered {written digits after : Text}
      (hdigits : digits? (written ++ after) = some (digits, after))
      (hid : readId? digits = none) (hwritten : ∀ c ∈ written, c ≠ '$' ∧ c ≠ '\\') :
      Stepped '$' (written ++ after) (.plain ('$' :: written)) after
  | lone {rest : Text} (hdigits : digits? rest = none) : Stepped '$' rest (.plain ['$']) rest
  | plain {c : Char} {rest : Text} (hescape : ¬ (c = '\\' ∧ rest.head? = some '$'))
      (hdollar : c ≠ '$') : Stepped c rest (.plain [c]) rest

theorem ne_of_isDecimalDigit (h : isDecimalDigit c = true) : c ≠ '$' ∧ c ≠ '\\' := by
  constructor <;> rintro rfl <;> exact absurd h (by decide)

theorem stepped (c : Char) (rest : Text) : Stepped c rest (step c rest).1 (step c rest).2 := by
  by_cases hdollar : c = '$'
  · subst hdollar
    cases hdigits : digits? rest with
    | none =>
      rw [step, if_neg (by simp), if_pos rfl, hdigits]
      exact .lone hdigits
    | some found =>
      obtain ⟨digits, after⟩ := found
      obtain ⟨written, rfl, hall, hwritten⟩ := exists_written_of_digits? hdigits
      rw [step_dollar hdigits]
      cases hid : readId? digits with
      | some id => exact .marker hdigits hid hwritten
      | none =>
        refine .unnumbered hdigits hid fun c hc => ?_
        rcases hwritten with rfl | rfl
        · exact ne_of_isDecimalDigit (hall c hc)
        · rw [List.cons_append, List.mem_cons, List.mem_append, List.mem_singleton] at hc
          rcases hc with rfl | hc | rfl
          · decide
          · exact ne_of_isDecimalDigit (hall c hc)
          · decide
  · by_cases hescape : c = '\\' ∧ rest.head? = some '$'
    · obtain ⟨rfl, hhead⟩ := hescape
      obtain ⟨rest, rfl⟩ := List.head?_eq_some_iff.mp hhead
      exact .dollar rest
    · rw [step_plain hescape hdollar]
      exact .plain hescape hdollar

/-- A step takes characters from the front of the text. -/
theorem Stepped.source_append {taken : Lexeme} (h : Stepped c rest taken after) :
    taken.source ++ after = c :: rest := by
  cases h <;> rfl

theorem lexemes_of_step {taken : Lexeme} (h : step c rest = (taken, after)) :
    lexemes (c :: rest) = taken :: lexemes after := by rw [lexemes_cons, h]

/-- Induction over the steps of a scan, with what each of them can do. -/
@[elab_as_elim]
theorem stepped_induction {motive : Text → Prop} (nil : motive [])
    (cons : ∀ {c rest taken after}, Stepped c rest taken after →
      lexemes (c :: rest) = taken :: lexemes after → motive after → motive (c :: rest))
    (text : Text) : motive text :=
  scan_induction nil (fun c rest ih => cons (stepped c rest) (lexemes_cons c rest) ih) text

theorem flatMap_source_lexemes (text : Text) : (lexemes text).flatMap Lexeme.source = text := by
  induction text using stepped_induction with
  | nil => rw [lexemes_nil, List.flatMap_nil]
  | cons hstep hlexemes ih => rw [hlexemes, List.flatMap_cons, ih, hstep.source_append]

/-- The markers of a scan are spelled as markers. -/
theorem spelling_of_mem_lexemes {id : Nat} {source : Text}
    (h : Lexeme.marker id source ∈ lexemes text) : Piece.Spelling (.marker id) source := by
  induction text using stepped_induction with
  | nil =>
    rw [lexemes_nil] at h
    cases h
  | cons hstep hlexemes ih =>
    rw [hlexemes, List.mem_cons] at h
    rcases h with rfl | h
    · cases hstep with
      | marker hdigits hid hwritten =>
        rcases hwritten with rfl | rfl
        · exact .bare hid
        · exact .braced hid
    · exact ih h

/-! ### Pieces -/

theorem flush_cases (run : Text) :
    (run = [] ∧ flush run = []) ∨ (run.reverse ≠ [] ∧ flush run = [.text run.reverse]) := by
  cases run with
  | nil => exact .inl ⟨rfl, rfl⟩
  | cons c run => exact .inr ⟨by simp, rfl⟩

/-- Plain text that is closed, as it stands in the text. -/
theorem exists_slices_flush (run : Text) :
    ∃ slices, List.Forall₂ Piece.Spelling (flush run) slices ∧ slices.flatten = run.reverse := by
  rcases flush_cases run with ⟨rfl, hflush⟩ | ⟨-, hflush⟩ <;> rw [hflush]
  · exact ⟨[], .nil, rfl⟩
  · exact ⟨[run.reverse], .cons (.text _) .nil, by simp⟩

theorem exists_slices_glue (run : Text) {steps : List Lexeme}
    (h : ∀ id source, .marker id source ∈ steps → Piece.Spelling (.marker id) source) :
    ∃ slices, List.Forall₂ Piece.Spelling (glue run steps) slices ∧
      slices.flatten = run.reverse ++ steps.flatMap Lexeme.source := by
  induction steps generalizing run with
  | nil => simpa [glue] using exists_slices_flush run
  | cons step steps ih =>
    have hrest := fun run => ih run fun id source hmem => h id source (List.mem_cons_of_mem _ hmem)
    have hclose {piece : Piece} {source : Text} (hpiece : piece.Spelling source) :
        ∃ slices, List.Forall₂ Piece.Spelling (flush run ++ piece :: glue [] steps) slices ∧
          slices.flatten = run.reverse ++ (source ++ steps.flatMap Lexeme.source) := by
      obtain ⟨front, hfront, hflush⟩ := exists_slices_flush run
      obtain ⟨back, hback, hglue⟩ := hrest []
      refine ⟨front ++ source :: back, List.rel_append hfront (.cons hpiece hback), ?_⟩
      rw [List.flatten_append, List.flatten_cons, hflush, hglue, List.reverse_nil, List.nil_append]
    cases step with
    | plain s =>
      obtain ⟨slices, hslices, hflatten⟩ := hrest (s.reverse ++ run)
      exact ⟨slices, hslices, by simpa [Lexeme.source] using hflatten⟩
    | dollar => exact hclose .dollar
    | marker id source => exact hclose (h id source List.mem_cons_self)

/-- The pieces of a text, as they are spelled in it, are the text. -/
theorem exists_slices (text : Text) :
    ∃ slices, List.Forall₂ Piece.Spelling (pieces text) slices ∧ slices.flatten = text := by
  have hmarkers : ∀ id source, Lexeme.marker id source ∈ lexemes text →
      Piece.Spelling (.marker id) source := fun _ _ => spelling_of_mem_lexemes
  have hslices := exists_slices_glue [] hmarkers
  rwa [flatMap_source_lexemes] at hslices

theorem ne_nil_of_mem_glue {run s : Text} {steps : List Lexeme}
    (h : .text s ∈ glue run steps) : s ≠ [] := by
  have hflush {run : Text} (h : .text s ∈ flush run) : s ≠ [] := by
    rcases flush_cases run with ⟨-, heq⟩ | ⟨hne, heq⟩ <;> rw [heq] at h
    · cases h
    · obtain rfl := Piece.text.inj (List.mem_singleton.mp h)
      exact hne
  induction steps generalizing run with
  | nil => exact hflush h
  | cons step steps ih =>
    cases step with
    | plain s => exact ih h
    | dollar | marker id source =>
      rcases List.mem_append.mp h with h | h
      · exact hflush h
      · exact ih ((List.mem_cons.mp h).resolve_left nofun)

theorem isChain_glue (run : Text) (steps : List Lexeme) :
    (glue run steps).IsChain fun p q => p.isText = false ∨ q.isText = false := by
  induction steps generalizing run with
  | nil => rcases flush_cases run with ⟨-, heq⟩ | ⟨-, heq⟩ <;> rw [glue, heq] <;> simp
  | cons step steps ih =>
    have hclose {piece : Piece} (hpiece : piece.isText = false) :
        (flush run ++ piece :: glue [] steps).IsChain
          fun p q => p.isText = false ∨ q.isText = false := by
      have hback : (piece :: glue [] steps).IsChain
          fun p q => p.isText = false ∨ q.isText = false :=
        List.isChain_cons.mpr ⟨fun q _ => .inl hpiece, ih []⟩
      rcases flush_cases run with ⟨-, heq⟩ | ⟨-, heq⟩ <;> rw [heq]
      · exact hback
      · exact List.isChain_cons.mpr ⟨fun q hq => .inr (by
          obtain rfl := Option.some.inj hq
          exact hpiece), hback⟩
    cases step with
    | plain s => exact ih _
    | dollar => exact hclose rfl
    | marker id source => exact hclose rfl

/-- Plain text does not stand next to plain text. -/
theorem isChain_pieces (text : Text) :
    (pieces text).IsChain fun p q => p.isText = false ∨ q.isText = false :=
  isChain_glue [] (lexemes text)

/-! ### Pieces that are written back -/

theorem flatMap_written_glue (run : Text) (steps : List Lexeme) :
    (glue run steps).flatMap Piece.written =
      run.reverse ++ steps.flatMap fun step => step.normal.source := by
  have hflush (run : Text) : (flush run).flatMap Piece.written = run.reverse := by
    rcases flush_cases run with ⟨rfl, heq⟩ | ⟨-, heq⟩ <;> rw [heq] <;> simp [Piece.written]
  induction steps generalizing run with
  | nil => simpa [glue] using hflush run
  | cons step steps ih =>
    cases step with
    | plain s => simp [glue, ih, Lexeme.normal, Lexeme.source]
    | dollar => simp [glue, ih, hflush, Lexeme.normal, Lexeme.source, Piece.written]
    | marker id s => simp [glue, ih, hflush, Lexeme.normal, Lexeme.source]

theorem glue_map_normal (run : Text) (steps : List Lexeme) :
    glue run (steps.map Lexeme.normal) = glue run steps := by
  induction steps generalizing run with
  | nil => rfl
  | cons step steps ih => cases step <;> simp [glue, ih, Lexeme.normal]

theorem normal_eq (text : Text) :
    normal text = (lexemes text).flatMap fun step => step.normal.source :=
  flatMap_written_glue [] (lexemes text)

theorem normal_nil : normal [] = [] := by rw [normal_eq, lexemes_nil, List.flatMap_nil]

theorem normal_of_lexemes {taken : Lexeme} (h : lexemes text = taken :: lexemes after) :
    normal text = taken.normal.source ++ normal after := by
  rw [normal_eq, normal_eq, h, List.flatMap_cons]

/-- Characters that neither begin a marker nor escape a dollar stay as they are. -/
theorem normal_append_of_forall {s : Text} (hs : ∀ c ∈ s, c ≠ '$' ∧ c ≠ '\\') (t : Text) :
    normal (s ++ t) = s ++ normal t := by
  induction s with
  | nil => rfl
  | cons c s ih =>
    obtain ⟨⟨hdollar, hbackslash⟩, hs⟩ := List.forall_mem_cons.mp hs
    have hlexemes : lexemes (c :: (s ++ t)) = .plain [c] :: lexemes (s ++ t) :=
      lexemes_of_step (step_plain (fun h => hbackslash h.1) hdollar)
    rw [List.cons_append, normal_of_lexemes hlexemes, ih hs]
    rfl

/-- The first character stays as it is. -/
theorem head?_normal (text : Text) : (normal text).head? = text.head? := by
  induction text using stepped_induction with
  | nil => rw [normal_nil]
  | cons hstep hlexemes ih =>
    rw [normal_of_lexemes hlexemes]
    cases hstep <;> rfl

/-- Digits stay as they are, up to the place where they stop. -/
theorem takeWhile_dropWhile_normal (text : Text) :
    (normal text).takeWhile isDecimalDigit = text.takeWhile isDecimalDigit ∧
      (normal text).dropWhile isDecimalDigit = normal (text.dropWhile isDecimalDigit) := by
  induction text with
  | nil => simp [normal_nil]
  | cons c rest ih =>
    cases hc : isDecimalDigit c with
    | true =>
      have hnormal : normal (c :: rest) = c :: normal rest :=
        normal_append_of_forall (s := [c])
          (List.forall_mem_singleton.mpr (ne_of_isDecimalDigit hc)) rest
      rw [hnormal]
      simpa [hc] using ih
    | false =>
      obtain ⟨rest', hnormal⟩ := List.head?_eq_some_iff.mp (head?_normal (c :: rest))
      simp [hnormal, hc]

theorem leadingDigits?_normal (text : Text) :
    leadingDigits? (normal text) =
      (leadingDigits? text).map fun found => (found.1, normal found.2) := by
  obtain ⟨htake, hdrop⟩ := takeWhile_dropWhile_normal text
  rw [leadingDigits?, leadingDigits?, htake, hdrop]
  split_ifs <;> rfl

theorem normal_cons_brace (h : c = '\x7b' ∨ c = '\x7d') (rest : Text) :
    normal (c :: rest) = c :: normal rest := by
  refine normal_append_of_forall (s := [c]) (List.forall_mem_singleton.mpr ?_) rest
  rcases h with rfl | rfl <;> decide

/-- The number behind a dollar is read as before. -/
theorem digits?_normal (text : Text) :
    digits? (normal text) = (digits? text).map fun found => (found.1, normal found.2) := by
  by_cases hbrace : text.head? = some '\x7b'
  · obtain ⟨rest, rfl⟩ := List.head?_eq_some_iff.mp hbrace
    rw [normal_cons_brace (.inl rfl), digits?, digits?, leadingDigits?_normal]
    cases hdigits : leadingDigits? rest with
    | none => rfl
    | some found =>
      obtain ⟨digits, after⟩ := found
      cases after with
      | nil =>
        rw [Option.map_some, normal_nil]
        rfl
      | cons d after =>
        by_cases hd : d = '\x7d'
        · rw [hd, Option.map_some, normal_cons_brace (.inr rfl)]
          rfl
        · obtain ⟨after', hnormal⟩ := List.head?_eq_some_iff.mp (head?_normal (d :: after))
          simp [hnormal, hd]
  · rw [digits?_of_head?_ne hbrace, digits?_of_head?_ne (by rwa [head?_normal]),
      leadingDigits?_normal]

/-! ### Numbers of markers -/

theorem isDecimalDigit_of_isDigit (h : c.isDigit = true) : isDecimalDigit c = true := by
  have hlt : c.toNat < 0x80 := by
    have hle : c.toNat ≤ '9'.toNat := (Char.isDigit_iff_toNat.mp h).2
    exact hle.trans_lt (by decide)
  rwa [isDecimalDigit, if_pos hlt]

theorem readId?_lt {id : Nat} (h : readId? digits = some id) : id < Nat.pow 2 32 := by
  simpa using (Option.filter_eq_some_iff.mp h).2

theorem isDigit_of_mem_ofNat {n : Nat} (h : c ∈ Text.ofNat n) : c.isDigit = true :=
  Nat.isDigit_of_mem_toDigits (by decide) (by decide) h

/-- A number that a marker can have is read from its numeral. -/
theorem readId?_ofNat {id : Nat} (h : id < Nat.pow 2 32) : readId? (Text.ofNat id) = some id := by
  have hdigits : (Text.ofNat id).all Char.isDigit = true :=
    List.all_eq_true.mpr fun c hc => isDigit_of_mem_ofNat hc
  have hempty : (Text.ofNat id).isEmpty = false :=
    List.isEmpty_eq_false_iff.mpr Nat.toDigits_ne_nil
  have hvalue : (Text.ofNat id).foldl (fun n c => 10 * n + (c.toNat - '0'.toNat)) 0 = id :=
    Nat.ofDigitChars_eq_foldl.symm.trans Nat.ofDigitChars_ten_toDigits
  have hnumber : Text.toNat? (Text.ofNat id) = some id := by
    rw [Text.toNat?, hdigits, hempty, hvalue]
    rfl
  rw [readId?, hnumber]
  exact Option.filter_eq_some_iff.mpr ⟨rfl, by simpa using h⟩

/-- A numeral is found between the braces of a marker. -/
theorem digits?_braced (n : Nat) (rest : Text) :
    digits? ('\x7b' :: (Text.ofNat n ++ '\x7d' :: rest)) = some (Text.ofNat n, rest) := by
  have hall : ∀ c ∈ Text.ofNat n, isDecimalDigit c = true := fun c hc =>
    isDecimalDigit_of_isDigit (isDigit_of_mem_ofNat hc)
  have hstop : isDecimalDigit '\x7d' = false := by decide
  have htake : (Text.ofNat n ++ '\x7d' :: rest).takeWhile isDecimalDigit = Text.ofNat n := by
    rw [List.takeWhile_append_of_pos hall, List.takeWhile_cons_of_neg (by simp [hstop]),
      List.append_nil]
  have hdrop : (Text.ofNat n ++ '\x7d' :: rest).dropWhile isDecimalDigit = '\x7d' :: rest := by
    rw [List.dropWhile_append_of_pos hall, List.dropWhile_cons_of_neg (by simp [hstop])]
  have hempty : (Text.ofNat n).isEmpty = false := List.isEmpty_eq_false_iff.mpr Nat.toDigits_ne_nil
  rw [digits?, leadingDigits?, htake, hdrop, hempty]
  rfl

/-! ### The scan of a text that is written back -/

/-- A step of the scan goes over what is written back of the step. -/
theorem Stepped.lexemes_normal_append {taken : Lexeme} (h : Stepped c rest taken after) :
    lexemes (taken.normal.source ++ normal after) = taken.normal :: lexemes (normal after) := by
  cases h with
  | dollar => exact lexemes_of_step rfl
  | @marker written digits after id hdigits hid hwritten =>
    have hsource : (Lexeme.marker id ('$' :: written)).normal.source ++ normal after =
        '$' :: ('\x7b' :: (Text.ofNat id ++ ['\x7d']) ++ normal after) := by
      simp [Lexeme.normal, Lexeme.source, Piece.written]
    have hbraced : digits? ('\x7b' :: (Text.ofNat id ++ ['\x7d']) ++ normal after) =
        some (Text.ofNat id, normal after) := by
      simpa using digits?_braced id (normal after)
    have hstep := step_dollar hbraced
    rw [readId?_ofNat (readId?_lt hid)] at hstep
    rw [hsource]
    exact lexemes_of_step hstep
  | @unnumbered written digits after hdigits hid hwritten =>
    have hnormal : digits? (written ++ normal after) = some (digits, normal after) := by
      rw [← normal_append_of_forall hwritten, digits?_normal, hdigits, Option.map_some]
    have hstep := step_dollar hnormal
    rw [hid] at hstep
    exact lexemes_of_step hstep
  | lone hdigits =>
    have hnormal : digits? (normal rest) = none := by rw [digits?_normal, hdigits, Option.map_none]
    have hstep : step '$' (normal rest) = (.plain ['$'], normal rest) := by
      rw [step, if_neg (by simp), if_pos rfl, hnormal]
    exact lexemes_of_step hstep
  | plain hescape hdollar =>
    rw [← head?_normal] at hescape
    exact lexemes_of_step (step_plain hescape hdollar)

/-- A text that is written back is scanned in the same steps. -/
theorem lexemes_normal (text : Text) : lexemes (normal text) = (lexemes text).map Lexeme.normal := by
  induction text using stepped_induction with
  | nil => rw [normal_nil, lexemes_nil, List.map_nil]
  | cons hstep hlexemes ih =>
    rw [normal_of_lexemes hlexemes, hstep.lexemes_normal_append, ih, hlexemes, List.map_cons]

/-- **Pieces.** The pieces of a text, as they are spelled in it, are the text. Plain text among them
is not empty and does not stand next to plain text. Written back, the pieces make a text with the
same pieces. -/
theorem pieces_canonical (text : Text) :
    (∃ slices, List.Forall₂ Piece.Spelling (pieces text) slices ∧ slices.flatten = text) ∧
      (∀ run, .text run ∈ pieces text → run ≠ []) ∧
      ((pieces text).IsChain fun p q => p.isText = false ∨ q.isText = false) ∧
      pieces ((pieces text).flatMap Piece.written) = pieces text := by
  refine ⟨exists_slices text, fun run => ne_nil_of_mem_glue, isChain_pieces text, ?_⟩
  calc pieces (normal text) = glue [] ((lexemes text).map Lexeme.normal) := by
        rw [pieces, lexemes_normal]
    _ = pieces text := glue_map_normal [] (lexemes text)

/-- A backslash that escapes nothing and a number that is too large are plain text. -/
example : normal "\\\\$$007$99999999999".toList =
    "\\\\$$\x7b7\x7d$99999999999".toList := by
  decide +kernel

end LiveSnippet.Marker
