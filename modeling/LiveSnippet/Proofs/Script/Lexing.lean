import LiveSnippet.Proofs.Script.Spelling
import LiveSnippet.Proofs.Text.Extent

/-!
# The lexer reads back what is written

Written tokens are read back with the places at which they stand. What makes this work is the blank
between two tokens: no scanner goes past it, so every token is read as if the script ended behind
it.

## Main definitions

* `BlankAhead`: a place in a script at which every token ends

## Main results

* `skipTrivia_gap`: what stands in front of a token is passed over, and nothing else
* `scanToken_written`: a written token is scanned whole
* `tokenize_source`: the lexer returns the written tokens and their places
-/

namespace LiveSnippet.Script

/-! ### Places -/

theorem Place.afterText_append (place : Place) (s t : Text) :
    place.afterText (s ++ t) = (place.afterText s).afterText t := List.foldl_append

theorem Place.afterText_cons (place : Place) (c : Char) (t : Text) :
    place.afterText (c :: t) = (place.after c).afterText t := rfl

theorem placeBehind_concat (s : Text) (c : Char) :
    placeBehind (s ++ [c]) = (placeBehind s).after c := by
  simp only [placeBehind, Text.extent_append, Text.extent_cons, Text.extent_nil, add_zero]
  by_cases hc : c = '\n'
  · simp [Place.after, hc, Extent.add_last]
  · simp [Place.after, hc, Text.charExtent_of_ne hc, Extent.add_last]

theorem placeBehind_append (s t : Text) : placeBehind (s ++ t) = (placeBehind s).afterText t := by
  induction t generalizing s with
  | nil => rw [List.append_nil]; rfl
  | cons c t ih => rw [List.append_cons, ih, placeBehind_concat, Place.afterText_cons]

/-! ### Where tokens end -/

/-- The script ends, or it goes on with a blank. -/
def BlankAhead (text : Text) : Prop := text = [] ∨ BeginsBlank text

namespace BlankAhead

variable {rest : Text} {p : Char → Bool}

theorem takeWhile_eq_nil (h : BlankAhead rest) (hp : [' ', '\t', '\r'].any p = false) :
    rest.takeWhile p = [] := by
  obtain rfl | ⟨c, rest, rfl, hc⟩ := h
  · rfl
  · exact List.takeWhile_cons_of_neg (List.any_eq_false.1 hp c hc)

/-- A scanner that takes no blank takes as much of a word as it takes of the word alone. -/
theorem takeWhile_append (h : BlankAhead rest) (hp : [' ', '\t', '\r'].any p = false)
    (word : Text) : (word ++ rest).takeWhile p = word.takeWhile p := by
  rw [List.takeWhile_append, h.takeWhile_eq_nil hp, List.append_nil]
  split
  · rename_i hlength
    exact ((List.takeWhile_prefix p).eq_of_length hlength).symm
  · rfl

theorem dropWhile_append (h : BlankAhead rest) (hp : [' ', '\t', '\r'].any p = false)
    {word : Text} (hword : ∀ c ∈ word, p c = true) : (word ++ rest).dropWhile p = rest := by
  rw [List.dropWhile_append_of_pos hword]
  have hsplit := List.takeWhile_append_dropWhile (p := p) (l := rest)
  rwa [h.takeWhile_eq_nil hp] at hsplit

theorem head?_any_eq_false (h : BlankAhead rest) (hp : [' ', '\t', '\r'].any p = false) :
    rest.head?.any p = false := by
  obtain rfl | ⟨c, rest, rfl, hc⟩ := h
  · rfl
  · exact Bool.eq_false_iff.2 (List.any_eq_false.1 hp c hc)

theorem head?_ne (h : BlankAhead rest) {c : Char} (hc : c ∉ [' ', '\t', '\r']) :
    rest.head? ≠ some c := by
  obtain rfl | ⟨b, rest, rfl, hb⟩ := h
  · simp
  · rintro ⟨⟩
    exact hc hb

end BlankAhead

/-- A character of a kind is none of the characters that are not of this kind. -/
theorem ne_of_any_eq_false {p : Char → Bool} {others : List Char} (hp : others.any p = false)
    {c : Char} (hc : p c = true) : ∀ d ∈ others, c ≠ d := by
  rintro d hd rfl
  exact List.any_eq_false.1 hp c hd hc

/-! ### Gaps -/

variable {place : Place} {rest : Text}

theorem skipTrivia_blank {c : Char} (hc : c ∈ [' ', '\t', '\r']) :
    skipTrivia place (c :: rest) = skipTrivia (place.after c) rest := by
  have hblank : [' ', '\t', '\r'].all isBlank = true := rfl
  rw [skipTrivia, if_pos (List.all_eq_true.1 hblank c hc)]

/-- Nothing is passed over in front of a character that is neither a blank nor begins a comment. -/
theorem skipTrivia_stop {c : Char} (hblank : isBlank c = false)
    (hslash : c = '/' → rest.head? ≠ some '/' ∧ rest.head? ≠ some '*') :
    skipTrivia place (c :: rest) = .ok ⟨place, c :: rest⟩ := by
  rw [skipTrivia, if_neg (by simp [hblank]), if_neg (by simpa using fun hc => (hslash hc).1),
    if_neg (by simpa using fun hc => (hslash hc).2)]

theorem skipLine_comment {comment : Text} (h : '\n' ∉ comment) :
    skipLine place (comment ++ '\n' :: rest) = ⟨place.afterText comment, '\n' :: rest⟩ := by
  induction comment generalizing place with
  | nil => rfl
  | cons c comment ih =>
    rw [List.mem_cons, not_or] at h
    rw [List.cons_append, skipLine, if_neg (Ne.symm h.1), ih h.2, Place.afterText_cons]

theorem skipBlock_comment {comment : Text} (h : ¬ ['*', '/'] <:+: comment) :
    skipBlock place (comment ++ '*' :: '/' :: rest) =
      .ok ⟨((place.afterText comment).after '*').after '/', rest⟩ := by
  induction comment generalizing place with
  | nil => rfl
  | cons c comment ih =>
    rw [List.infix_cons_iff, not_or] at h
    -- Behind a star there is another character of the comment, or the star that closes it.
    have hopen : ¬ (c = '*' ∧ (comment ++ '*' :: '/' :: rest).head? = some '/') := by
      rintro ⟨rfl, hhead⟩
      cases comment with
      | nil => cases hhead
      | cons d comment =>
        cases hhead
        exact h.1 ⟨comment, rfl⟩
    rw [List.cons_append, skipBlock, if_neg (by simpa using hopen), ih h.2, Place.afterText_cons]

theorem skipTrivia_blockComment {comment : Text} (h : ¬ ['*', '/'] <:+: comment) :
    skipTrivia place ('/' :: '*' :: (comment ++ '*' :: '/' :: rest)) =
      skipTrivia (place.afterText ('/' :: '*' :: (comment ++ ['*', '/']))) rest := by
  rw [skipTrivia, if_neg (by decide), if_neg (by simp), if_pos (by simp)]
  split
  · rename_i cursor hcursor
    rw [List.tail_cons, skipBlock_comment h] at hcursor
    cases hcursor
    rw [Place.afterText_cons, Place.afterText_cons, Place.afterText_append]
    rfl
  · rename_i herror
    rw [List.tail_cons, skipBlock_comment h] at herror
    cases herror

theorem skipTrivia_lineComment {comment : Text} (h : '\n' ∉ comment) :
    skipTrivia place ('/' :: '/' :: (comment ++ '\n' :: rest)) =
      skipTrivia (place.afterText ('/' :: '/' :: comment)) ('\n' :: rest) := by
  rw [skipTrivia, if_neg (by decide), if_pos (by simp)]
  simp only [List.tail_cons, skipLine_comment h, Place.afterText_cons]

theorem skipTrivia_filler {filler : Text} (h : Filler filler) :
    skipTrivia place (filler ++ rest) = skipTrivia (place.afterText filler) rest := by
  induction h generalizing place with
  | nil => rfl
  | blank hc _ ih => rw [List.cons_append, skipTrivia_blank hc, ih, Place.afterText_cons]
  | @comment comment filler hcomment _ ih =>
    have hassoc : '/' :: '*' :: (comment ++ '*' :: '/' :: filler) =
        '/' :: '*' :: (comment ++ ['*', '/']) ++ filler := by simp
    rw [hassoc, Place.afterText_append, ← ih, ← skipTrivia_blockComment hcomment]
    simp

/-! ### Numbers -/

theorem numberTail_of_blankAhead (h : BlankAhead rest) (hasExponent : Bool) :
    numberTail hasExponent rest = ([], rest) := by
  obtain rfl | ⟨c, rest, rfl, hc⟩ := h
  · rfl
  · have hchars : [' ', '\t', '\r'].any
        (fun c => c.isDigit || c = '.' || c = '_' || c = 'e' || c = 'E') = false := rfl
    have hchar := List.any_eq_false.1 hchars c hc
    simp only [Bool.or_eq_true, not_or, Bool.not_eq_true] at hchar
    simp [numberTail.eq_def, hchar]

theorem numberTail_char {c : Char} (hc : isNumberChar c = true) (hasExponent : Bool) :
    numberTail hasExponent (c :: rest) =
      (c :: (numberTail hasExponent rest).1, (numberTail hasExponent rest).2) := by
  rw [isNumberChar] at hc
  simp [numberTail.eq_def hasExponent (c :: rest), hc]

theorem not_isNumberChar_mark {e : Char} (he : e = 'e' ∨ e = 'E') :
    (e.isDigit || e = '.' || e = '_') = false := by
  obtain rfl | rfl := he <;> decide

theorem numberTail_mark_sign {e s : Char} (he : e = 'e' ∨ e = 'E') (hs : s = '+' ∨ s = '-') :
    numberTail false (e :: s :: rest) =
      (e :: s :: (numberTail true rest).1, (numberTail true rest).2) := by
  simp [numberTail.eq_def false (e :: s :: rest), not_isNumberChar_mark he, he, hs]

theorem numberTail_mark {e : Char} (he : e = 'e' ∨ e = 'E')
    (hrest : ∀ s ∈ rest.head?, ¬ (s = '+' ∨ s = '-')) :
    numberTail false (e :: rest) = (e :: (numberTail true rest).1, (numberTail true rest).2) := by
  cases rest with
  | nil => simp [numberTail.eq_def, not_isNumberChar_mark he, he]
  | cons s rest =>
    have hs := hrest s rfl
    simp [numberTail.eq_def false (e :: s :: rest), not_isNumberChar_mark he, he, hs]

theorem numberTail_digits {digits : Text} (h : ∀ c ∈ digits, isNumberChar c = true)
    (hasExponent : Bool) :
    numberTail hasExponent (digits ++ rest) =
      (digits ++ (numberTail hasExponent rest).1, (numberTail hasExponent rest).2) := by
  induction digits with
  | nil => rfl
  | cons c digits ih =>
    obtain ⟨hc, hdigits⟩ := List.forall_mem_cons.1 h
    rw [List.cons_append, numberTail_char hc, ih hdigits]
    rfl

theorem numberTail_exponent {exponent : Text} (h : Exponent exponent) (hrest : BlankAhead rest) :
    numberTail false (exponent ++ rest) = (exponent, rest) := by
  cases h with
  | none => exact numberTail_of_blankAhead hrest false
  | @mark e sign digits he hsign hdigits =>
    have htail : numberTail true (digits ++ rest) = (digits, rest) := by
      rw [numberTail_digits hdigits, numberTail_of_blankAhead hrest, List.append_nil]
    obtain rfl | rfl | rfl := hsign
    · rw [List.nil_append, List.cons_append, numberTail_mark he, htail]
      rintro s hs (rfl | rfl)
      all_goals
        cases digits with
        | nil => exact hrest.head?_ne (by decide) hs
        | cons d digits =>
          cases hs
          exact absurd (hdigits _ List.mem_cons_self) (by decide)
    all_goals
      simp only [List.cons_append, List.nil_append]
      rw [numberTail_mark_sign he (by decide), htail]

theorem scanToken_number {word : Text} {value : Float} (h : NumberWord word value)
    (hrest : BlankAhead rest) :
    ∃ c tail, word = c :: tail ∧
      scanToken place c (tail ++ rest) = .ok (.number value, ⟨place.afterText word, rest⟩) := by
  obtain ⟨hbegin, hbody, hexponent, hvalue⟩ := h
  rename_i body exponent
  obtain ⟨c, digits, rfl, hstart⟩ : ∃ c digits, body = c :: digits ∧
      startsNumber c (digits ++ exponent ++ rest) = true := by
    obtain ⟨d, digits, rfl, hd⟩ | ⟨d, digits, rfl, hd⟩ := hbegin
    · exact ⟨d, digits, rfl, by simp [startsNumber, hd]⟩
    · exact ⟨'.', d :: digits, rfl, by simp [startsNumber, hd]⟩
  have htail : numberTail false (digits ++ exponent ++ rest) = (digits ++ exponent, rest) := by
    rw [List.append_assoc, numberTail_digits (List.forall_mem_cons.1 hbody).2,
      numberTail_exponent hexponent hrest]
  have hvalue : Decimal.read? ((c :: (digits ++ exponent)).filter (· ≠ '_')) = some value := hvalue
  refine ⟨c, digits ++ exponent, rfl, ?_⟩
  rw [scanToken, if_pos hstart, htail]
  simp only [numberToken, hvalue]
  rfl

/-! ### Strings -/

theorem Escape.unescape_eq {c e : Char} (h : Escape c e) : unescape e = c := by
  cases h with
  | letter h =>
    simp only [escapeLetters, List.mem_cons, Prod.mk.injEq, List.not_mem_nil, or_false] at h
    obtain ⟨rfl, rfl⟩ | ⟨rfl, rfl⟩ | ⟨rfl, rfl⟩ | ⟨rfl, rfl⟩ := h <;> rfl
  | itself h =>
    simp only [escapeLetters, List.map_cons, List.map_nil, List.mem_cons, List.not_mem_nil,
      or_false, not_or] at h
    simp [unescape, h]

/-- A quote is neither a line feed nor a backslash. -/
theorem quote_ne {quote : Char} (hquote : quote ∈ ['"', '\'', '\x60']) :
    quote ≠ '\n' ∧ quote ≠ '\\' := by
  constructor
  all_goals
    rintro rfl
    exact absurd hquote (by decide)

theorem stringTail_body {quote : Char} (hquote : quote ∈ ['"', '\'', '\x60']) {value body : Text}
    (h : StringBody quote value body) (done : Text) :
    stringTail quote place done (body ++ quote :: rest) =
      .ok (done.reverse ++ value, ⟨place.afterText (body ++ [quote]), rest⟩) := by
  obtain ⟨hfeed, hslash⟩ := quote_ne hquote
  induction h generalizing place done with
  | nil =>
    rw [List.nil_append, stringTail.eq_def]
    simp [hfeed, Place.afterText]
  | @plain c value body hc hend hline _ ih =>
    have hopen : ¬ ((c = '\n' && quote ≠ '\x60') = true) := by simpa using hline
    rw [List.cons_append, stringTail.eq_def]
    dsimp only
    rw [if_neg hopen, if_neg hend, if_neg hc, ih]
    simp [Place.afterText_cons]
  | @escaped c e value body hescape _ ih =>
    rw [List.cons_append, List.cons_append, stringTail.eq_def]
    dsimp only
    rw [if_neg (by simp), if_neg hslash.symm, if_pos rfl, ih, hescape.unescape_eq]
    simp [Place.afterText_cons]

theorem scanToken_string {quote : Char} (hquote : quote ∈ ['"', '\'', '\x60']) {value body : Text}
    (h : StringBody quote value body) :
    scanToken place quote (body ++ quote :: rest) =
      .ok (.string value, ⟨place.afterText (quote :: (body ++ [quote])), rest⟩) := by
  have hnumbers : ['"', '\'', '\x60'].any (fun c => c.isDigit || c = '.') = false := rfl
  have hnumber := List.any_eq_false.1 hnumbers quote hquote
  simp only [Bool.or_eq_true, decide_eq_true_eq, not_or, Bool.not_eq_true] at hnumber
  rw [scanToken, if_neg (by simp [startsNumber, hnumber]),
    if_pos (by simpa [or_assoc] using hquote), stringTail_body hquote h]
  rfl

/-! ### Words -/

theorem isDigit_eq_false_of_isIdentStart {c : Char} (h : isIdentStart c = true) :
    c.isDigit = false := by
  have hall : ∀ n ∈ List.range' 48 10, isIdentStart (Char.ofNat n) = false := by decide
  by_contra hdigit
  have hc : c.toNat ∈ List.range' 48 10 := by
    simp only [Char.isDigit, Bool.not_eq_false, Bool.and_eq_true, decide_eq_true_eq, ge_iff_le,
      UInt32.le_iff_toNat_le] at hdigit
    exact List.mem_range'_1.2 ⟨hdigit.1, Nat.lt_succ_of_le hdigit.2⟩
  rw [← Char.ofNat_toNat c, hall _ hc] at h
  cases h

theorem scanToken_word {c : Char} {tail : Text} (hc : isIdentStart c = true)
    (htail : ∀ d ∈ tail, isIdentContinue d = true) (hrest : BlankAhead rest) :
    scanToken place c (tail ++ rest) =
      .ok (wordToken (c :: tail), ⟨place.afterText (c :: tail), rest⟩) := by
  have hblank : [' ', '\t', '\r'].any isIdentContinue = false := by decide
  have hothers : ['.', '"', '\'', '\x60'].any isIdentStart = false := by decide
  have hne := ne_of_any_eq_false hothers hc
  have hdigit : c.isDigit = false := isDigit_eq_false_of_isIdentStart hc
  rw [scanToken, if_neg (by simp [startsNumber, hdigit, hne]), if_neg (by simp [hne]), if_pos hc,
    List.takeWhile_append_of_pos htail, hrest.takeWhile_eq_nil hblank, List.append_nil,
    hrest.dropWhile_append hblank htail]

/-- A word without a meaning of its own is an identifier. -/
theorem wordToken_ident {word : Text} (h : word ∉ keywords.map Prod.fst) :
    wordToken word = .ident word := by
  have hne : ∀ k ∈ keywords.map Prod.fst, word ≠ k := by
    rintro k hk rfl
    exact h hk
  simp only [keywords, List.map_cons, List.map_nil, List.forall_mem_cons] at hne
  simp only [wordToken, hne, decide_false, Bool.or_self, Bool.false_eq_true, if_false]

theorem wordToken_keyword {word : Text} {token : Token} (h : (word, token) ∈ keywords) :
    wordToken word = token := by
  have hall : ∀ k ∈ keywords, wordToken k.1 = k.2 := by decide
  exact hall _ h

theorem keyword_begins {word : Text} {token : Token} (h : (word, token) ∈ keywords) :
    ∃ c tail, word = c :: tail ∧ isIdentStart c = true ∧ ∀ d ∈ tail, isIdentContinue d = true := by
  have hall : ∀ k ∈ keywords, k.1.head?.any isIdentStart = true ∧
      k.1.tail.all isIdentContinue = true := by decide
  obtain ⟨hfirst, htail⟩ := hall _ h
  cases word with
  | nil => cases hfirst
  | cons c tail => exact ⟨c, tail, rfl, hfirst, List.all_eq_true.1 htail⟩

/-! ### Signs -/

theorem startsNumber_append (hrest : BlankAhead rest) (c : Char) (tail : Text) :
    startsNumber c (tail ++ rest) = startsNumber c tail := by
  cases tail with
  | nil => simp [startsNumber, hrest.head?_any_eq_false (p := Char.isDigit) rfl]
  | cons => rfl

/-- Which sign stands at a place does not depend on what stands behind the blank that ends it. -/
theorem symbol?_append (hrest : BlankAhead rest) (c : Char) (tail : Text) :
    symbol? c (tail ++ rest) = symbol? c tail := by
  have hhead : ∀ d ∈ ['&', '|'], (tail ++ rest).head? = some d ↔ tail.head? = some d := by
    intro d hd
    cases tail with
    | nil =>
      have hblank : d ∉ [' ', '\t', '\r'] := by
        simp only [List.mem_cons, List.not_mem_nil, or_false] at hd
        obtain rfl | rfl := hd <;> decide
      simpa using hrest.head?_ne hblank
    | cons => rfl
  unfold symbol?
  rw [hrest.takeWhile_append rfl]
  simp only [hhead '&' (by decide), hhead '|' (by decide)]

theorem mark_begins {word : Text} {token : Token} (h : (word, token) ∈ marks) :
    ∃ c tail, word = c :: tail ∧ isBlank c = false ∧ (c = '/' → tail = []) ∧
      startsNumber c tail = false ∧ c ∉ ['"', '\'', '\x60'] ∧ isIdentStart c = false ∧
      symbol? c tail = some (token, tail.length) := by
  have hall : ∀ m ∈ marks, m.1.head?.any (fun c => !isBlank c && (c ≠ '/' || m.1.tail = []) &&
      !startsNumber c m.1.tail && c ∉ ['"', '\'', '\x60'] && !isIdentStart c &&
      symbol? c m.1.tail = some (m.2, m.1.tail.length)) = true := by decide
  have hmark := hall _ h
  cases word with
  | nil => cases hmark
  | cons c tail =>
    simp only [List.head?_cons, List.tail_cons, Option.any_some, Bool.and_eq_true, Bool.or_eq_true,
      Bool.not_eq_true'] at hmark
    obtain ⟨⟨⟨⟨⟨hblank, hslash⟩, hnumber⟩, hquote⟩, hident⟩, hsymbol⟩ := hmark
    refine ⟨c, tail, rfl, hblank, fun hc => ?_, hnumber, of_decide_eq_true hquote, hident,
      of_decide_eq_true hsymbol⟩
    exact of_decide_eq_true (hslash.resolve_left fun hne => of_decide_eq_true hne hc)

theorem scanToken_mark {word : Text} {token : Token} (h : (word, token) ∈ marks)
    (hrest : BlankAhead rest) :
    ∃ c tail, word = c :: tail ∧
      scanToken place c (tail ++ rest) = .ok (token, ⟨place.afterText word, rest⟩) := by
  obtain ⟨c, tail, rfl, -, -, hnumber, hquote, hident, hsymbol⟩ := mark_begins h
  refine ⟨c, tail, rfl, ?_⟩
  rw [scanToken, startsNumber_append hrest, if_neg (by simp [hnumber]),
    if_neg (by simpa [or_assoc] using hquote), if_neg (by simp [hident]), symbol?_append hrest,
    hsymbol]
  simp

/-! ### Tokens and the gaps in front of them -/

/-- A written token is read back, and nothing behind it. -/
theorem scanToken_written {token : Token} {word : Text} (h : Written token word)
    (hrest : BlankAhead rest) :
    ∃ c tail, word = c :: tail ∧
      scanToken place c (tail ++ rest) = .ok (token, ⟨place.afterText word, rest⟩) := by
  cases h with
  | number h => exact scanToken_number h hrest
  | @string quote value body hquote h =>
    refine ⟨quote, body ++ [quote], rfl, ?_⟩
    rw [List.append_assoc, List.singleton_append, scanToken_string hquote h]
  | @ident c tail hc htail hword =>
    exact ⟨c, tail, rfl, by rw [scanToken_word hc htail hrest, wordToken_ident hword]⟩
  | keyword h =>
    obtain ⟨c, tail, rfl, hc, htail⟩ := keyword_begins h
    exact ⟨c, tail, rfl, by rw [scanToken_word hc htail hrest, wordToken_keyword h]⟩
  | mark h => exact scanToken_mark h hrest

/-- A word begins neither like a blank nor like a comment if no blank and no slash is of the kind of
its first character. -/
theorem begins_of_kind {p : Char → Bool} (hp : [' ', '\t', '\r', '/'].any p = false)
    {first : Char} (hfirst : p first = true) (rest : Text) :
    ∃ c tail, first :: rest = c :: tail ∧ isBlank c = false ∧ (c = '/' → tail = []) := by
  have hne := ne_of_any_eq_false hp hfirst
  exact ⟨first, rest, rfl, by simp [isBlank, hne], fun heq => absurd heq (hne '/' (by decide))⟩

/-- No token begins with a blank, and only a division begins like a comment. -/
theorem Written.begins {token : Token} {word : Text} (h : Written token word) :
    ∃ c tail, word = c :: tail ∧ isBlank c = false ∧ (c = '/' → tail = []) := by
  have hident : [' ', '\t', '\r', '/'].any isIdentStart = false := by decide
  cases h with
  | number h =>
    obtain ⟨hbegin, hbody, -, -⟩ := h
    have hkind : [' ', '\t', '\r', '/'].any isNumberChar = false := rfl
    obtain ⟨d, digits, rfl, -⟩ | ⟨d, digits, rfl, -⟩ := hbegin
    all_goals exact begins_of_kind hkind (hbody _ List.mem_cons_self) _
  | string hquote =>
    have hkind : [' ', '\t', '\r', '/'].any ['"', '\'', '\x60'].contains = false := rfl
    exact begins_of_kind hkind (List.contains_iff_mem.2 hquote) _
  | ident hc => exact begins_of_kind hident hc _
  | keyword h =>
    obtain ⟨c, tail, rfl, hc, -⟩ := keyword_begins h
    exact begins_of_kind hident hc _
  | mark h =>
    obtain ⟨c, tail, rfl, hblank, hslash, -⟩ := mark_begins h
    exact ⟨c, tail, rfl, hblank, hslash⟩

theorem Written.eq_of_newline {word : Text} (h : Written .newline word) : word = ['\n'] := by
  cases h with
  | keyword h => simp [keywords] at h
  | mark h => simpa [marks] using h

theorem skipTrivia_gap {token : Token} {gap word : Text} (hgap : Gap token gap)
    (hword : Written token word) (hrest : BlankAhead rest) :
    skipTrivia place (gap ++ (word ++ rest)) = .ok ⟨place.afterText gap, word ++ rest⟩ := by
  have hstop : ∀ place, skipTrivia place (word ++ rest) = .ok ⟨place, word ++ rest⟩ := by
    obtain ⟨c, tail, rfl, hblank, hslash⟩ := hword.begins
    refine fun place => skipTrivia_stop hblank fun hc => ?_
    subst hc
    rw [hslash rfl]
    exact ⟨hrest.head?_ne (by decide), hrest.head?_ne (by decide)⟩
  cases hgap with
  | filler h => rw [skipTrivia_filler h, hstop]
  | @lineComment filler comment h hcomment =>
    rw [hword.eq_of_newline] at hstop ⊢
    rw [List.append_assoc, skipTrivia_filler h, List.cons_append, List.cons_append]
    change skipTrivia _ ('/' :: '/' :: (comment ++ '\n' :: rest)) = _
    rw [skipTrivia_lineComment hcomment, Place.afterText_append]
    exact hstop _


/-! ### Scripts -/

theorem located_cons (before : Text) (p : PrintedToken) (ps : List PrintedToken) :
    located before (p :: ps) =
      ⟨p.token, placeBehind (before ++ p.gap)⟩ :: located (before ++ p.gap ++ p.word) ps := rfl

theorem source_cons (p : PrintedToken) (ps : List PrintedToken) :
    source (p :: ps) = p.gap ++ (p.word ++ source ps) := by
  simp [source, List.flatMap_cons]

theorem blankAhead_source {ps : List PrintedToken} (h : ∀ p ∈ ps.head?, BeginsBlank p.gap) :
    BlankAhead (source ps) := by
  cases ps with
  | nil => exact .inl rfl
  | cons p ps =>
    obtain ⟨c, gap, hgap, hc⟩ := h p rfl
    rw [source_cons, hgap]
    exact .inr ⟨c, _, rfl, hc⟩

theorem tokensFrom_end {text : Text} {start : Place}
    (htrivia : skipTrivia place text = .ok ⟨start, []⟩) :
    tokensFrom place text = .ok [⟨.eof, start⟩] := by
  rw [tokensFrom]
  split <;> simp_all

theorem tokensFrom_token {text tail : Text} {start : Place} {c : Char} {token : Token}
    {cursor : Cursor} (htrivia : skipTrivia place text = .ok ⟨start, c :: tail⟩)
    (htoken : scanToken start c tail = .ok (token, cursor)) :
    tokensFrom place text = (tokensFrom cursor.place cursor.rest).map (⟨token, start⟩ :: ·) := by
  rw [tokensFrom]
  split
  · simp_all
  · simp_all
  · rename_i start' c' tail' htrivia'
    obtain ⟨rfl, rfl, rfl⟩ : start' = start ∧ c' = c ∧ tail' = tail := by simp_all
    split
    · simp_all
    · simp_all

theorem tokensFrom_source (before : Text) {ps : List PrintedToken}
    (hps : ∀ p ∈ ps.tail, BeginsBlank p.gap) :
    tokensFrom (placeBehind before) (source ps) =
      .ok (located before ps ++ [⟨.eof, placeBehind (before ++ source ps)⟩]) := by
  -- Places count from the beginning of the script, so the text in front has to vary.
  induction ps generalizing before with
  | nil =>
    rw [source, List.flatMap_nil, List.append_nil, tokensFrom_end (by rw [skipTrivia])]
    rfl
  | cons p ps ih =>
    have hrest : BlankAhead (source ps) :=
      blankAhead_source fun q hq => hps q (List.mem_of_mem_head? hq)
    have hps' : ∀ q ∈ ps.tail, BeginsBlank q.gap := fun q hq => hps q (List.mem_of_mem_tail hq)
    obtain ⟨c, tail, hword, htoken⟩ : ∃ c tail, p.word = c :: tail ∧
        scanToken (placeBehind (before ++ p.gap)) c (tail ++ source ps) =
          .ok (p.token, ⟨placeBehind (before ++ p.gap ++ p.word), source ps⟩) := by
      rw [placeBehind_append (before ++ p.gap)]
      exact scanToken_written p.isWord hrest
    have htrivia : skipTrivia (placeBehind before) (source (p :: ps)) =
        .ok ⟨placeBehind (before ++ p.gap), c :: (tail ++ source ps)⟩ := by
      rw [source_cons, skipTrivia_gap p.isGap p.isWord hrest, placeBehind_append, hword]
      rfl
    rw [tokensFrom_token htrivia htoken, ih _ hps', located_cons]
    simp [Except.map, source_cons]

/-- Reading written tokens gives these tokens, each at the place at which it is written. -/
theorem tokenize_source (ps : List PrintedToken) (hps : ∀ p ∈ ps.tail, BeginsBlank p.gap) :
    tokenize (source ps) = .ok (located [] ps ++ [⟨.eof, placeBehind (source ps)⟩]) :=
  tokensFrom_source [] hps

/-- Tokens with comments between them: one with a quote in it over two lines, one with a sign. -/
def commented : List PrintedToken :=
  [⟨[], .ident ['x'], ['x'], .filler .nil, .ident (by decide) nofun (by decide)⟩,
    ⟨" /*\n\"*/ ".toList, .equal, ['=', '='],
      .filler (.blank (by decide)
        (@Filler.comment ['\n', '"'] _ (by decide) (.blank (by decide) .nil))),
      .mark (by decide)⟩,
    ⟨" // +".toList, .newline, ['\n'],
      @Gap.lineComment [' '] [' ', '+'] (.blank (by decide) .nil) (by decide), .mark (by decide)⟩,
    ⟨['\t'], .string ['a', '\'', 'b'], "'a\\'b'".toList, .filler (.blank (by decide) .nil),
      @Written.string '\'' _ ['a', '\\', '\'', 'b'] (by decide)
        (.plain (by decide) (by decide) (by decide) (.escaped (.itself (by decide))
          (.plain (by decide) (by decide) (by decide) .nil)))⟩,
    ⟨[' '], .number (Decimal.roundQuotient 15 1), "1_.5e+1".toList,
      .filler (.blank (by decide) .nil),
      .number (@NumberWord.mk "1_.5".toList "e+1".toList _ (.inl ⟨'1', _, rfl, rfl⟩)
        (List.all_eq_true.1 rfl)
        (@Exponent.mark 'e' ['+'] ['1'] (by decide) (by decide) (List.all_eq_true.1 rfl)) rfl)⟩]

theorem tokenize_source_commented :
    (∀ p ∈ commented.tail, BeginsBlank p.gap) ∧
      tokenize "x /*\n\"*/ == // +\n\t'a\\'b' 1_.5e+1".toList =
        .ok [⟨.ident ['x'], ⟨1, 1⟩⟩, ⟨.equal, ⟨2, 5⟩⟩, ⟨.newline, ⟨2, 12⟩⟩,
          ⟨.string ['a', '\'', 'b'], ⟨3, 2⟩⟩, ⟨.number (Decimal.roundQuotient 15 1), ⟨3, 9⟩⟩,
          ⟨.eof, ⟨3, 16⟩⟩] := by
  have hblank : ∀ p ∈ commented.tail, BeginsBlank p.gap := by
    simp only [commented, List.tail_cons, List.forall_mem_cons]
    exact ⟨⟨' ', _, rfl, by decide⟩, ⟨' ', _, rfl, by decide⟩, ⟨'\t', _, rfl, by decide⟩,
      ⟨' ', _, rfl, by decide⟩, by simp⟩
  exact ⟨hblank, tokenize_source commented hblank⟩

end LiveSnippet.Script
