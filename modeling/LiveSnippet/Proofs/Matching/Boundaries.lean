import LiveSnippet.Proofs.Matching.Candidates

/-!
# The boundary in front of a trigger

The flags of a template say what may stand in front of its trigger: anything in a word, no character
of a word for a whole word, white space only for the first thing on a line, and white space for a
template without these flags. A literal trigger that was found as a whole has this boundary, but for
the line start. There the run before the cursor need only end in the trigger and be the first thing on
its line, so the boundary is there if and only if the trigger is all of the run.

## Main definitions

* `MatchMode.admits`: the texts that may stand in front of a trigger on its line
* `Candidate.keepsBoundary`: the document has such a text in front of a candidate

## Main results

* `isTriggerWordChar_of_isWhiteSpace`: white space belongs to no word
* `Context.exists_append_of_complete`: what stands in front of a trigger
* `matchTemplatesBy_keepsBoundary_iff`: which complete candidates have the boundary
-/

namespace LiveSnippet

/-! ### White space and words -/

namespace Unicode

variable {table : RangeTable} {n : Nat} {c : Char}

namespace RangeTable

/-- The code points of a table, one by one. -/
def codes (table : RangeTable) : List Nat :=
  table.flatMap fun range => List.range' range.1 (range.2 + 1 - range.1)

theorem mem_codes_of_containsCode (h : containsCode n table = true) : n ∈ table.codes := by
  induction table with
  | nil => cases h
  | cons range table ih =>
    obtain ⟨first, last⟩ := range
    rw [codes, List.flatMap_cons, List.mem_append]
    rw [containsCode] at h
    split_ifs at h with hlast
    · left
      rw [List.mem_range'_1]
      have := of_decide_eq_true h
      dsimp only
      omega
    · exact .inr (ih h)

end RangeTable

theorem isAlphanumeric_of_isWhiteSpace (h : isWhiteSpace c = true) : isAlphanumeric c = false := by
  have hall : ∀ n ∈ whiteSpaceRanges.codes, isAlphanumeric (Char.ofNat n) = false := by
    decide +kernel
  rw [← Char.ofNat_toNat c]
  exact hall c.toNat (RangeTable.mem_codes_of_containsCode h)

end Unicode

theorem isTriggerWordChar_of_isWhiteSpace {c : Char} (h : Unicode.isWhiteSpace c = true) :
    isTriggerWordChar c = false := by
  have hne : c ≠ '_' := by
    rintro rfl
    revert h
    decide
  rw [isTriggerWordChar, Unicode.isAlphanumeric_of_isWhiteSpace h, decide_eq_false hne]
  rfl

/-! ### In front of the end of a text -/

namespace Text

variable {text : Text} {c : Char}

/-- A text is cut where the characters at its end begin, and another character stands in front. -/
theorem exists_append_trailing (p : Char → Bool) (text : Text) :
    ∃ front : Text, text = front ++ text.trailing p ∧ ∀ c ∈ front.getLast?, p c = false := by
  refine ⟨(text.reverse.dropWhile p).reverse, ?_, fun c hc => ?_⟩
  · rw [trailing, ← List.reverse_append, List.takeWhile_append_dropWhile, List.reverse_reverse]
  · rw [List.getLast?_reverse] at hc
    have hfirst := List.head?_dropWhile_not p text.reverse
    rw [hc] at hfirst
    simpa using hfirst

theorem of_mem_trailing {p : Char → Bool} (h : c ∈ text.trailing p) : p c = true :=
  List.all_eq_true.mp List.all_takeWhile c (List.mem_reverse.mp h)

end Text

/-- What may stand in front of a trigger on its line. -/
def MatchMode.admits : MatchMode → Text → Bool
  | .inWord, _ => true
  | .wordBoundary, before => before.getLast?.all (!isTriggerWordChar ·)
  | .lineStart, before => before.isBlank
  | .exact, before => before.getLast?.all Unicode.isWhiteSpace

namespace Context

variable {c : Context} {trigger : Text} {mode : MatchMode} {count : Nat}

/-- The run is cut from the line behind white space. -/
theorem exists_append_run (c : Context) :
    ∃ front : Text, c.line = front ++ c.run ∧ ∀ a ∈ front.getLast?, Unicode.isWhiteSpace a = true := by
  obtain ⟨front, hline, hlast⟩ := Text.exists_append_trailing (!Unicode.isWhiteSpace ·) c.line
  exact ⟨front, hline, fun a ha => by simpa using hlast a ha⟩

/-- The word is cut from the line behind a character that belongs to no word. -/
theorem exists_append_word (c : Context) :
    ∃ front : Text, c.line = front ++ c.word ∧ ∀ a ∈ front.getLast?, isTriggerWordChar a = false := by
  by_cases hword : (c.line.trailing isTriggerWordChar).isEmpty = true
  · obtain ⟨front, hline, hlast⟩ := c.exists_append_run
    rw [word, if_pos hword]
    exact ⟨front, hline, fun a ha => isTriggerWordChar_of_isWhiteSpace (hlast a ha)⟩
  · rw [word, if_neg hword]
    exact Text.exists_append_trailing isTriggerWordChar c.line

/-- A beginning of the run is blank only if it is empty. -/
theorem isBlank_of_append_eq_run {u v : Text} (h : u ++ v = c.run) : u.isBlank = true ↔ u = [] := by
  refine ⟨fun hblank => ?_, by rintro rfl; rfl⟩
  rw [List.eq_nil_iff_forall_not_mem]
  intro a ha
  have hspace : Unicode.isWhiteSpace a = true := List.all_eq_true.mp hblank a ha
  have hrun : a ∈ c.run := h ▸ List.mem_append_left v ha
  have hnot := Text.of_mem_trailing hrun
  rw [hspace] at hnot
  cases hnot

/-- **The boundary.** In front of a trigger that was found as a whole, there is the boundary of its
mode; at the start of a line this is so just if the trigger is the whole run. -/
theorem exists_append_of_complete (h : (c.compare trigger mode).1 = true) :
    ∃ before : Text, c.line = before ++ trigger ∧
      (mode.admits before = true ↔ (mode = .lineStart → c.run = trigger)) := by
  cases mode with
  | inWord =>
    obtain ⟨before, hbefore⟩ := (List.isSuffixOf_iff_suffix.mp h).trans c.run_suffix
    exact ⟨before, hbefore.symm, by simp [MatchMode.admits]⟩
  | wordBoundary =>
    obtain ⟨before, hline, hlast⟩ := c.exists_append_word
    obtain rfl : c.word = trigger := eq_of_beq h
    refine ⟨before, hline, iff_of_true ?_ (fun hmode => by cases hmode)⟩
    simpa [MatchMode.admits, Option.all_eq_true] using hlast
  | exact =>
    obtain ⟨before, hline, hlast⟩ := c.exists_append_run
    obtain rfl : c.run = trigger := eq_of_beq h
    refine ⟨before, hline, iff_of_true ?_ fun hmode => by cases hmode⟩
    simpa [MatchMode.admits, Option.all_eq_true] using hlast
  | lineStart =>
    obtain ⟨hsuffix, hstart⟩ := Bool.and_eq_true_iff.mp h
    obtain ⟨u, hu⟩ := List.isSuffixOf_iff_suffix.mp hsuffix
    obtain ⟨front, hline, -⟩ := c.exists_append_run
    have hfront : front.isBlank = true := by
      rw [atLineStart, hline, List.length_append, Nat.add_sub_cancel, List.take_left] at hstart
      exact hstart
    refine ⟨front ++ u, by rw [hline, List.append_assoc, hu], ?_⟩
    have hadmits : MatchMode.lineStart.admits (front ++ u) = true ↔ u = [] := by
      rw [← isBlank_of_append_eq_run hu, MatchMode.admits, Text.isBlank, List.all_append,
        Bool.and_eq_true_iff]
      exact and_iff_right hfront
    rw [hadmits, ← hu]
    simp

/-- A trigger that is counted as a whole was found as a whole. -/
theorem compare_of_literal? (h : c.literal? trigger mode = some (count, true)) :
    (c.compare trigger mode).1 = true ∧ count = trigger.length := by
  obtain ⟨text, hstands, rfl, -⟩ := stands_of_literal? h
  refine ⟨?_, congrArg List.length (hstands.complete_iff.mpr rfl)⟩
  rw [literal?] at h
  split at h
  · rename_i complete _ _ hcompare
    rw [hcompare]
    exact congrArg Prod.snd (Option.some.inj h)
  · rename_i hcompare
    rw [hcompare]
  · cases h

end Context

/-! ### Candidates -/

/-- The line in front of a candidate has the boundary that the flags of its template ask for. -/
def Candidate.keepsBoundary (b : Buffer) (c : Candidate) : Bool :=
  (b.document.text? ⟨⟨c.span.start.line, 0⟩, c.span.start⟩).any c.template.flags.matchMode.admits

variable {engine : Pattern.Engine} {b : Buffer} {t : Template} {templates : List Template}
  {c : Candidate} {r : MatchRequest} {p : Position} {trigger : Text} {k : Nat}

/-- The text in front of a candidate with a literal trigger is cut from the line of the context. -/
theorem Template.literalCandidate?_keepsBoundary_iff (hp : b.HasPosition p)
    (h : t.literalCandidate? trigger (.of b.document p k) = some c) (hcomplete : c.complete = true) :
    c.keepsBoundary b = true ↔
      (c.template.flags.matchMode = .lineStart → (Context.of b.document p k).run = trigger) := by
  obtain ⟨⟨count, complete⟩, hliteral, rfl⟩ := Option.map_eq_some_iff.mp h
  obtain rfl : complete = true := hcomplete
  obtain ⟨hcompare, rfl⟩ := Context.compare_of_literal? hliteral
  obtain ⟨before, hline, hadmits⟩ := Context.exists_append_of_complete hcompare
  obtain ⟨hlength, hslice⟩ := hp.slice_context k
  rw [hline] at hlength hslice
  have hstart : p.character - trigger.length = before.length := by
    rw [← hlength, List.length_append, Nat.add_sub_cancel]
  have hbefore := hslice 0 (p.character - trigger.length) (Nat.zero_le _) (Nat.sub_le _ _)
  rw [hstart, List.take_left, List.drop_zero] at hbefore
  have htext : b.document.text? ⟨⟨p.line, 0⟩, ⟨p.line, p.character - trigger.length⟩⟩ =
      some before := by
    simp only [hstart, Buffer.document, hbefore, Except.toOption]
  rw [← hadmits, Candidate.keepsBoundary]
  simp only [Context.spanBefore, Context.of, htext, Option.any_some]

theorem Template.template_of_candidate? {ctx : Context} {scopes : List Text}
    (h : t.candidate? engine ctx scopes = some c) : c.template = t := by
  rw [candidate?, if_pos (accepts_of_candidate? h)] at h
  split at h
  · obtain ⟨-, -, rfl⟩ := Option.map_eq_some_iff.mp h
    rfl
  · split_ifs at h <;> obtain ⟨-, -, rfl⟩ := Option.map_eq_some_iff.mp h <;> rfl

theorem Template.literalCandidate?_of_candidate? {ctx : Context} {scopes : List Text}
    (h : t.candidate? engine ctx scopes = some c) (htrigger : t.trigger = .literal trigger) :
    t.literalCandidate? trigger ctx = some c := by
  rwa [candidate?, if_pos (accepts_of_candidate? h), htrigger] at h

/-- **Boundaries.** The line in front of a literal trigger that was found as a whole has the boundary
that the flags of its template ask for, except that at the start of a line this is so if and only if
the trigger is all that stands before the cursor up to white space. -/
theorem matchTemplatesBy_keepsBoundary_iff (hp : b.HasPosition r.position)
    (hc : c ∈ (matchTemplatesBy engine b.document templates r).toList)
    (htrigger : c.template.trigger = .literal trigger) (hcomplete : c.complete = true) :
    c.keepsBoundary b = true ↔
      (c.template.flags.matchMode = .lineStart →
        (Context.of b.document r.position r.lookbackLines).run = trigger) := by
  rcases exists_of_mem_matchFrom hc with hc | ⟨t, -, ht⟩
  · cases hc
  · obtain rfl := Template.template_of_candidate? ht
    have hliteral := Template.literalCandidate?_of_candidate? ht htrigger
    exact Template.literalCandidate?_keepsBoundary_iff hp hliteral hcomplete

/-- A whole word behind a character that belongs to no word. -/
theorem matchTemplatesBy_keepsBoundary_word :
    let b : Buffer := ⟨"a.foo".toList⟩
    let r : MatchRequest := ⟨⟨0, 5⟩, [], 0⟩
    let templates : List Template := [.ofTrigger (.literal "foo".toList) (.ofLetters ['w'])]
    let found := (matchTemplatesBy (fun _ _ => none) b.document templates r).toList
    found.map (fun c => (c.span, c.complete)) = [(⟨⟨0, 2⟩, ⟨0, 5⟩⟩, true)] ∧
      ∀ c ∈ found, c.keepsBoundary b = true := by
  intro b r templates found
  have hfound : found.map (fun c => (c.span, c.complete)) = [(⟨⟨0, 2⟩, ⟨0, 5⟩⟩, true)] := by
    decide +kernel
  refine ⟨hfound, fun c hc => ?_⟩
  have hcomplete : c.complete = true := by
    have hmem := List.mem_map_of_mem (f := fun c : Candidate => (c.span, c.complete)) hc
    rw [hfound, List.mem_singleton] at hmem
    exact congrArg Prod.snd hmem
  have htemplate : c.template = .ofTrigger (.literal "foo".toList) (.ofLetters ['w']) := by
    rcases exists_of_mem_matchFrom hc with hc | ⟨t, ht, hcandidate⟩
    · cases hc
    · rw [Template.template_of_candidate? hcandidate]
      exact List.mem_singleton.mp ht
  have hp : b.HasPosition r.position := by decide
  have htrigger : c.template.trigger = .literal "foo".toList := by rw [htemplate]; rfl
  refine (matchTemplatesBy_keepsBoundary_iff hp hc htrigger hcomplete).mpr fun hstart => ?_
  rw [htemplate] at hstart
  revert hstart
  decide

/-- A trigger for the start of a line is found behind other characters of the run. -/
theorem not_keepsBoundary_insideRun :
    let b : Buffer := ⟨"foobeg".toList⟩
    let templates : List Template := [.ofTrigger (.literal "beg".toList) (.ofLetters ['b'])]
    (matchTemplates b.document templates ⟨⟨0, 6⟩, [], 0⟩).toList.map
        (fun c => (c.span, c.complete, c.keepsBoundary b)) =
      [(⟨⟨0, 3⟩, ⟨0, 6⟩⟩, true, false)] := by
  decide +kernel

end LiveSnippet
