import LiveSnippet.Template.Header
import Mathlib.Data.List.TakeWhile

/-!
# The fields of a header

A header is written as the word `snippet` and its fields: the trigger, with backticks around it if
it is a pattern, the description between quotes unless it is empty, and the letters of the flags
unless there are none. In front of each field there is white space, any of it and as much as one
likes. Reading such a line gives the header back. The fields cannot be taken for one another,
whatever they hold: a literal trigger ends at white space, a pattern at its backtick and a
description at its quote, and no letter of a flag is one of these.

The letters may stand in any order and more than once. A pattern and a description may hold line
breaks, which mean nothing special within a header.

## Main definitions

* `Flags.SpelledBy`: the texts of flag letters that stand for some flags
* `TriggerSource.Writable`, `TriggerSource.written`: triggers in a header line
* `Header.Gap`, `Header.Spacing`: the white space of a header line
* `Header.written`: header lines

## Main results

* `Header.details?_fields`: the description and the flags are read back
* `Header.parse?_written`: the header is read back
-/

namespace LiveSnippet

/-! ### White space -/

namespace Text

variable {s t : Text}

theorem trimStart_append (hblank : ∀ c ∈ s, Unicode.isWhiteSpace c = true)
    (hhead : t.head?.any Unicode.isWhiteSpace = false) : trimStart (s ++ t) = t := by
  rw [trimStart, List.dropWhile_append_of_pos hblank]
  cases t with
  | nil => rfl
  | cons c t => exact List.dropWhile_cons_of_neg (Bool.eq_false_iff.mp hhead)

theorem trimEnd_append (hblank : ∀ c ∈ t, Unicode.isWhiteSpace c = true)
    (hlast : s.getLast?.any Unicode.isWhiteSpace = false) : trimEnd (s ++ t) = s := by
  have hreverse : ∀ c ∈ t.reverse, Unicode.isWhiteSpace c = true :=
    fun c hc => hblank c (List.mem_reverse.mp hc)
  rw [← List.head?_reverse] at hlast
  have htrim : trimStart (t.reverse ++ s.reverse) = s.reverse := trimStart_append hreverse hlast
  rw [trimEnd, List.reverse_append]
  exact (congrArg List.reverse htrim).trans s.reverse_reverse

end Text

/-! ### Flags -/

namespace Flags

variable {f : Flags} {letters : Text}

/-- The text consists of the letters of the flags that are set, in any order and as often as one
likes. -/
structure SpelledBy (f : Flags) (letters : Text) : Prop where
  isLetter : ∀ c ∈ letters, Flags.isLetter c = true
  ofLetters : Flags.ofLetters letters = f

/-- The letters in their canonical order spell the flags. -/
theorem spelledBy_letters (f : Flags) : f.SpelledBy f.letters := by
  obtain ⟨automatic, multiline, inWord, wordBoundary, lineStart, math⟩ := f
  constructor
  · refine List.all_eq_true.mp ?_
    revert automatic multiline inWord wordBoundary lineStart math
    decide
  · revert automatic multiline inWord wordBoundary lineStart math
    decide

/-- A letter of a flag is neither white space nor a quote. -/
theorem of_isLetter {c : Char} (h : isLetter c = true) :
    Unicode.isWhiteSpace c = false ∧ c ≠ '"' := by
  have hletter : c = 'A' ∨ c = 'M' ∨ c = 'i' ∨ c = 'w' ∨ c = 'b' ∨ c = 'm' := by
    simpa [isLetter] using h
  rcases hletter with rfl | rfl | rfl | rfl | rfl | rfl <;> decide

theorem SpelledBy.head? (h : f.SpelledBy letters) :
    letters.head?.any Unicode.isWhiteSpace = false ∧ letters.head? ≠ some '"' := by
  cases letters with
  | nil => exact ⟨rfl, fun heq => by cases heq⟩
  | cons c letters =>
    obtain ⟨hblank, hquote⟩ := of_isLetter (h.isLetter c List.mem_cons_self)
    exact ⟨hblank, fun heq => hquote (Option.some.inj heq)⟩

theorem SpelledBy.getLast? (h : f.SpelledBy letters) :
    letters.getLast?.any Unicode.isWhiteSpace = false := by
  cases hlast : letters.getLast? with
  | none => rfl
  | some c => exact (of_isLetter (h.isLetter c (List.mem_of_getLast? hlast))).1

end Flags

/-! ### Triggers -/

namespace TriggerSource

/-- The trigger can be written in a header line. -/
def Writable : TriggerSource → Prop
  | literal text =>
    text ≠ [] ∧ (∀ c ∈ text, Unicode.isWhiteSpace c = false) ∧ text.head? ≠ some '\x60'
  | pattern source => source ≠ [] ∧ '\x60' ∉ source

/-- The trigger in a header line. -/
def written : TriggerSource → Text
  | literal text => text
  | pattern source => '\x60' :: source ++ ['\x60']

/-- A trigger neither begins nor ends with white space. -/
theorem Writable.ends {trigger : TriggerSource} (h : trigger.Writable) :
    trigger.written.head?.any Unicode.isWhiteSpace = false ∧
      trigger.written.getLast?.any Unicode.isWhiteSpace = false ∧ trigger.written ≠ [] := by
  cases trigger with
  | literal text =>
    obtain ⟨hne, hblank, -⟩ := h
    refine ⟨?_, ?_, hne⟩
    · rw [written, List.head?_eq_some_head hne]
      exact hblank _ (List.head_mem hne)
    · rw [written, List.getLast?_eq_some_getLast hne]
      exact hblank _ (List.getLast_mem hne)
  | pattern source =>
    have htick : Unicode.isWhiteSpace '\x60' = false := by decide
    refine ⟨htick, ?_, List.cons_ne_nil _ _⟩
    rw [written, List.getLast?_concat]
    exact htick

end TriggerSource

namespace Header

/-! ### Lines -/

/-- White space between two fields. -/
structure Gap where
  text : Text
  ne_nil : text ≠ []
  blank : ∀ c ∈ text, Unicode.isWhiteSpace c = true

/-- The white space of a header line: in front of each field, and at the end, where there need not
be any. -/
structure Spacing where
  trigger : Gap
  description : Gap
  flags : Gap
  stop : Text
  blank : ∀ c ∈ stop, Unicode.isWhiteSpace c = true

/-- A field with white space in front of it, unless there is nothing to write. -/
def field (g : Gap) (text : Text) : Text := if text.isEmpty then [] else g.text ++ text

/-- A description as a field. -/
def quoted (description : Text) : Text :=
  if description.isEmpty then [] else '"' :: description ++ ['"']

/-- A header line, given its white space and the letters of the flags. -/
def written (h : Header) (s : Spacing) (letters : Text) : Text :=
  keyword ++ s.trigger.text ++ h.trigger.written ++
    (field s.description (quoted h.description) ++ field s.flags letters) ++ s.stop

variable {g g' : Gap} {text letters description : Text} {f : Flags}

theorem afterSpace?_gap (g : Gap) (hhead : text.head?.any Unicode.isWhiteSpace = false) :
    afterSpace? (g.text ++ text) = some text := by
  have hblank : (g.text ++ text).head?.any Unicode.isWhiteSpace = true := by
    rw [List.head?_append, List.head?_eq_some_head g.ne_nil]
    exact g.blank _ (List.head_mem g.ne_nil)
  rw [afterSpace?, if_pos hblank, Text.trimStart_append g.blank hhead]

/-- Flag letters behind white space are read as the flags. -/
theorem flags?_field (h : f.SpelledBy letters) : flags? (field g letters) = some f := by
  rw [field]
  split_ifs with hempty
  · obtain rfl := List.isEmpty_iff.mp hempty
    obtain rfl : Flags.empty = f := h.ofLetters
    rfl
  · have hne : (g.text ++ letters).isEmpty = false := by simp [g.ne_nil]
    have hletters : letters.all Flags.isLetter = true := List.all_eq_true.mpr h.isLetter
    rw [flags?, hne, if_neg Bool.false_ne_true, afterSpace?_gap g h.head?.1]
    change (if letters.all Flags.isLetter then some (Flags.ofLetters letters) else none) = some f
    rw [if_pos hletters, h.ofLetters]

/-- The description and the flags are read back. If the description is not written, the flags are
not taken for it, because none of their letters is a quote. -/
theorem details?_fields (hquote : '"' ∉ description) (h : f.SpelledBy letters) :
    details? (field g (quoted description) ++ field g' letters) = some (description, f) := by
  by_cases hempty : description = []
  · subst hempty
    have hflags : flags? (field g' letters) = some f := flags?_field h
    have hhead : ∀ rest, afterSpace? (field g' letters) ≠ some ('"' :: rest) := by
      intro rest hrest
      rw [field] at hrest
      split_ifs at hrest
      · cases hrest
      · rw [afterSpace?_gap g' h.head?.1] at hrest
        exact h.head?.2 (congrArg List.head? (Option.some.inj hrest))
    have hfields : field g (quoted []) ++ field g' letters = field g' letters := rfl
    rw [hfields, details?]
    split
    · rename_i rest hrest
      exact absurd hrest (hhead rest)
    · rw [hflags]
      rfl
  · have hquoted : field g (quoted description) ++ field g' letters =
        g.text ++ '"' :: (description ++ '"' :: field g' letters) := by
      simp [field, quoted, hempty]
    have hinside : ∀ c ∈ description, decide (c ≠ '"') = true := by
      intro c hc
      rw [decide_eq_true_eq]
      rintro rfl
      exact hquote hc
    have hafter : afterSpace? (g.text ++ '"' :: (description ++ '"' :: field g' letters)) =
        some ('"' :: (description ++ '"' :: field g' letters)) :=
      afterSpace?_gap g (by rw [List.head?_cons, Option.any_some]; decide)
    rw [hquoted]
    simp only [details?, hafter]
    rw [List.dropWhile_append_of_pos hinside, List.takeWhile_append_of_pos hinside]
    simp [flags?_field h]

/-- A field is empty or begins with white space. -/
theorem head?_field_append (g : Gap) (s : Text)
    (htext : text.head?.all Unicode.isWhiteSpace = true) :
    (field g s ++ text).head?.all Unicode.isWhiteSpace = true := by
  rw [field]
  split_ifs
  · exact htext
  · rw [List.append_assoc, List.head?_append, List.head?_eq_some_head g.ne_nil]
    exact g.blank _ (List.head_mem g.ne_nil)

/-- A field ends with white space only if what it holds does. -/
theorem getLast?_append_field (g : Gap) {s : Text}
    (hs : s.getLast?.any Unicode.isWhiteSpace = false)
    (htext : text.getLast?.any Unicode.isWhiteSpace = false) :
    (s ++ field g text).getLast?.any Unicode.isWhiteSpace = false := by
  rw [field]
  split_ifs with hempty
  · rwa [List.append_nil]
  · rw [List.isEmpty_iff] at hempty
    rw [List.getLast?_eq_some_getLast hempty] at htext
    rwa [← List.append_assoc, List.getLast?_append, List.getLast?_eq_some_getLast hempty,
      Option.some_or]

theorem getLast?_quoted (description : Text) :
    (quoted description).getLast?.any Unicode.isWhiteSpace = false := by
  rw [quoted]
  split_ifs
  · rfl
  · rw [List.getLast?_concat]
    decide

/-! ### Triggers -/

/-- A pattern is read up to its backtick. -/
theorem ofPattern?_written {source rest : Text} (hwritable : (TriggerSource.pattern source).Writable) :
    ofPattern? ((TriggerSource.pattern source).written ++ rest) =
      (details? rest).map fun (description, flags) => ⟨.pattern source, description, flags⟩ := by
  obtain ⟨hne, htick⟩ := hwritable
  have hinside : ∀ c ∈ source, decide (c ≠ '\x60') = true := by
    intro c hc
    rw [decide_eq_true_eq]
    rintro rfl
    exact htick hc
  have hwritten : (TriggerSource.pattern source).written ++ rest =
      '\x60' :: (source ++ '\x60' :: rest) := by simp [TriggerSource.written]
  rw [hwritten, ofPattern?]
  dsimp only
  rw [List.dropWhile_append_of_pos hinside, List.takeWhile_append_of_pos hinside]
  simp [hne]

/-- A literal trigger is read up to white space. -/
theorem ofLiteral?_written {text rest : Text} (hwritable : (TriggerSource.literal text).Writable)
    (hrest : rest.head?.all Unicode.isWhiteSpace = true) :
    ofPattern? ((TriggerSource.literal text).written ++ rest) = none ∧
      ofLiteral? ((TriggerSource.literal text).written ++ rest) =
        (details? rest).map fun (description, flags) => ⟨.literal text, description, flags⟩ := by
  obtain ⟨hne, hblank, htick⟩ := hwritable
  constructor
  · obtain ⟨c, text, rfl⟩ := List.exists_cons_of_ne_nil hne
    rw [TriggerSource.written, List.cons_append]
    unfold ofPattern?
    split
    · rename_i heq
      obtain ⟨rfl, -⟩ := List.cons.inj heq
      exact absurd rfl htick
    · rfl
  · have hinside : ∀ c ∈ text, (!Unicode.isWhiteSpace c) = true := by
      intro c hc
      rw [hblank c hc]
      rfl
    have hstop : rest.takeWhile (!Unicode.isWhiteSpace ·) = [] ∧
        rest.dropWhile (!Unicode.isWhiteSpace ·) = rest := by
      cases rest with
      | nil => exact ⟨rfl, rfl⟩
      | cons c rest =>
        have hc : Unicode.isWhiteSpace c = true := hrest
        simp [hc]
    rw [TriggerSource.written, ofLiteral?]
    dsimp only
    rw [List.dropWhile_append_of_pos hinside, List.takeWhile_append_of_pos hinside, hstop.1,
      hstop.2, List.append_nil, if_neg (by simpa using hne)]

/-! ### Headers -/

/-- The white space that is taken off at the end of a line is what was put there. -/
theorem trimEnd_written {h : Header} (s : Spacing) (htrigger : h.trigger.Writable)
    (hletters : h.flags.SpelledBy letters) :
    Text.trimEnd (h.written s letters) =
      keyword ++ (s.trigger.text ++ (h.trigger.written ++
        (field s.description (quoted h.description) ++ field s.flags letters))) := by
  obtain ⟨-, hlast, hne⟩ := htrigger.ends
  have hfront : (keyword ++ s.trigger.text ++ h.trigger.written).getLast?.any
      Unicode.isWhiteSpace = false := by
    rwa [List.getLast?_append, List.getLast?_eq_some_getLast hne, Option.some_or,
      ← List.getLast?_eq_some_getLast hne]
  have hdescription := getLast?_append_field s.description hfront (getLast?_quoted h.description)
  have hend := getLast?_append_field s.flags hdescription hletters.getLast?
  rw [List.append_assoc] at hend
  rw [written, Text.trimEnd_append s.blank hend, List.append_assoc, List.append_assoc]

/-- A header is read back, in whatever order the letters of its flags stand. -/
theorem parse?_of_spelledBy {h : Header} (s : Spacing) (htrigger : h.trigger.Writable)
    (hdescription : '"' ∉ h.description) (hletters : h.flags.SpelledBy letters) :
    parse? (h.written s letters) = some h := by
  have htrim := trimEnd_written s htrigger hletters
  have hdetails : details? (field s.description (quoted h.description) ++ field s.flags letters) =
      some (h.description, h.flags) := details?_fields hdescription hletters
  have hlast : (field s.flags letters).head?.all Unicode.isWhiteSpace = true := by
    have hnil : ([] : Text).head?.all Unicode.isWhiteSpace = true := rfl
    simpa using head?_field_append s.flags letters hnil
  have hrest := head?_field_append s.description (quoted h.description) hlast
  -- What the fields behind the trigger are does not matter from here on.
  generalize field s.description (quoted h.description) ++ field s.flags letters = rest
    at htrim hdetails hrest
  have hkeyword : keyword.isPrefixOf?
      (keyword ++ (s.trigger.text ++ (h.trigger.written ++ rest))) =
        some (s.trigger.text ++ (h.trigger.written ++ rest)) := rfl
  have hspace : afterSpace? (s.trigger.text ++ (h.trigger.written ++ rest)) =
      some (h.trigger.written ++ rest) := by
    obtain ⟨hhead, -, hne⟩ := htrigger.ends
    refine afterSpace?_gap s.trigger ?_
    rwa [List.head?_append, List.head?_eq_some_head hne, Option.some_or,
      ← List.head?_eq_some_head hne]
  have hparse : parse? (h.written s letters) =
      (ofPattern? (h.trigger.written ++ rest)).or (ofLiteral? (h.trigger.written ++ rest)) := by
    rw [parse?, htrim, hkeyword]
    change (afterSpace? (s.trigger.text ++ (h.trigger.written ++ rest))).bind _ = _
    rw [hspace]
    rfl
  rw [hparse]
  obtain ⟨trigger, description, flags⟩ := h
  cases trigger with
  | pattern source =>
    rw [ofPattern?_written htrigger, hdetails]
    rfl
  | literal text =>
    obtain ⟨hpattern, hliteral⟩ := ofLiteral?_written htrigger hrest
    rw [hpattern, hliteral, hdetails]
    rfl

/-- **Headers round-trip.** A header whose trigger can be written and whose description has no
quotes is read back from its line, whatever the white space between the fields and at the end is: if
the letters of its flags stand in their canonical order, and in any other. -/
theorem parse?_written (h : Header) (s : Spacing) (htrigger : h.trigger.Writable)
    (hdescription : '"' ∉ h.description) :
    parse? (h.written s h.flags.letters) = some h ∧
      ∀ letters, h.flags.SpelledBy letters → parse? (h.written s letters) = some h :=
  ⟨parse?_of_spelledBy s htrigger hdescription h.flags.spelledBy_letters,
    fun _ hletters => parse?_of_spelledBy s htrigger hdescription hletters⟩

/-- A trigger that looks like a description, a description that looks like a pattern with flags, and
white space of many kinds. -/
theorem parse?_written_alike :
    let h : Header :=
      ⟨.literal "\"A\"".toList, "b \x60w\x60 A".toList, .ofLetters ['A', 'w']⟩
    h.trigger.Writable ∧ '"' ∉ h.description ∧
      parse? "snippet \t\"A\"\n\"b \x60w\x60 A\"\u3000Aw \r\n".toList = some h ∧
      parse? "snippet \t\"A\"\n\"b \x60w\x60 A\"\u3000wAw \r\n".toList = some h := by
  intro h
  let s : Spacing :=
    { trigger := ⟨[' ', '\t'], by decide, List.all_eq_true.mp (by decide)⟩
      description := ⟨['\n'], by decide, List.all_eq_true.mp (by decide)⟩
      flags := ⟨['\u3000'], by decide, List.all_eq_true.mp (by decide)⟩
      stop := [' ', '\r', '\n']
      blank := List.all_eq_true.mp (by decide) }
  have hblank : ∀ c ∈ "\"A\"".toList, Unicode.isWhiteSpace c = false := by
    intro c hc
    obtain rfl | rfl | rfl : c = '"' ∨ c = 'A' ∨ c = '"' := by simpa using hc
    all_goals decide
  have htrigger : h.trigger.Writable := ⟨by decide, hblank, by decide⟩
  have hdescription : '"' ∉ h.description := by decide
  have hletters : h.flags.SpelledBy ['w', 'A', 'w'] := ⟨List.all_eq_true.mp (by decide), rfl⟩
  have hline : h.written s h.flags.letters =
      "snippet \t\"A\"\n\"b \x60w\x60 A\"\u3000Aw \r\n".toList := by decide
  have hline' : h.written s ['w', 'A', 'w'] =
      "snippet \t\"A\"\n\"b \x60w\x60 A\"\u3000wAw \r\n".toList := by decide
  obtain ⟨hcanonical, hany⟩ := parse?_written h s htrigger hdescription
  exact ⟨htrigger, hdescription, hline ▸ hcanonical, hline' ▸ hany _ hletters⟩

end Header

end LiveSnippet
