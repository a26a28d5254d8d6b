import LiveSnippet.Matching.Candidate
import LiveSnippet.Proofs.Text.Indices
import LiveSnippet.Proofs.Text.Returns

/-!
# The spans of candidates

An expansion replaces the span of its candidate, so the span has to hold what the candidate says.
For a literal trigger that is the part of the trigger that stands before the cursor: the whole
trigger just if the candidate is complete, and in a word the longest start of the trigger with which
the run before the cursor ends. For a pattern it is the whole match; a pattern over several lines
does not see carriage returns, so the span holds the match and the carriage returns in it.

How patterns are searched for does not matter, as long as a match ends at the end of the text.

## Main definitions

* `Context.Stands`: the part of a trigger that stands before the cursor
* `Pattern.Engine.EndsAtEnd`: matches end at the end of the text
* `Candidate.Holds`: the document holds what the candidate says

## Main results

* `Context.stands_of_literal?`: the part of a literal trigger that is counted
* `Pattern.TextPattern.capturesAtEnd?_endsAtEnd`: where matches end
* `matchTemplatesBy_sound`: the spans of candidates
-/

namespace LiveSnippet

/-! ### What triggers are compared with -/

namespace Text

variable {text trigger s : Text} {n : Nat}

theorem trailing_suffix (p : Char → Bool) (text : Text) : text.trailing p <:+ text := by
  rw [trailing, ← List.reverse_prefix, List.reverse_reverse]
  exact List.takeWhile_prefix p

theorem longestStart?_eq_some (h : trigger.longestStart? text n = some s) :
    s <+: trigger ∧ s <:+ text ∧
      ∀ s', s' <+: trigger → s' <:+ text → s'.length ≤ n → s'.length ≤ s.length := by
  induction n with
  | zero => cases h
  | succ n ih =>
    rw [longestStart?] at h
    split_ifs at h with hsuffix
    · obtain rfl := Option.some.inj h
      refine ⟨List.take_prefix _ _, List.isSuffixOf_iff_suffix.mp hsuffix, fun s' hs' _ hn => ?_⟩
      rw [List.length_take]
      exact Nat.le_min.mpr ⟨hn, hs'.length_le⟩
    · obtain ⟨hbegins, hs, hlongest⟩ := ih h
      refine ⟨hbegins, hs, fun s' hs' htext hn => ?_⟩
      rcases Nat.lt_or_eq_of_le hn with hlt | heq
      · exact hlongest s' hs' htext (Nat.le_of_lt_succ hlt)
      · rw [List.prefix_iff_eq_take.mp hs', heq] at htext
        exact absurd (List.isSuffixOf_iff_suffix.mpr htext) hsuffix

end Text

namespace Context

variable {c : Context} {trigger text : Text} {mode : MatchMode} {complete : Bool}

theorem run_suffix (c : Context) : c.run <:+ c.line := Text.trailing_suffix _ _

theorem word_suffix (c : Context) : c.word <:+ c.line := by
  rw [word]
  split_ifs
  · exact c.run_suffix
  · exact Text.trailing_suffix _ _

/-- The text is the part of a literal trigger that stands before the cursor. -/
structure Stands (c : Context) (trigger : Text) (mode : MatchMode) (complete : Bool)
    (text : Text) : Prop where
  before : text <:+ c.line
  start : text <+: trigger
  complete_iff : text = trigger ↔ complete = true
  /-- In a word it is the longest start of the trigger with which the run ends. -/
  longest : mode = .inWord → text <:+ c.run ∧
    ∀ s, s <+: trigger → s <:+ c.run → s.length ≤ text.length

/-- The start of a trigger that is found stands before the cursor. -/
theorem stands_of_compare (h : c.compare trigger mode = (complete, some text)) :
    c.Stands trigger mode complete text := by
  cases mode with
  | inWord =>
    obtain ⟨hcomplete, htext⟩ := Prod.mk.inj h
    obtain ⟨hbegins, hsuffix, hlongest⟩ := Text.longestStart?_eq_some htext
    have hmost : ∀ s, s <+: trigger → s <:+ c.run → s.length ≤ text.length :=
      fun s hs hrun => hlongest s hs hrun hs.length_le
    refine ⟨hsuffix.trans c.run_suffix, hbegins, ?_, fun _ => ⟨hsuffix, hmost⟩⟩
    rw [← hcomplete, List.isSuffixOf_iff_suffix]
    refine ⟨fun heq => heq ▸ hsuffix, fun htrigger => ?_⟩
    exact hbegins.eq_of_length_le (hmost trigger List.prefix_rfl htrigger)
  | wordBoundary =>
    obtain ⟨hcomplete, htext⟩ := Prod.mk.inj h
    split_ifs at htext with hbegins
    obtain rfl := Option.some.inj htext
    refine ⟨c.word_suffix, List.isPrefixOf_iff_prefix.mp hbegins, ?_, fun hmode => by cases hmode⟩
    rw [← hcomplete, beq_iff_eq]
  | lineStart =>
    obtain ⟨hcomplete, htext⟩ := Prod.mk.inj h
    split_ifs at htext with hstart
    obtain rfl := Option.some.inj htext
    obtain ⟨hbegins, hline⟩ := Bool.and_eq_true_iff.mp hstart
    rw [List.isPrefixOf_iff_prefix] at hbegins
    refine ⟨c.run_suffix, hbegins, ?_, fun hmode => by cases hmode⟩
    rw [← hcomplete, hline, Bool.and_true, List.isSuffixOf_iff_suffix]
    exact ⟨fun heq => heq ▸ List.suffix_rfl,
      fun htrigger => hbegins.eq_of_length_le htrigger.length_le⟩
  | exact =>
    obtain ⟨hcomplete, htext⟩ := Prod.mk.inj h
    split_ifs at htext with hbegins
    obtain rfl := Option.some.inj htext
    refine ⟨c.run_suffix, List.isPrefixOf_iff_prefix.mp hbegins, ?_, fun hmode => by cases hmode⟩
    rw [← hcomplete, beq_iff_eq]

/-- A trigger that is found as a whole stands before the cursor. -/
theorem stands_of_complete (h : (c.compare trigger mode).1 = true) :
    c.Stands trigger mode true trigger := by
  have hlongest : ∀ s, s <+: trigger → s <:+ c.run → s.length ≤ trigger.length :=
    fun s hs _ => hs.length_le
  cases mode with
  | inWord =>
    have hrun : trigger <:+ c.run := List.isSuffixOf_iff_suffix.mp h
    exact ⟨hrun.trans c.run_suffix, List.prefix_rfl, by simp, fun _ => ⟨hrun, hlongest⟩⟩
  | wordBoundary =>
    obtain rfl : c.word = trigger := eq_of_beq h
    exact ⟨c.word_suffix, List.prefix_rfl, by simp, fun hmode => by cases hmode⟩
  | lineStart =>
    have hrun := List.isSuffixOf_iff_suffix.mp (Bool.and_eq_true_iff.mp h).1
    exact ⟨hrun.trans c.run_suffix, List.prefix_rfl, by simp, fun hmode => by cases hmode⟩
  | exact =>
    obtain rfl : c.run = trigger := eq_of_beq h
    exact ⟨c.run_suffix, List.prefix_rfl, by simp, fun hmode => by cases hmode⟩

/-- The characters before the cursor that belong to a trigger are the part of it that stands
there. -/
theorem stands_of_literal? {count : Nat} (h : c.literal? trigger mode = some (count, complete)) :
    ∃ text, c.Stands trigger mode complete text ∧ text.length = count ∧
      (trigger ≠ [] → text ≠ []) := by
  rw [literal?] at h
  split at h
  · rename_i a rest hcompare
    obtain ⟨rfl, rfl⟩ := Prod.mk.inj (Option.some.inj h)
    exact ⟨_, stands_of_compare hcompare, rfl, fun _ => List.cons_ne_nil _ _⟩
  · rename_i hcompare
    obtain ⟨rfl, rfl⟩ := Prod.mk.inj (Option.some.inj h)
    exact ⟨trigger, stands_of_complete (by rw [hcompare]), rfl, id⟩
  · cases h

end Context

/-! ### What is seen of a document -/

namespace Buffer

variable {b : Buffer} {p : Position}

/-- The line of the context is the line of the document up to the cursor, whatever ends its lines. -/
theorem HasPosition.slice_context (h : b.HasPosition p) (k : Nat) :
    (Context.of b.document p k).line.length = p.character ∧ ∀ m n, m ≤ n → n ≤ p.character →
      b.slice ⟨⟨p.line, m⟩, ⟨p.line, n⟩⟩ =
        .ok (((Context.of b.document p k).line.take n).drop m) := by
  obtain ⟨line, hlength, hslice⟩ := h.exists_line
  have hline : (Context.of b.document p k).line = line := by
    have hall := hslice 0 p.character (Nat.zero_le _) (Nat.le_refl _)
    rw [List.take_of_length_le hlength.le] at hall
    exact before_eq hall
  rw [hline]
  exact ⟨hlength, hslice⟩

/-- The span of the characters before the cursor holds them. -/
theorem HasPosition.slice_spanBefore {s u : Text} {k : Nat} (h : b.HasPosition p)
    (hline : (Context.of b.document p k).line = s ++ u) :
    b.slice ((Context.of b.document p k).spanBefore u.length) = .ok u := by
  obtain ⟨hlength, hslice⟩ := h.slice_context k
  rw [hline] at hlength hslice
  have hstart : p.character - u.length = s.length := by
    rw [← hlength, List.length_append, Nat.add_sub_cancel]
  have hspan := hslice (p.character - u.length) p.character (Nat.sub_le _ _) (Nat.le_refl _)
  rwa [List.take_of_length_le hlength.le, hstart, List.drop_left, ← hstart] at hspan

/-- There is no line break in the line of the context. -/
theorem HasPosition.noBreak_context (h : b.HasPosition p) (hb : b.text.CrLf) (k : Nat) :
    (Context.of b.document p k).line.NoBreak := by
  obtain ⟨text, htext, hslice, hend, -⟩ := h.exists_slice hb (Nat.le_refl _)
  have hline : (Context.of b.document p k).line = text := before_eq hslice
  have hlf : '\n' ∉ text := by
    rw [← Text.extent_breaks_eq_zero_iff]
    have hbreaks := congrArg Position.line hend
    rw [Position.add_line] at hbreaks
    dsimp only at hbreaks
    omega
  rw [hline]
  exact htext.noBreak hlf

/-- The line that any other pattern sees. -/
theorem HasPosition.showsFrom_line (h : b.HasPosition p) (hb : b.text.CrLf) (k : Nat) :
    b.ShowsFrom p.line p (Context.of b.document p k).line := by
  have hline : b.ShowsFrom p.line p (Context.of b.document p k).line.withoutReturns :=
    h.showsFrom hb (Nat.le_refl p.line)
  rwa [(h.noBreak_context hb k).withoutReturns_eq] at hline

end Buffer

/-! ### Candidates -/

section Matching

variable {engine : Pattern.Engine} {b : Buffer} {t : Template} {templates : List Template}
  {c : Candidate} {r : MatchRequest} {p : Position}

namespace Pattern

/-- Every match that the engine finds has a span for the whole match, up to the end of the text. -/
def Engine.EndsAtEnd (engine : Engine) : Prop :=
  ∀ p text captures, engine p text = some captures →
    captures ≠ [] ∧ (TextPattern.wholeSpan captures).2 = text.length

theorem of_firstAtEnd {α : Type} {span : α → Nat × Nat} {search : Nat → Option α}
    {size origin : Nat} {found : α} (h : firstAtEnd span search size origin = some found) :
    (span found).2 = size ∧ ∃ start, search start = some found := by
  induction origin using firstAtEnd.induct span search size with
  | case1 origin hlt =>
    rw [firstAtEnd, if_pos hlt] at h
    cases h
  | case2 origin hle hsearch =>
    rw [firstAtEnd, if_neg hle, hsearch] at h
    cases h
  | case3 origin hle found' hsearch hend =>
    rw [firstAtEnd, if_neg hle, hsearch] at h
    dsimp only at h
    rw [if_pos hend] at h
    obtain rfl := Option.some.inj h
    exact ⟨hend, origin, hsearch⟩
  | case4 origin hle found' hsearch hend ih =>
    rw [firstAtEnd, if_neg hle, hsearch] at h
    dsimp only at h
    rw [if_neg hend] at h
    exact ih h

theorem Slots.captures_ne_nil (slots : Slots) (groups : Nat) : slots.captures groups ≠ [] := by
  simp [captures, List.range_succ]

theorem Program.captures_ne_nil {program : Program} {text : Array Char} {origin : Nat}
    {captures : Captures} (h : program.search? text origin = some captures) : captures ≠ [] := by
  cases program with
  | plain a groups =>
    obtain ⟨slots, -, rfl⟩ := Option.map_eq_some_iff.mp h
    exact slots.captures_ne_nil groups
  | hard m =>
    rw [search?, Machine.search?] at h
    split at h
    · rename_i slots _
      have hne := slots.captures_ne_nil m.groups
      split at h <;> obtain rfl := Option.some.inj h
      · exact List.cons_ne_nil _ _
      · exact hne
    · cases h

/-- The matches that are searched for end at the end of the text, however the search goes. -/
theorem TextPattern.capturesAtEndBy?_endsAtEnd {searcher : Searcher}
    (hne : ∀ p text origin captures, searcher p text origin = some captures → captures ≠ []) :
    Engine.EndsAtEnd (capturesAtEndBy? searcher) := by
  intro p text captures h
  obtain ⟨hend, start, hsearch⟩ := of_firstAtEnd h
  exact ⟨hne p text start captures hsearch, hend⟩

theorem TextPattern.capturesAtEnd?_endsAtEnd : Engine.EndsAtEnd capturesAtEnd? :=
  capturesAtEndBy?_endsAtEnd fun _ _ _ _ h => Program.captures_ne_nil h

/-- What a match that ends at the end of a text covers. -/
theorem head?_map_groupText {text : Text} {captures : Captures} (hne : captures ≠ [])
    (hend : (TextPattern.wholeSpan captures).2 = text.length) :
    (captures.map (groupText text)).head? =
      some (text.drop (TextPattern.wholeSpan captures).1) := by
  cases captures with
  | nil => exact absurd rfl hne
  | cons group captures =>
    cases group with
    | none =>
      obtain rfl : text = [] := List.eq_nil_of_length_eq_zero hend.symm
      rfl
    | some span =>
      obtain ⟨start, stop⟩ := span
      obtain rfl : stop = text.length := hend
      simp [groupText, TextPattern.wholeSpan]

end Pattern

namespace Template

/-- What a pattern matched stands in the span of the candidate, but for carriage returns. -/
theorem patternCandidate?_sound {pattern : Pattern.TextPattern} {n : Nat} {text : Text}
    (hengine : engine.EndsAtEnd) (htext : b.ShowsFrom n p text)
    (h : t.patternCandidate? engine pattern n text p = some c) :
    c.template = t ∧ c.span.stop = p ∧ c.groups.head? = some c.label ∧
      ∃ u : Text, b.slice c.span = .ok u ∧ u.withoutReturns = c.label := by
  obtain ⟨captures, hcaptures, rfl⟩ := Option.map_eq_some_iff.mp h
  obtain ⟨hne, hend⟩ := hengine pattern text captures hcaptures
  have hhead := Pattern.head?_map_groupText hne hend
  have hlabel := congrArg (Option.getD · []) hhead
  rw [← List.headD_eq_head?_getD] at hlabel
  obtain ⟨u, hslice, hu⟩ := htext _ _ (List.take_append_drop _ text).symm
  exact ⟨rfl, rfl, hhead.trans (congrArg some hlabel.symm), u, hslice, hu.trans hlabel.symm⟩

theorem literalCandidate?_sound {trigger : Text} {k : Nat} (hp : b.HasPosition p)
    (h : t.literalCandidate? trigger (.of b.document p k) = some c) :
    c.template = t ∧ c.span.stop = p ∧ ∃ text : Text, b.slice c.span = .ok text ∧
      (trigger ≠ [] → text ≠ []) ∧
      (Context.of b.document p k).Stands trigger t.flags.matchMode c.complete text := by
  obtain ⟨⟨count, complete⟩, hliteral, rfl⟩ := Option.map_eq_some_iff.mp h
  obtain ⟨text, hstands, rfl, hne⟩ := Context.stands_of_literal? hliteral
  refine ⟨rfl, rfl, text, ?_, hne, hstands⟩
  obtain ⟨s, hs⟩ := hstands.before
  exact hp.slice_spanBefore hs.symm

end Template

/-- A candidate comes from a template. -/
theorem exists_of_mem_matchFrom {f : Template → Option Candidate} {found : List Candidate}
    (h : c ∈ (matchFrom f found templates).toList) :
    c ∈ found ∨ ∃ t ∈ templates, f t = some c := by
  induction templates generalizing found with
  | nil => exact .inl (List.mem_reverse.mp h)
  | cons t templates ih =>
    rw [matchFrom] at h
    cases ht : f t with
    | none =>
      rw [ht] at h
      exact (ih h).imp_right fun ⟨t', ht', heq⟩ => ⟨t', List.mem_cons_of_mem _ ht', heq⟩
    | some c' =>
      simp only [ht] at h
      split_ifs at h
      · obtain rfl := List.mem_singleton.mp h
        exact .inr ⟨t, List.mem_cons_self, ht⟩
      · rcases ih h with h | ⟨t', ht', heq⟩
        · rcases List.mem_cons.mp h with rfl | h
          · exact .inr ⟨t, List.mem_cons_self, ht⟩
          · exact .inl h
        · exact .inr ⟨t', List.mem_cons_of_mem _ ht', heq⟩

/-- The document holds in the span of a candidate what the candidate says: the part of a literal
trigger that stands before the cursor, or what a pattern matched, but for carriage returns. The run
is that of the characters before the cursor which are not white space. -/
def Candidate.Holds (b : Buffer) (run : Text) (c : Candidate) : Prop :=
  ∃ text : Text, b.slice c.span = .ok text ∧
    match c.template.trigger with
    | .literal trigger =>
      text <+: trigger ∧ (trigger ≠ [] → text ≠ []) ∧ (text = trigger ↔ c.complete = true) ∧
        (c.template.flags.matchMode = .inWord → text <:+ run ∧
          ∀ s, s <+: trigger → s <:+ run → s.length ≤ text.length)
    | .pattern _ => text.withoutReturns = c.label ∧ c.groups.head? = some c.label

theorem Template.accepts_of_candidate? {ctx : Context} {scopes : List Text}
    (h : t.candidate? engine ctx scopes = some c) : t.accepts scopes = true := by
  by_contra hrejects
  rw [candidate?, if_neg hrejects] at h
  cases h

theorem Template.candidate?_sound {k : Nat} {scopes : List Text} (hengine : engine.EndsAtEnd)
    (hb : b.text.CrLf) (hp : b.HasPosition p)
    (h : t.candidate? engine (.of b.document p k) scopes = some c) :
    c.span.stop = p ∧ c.Holds b (Context.of b.document p k).run := by
  rw [candidate?, if_pos (accepts_of_candidate? h)] at h
  cases htrigger : t.trigger with
  | literal trigger =>
    rw [htrigger] at h
    obtain ⟨rfl, hstop, text, htext, hne, hstands⟩ := literalCandidate?_sound hp h
    refine ⟨hstop, text, htext, ?_⟩
    rw [htrigger]
    exact ⟨hstands.start, hne, hstands.complete_iff, hstands.longest⟩
  | pattern pattern =>
    rw [htrigger] at h
    obtain ⟨n, text, htext, h⟩ : ∃ n text, b.ShowsFrom n p text ∧
        t.patternCandidate? engine pattern n text p = some c := by
      dsimp only at h
      split_ifs at h
      · exact ⟨_, _, hp.showsFrom hb (Nat.sub_le _ _), h⟩
      · exact ⟨_, _, hp.showsFrom_line hb k, h⟩
    obtain ⟨rfl, hstop, hhead, text, hslice, htext⟩ := patternCandidate?_sound hengine htext h
    refine ⟨hstop, text, hslice, ?_⟩
    rw [htrigger]
    exact ⟨htext, hhead⟩

/-- **Candidates.** The span of a candidate ends at the cursor, and the document holds there what
the candidate says, however patterns are searched for. A literal trigger is never empty in a
template of a file (`trigger_ne_of_mem_templates`). -/
theorem matchTemplatesBy_sound (hengine : engine.EndsAtEnd) (hb : b.text.CrLf)
    (hp : b.HasPosition r.position) :
    ∀ c ∈ (matchTemplatesBy engine b.document templates r).toList,
      c.span.stop = r.position ∧
        c.Holds b (Context.of b.document r.position r.lookbackLines).run := by
  intro c hc
  rcases exists_of_mem_matchFrom hc with hc | ⟨t, -, ht⟩
  · cases hc
  · exact t.candidate?_sound hengine hb hp ht

/-- A template that leaves its place empty. -/
def Template.ofTrigger (trigger : Trigger) (flags : Flags) : Template where
  trigger
  description := []
  flags
  priority := 0
  placeholderCount := 0
  contextFilter := none
  generator := ⟨[], 0, fun _ => .ok []⟩
  line := 1

/-- The start of a literal trigger, and a pattern that begins on the line above. -/
theorem matchTemplatesBy_sound_twoLines :
    let engine : Pattern.Engine := fun _ text =>
      if "a\nb".toList.isSuffixOf text then some [some (text.length - 3, text.length)] else none
    let templates : List Template :=
      [.ofTrigger (.literal "bc".toList) (.ofLetters ['i']),
        .ofTrigger (.pattern ⟨"a\\nb".toList, .hard ⟨#[], 0, 0⟩⟩) (.ofLetters ['M'])]
    let b : Buffer := ⟨"xa\r\nb".toList⟩
    let found := (matchTemplatesBy engine b.document templates ⟨⟨1, 1⟩, [], 1⟩).toList
    found.map (·.span) = [⟨⟨1, 0⟩, ⟨1, 1⟩⟩, ⟨⟨0, 1⟩, ⟨1, 1⟩⟩] ∧
      ∀ c ∈ found, c.span.stop = ⟨1, 1⟩ ∧ c.Holds b "b".toList := by
  intro engine templates b found
  have hengine : engine.EndsAtEnd := by
    intro p text captures h
    dsimp only [engine] at h
    split_ifs at h
    obtain rfl := Option.some.inj h
    exact ⟨List.cons_ne_nil _ _, rfl⟩
  have hb : b.text.CrLf :=
    .char (by decide) (.char (by decide) (.returnLineFeed (.char (by decide) .nil)))
  have hsound := @matchTemplatesBy_sound engine b templates ⟨⟨1, 1⟩, [], 1⟩ hengine hb (by decide)
  have hrun : (Context.of b.document ⟨1, 1⟩ 1).run = "b".toList := by decide +kernel
  rw [hrun] at hsound
  exact ⟨by decide +kernel, hsound⟩

end Matching

end LiveSnippet
