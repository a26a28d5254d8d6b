import LiveSnippet.Proofs.Template.Entries

/-!
# The headers of a template file

Every header at the top level of a file is accounted for once: it gives a template, or else an error
about that template. While the items of a file are added to its outline, each of them adds an entry
or an error just if it begins with a header. Compiling then turns each entry into a template or an
error with the line of the entry, whether or not there is code to compile it with.

The directives for a template are those between the header before it and its own. What the outline
holds for the next template is what the lines at the top level behind the last header say.

## Main definitions

* `headerLines`: where the headers are
* `priorityAfter`, `contextAfter`: what some lines say about the next template

## Main results

* `Outline.countAt_foldl`, `Outline.countAt_compile`: nothing is lost or counted twice
* `Outline.directed_ofSource`: the directives of an entry
* `compileBy_headers`: headers, order and directives of a file
* `trigger_ne_of_mem_templates`: literal triggers are not empty
-/

namespace LiveSnippet

/-- The numbers of the headers at the top level. -/
def headerLines (lines : List Text) : List Nat :=
  ((topLines lines).filter (Header.isHeader ·.2)).map (·.1)

theorem pairwise_headerLines (lines : List Text) : (headerLines lines).Pairwise (· < ·) :=
  List.pairwise_map.mpr ((pairwise_topLinesFrom .top 1 lines).sublist List.filter_sublist)

/-- The items that are templates begin at the headers. -/
theorem filterMap_headerLine? (lines : List Text) :
    (FileItem.ofLines 1 lines).filterMap FileItem.headerLine? = headerLines lines := by
  have hread := FileItem.forall₂_ofLines 1 lines
  rw [headerLines, topLines]
  generalize FileItem.ofLines 1 lines = items, topLinesFrom .top 1 lines = tops at hread ⊢
  induction hread with
  | nil => rfl
  | @cons item l items tops hitem _ ih =>
    obtain ⟨rest, rfl⟩ := hitem
    cases hheader : Header.isHeader l.2 <;> simp [FileItem.headerLine?_read, hheader, ih]

/-! ### What the items of a file leave in its outline -/

namespace Outline

/-- How many entries and errors an outline holds for the template with its header at a line. -/
def countAt (k : Nat) (o : Outline) : Nat :=
  o.entries.countP (·.line == k) + o.errors.countP (·.isAbout k)

theorem countAt_of_errors {o o' : Outline} (k : Nat) (x : CompileError)
    (hentries : o'.entries = o.entries) (herrors : o'.errors = o.errors ++ [x]) :
    o'.countAt k = o.countAt k + if x.isAbout k then 1 else 0 := by
  rw [countAt, countAt, hentries, herrors, List.countP_append, List.countP_singleton, Nat.add_assoc]

/-- An item adds one entry or error if it begins with a header, and none otherwise. -/
theorem countAt_add (k : Nat) (o : Outline) (item : FileItem) :
    (o.add item).countAt k = o.countAt k + item.headerLine?.toList.count k := by
  have hcount : ∀ line, [line].count k = if line == k then 1 else 0 := fun _ => List.count_singleton
  cases item with
  | ignored | priority | context => rfl
  | globalSection line code closed =>
    cases closed with
    | true => rfl
    | false => exact countAt_of_errors k (.preamble line _) rfl rfl
  | badHeader line text =>
    rw [FileItem.headerLine?, Option.toList_some, hcount]
    exact countAt_of_errors k (.header line text) rfl rfl
  | entry line header body =>
    rw [FileItem.headerLine?, Option.toList_some, hcount]
    rcases body with (_ | _) | body
    · exact countAt_of_errors k (.unterminatedBody line _) rfl rfl
    · exact countAt_of_errors k (.unterminatedCode line _) rfl rfl
    · rw [countAt, countAt, add, List.countP_append, List.countP_singleton, Nat.add_right_comm]

theorem countAt_foldl (k : Nat) (o : Outline) (items : List FileItem) :
    (items.foldl add o).countAt k =
      o.countAt k + (items.filterMap FileItem.headerLine?).count k := by
  induction items generalizing o with
  | nil => rfl
  | cons item items ih =>
    rw [List.foldl_cons, ih, countAt_add, List.filterMap_cons, Nat.add_assoc]
    cases item.headerLine? with
    | none => simp
    | some line => simp [List.count_cons, Nat.add_comm]

theorem entries_add (o : Outline) (item : FileItem) :
    (o.add item).entries = o.entries ∨
      ∃ line header body, item = .entry line header (.ok body) ∧
        (o.add item).entries = o.entries ++ [⟨line, header, body, o.priority, o.context⟩] := by
  cases item with
  | ignored | globalSection | priority | context | badHeader => exact .inl rfl
  | entry line header body =>
    cases body with
    | ok body => exact .inr ⟨line, header, body, rfl, rfl⟩
    | error e => cases e <;> exact .inl rfl

/-- Entries stand in the order of their headers. -/
theorem map_line_foldl_sublist (o : Outline) (items : List FileItem) :
    ((items.foldl add o).entries.map (·.line)).Sublist
      (o.entries.map (·.line) ++ items.filterMap FileItem.headerLine?) := by
  induction items generalizing o with
  | nil => simp
  | cons item items ih =>
    rw [List.foldl_cons, List.filterMap_cons]
    refine (ih _).trans ?_
    rcases entries_add o item with h | ⟨line, header, body, rfl, h⟩
    · rw [h]
      refine (List.Sublist.refl _).append ?_
      cases item.headerLine? with
      | none => exact .refl _
      | some line => exact List.sublist_cons_self _ _
    · rw [h]
      simp [FileItem.headerLine?]

end Outline

/-! ### Directives -/

/-- What follows a word in the last line that begins with it and has no header behind it. -/
def lastDirective? (word : Text) (lines : List Text) : Option Text :=
  (lines.reverse.takeWhile (!Header.isHeader ·)).findSome? word.isPrefixOf?

/-- The priority that some lines give to the next template: that of the last `priority` line behind
the last header, or zero if there is none or it does not spell a 32-bit integer. -/
def priorityAfter (lines : List Text) : Int :=
  ((lastDirective? "priority ".toList lines).bind (readPriority? ∘ Text.trim)).getD 0

/-- The context expression that some lines give to the next template: that of the last `context`
line behind the last header, if there is one and it is not blank. -/
def contextAfter (lines : List Text) : Option Text :=
  ((lastDirective? "context ".toList lines).map Text.trim).filter (!·.isEmpty)

theorem lastDirective?_concat (word : Text) (lines : List Text) (line : Text) :
    lastDirective? word (lines ++ [line]) =
      if Header.isHeader line then none
      else (word.isPrefixOf? line).or (lastDirective? word lines) := by
  rw [lastDirective?, List.reverse_append, List.reverse_singleton, List.singleton_append,
    List.takeWhile_cons]
  cases Header.isHeader line with
  | true => rfl
  | false =>
    rw [Bool.not_false, if_pos rfl, List.findSome?_cons, if_neg Bool.false_ne_true]
    cases word.isPrefixOf? line <;> rfl

theorem priorityAfter_concat (lines : List Text) (line : Text) :
    priorityAfter (lines ++ [line]) =
      if Header.isHeader line then 0
      else match "priority ".toList.isPrefixOf? line with
        | some value => (readPriority? (Text.trim value)).getD 0
        | none => priorityAfter lines := by
  rw [priorityAfter, lastDirective?_concat]
  cases Header.isHeader line with
  | true => rfl
  | false => cases "priority ".toList.isPrefixOf? line <;> rfl

theorem contextAfter_concat (lines : List Text) (line : Text) :
    contextAfter (lines ++ [line]) =
      if Header.isHeader line then none
      else match "context ".toList.isPrefixOf? line with
        | some expr => if (Text.trim expr).isEmpty then none else some (Text.trim expr)
        | none => contextAfter lines := by
  rw [contextAfter, lastDirective?_concat]
  cases Header.isHeader line with
  | true => rfl
  | false =>
    cases "context ".toList.isPrefixOf? line with
    | none => rfl
    | some expr =>
      rw [if_neg Bool.false_ne_true, Option.some_or, Option.map_some, Option.filter_some,
        if_neg Bool.false_ne_true]
      dsimp only
      cases (Text.trim expr).isEmpty <;> rfl

namespace Outline

variable {o : Outline} {lines : List Text} {line : Text}

/-- The outline holds for the next template what the lines say about it. -/
structure Expects (o : Outline) (lines : List Text) : Prop where
  priority : o.priority = priorityAfter lines
  context : o.context = contextAfter lines

/-- A line that is neither a header nor a directive changes nothing for the next template. -/
theorem Expects.concat (h : o.Expects lines) (hheader : Header.isHeader line = false)
    (hpriority : "priority ".toList.isPrefixOf? line = none)
    (hcontext : "context ".toList.isPrefixOf? line = none) : o.Expects (lines ++ [line]) where
  priority := by rw [priorityAfter_concat, hheader, hpriority]; exact h.priority
  context := by rw [contextAfter_concat, hheader, hcontext]; exact h.context

/-- Behind a header, nothing has been said about the next template. -/
theorem expects_of_isHeader (hheader : Header.isHeader line = true) (lines : List Text)
    (hpriority : o.priority = 0) (hcontext : o.context = none) : o.Expects (lines ++ [line]) where
  priority := by rw [priorityAfter_concat, if_pos hheader, hpriority]
  context := by rw [contextAfter_concat, if_pos hheader, hcontext]

theorem Expects.add (h : o.Expects lines) (n : Nat) (line : Text) (rest : List Text) :
    (o.add (FileItem.read n line rest).1).Expects (lines ++ [line]) := by
  rcases Level.opensGlobal_or_isHeader_or line with hline | hline | hline
  · have hhead := head?_of_opensGlobal hline
    rw [FileItem.read_of_opensGlobal hline]
    have hadd := h.concat (isHeader_eq_false hhead (by decide))
      (isPrefixOf?_eq_none hhead (by decide)) (isPrefixOf?_eq_none hhead (by decide))
    exact ⟨hadd.priority, hadd.context⟩
  · -- A header uses up the directives, whatever becomes of its template.
    rw [FileItem.read_of_isHeader hline]
    cases Header.parse? line with
    | none => exact expects_of_isHeader hline lines rfl rfl
    | some header =>
      rcases (Body.parse rest).1 with (_ | _) | _ <;> exact expects_of_isHeader hline lines rfl rfl
  · have hheader := Level.isHeader_of_opened_eq_top hline
    by_cases hcomment : line.head? = some '#'
    · rw [FileItem.read, if_pos hcomment]
      exact h.concat hheader (isPrefixOf?_eq_none hcomment (by decide))
        (isPrefixOf?_eq_none hcomment (by decide))
    · rw [FileItem.read, if_neg hcomment, Level.opensGlobal_of_opened_eq_top hline,
        if_neg Bool.false_ne_true, hheader]
      cases hpriority : "priority ".toList.isPrefixOf? line with
      | some value =>
        -- The two words begin with different letters.
        have hcontext : "context ".toList.isPrefixOf? line = none :=
          isPrefixOf?_eq_none (head?_of_isPrefixOf? hpriority) (by decide)
        refine ⟨?_, ?_⟩
        · rw [priorityAfter_concat, hheader, hpriority]
          rfl
        · rw [contextAfter_concat, hheader, hcontext]
          exact h.context
      | none =>
        cases hcontext : "context ".toList.isPrefixOf? line with
        | some expr =>
          refine ⟨?_, ?_⟩
          · rw [priorityAfter_concat, hheader, hpriority]
            exact h.priority
          · rw [contextAfter_concat, hheader, hcontext]
            rfl
        | none => exact h.concat hheader hpriority hcontext

end Outline

/-- Those of some numbered lines that stand in front of the line with a number. -/
def linesBefore (k : Nat) (lines : List (Nat × Text)) : List Text :=
  (lines.filter (·.1 < k)).map (·.2)

theorem linesBefore_append {front back : List (Nat × Text)} {l : Nat × Text}
    (h : (front ++ l :: back).Pairwise fun a b => a.1 < b.1) :
    linesBefore l.1 (front ++ l :: back) = front.map (·.2) := by
  obtain ⟨-, hback, hfront⟩ := List.pairwise_append.mp h
  -- Numbers grow, so the filter cuts the lines where the line itself stands.
  have hkeep : front.filter (·.1 < l.1) = front := List.filter_eq_self.mpr fun a ha =>
    decide_eq_true (hfront a ha l List.mem_cons_self)
  have hdrop : (l :: back).filter (·.1 < l.1) = [] := by
    refine List.filter_eq_nil_iff.mpr fun b hb => ?_
    rw [decide_eq_true_eq, Nat.not_lt]
    rcases List.mem_cons.mp hb with rfl | hb
    · exact Nat.le_refl _
    · exact Nat.le_of_lt ((List.pairwise_cons.mp hback).1 b hb)
  rw [linesBefore, List.filter_append, hkeep, hdrop, List.append_nil]

/-- An entry has the directives that the lines in front of its header give to it. -/
structure Entry.Directed (lines : List (Nat × Text)) (e : Entry) : Prop where
  priority : e.priority = priorityAfter (linesBefore e.line lines)
  context : e.context = contextAfter (linesBefore e.line lines)

namespace Outline

theorem directed_foldl {items : List FileItem} {back lines : List (Nat × Text)}
    (front : List (Nat × Text))
    (hread : List.Forall₂ (fun item l => ∃ rest, item = (FileItem.read l.1 l.2 rest).1) items back)
    (hlines : lines = front ++ back) (hpairwise : lines.Pairwise fun a b => a.1 < b.1) {o : Outline}
    (hexpects : o.Expects (front.map (·.2))) (hentries : ∀ e ∈ o.entries, e.Directed lines) :
    ∀ e ∈ (items.foldl add o).entries, e.Directed lines := by
  induction hread generalizing front o with
  | nil => exact hentries
  | @cons item l items back hitem _ ih =>
    obtain ⟨rest, hrest⟩ := hitem
    have hnext : (o.add item).Expects ((front ++ [l]).map (·.2)) := by
      rw [List.map_append, hrest]
      exact hexpects.add l.1 l.2 rest
    refine ih (front ++ [l]) (by rw [hlines, List.append_assoc, List.singleton_append]) hnext ?_
    rcases entries_add o item with h | ⟨line, header, body, rfl, h⟩
    · rwa [h]
    · have hline : line = l.1 := by
        have hheader := FileItem.headerLine?_read l.1 l.2 rest
        rw [← hrest] at hheader
        split_ifs at hheader
        · exact Option.some.inj hheader
        · cases hheader
      have hbefore : linesBefore line lines = front.map (·.2) := by
        rw [hlines] at hpairwise ⊢
        rw [hline, linesBefore_append hpairwise]
      rw [h]
      refine List.forall_mem_append.mpr ⟨hentries, List.forall_mem_singleton.mpr ⟨?_, ?_⟩⟩
      · rw [hbefore]
        exact hexpects.priority
      · rw [hbefore]
        exact hexpects.context

/-- Each entry of a file has the directives between the header before it and its own. -/
theorem directed_ofSource {source : Text} {e : Entry} (he : e ∈ (ofSource source).entries) :
    e.Directed (topLines source.lines) :=
  directed_foldl [] (FileItem.forall₂_ofLines 1 source.lines) rfl
    (pairwise_topLinesFrom .top 1 source.lines) ⟨rfl, rfl⟩ (List.forall_mem_nil _) e he

end Outline

/-! ### What an outline compiles to -/

section Compile

variable {Preamble : Type} {patterns : Pattern.Compiler} {evaluator : Evaluator Preamble}
  {preamble : Preamble} {o : Outline}

/-- How many templates and errors a compiled file has for the template with its header at a line. -/
def CompiledFile.countAt (k : Nat) (file : CompiledFile) : Nat :=
  file.templates.countP (·.line == k) + file.errors.countP (·.isAbout k)

theorem countP_sortErrors (p : CompileError → Bool) (errors : List CompileError) :
    (sortErrors errors).countP p = errors.countP p :=
  (List.mergeSort_perm errors _).countP_eq p

/-- Each entry gives a template or an error. -/
theorem countP_partitionResults (k : Nat) (patterns : Pattern.Compiler)
    (evaluator : Evaluator Preamble) (preamble : Preamble) (entries : List Entry) :
    let results := entries.map (compileEntry patterns evaluator preamble)
    (partitionResults results).1.countP (·.line == k) +
        (partitionResults results).2.countP (·.isAbout k) =
      entries.countP (·.line == k) := by
  dsimp only
  induction entries with
  | nil => rfl
  | cons e entries ih =>
    rw [List.countP_cons, ← ih]
    rcases compileEntry_cases patterns evaluator preamble e with
      ⟨t, hresult, hline, -⟩ | ⟨x, hresult, hline, hx⟩
    · simp only [partitionResults, List.map_cons, hresult, List.filterMap_cons, List.countP_cons,
        hline]
      omega
    · simp only [partitionResults, List.map_cons, hresult, List.filterMap_cons, List.countP_cons,
        CompileError.isAbout, hline, hx, Bool.not_false, Bool.true_and]
      omega

theorem Outline.countAt_compile (k : Nat) (patterns : Pattern.Compiler)
    (evaluator : Evaluator Preamble) (o : Outline) :
    (o.compile patterns evaluator).countAt k = o.countAt k := by
  have hcode : (compileCode evaluator o).2.countP (·.isAbout k) = 0 :=
    List.countP_eq_zero.mpr fun x hx => by
      rw [CompileError.isAbout, isPreamble_of_mem_compileCode hx]
      exact Bool.false_ne_true
  rw [compile]
  rcases hcompile : compileCode evaluator o with ⟨e | preamble, codeErrors⟩
  · have horphans : (o.entries.map (orphanError e)).countP (·.isAbout k) =
        o.entries.countP (·.line == k) := List.countP_map
    rw [hcompile] at hcode
    simp only [CompiledFile.countAt, countP_sortErrors, List.countP_append, hcode, horphans,
      List.countP_nil, countAt]
    omega
  · have hresults := countP_partitionResults k patterns evaluator preamble o.entries
    rw [hcompile] at hcode
    simp only [CompiledFile.countAt, countP_sortErrors, List.countP_append, hcode, countAt]
    omega

theorem sublist_partitionResults (entries : List Entry) :
    ((partitionResults (entries.map (compileEntry patterns evaluator preamble))).1.map
      (·.line)).Sublist (entries.map (·.line)) := by
  induction entries with
  | nil => exact .slnil
  | cons e entries ih =>
    rcases compileEntry_cases patterns evaluator preamble e with
      ⟨t, hresult, hline, -⟩ | ⟨x, hresult, -⟩
    · simp only [partitionResults, List.map_cons, hresult, List.filterMap_cons, hline]
      exact ih.cons_cons _
    · simp only [partitionResults, List.map_cons, hresult, List.filterMap_cons]
      exact ih.cons _

/-- Templates stand in the order of their headers. -/
theorem pairwise_templates (patterns : Pattern.Compiler) (evaluator : Evaluator Preamble)
    (source : Text) :
    (compileBy patterns evaluator source).templates.Pairwise (·.line < ·.line) := by
  have hentries : ((Outline.ofSource source).entries.map (·.line)).Pairwise (· < ·) := by
    have hsublist := Outline.map_line_foldl_sublist .empty (FileItem.ofLines 1 source.lines)
    rw [filterMap_headerLine?] at hsublist
    exact (pairwise_headerLines source.lines).sublist hsublist
  refine List.pairwise_map.mp ?_
  rw [compileBy, Outline.compile]
  rcases compileCode evaluator (Outline.ofSource source) with ⟨e | preamble, codeErrors⟩
  · exact List.Pairwise.nil
  · exact hentries.sublist (sublist_partitionResults _)

theorem pairwise_errors (patterns : Pattern.Compiler) (evaluator : Evaluator Preamble)
    (source : Text) :
    (compileBy patterns evaluator source).errors.Pairwise (·.line ≤ ·.line) := by
  rw [compileBy, Outline.compile]
  rcases compileCode evaluator (Outline.ofSource source) with ⟨e | preamble, codeErrors⟩ <;>
    exact pairwise_sortErrors _

/-- A template is what an entry compiles to together with the code for all templates. -/
theorem exists_entry_of_mem_templates {t : Template}
    (h : t ∈ (o.compile patterns evaluator).templates) :
    ∃ preamble, (compileCode evaluator o).1 = .ok preamble ∧
      ∃ e ∈ o.entries, compileEntry patterns evaluator preamble e = .ok t := by
  rw [Outline.compile] at h
  rcases hcode : compileCode evaluator o with ⟨e | preamble, codeErrors⟩ <;> rw [hcode] at h
  · cases h
  · obtain ⟨r, hr, ht⟩ := List.mem_filterMap.mp h
    obtain ⟨e, he, rfl⟩ := List.mem_map.mp hr
    refine ⟨preamble, rfl, e, he, ?_⟩
    cases hresult : compileEntry patterns evaluator preamble e with
    | error x =>
      rw [hresult] at ht
      cases ht
    | ok t' =>
      rw [hresult] at ht
      exact congrArg _ (Option.some.inj ht)

/-- A template has the line, the priority and the context of its entry. -/
theorem exists_of_mem_templates {t : Template}
    (h : t ∈ (o.compile patterns evaluator).templates) :
    ∃ preamble, (compileCode evaluator o).1 = .ok preamble ∧
      ∃ e ∈ o.entries, t.line = e.line ∧ t.priority = e.priority ∧
        compileContext evaluator preamble e.context = .ok t.contextFilter := by
  obtain ⟨preamble, hpreamble, e, he, hentry⟩ := exists_entry_of_mem_templates h
  refine ⟨preamble, hpreamble, e, he, ?_⟩
  rcases compileEntry_cases patterns evaluator preamble e with
    ⟨t', hresult, hfields⟩ | ⟨x, hresult, -⟩
  · obtain rfl : t' = t := Except.ok.inj (hresult.symm.trans hentry)
    exact hfields
  · cases hresult.symm.trans hentry

/-- Whether the filter of a template is that of a context expression. -/
def Template.FilteredBy (evaluator : Evaluator Preamble) (preamble : Preamble) (t : Template) :
    Option Text → Prop
  | none => t.contextFilter = none
  | some expr =>
    ∃ filter, evaluator.compileFilter preamble expr = .ok filter ∧ t.contextFilter = some filter

theorem filteredBy_of_compileContext {expr : Option Text} {t : Template}
    (h : compileContext evaluator preamble expr = .ok t.contextFilter) :
    t.FilteredBy evaluator preamble expr := by
  cases expr with
  | none => exact (Except.ok.inj h).symm
  | some expr =>
    rw [compileContext] at h
    cases hfilter : evaluator.compileFilter preamble expr with
    | error x =>
      rw [hfilter] at h
      cases h
    | ok filter =>
      rw [hfilter] at h
      exact ⟨filter, hfilter, (Except.ok.inj h).symm⟩

/-- **Every header is accounted for once.** At each header of a file there is one template or else
one error that is not about code, and there is none anywhere else. Templates and errors stand in the
order of their lines. A template has the directives between the header before it and its own. -/
theorem compileBy_headers (patterns : Pattern.Compiler) (evaluator : Evaluator Preamble)
    (source : Text) :
    (∀ k, (compileBy patterns evaluator source).templates.countP (·.line == k) +
        (compileBy patterns evaluator source).errors.countP
          (fun x => !x.isPreamble && x.line == k) =
        if k ∈ headerLines source.lines then 1 else 0) ∧
      (compileBy patterns evaluator source).templates.Pairwise (·.line < ·.line) ∧
      (compileBy patterns evaluator source).errors.Pairwise (·.line ≤ ·.line) ∧
      ∀ t ∈ (compileBy patterns evaluator source).templates,
        t.priority = priorityAfter (linesBefore t.line (topLines source.lines)) ∧
        ∃ preamble, (compileCode evaluator (Outline.ofSource source)).1 = .ok preamble ∧
          t.FilteredBy evaluator preamble
            (contextAfter (linesBefore t.line (topLines source.lines))) := by
  refine ⟨fun k => ?_, pairwise_templates patterns evaluator source,
    pairwise_errors patterns evaluator source, fun t ht => ?_⟩
  · have hnodup : (headerLines source.lines).Nodup :=
      (pairwise_headerLines source.lines).imp Nat.ne_of_lt
    have hcount :
        (compileBy patterns evaluator source).countAt k = (headerLines source.lines).count k := by
      rw [compileBy, Outline.countAt_compile, Outline.ofSource, Outline.countAt_foldl,
        filterMap_headerLine?]
      exact Nat.zero_add _
    rw [← hnodup.count]
    exact hcount
  · obtain ⟨preamble, hpreamble, e, he, hline, hpriority, hfilter⟩ := exists_of_mem_templates ht
    have hdirected := Outline.directed_ofSource he
    rw [hline, hpriority]
    refine ⟨hdirected.priority, preamble, hpreamble, ?_⟩
    rw [← hdirected.context]
    exact filteredBy_of_compileContext hfilter

/-- A header without a trigger uses up the priority in front of it, and a blank context is none. -/
theorem compileWith_headers_malformed :
    ∃ t ∈ (compileWith scriptEvaluator
        "priority 7\nsnippet\nendsnippet\ncontext \nsnippet b\nendsnippet".toList).templates,
      t.line = 5 ∧ t.priority = 0 ∧ t.contextFilter = none := by
  have hany : (compileWith scriptEvaluator
      "priority 7\nsnippet\nendsnippet\ncontext \nsnippet b\nendsnippet".toList).templates.any
        (·.line == 5) = true := by decide +kernel
  obtain ⟨t, ht, hline⟩ := List.any_eq_true.mp hany
  obtain ⟨-, -, -, hdirectives⟩ := compileBy_headers Pattern.TextPattern.compile? scriptEvaluator
    "priority 7\nsnippet\nendsnippet\ncontext \nsnippet b\nendsnippet".toList
  obtain ⟨hpriority, preamble, -, hfilter⟩ := hdirectives t ht
  rw [eq_of_beq hline] at hpriority hfilter
  exact ⟨t, ht, eq_of_beq hline, hpriority.trans (by decide +kernel), hfilter⟩

end Compile

/-! ### Triggers -/

namespace Header

variable {text : Text} {header : Header}

theorem trigger_ne_of_ofPattern? (h : ofPattern? text = some header) :
    header.trigger ≠ .literal [] := by
  unfold ofPattern? at h
  split at h
  · dsimp only at h
    split at h
    · split_ifs at h
      obtain ⟨details, -, rfl⟩ := Option.map_eq_some_iff.mp h
      exact TriggerSource.noConfusion
    · cases h
  · cases h

theorem trigger_ne_of_ofLiteral? (h : ofLiteral? text = some header) :
    header.trigger ≠ .literal [] := by
  rw [ofLiteral?] at h
  dsimp only at h
  split_ifs at h with hempty
  obtain ⟨details, -, rfl⟩ := Option.map_eq_some_iff.mp h
  exact fun htrigger => hempty (List.isEmpty_iff.mpr (TriggerSource.literal.inj htrigger))

/-- No header has an empty literal trigger. -/
theorem trigger_ne_of_parse? {line : Text} (h : parse? line = some header) :
    header.trigger ≠ .literal [] := by
  obtain ⟨behind, -, hbehind⟩ := Option.bind_eq_some_iff.mp h
  obtain ⟨fields, -, hfields⟩ := Option.bind_eq_some_iff.mp hbehind
  rcases Option.or_eq_some_iff.mp hfields with hpattern | ⟨-, hliteral⟩
  · exact trigger_ne_of_ofPattern? hpattern
  · exact trigger_ne_of_ofLiteral? hliteral

end Header

/-- An entry has the header that its line spells and the body at the front of the lines behind it. -/
theorem FileItem.parse_of_read {n k : Nat} {line : Text} {rest : List Text} {header : Header}
    {body : Except BodyError Body} (h : (read n line rest).1 = .entry k header body) :
    Header.parse? line = some header ∧ (Body.parse rest).1 = body := by
  have hheader := headerLine?_read n line rest
  rw [h] at hheader
  split_ifs at hheader with hline
  · rw [read_of_isHeader hline] at h
    cases hparse : Header.parse? line with
    | none =>
      rw [hparse] at h
      cases h
    | some header' =>
      rw [hparse] at h
      obtain ⟨-, hheader', hbody⟩ := FileItem.entry.inj h
      exact ⟨congrArg some hheader', hbody⟩
  · cases hheader

/-- An entry of a file has been read at a line of its top level. -/
theorem Outline.exists_read_of_mem_entries {source : Text} {e : Entry}
    (he : e ∈ (ofSource source).entries) :
    ∃ n line rest, (FileItem.read n line rest).1 = .entry e.line e.header (.ok e.body) := by
  have hread := FileItem.forall₂_ofLines 1 source.lines
  have hstart : ∀ e ∈ empty.entries, ∃ n line rest,
      (FileItem.read n line rest).1 = .entry e.line e.header (.ok e.body) := List.forall_mem_nil _
  rw [ofSource] at he
  generalize FileItem.ofLines 1 source.lines = items, topLinesFrom .top 1 source.lines = lines
    at hread he
  -- The outline that the items are added to is any one whose entries have been read.
  generalize empty = o at hstart he
  induction hread generalizing o with
  | nil => exact hstart e he
  | @cons item l items lines hitem _ ih =>
    obtain ⟨rest, hrest⟩ := hitem
    refine ih _ ?_ he
    rcases entries_add o item with h | ⟨line, header, body, rfl, h⟩
    · rwa [h]
    · rw [h, List.forall_mem_append, List.forall_mem_singleton]
      exact ⟨hstart, l.1, l.2, rest, hrest.symm⟩

section Compile

variable {Preamble : Type} {patterns : Pattern.Compiler} {evaluator : Evaluator Preamble}
  {preamble : Preamble} {t : Template}

theorem trigger_ne_of_compileTrigger {line : Nat} {source : TriggerSource} {trigger : Trigger}
    (h : compileTrigger patterns line source = .ok trigger) (hsource : source ≠ .literal []) :
    trigger ≠ .literal [] := by
  cases source with
  | literal text =>
    obtain rfl := Except.ok.inj h
    exact fun htrigger => hsource (congrArg _ (Trigger.literal.inj htrigger))
  | pattern source =>
    rw [compileTrigger] at h
    split at h
    · obtain rfl := Except.ok.inj h
      exact Trigger.noConfusion
    · cases h

/-- A template has the trigger and the literal text of its entry. -/
theorem of_compileEntry {e : Entry} (h : compileEntry patterns evaluator preamble e = .ok t) :
    compileTrigger patterns e.line e.header.trigger = .ok t.trigger ∧
      t.placeholderCount = e.body.placeholderCount ∧ t.generator.segments = e.body.segments := by
  rw [compileEntry] at h
  cases htrigger : compileTrigger patterns e.line e.header.trigger with
  | error x =>
    rw [htrigger] at h
    cases h
  | ok trigger =>
    rw [htrigger] at h
    revert h
    cases compileContext evaluator preamble e.context with
    | error x => exact fun h => by cases h
    | ok filter =>
      cases evaluator.compileBlocks preamble e.body.spans with
      | error x => exact fun h => by cases h
      | ok program =>
        intro h
        obtain rfl := Except.ok.inj h
        exact ⟨rfl, rfl, rfl⟩

/-- No template of a file has an empty literal trigger. -/
theorem trigger_ne_of_mem_templates {source : Text}
    (h : t ∈ (compileBy patterns evaluator source).templates) : t.trigger ≠ .literal [] := by
  obtain ⟨preamble, -, e, he, hentry⟩ := exists_entry_of_mem_templates h
  obtain ⟨n, line, rest, hread⟩ := Outline.exists_read_of_mem_entries he
  exact trigger_ne_of_compileTrigger (of_compileEntry hentry).1
    (Header.trigger_ne_of_parse? (FileItem.parse_of_read hread).1)

end Compile

end LiveSnippet
