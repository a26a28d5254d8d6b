import LiveSnippet.Proofs.Template.Levels
import LiveSnippet.Template.Code

/-!
# The entries of a template file

A template and the errors about it are found by the line of its header. Nothing else in the file
depends on what the entry of the template holds: its last line is its first terminator, whatever
stands in front of it, and its header takes up the directives before it, well-formed or not. So two
files that differ in one entry only, where the two entries have as many lines, compile to the same
templates and errors but for those of the entry.

## Main definitions

* `FileItem.headerLine?`, `CompileError.isPreamble`: to which template an item or an error belongs
* `IsEntry`: the lines of an entry
* `CompiledFile.without`: what a file compiles to, apart from the template of a line

## Main results

* `sortErrors_filter`: leaving out errors does not change the order of the others
* `compileBy_without`: entries are isolated
-/

namespace LiveSnippet

/-! ### What belongs to a template -/

/-- Whether the error is about a section of code, and not about a template. -/
def CompileError.isPreamble : CompileError → Bool
  | preamble .. => true
  | _ => false

namespace FileItem

/-- The line of the header with which an item begins; `none` if it is no template. -/
def headerLine? : FileItem → Option Nat
  | badHeader line _ => some line
  | entry line _ _ => some line
  | _ => none

theorem headerLine?_read (n : Nat) (line : Text) (rest : List Text) :
    (read n line rest).1.headerLine? = if Header.isHeader line then some n else none := by
  rcases Level.opensGlobal_or_isHeader_or line with h | h | h
  · rw [read_of_opensGlobal h, isHeader_eq_false (head?_of_opensGlobal h) (by decide)]
    rfl
  · rw [read_of_isHeader h, if_pos h]
    cases Header.parse? line <;> rfl
  · have hheader : Header.isHeader line = false := Level.isHeader_of_opened_eq_top h
    have hglobal : opensGlobal line = false := Level.opensGlobal_of_opened_eq_top h
    rw [read, hheader, hglobal, if_neg Bool.false_ne_true, if_neg Bool.false_ne_true,
      if_neg Bool.false_ne_true]
    split_ifs
    · rfl
    · cases "priority ".toList.isPrefixOf? line with
      | some value => rfl
      | none => cases "context ".toList.isPrefixOf? line <;> rfl

/-- No item stands in front of the line with which reading begins. -/
theorem le_of_mem_ofLines {n k : Nat} {lines : List Text} {item : FileItem}
    (hmem : item ∈ ofLines n lines) (hitem : item.headerLine? = some k) : n ≤ k := by
  induction n, lines using ofLines.induct with
  | case1 n =>
    rw [ofLines] at hmem
    cases hmem
  | case2 n line rest ih =>
    rw [ofLines] at hmem
    rcases List.mem_cons.mp hmem with rfl | hmem
    · rw [headerLine?_read] at hitem
      split_ifs at hitem
      exact Nat.le_of_eq (Option.some.inj hitem)
    · have hle := ih hmem
      omega

end FileItem

section Sorting

variable {α : Type} {le : α → α → Bool}

/-- Where the head of a list stands when the list is sorted: behind the members that are smaller. -/
theorem exists_mergeSort_cons (htrans : ∀ a b c, le a b → le b c → le a c)
    (htotal : ∀ a b, le a b || le b a) (a : α) (l : List α) :
    ∃ l₁ l₂, (a :: l).mergeSort le = l₁ ++ a :: l₂ ∧ l.mergeSort le = l₁ ++ l₂ ∧
      (∀ b ∈ l₁, le a b = false) ∧ ∀ b ∈ l₂, le a b = true := by
  obtain ⟨l₁, l₂, hcons, hl, hl₁⟩ := List.mergeSort_cons htrans htotal a l
  have hsorted := List.pairwise_mergeSort htrans htotal (a :: l)
  rw [hcons] at hsorted
  have hl₂ := (List.pairwise_cons.mp (List.pairwise_append.mp hsorted).2.1).1
  exact ⟨l₁, l₂, hcons, hl, fun b hb => Bool.not_eq_true' _ |>.mp (hl₁ b hb), hl₂⟩

theorem filter_append_of_forall {p : α → Bool} {l₁ l₂ : List α} (h₁ : ∀ a ∈ l₁, p a = false)
    (h₂ : ∀ a ∈ l₂, p a = true) : (l₁ ++ l₂).filter p = l₂ := by
  rw [List.filter_append, List.filter_eq_self.mpr h₂, List.filter_eq_nil_iff.mpr, List.nil_append]
  exact fun a ha => by rw [h₁ a ha]; exact Bool.false_ne_true

/-- A stable sort puts some members of a list in the order in which it puts them among all. -/
theorem mergeSort_filter (htrans : ∀ a b c, le a b → le b c → le a c)
    (htotal : ∀ a b, le a b || le b a) (p : α → Bool) (l : List α) :
    (l.filter p).mergeSort le = (l.mergeSort le).filter p := by
  induction l with
  | nil => simp
  | cons a l ih =>
    obtain ⟨l₁, l₂, hcons, hl, hl₁, hl₂⟩ := exists_mergeSort_cons htrans htotal a l
    cases hp : p a with
    | false =>
      rw [List.filter_cons_of_neg (by rw [hp]; exact Bool.false_ne_true), ih, hl, hcons,
        List.filter_append, List.filter_append,
        List.filter_cons_of_neg (by rw [hp]; exact Bool.false_ne_true)]
    | true =>
      obtain ⟨m₁, m₂, hcons', hm, hm₁, hm₂⟩ :=
        exists_mergeSort_cons htrans htotal a (l.filter p)
      have hsplit : m₁ ++ m₂ = l₁.filter p ++ l₂.filter p := by
        rw [← hm, ih, hl, List.filter_append]
      -- Both are cut at the members that are not smaller than the head.
      have hback : m₂ = l₂.filter p := by
        rw [← filter_append_of_forall hm₁ hm₂, hsplit, filter_append_of_forall]
        · exact fun b hb => hl₁ b (List.mem_of_mem_filter hb)
        · exact fun b hb => hl₂ b (List.mem_of_mem_filter hb)
      rw [hback] at hsplit
      rw [List.filter_cons_of_pos hp, hcons', hcons, hback, List.append_cancel_right hsplit,
        List.filter_append, List.filter_cons_of_pos hp]

end Sorting

theorem line_le_trans (a b c : CompileError) (hab : decide (a.line ≤ b.line))
    (hbc : decide (b.line ≤ c.line)) : decide (a.line ≤ c.line) :=
  decide_eq_true (Nat.le_trans (of_decide_eq_true hab) (of_decide_eq_true hbc))

theorem line_le_total (a b : CompileError) :
    decide (a.line ≤ b.line) || decide (b.line ≤ a.line) := by
  rw [Bool.or_eq_true, decide_eq_true_eq, decide_eq_true_eq]
  exact Nat.le_total _ _

theorem sortErrors_filter (p : CompileError → Bool) (errors : List CompileError) :
    sortErrors (errors.filter p) = (sortErrors errors).filter p :=
  mergeSort_filter line_le_trans line_le_total p errors

theorem pairwise_sortErrors (errors : List CompileError) :
    (sortErrors errors).Pairwise (·.line ≤ ·.line) :=
  (List.pairwise_mergeSort line_le_trans line_le_total errors).imp of_decide_eq_true

/-! ### Outlines without a template -/

/-- Whether the error is about the template with its header at a line. -/
def CompileError.isAbout (k : Nat) (x : CompileError) : Bool := !x.isPreamble && x.line == k

namespace Outline

variable {k : Nat} {item : FileItem} {items : List FileItem}

/-- The outline apart from the template with its header at a line. -/
def without (k : Nat) (o : Outline) : Outline :=
  { o with
    entries := o.entries.filter (·.line != k)
    errors := o.errors.filter (!·.isAbout k) }

/-- A template leaves nothing in the outline but what belongs to it, whether it is well-formed or
not, and takes up the directives. -/
theorem without_add_of_eq (h : item.headerLine? = some k) (o : Outline) :
    (o.add item).without k = { o.without k with priority := 0, context := none } := by
  cases item with
  | ignored | globalSection | priority | context => cases h
  | badHeader line text =>
    obtain rfl : line = k := Option.some.inj h
    simp [add, without, CompileError.isAbout, CompileError.isPreamble, CompileError.line]
  | entry line header body =>
    obtain rfl : line = k := Option.some.inj h
    rcases body with (_ | _) | _ <;>
      simp [add, without, CompileError.isAbout, CompileError.isPreamble, CompileError.line]

theorem without_add_of_ne (h : item.headerLine? ≠ some k) (o : Outline) :
    (o.add item).without k = (o.without k).add item := by
  cases item with
  | ignored | priority | context => rfl
  | globalSection line code closed =>
    cases closed with
    | true => rfl
    | false =>
      simp only [add, without, Bool.false_eq_true, if_false, List.filter_append]
      rfl
  | badHeader line text =>
    have hne : line ≠ k := fun hline => h (congrArg some hline)
    simp [add, without, CompileError.isAbout, CompileError.line, hne]
  | entry line header body =>
    have hne : line ≠ k := fun hline => h (congrArg some hline)
    rcases body with (_ | _) | _ <;>
      simp [add, without, CompileError.isAbout, CompileError.line, hne]

theorem without_foldl (h : ∀ item ∈ items, item.headerLine? ≠ some k) (o : Outline) :
    (items.foldl add o).without k = items.foldl add (o.without k) := by
  induction items generalizing o with
  | nil => rfl
  | cons item items ih =>
    obtain ⟨hitem, hitems⟩ := List.forall_mem_cons.mp h
    rw [List.foldl_cons, List.foldl_cons, ih hitems, without_add_of_ne hitem]

end Outline

/-! ### Entries -/

/-- The lines of an entry: a header, well-formed or not, and the lines below it up to the first
terminator. -/
def IsEntry (lines : List Text) : Prop :=
  ∃ header inside last, lines = header :: (inside ++ [last]) ∧ Header.isHeader header = true ∧
    (∀ line ∈ inside, Body.isTerminator line = false) ∧ Body.isTerminator last = true

/-- An entry is one item, and the lines behind it are read as such. -/
theorem IsEntry.ofLines_append {lines : List Text} (h : IsEntry lines) (n : Nat)
    (rest : List Text) :
    ∃ item, item.headerLine? = some n ∧
      FileItem.ofLines n (lines ++ rest) = item :: FileItem.ofLines (n + lines.length) rest := by
  obtain ⟨header, inside, last, rfl, hheader, hinside, hlast⟩ := h
  have hopened := Level.opened_of_isHeader hheader
  have hlength : (header :: (inside ++ [last])).length = inside.length + 2 := by
    rw [List.length_cons, List.length_append, List.length_singleton]
  refine ⟨(FileItem.read n header (inside ++ [last])).1, ?_, ?_⟩
  · rw [FileItem.headerLine?_read, if_pos hheader]
  · rw [List.cons_append, List.append_assoc, List.singleton_append, hlength]
    exact FileItem.ofLines_cons_inside (by rw [hopened]; decide) (by rwa [hopened])
      (by rwa [hopened]) n rest

/-- Apart from an entry, the outline of a file depends on how many lines the entry has, and on
nothing else about it. -/
theorem Outline.ofSource_without {source : Text} {front entry back : List Text}
    (hlines : source.lines = front ++ entry ++ back) (hfront : Level.top.after front = .top)
    (hentry : IsEntry entry) :
    (ofSource source).without (front.length + 1) =
      (FileItem.ofLines (front.length + 1 + entry.length) back).foldl add
        { ((FileItem.ofLines 1 front).foldl add empty).without (front.length + 1) with
          priority := 0
          context := none } := by
  obtain ⟨item, hitem, hread⟩ := hentry.ofLines_append (front.length + 1) back
  -- The items behind have larger lines, so that none of them is taken for the entry.
  have hbehind : ∀ item ∈ FileItem.ofLines (front.length + 1 + entry.length) back,
      item.headerLine? ≠ some (front.length + 1) := by
    intro item hmem hheader
    have hle := FileItem.le_of_mem_ofLines hmem hheader
    obtain ⟨header, inside, last, rfl, -⟩ := hentry
    rw [List.length_cons] at hle
    omega
  rw [ofSource, hlines, List.append_assoc, FileItem.ofLines_append hfront, Nat.add_comm 1, hread,
    List.foldl_append, List.foldl_cons, without_foldl hbehind, without_add_of_eq hitem]

/-! ### Compiled files without a template -/

/-- What a file compiles to, apart from the template with its header at a line. -/
def CompiledFile.without (k : Nat) (file : CompiledFile) : CompiledFile :=
  ⟨file.templates.filter (·.line != k), file.errors.filter (!·.isAbout k)⟩

section Compile

variable {Preamble : Type} {patterns : Pattern.Compiler} {evaluator : Evaluator Preamble}
  {preamble : Preamble}

theorem isPreamble_of_mem_compileCode {o : Outline} {x : CompileError}
    (h : x ∈ (compileCode evaluator o).2) : x.isPreamble = true := by
  rw [compileCode] at h
  split at h
  · cases h
  · obtain rfl := List.mem_singleton.mp h
    rfl

theorem compileTrigger_eq_error {n : Nat} {source : TriggerSource} {x : CompileError}
    (h : compileTrigger patterns n source = .error x) : x.line = n ∧ x.isPreamble = false := by
  cases source with
  | literal text => cases h
  | pattern source =>
    rw [compileTrigger] at h
    split at h
    · cases h
    · cases h
      exact ⟨rfl, rfl⟩

/-- An entry gives a template, which has its filter from the context of the entry, or an error about
that template. -/
theorem compileEntry_cases (patterns : Pattern.Compiler) (evaluator : Evaluator Preamble)
    (preamble : Preamble) (e : Entry) :
    (∃ t, compileEntry patterns evaluator preamble e = .ok t ∧ t.line = e.line ∧
      t.priority = e.priority ∧
      compileContext evaluator preamble e.context = .ok t.contextFilter) ∨
    ∃ x, compileEntry patterns evaluator preamble e = .error x ∧ x.line = e.line ∧
      x.isPreamble = false := by
  rw [compileEntry]
  cases htrigger : compileTrigger patterns e.line e.header.trigger with
  | error x => exact .inr ⟨x, rfl, compileTrigger_eq_error htrigger⟩
  | ok trigger =>
    cases compileContext evaluator preamble e.context with
    | error x => exact .inr ⟨_, rfl, rfl, rfl⟩
    | ok filter =>
      cases evaluator.compileBlocks preamble e.body.spans with
      | error x => exact .inr ⟨_, rfl, rfl, rfl⟩
      | ok program => exact .inl ⟨_, rfl, rfl, rfl, rfl⟩

/-- A template or an error that comes from an entry belongs to the line of the entry. -/
theorem partitionResults_without (patterns : Pattern.Compiler) (evaluator : Evaluator Preamble)
    (k : Nat) (preamble : Preamble) (entries : List Entry) :
    let results := entries.map (compileEntry patterns evaluator preamble)
    partitionResults
        ((entries.filter (·.line != k)).map (compileEntry patterns evaluator preamble)) =
      ((partitionResults results).1.filter (·.line != k),
        (partitionResults results).2.filter (!·.isAbout k)) := by
  dsimp only
  induction entries with
  | nil => rfl
  | cons e entries ih =>
    rw [Prod.ext_iff] at ih ⊢
    rcases compileEntry_cases patterns evaluator preamble e with
      ⟨t, hresult, hline, -⟩ | ⟨x, hresult, hline, hx⟩
    · by_cases hk : e.line = k <;> simpa [partitionResults, hresult, hline, hk] using ih
    · by_cases hk : e.line = k <;>
        simpa [partitionResults, CompileError.isAbout, hresult, hline, hx, hk] using ih

/-- Apart from a template, an outline compiles to what the rest of it compiles to. -/
theorem Outline.compile_without (k : Nat) (patterns : Pattern.Compiler)
    (evaluator : Evaluator Preamble) (o : Outline) :
    (o.compile patterns evaluator).without k = (o.without k).compile patterns evaluator := by
  have hcode : (compileCode evaluator o).2.filter (!·.isAbout k) = (compileCode evaluator o).2 := by
    refine List.filter_eq_self.mpr fun x hx => ?_
    rw [CompileError.isAbout, isPreamble_of_mem_compileCode hx]
    rfl
  -- The code is that of the sections alone, which stay.
  have hsame : compileCode evaluator (o.without k) = compileCode evaluator o := rfl
  rw [compile, compile, hsame]
  rcases hcompile : compileCode evaluator o with ⟨e | preamble, codeErrors⟩
  · have horphans : (o.entries.map (orphanError e)).filter (!·.isAbout k) =
        (o.without k).entries.map (orphanError e) := List.filter_map
    rw [hcompile] at hcode
    simp only [CompiledFile.without, ← sortErrors_filter, List.filter_append, hcode, horphans]
    rfl
  · have hresults := partitionResults_without patterns evaluator k preamble o.entries
    rw [hcompile] at hcode
    simp only [CompiledFile.without, ← sortErrors_filter, List.filter_append, hcode]
    simp only [without, hresults]

/-- **Entries are isolated.** Two files that differ in one entry, where both entries have as many
lines, compile to the same templates and errors apart from those of the entry. -/
theorem compileBy_without (patterns : Pattern.Compiler) (evaluator : Evaluator Preamble)
    {source₁ source₂ : Text} {front entry₁ entry₂ back : List Text}
    (hlines₁ : source₁.lines = front ++ entry₁ ++ back)
    (hlines₂ : source₂.lines = front ++ entry₂ ++ back) (hfront : Level.top.after front = .top)
    (hentry₁ : IsEntry entry₁) (hentry₂ : IsEntry entry₂)
    (hlength : entry₁.length = entry₂.length) :
    (compileBy patterns evaluator source₁).without (front.length + 1) =
      (compileBy patterns evaluator source₂).without (front.length + 1) := by
  rw [compileBy, compileBy, Outline.compile_without, Outline.compile_without,
    Outline.ofSource_without hlines₁ hfront hentry₁,
    Outline.ofSource_without hlines₂ hfront hentry₂, hlength]

/-- A header without a trigger or a code span that is not closed makes no difference to the other
template, which both files have. -/
theorem compileWith_without_malformed :
    let first := compileWith scriptEvaluator
      "priority 2\nsnippet\ntext\nendsnippet\nsnippet b\nendsnippet".toList
    let second := compileWith scriptEvaluator
      "priority 2\nsnippet a\n\x60\x60t\nendsnippet\nsnippet b\nendsnippet".toList
    first.without 2 = second.without 2 ∧
      (second.without 2).templates.map (fun t => (t.line, t.name)) = [(5, ['b'])] ∧
      (second.without 2).errors = [] := by
  intro first second
  have hentry₁ : IsEntry ["snippet".toList, "text".toList, "endsnippet".toList] :=
    ⟨_, ["text".toList], _, rfl, by decide, by decide, by decide⟩
  have hentry₂ : IsEntry ["snippet a".toList, "\x60\x60t".toList, "endsnippet".toList] :=
    ⟨_, ["\x60\x60t".toList], _, rfl, by decide, by decide, by decide⟩
  have hfront : Level.top.after ["priority 2".toList] = .top := by decide
  let back := ["snippet b".toList, "endsnippet".toList]
  have hsame : first.without 2 = second.without 2 :=
    compileBy_without Pattern.TextPattern.compile? scriptEvaluator (by decide : _ = _ ++ _ ++ back)
      (by decide : _ = _ ++ _ ++ back) hfront hentry₁ hentry₂ rfl
  exact ⟨hsame, by decide +kernel, by decide +kernel⟩

end Compile

end LiveSnippet
