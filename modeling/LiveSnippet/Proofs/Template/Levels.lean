import LiveSnippet.Template.File
import Mathlib.Data.List.Forall2

/-!
# The levels of a template file

Each line of a template file stands at the top level, in a section of code or in a template. Where
it stands depends on the lines in front of it alone: a section goes from its first line to the next
line that closes one, and a template from its header, well-formed or not, to the next terminator,
whatever the lines between them are. The items of a file are read at its top lines, one at each, and
what is read in front of a line at the top level does not depend on that line or on those behind it.

## Main definitions

* `Level`, `Level.after`: where a line stands behind other lines
* `topLines`: the lines at the top level, with their numbers

## Main results

* `FileItem.forall₂_ofLines`: there is one item for each line at the top level
* `FileItem.ofLines_append`: the items of lines one behind the other
-/

namespace LiveSnippet

/-! ### Lines and their first characters -/

variable {line : Text}

theorem head?_of_isPrefixOf? {c : Char} {word rest : Text}
    (h : (c :: word).isPrefixOf? line = some rest) : line.head? = some c := by
  cases line with
  | nil => cases h
  | cons d line =>
    rw [List.isPrefixOf?] at h
    split_ifs at h with hcd
    rw [List.head?_cons, eq_of_beq hcd]

theorem Text.trimEnd_prefix (text : Text) : text.trimEnd <+: text := by
  rw [trimEnd, ← List.reverse_suffix, List.reverse_reverse]
  exact List.dropWhile_suffix _

theorem head?_of_opensGlobal (h : FileItem.opensGlobal line = true) : line.head? = some 'g' := by
  have hprefix := Text.trimEnd_prefix line
  rw [eq_of_beq h] at hprefix
  obtain ⟨rest, rfl⟩ := hprefix
  rfl

theorem head?_of_isHeader (h : Header.isHeader line = true) : line.head? = some 's' := by
  rw [Header.isHeader] at h
  split at h
  · rename_i rest hrest
    exact head?_of_isPrefixOf? hrest
  · cases h

theorem opensGlobal_eq_false (h : Header.isHeader line = true) :
    FileItem.opensGlobal line = false := by
  by_contra hglobal
  rw [Bool.not_eq_false] at hglobal
  exact absurd ((head?_of_isHeader h).symm.trans (head?_of_opensGlobal hglobal)) (by decide)

theorem isHeader_eq_false {c : Char} (h : line.head? = some c) (hc : c ≠ 's') :
    Header.isHeader line = false := by
  cases hheader : Header.isHeader line with
  | false => rfl
  | true => exact absurd (Option.some.inj (h.symm.trans (head?_of_isHeader hheader))) hc

theorem isPrefixOf?_eq_none {c d : Char} {word : Text} (h : line.head? = some c) (hc : c ≠ d) :
    (d :: word).isPrefixOf? line = none := by
  cases hprefix : (d :: word).isPrefixOf? line with
  | none => rfl
  | some rest => exact absurd (Option.some.inj (h.symm.trans (head?_of_isPrefixOf? hprefix))) hc

/-! ### Levels -/

/-- Where a line of a template file stands. -/
inductive Level
  | top
  /-- In a section of code, behind its first line. -/
  | code
  /-- In a template, behind its header. -/
  | body
deriving DecidableEq, Repr

namespace Level

/-- Whether a line that stands in a section or in a template is its last one. -/
def ends : Level → Text → Bool
  | top, _ => false
  | code, line => FileItem.closesGlobal line
  | body, line => Body.isTerminator line

/-- The level behind a line at the top level. -/
def opened (line : Text) : Level :=
  if line.head? = some '#' then top
  else if FileItem.opensGlobal line then code
  else if Header.isHeader line then body
  else top

/-- The level behind a line. -/
def next : Level → Text → Level
  | top, line => opened line
  | code, line => if code.ends line then top else code
  | body, line => if body.ends line then top else body

/-- The level behind some lines. -/
def after (level : Level) (lines : List Text) : Level := lines.foldl next level

/-- The lines behind the section or the template in which the lines begin. -/
def behind : Level → List Text → List Text
  | top, lines => lines
  | code, lines => (lines.dropWhile (!code.ends ·)).tail
  | body, lines => (lines.dropWhile (!body.ends ·)).tail

variable {level : Level} {inside lines rest : List Text}

theorem opened_of_isHeader (h : Header.isHeader line = true) : opened line = body := by
  rw [opened, head?_of_isHeader h, if_neg (by decide), opensGlobal_eq_false h,
    if_neg Bool.false_ne_true, if_pos h]

theorem opened_of_opensGlobal (h : FileItem.opensGlobal line = true) : opened line = code := by
  rw [opened, head?_of_opensGlobal h, if_neg (by decide), if_pos h]

theorem isHeader_of_opened_eq_top (h : opened line = top) : Header.isHeader line = false := by
  by_contra hheader
  rw [Bool.not_eq_false] at hheader
  exact absurd (h.symm.trans (opened_of_isHeader hheader)) (by decide)

theorem opensGlobal_of_opened_eq_top (h : opened line = top) :
    FileItem.opensGlobal line = false := by
  by_contra hglobal
  rw [Bool.not_eq_false] at hglobal
  exact absurd (h.symm.trans (opened_of_opensGlobal hglobal)) (by decide)

/-- A line opens a section, is a header, or leaves the file at its top level. -/
theorem opensGlobal_or_isHeader_or (line : Text) :
    FileItem.opensGlobal line = true ∨ Header.isHeader line = true ∨ opened line = top := by
  by_cases hglobal : FileItem.opensGlobal line = true
  · exact .inl hglobal
  · by_cases hheader : Header.isHeader line = true
    · exact .inr (.inl hheader)
    · refine .inr (.inr ?_)
      rw [opened, if_neg hglobal, if_neg hheader, ite_self]

theorem next_of_ne_top (h : level ≠ top) (line : Text) :
    level.next line = if level.ends line then top else level := by
  cases level with
  | top => exact absurd rfl h
  | code | body => rfl

theorem behind_of_ne_top (h : level ≠ top) (lines : List Text) :
    level.behind lines = (lines.dropWhile (!level.ends ·)).tail := by
  cases level with
  | top => exact absurd rfl h
  | code | body => rfl

theorem behind_cons (h : level ≠ top) (line : Text) (lines : List Text) :
    level.behind (line :: lines) = (level.next line).behind lines := by
  rw [behind_of_ne_top h, next_of_ne_top h, List.dropWhile_cons]
  cases hends : level.ends line with
  | true => rfl
  | false => exact (behind_of_ne_top h lines).symm

theorem length_behind_le (level : Level) (lines : List Text) :
    (level.behind lines).length ≤ lines.length := by
  cases level with
  | top => exact Nat.le_refl _
  | code | body => exact FileItem.length_tail_dropWhile_le _ lines

/-- Lines behind which the top level is reached again end the section or template in which they
begin. -/
theorem exists_of_after_eq_top (h : level ≠ top) (hafter : level.after lines = top) :
    ∃ inside last rest, lines = inside ++ last :: rest ∧
      (∀ line ∈ inside, level.ends line = false) ∧ level.ends last = true ∧
        top.after rest = top := by
  induction lines with
  | nil => exact absurd hafter h
  | cons line lines ih =>
    rw [after, List.foldl_cons, next_of_ne_top h] at hafter
    cases hends : level.ends line with
    | true =>
      rw [hends] at hafter
      exact ⟨[], line, lines, rfl, List.forall_mem_nil _, hends, hafter⟩
    | false =>
      rw [hends] at hafter
      obtain ⟨inside, last, rest, rfl, hinside, hlast, hrest⟩ := ih hafter
      exact ⟨line :: inside, last, rest, rfl, List.forall_mem_cons.mpr ⟨hends, hinside⟩, hlast,
        hrest⟩

theorem dropWhile_inside {last : Text} (hinside : ∀ line ∈ inside, level.ends line = false)
    (hlast : level.ends last = true) (rest : List Text) :
    (inside ++ last :: rest).dropWhile (!level.ends ·) = last :: rest := by
  rw [List.dropWhile_append_of_pos fun line hline => by rw [hinside line hline]; rfl,
    List.dropWhile_cons_of_neg (by rw [hlast]; exact Bool.false_ne_true)]

theorem takeWhile_inside {last : Text} (hinside : ∀ line ∈ inside, level.ends line = false)
    (hlast : level.ends last = true) (rest : List Text) :
    (inside ++ last :: rest).takeWhile (!level.ends ·) = inside := by
  rw [List.takeWhile_append_of_pos fun line hline => by rw [hinside line hline]; rfl,
    List.takeWhile_cons_of_neg (by rw [hlast]; exact Bool.false_ne_true), List.append_nil]

theorem behind_inside {last : Text} (h : level ≠ top)
    (hinside : ∀ line ∈ inside, level.ends line = false) (hlast : level.ends last = true)
    (rest : List Text) : level.behind (inside ++ last :: rest) = rest := by
  rw [behind_of_ne_top h, dropWhile_inside hinside hlast, List.tail_cons]

end Level

/-- The lines at the top level with their numbers, the first of which is that of the first line. -/
def topLinesFrom : Level → Nat → List Text → List (Nat × Text)
  | _, _, [] => []
  | .top, n, line :: rest => (n, line) :: topLinesFrom (Level.top.next line) (n + 1) rest
  | level, n, line :: rest => topLinesFrom (level.next line) (n + 1) rest

/-- The lines of a file that stand at its top level, with their numbers. -/
def topLines (lines : List Text) : List (Nat × Text) := topLinesFrom .top 1 lines

theorem topLinesFrom_cons_of_ne_top {level : Level} (h : level ≠ .top) (n : Nat) (line : Text)
    (rest : List Text) :
    topLinesFrom level n (line :: rest) = topLinesFrom (level.next line) (n + 1) rest := by
  cases level with
  | top => exact absurd rfl h
  | code | body => rfl

/-- No line of a section or of a template stands at the top level. -/
theorem topLinesFrom_behind (level : Level) (n : Nat) (lines : List Text) :
    topLinesFrom level n lines =
      topLinesFrom .top (n + (lines.length - (level.behind lines).length))
        (level.behind lines) := by
  induction lines generalizing level n with
  | nil => cases level <;> rfl
  | cons line rest ih =>
    by_cases h : level = .top
    · subst h
      simp only [Level.behind, Nat.sub_self, Nat.add_zero]
    · have hle := (level.next line).length_behind_le rest
      have hnumber : n + 1 + (rest.length - ((level.next line).behind rest).length) =
          n + (rest.length + 1 - ((level.next line).behind rest).length) := by omega
      rw [topLinesFrom_cons_of_ne_top h, ih, Level.behind_cons h, List.length_cons, hnumber]

theorem le_of_mem_topLinesFrom {level : Level} {n : Nat} {lines : List Text} {l : Nat × Text}
    (h : l ∈ topLinesFrom level n lines) : n ≤ l.1 := by
  induction lines generalizing level n with
  | nil => cases h
  | cons line rest ih =>
    by_cases hlevel : level = .top
    · subst hlevel
      rcases List.mem_cons.mp h with rfl | h
      · exact Nat.le_refl _
      · exact Nat.le_of_succ_le (ih h)
    · rw [topLinesFrom_cons_of_ne_top hlevel] at h
      exact Nat.le_of_succ_le (ih h)

/-- Lines further down have larger numbers. -/
theorem pairwise_topLinesFrom (level : Level) (n : Nat) (lines : List Text) :
    (topLinesFrom level n lines).Pairwise fun a b => a.1 < b.1 := by
  induction lines generalizing level n with
  | nil => exact List.Pairwise.nil
  | cons line rest ih =>
    by_cases hlevel : level = .top
    · subst hlevel
      exact List.pairwise_cons.mpr ⟨fun l hl => le_of_mem_topLinesFrom hl, ih _ _⟩
    · rw [topLinesFrom_cons_of_ne_top hlevel]
      exact ih _ _

/-! ### Items -/

theorem Body.parse_snd (lines : List Text) : (Body.parse lines).2 = Level.body.behind lines := by
  have hfrom : ∀ d : Body.Draft, (Body.parseFrom d lines).2 = Level.body.behind lines := by
    induction lines with
    | nil => exact fun _ => rfl
    | cons line rest ih =>
      intro d
      rw [Body.parseFrom, Level.behind_cons (by decide : Level.body ≠ .top), Level.next, Level.ends]
      cases Body.isTerminator line with
      | true => rfl
      | false => exact ih _
  exact hfrom _

/-- A body does not depend on the lines behind its terminator. -/
theorem Body.parse_fst {inside : List Text} {last : Text}
    (hinside : ∀ line ∈ inside, Body.isTerminator line = false)
    (hlast : Body.isTerminator last = true) (rest : List Text) :
    (Body.parse (inside ++ last :: rest)).1 = (Body.parse (inside ++ [last])).1 := by
  have hfrom : ∀ d : Body.Draft, (Body.parseFrom d (inside ++ last :: rest)).1 =
      (Body.parseFrom d (inside ++ [last])).1 := by
    induction inside with
    | nil =>
      intro d
      rw [List.nil_append, List.nil_append, Body.parseFrom, Body.parseFrom, if_pos hlast,
        if_pos hlast]
    | cons line inside ih =>
      intro d
      obtain ⟨hline, hinside⟩ := List.forall_mem_cons.mp hinside
      rw [List.cons_append, List.cons_append, Body.parseFrom, Body.parseFrom, hline,
        if_neg Bool.false_ne_true, if_neg Bool.false_ne_true]
      exact ih hinside _
  exact hfrom _

namespace FileItem

variable {n : Nat} {inside rest : List Text}

theorem read_of_isHeader (h : Header.isHeader line = true) (n : Nat) (rest : List Text) :
    read n line rest =
      match Header.parse? line with
      | none => (badHeader n line.trimEnd, Level.body.behind rest)
      | some header => (entry n header (Body.parse rest).1, Level.body.behind rest) := by
  have hhead := head?_of_isHeader h
  have hpriority : "priority ".toList.isPrefixOf? line = none :=
    isPrefixOf?_eq_none hhead (by decide)
  have hcontext : "context ".toList.isPrefixOf? line = none :=
    isPrefixOf?_eq_none hhead (by decide)
  rw [read, hhead, if_neg (by decide), opensGlobal_eq_false h, if_neg Bool.false_ne_true]
  simp only [hpriority, hcontext, h, if_true, Body.parse_snd]
  rfl

theorem read_of_opensGlobal (h : opensGlobal line = true) (n : Nat) (rest : List Text) :
    read n line rest =
      (globalSection n (rest.takeWhile (!closesGlobal ·))
        (!(rest.dropWhile (!closesGlobal ·)).isEmpty), Level.code.behind rest) := by
  rw [read, head?_of_opensGlobal h, if_neg (by decide), if_pos h]
  rfl

/-- A line that leaves the file at its top level is read alone. -/
theorem read_of_opened_eq_top (h : Level.opened line = .top) (n : Nat) (rest : List Text) :
    read n line rest = ((read 0 line []).1, rest) := by
  have hheader : Header.isHeader line = false := Level.isHeader_of_opened_eq_top h
  have hglobal : opensGlobal line = false := Level.opensGlobal_of_opened_eq_top h
  rw [read, read, hheader, hglobal]
  simp only [Bool.false_eq_true, if_false]
  split_ifs
  · rfl
  · cases "priority ".toList.isPrefixOf? line with
    | some value => rfl
    | none => cases "context ".toList.isPrefixOf? line <;> rfl

theorem read_snd (n : Nat) (line : Text) (rest : List Text) :
    (read n line rest).2 = (Level.opened line).behind rest := by
  rcases Level.opensGlobal_or_isHeader_or line with h | h | h
  · rw [read_of_opensGlobal h, Level.opened_of_opensGlobal h]
  · rw [read_of_isHeader h, Level.opened_of_isHeader h]
    cases Header.parse? line <;> rfl
  · rw [read_of_opened_eq_top h, h, Level.behind]

/-- An item does not depend on the lines behind the section or the template that it is. -/
theorem read_inside {last : Text} (h : Level.opened line ≠ .top)
    (hinside : ∀ l ∈ inside, (Level.opened line).ends l = false)
    (hlast : (Level.opened line).ends last = true) (n : Nat) (rest : List Text) :
    read n line (inside ++ last :: rest) = ((read n line (inside ++ [last])).1, rest) := by
  refine Prod.ext ?_ (by rw [read_snd, Level.behind_inside h hinside hlast])
  rcases Level.opensGlobal_or_isHeader_or line with hline | hline | hline
  · rw [Level.opened_of_opensGlobal hline] at hinside hlast
    rw [read_of_opensGlobal hline, read_of_opensGlobal hline]
    have htake : ∀ rest, (inside ++ last :: rest).takeWhile (!closesGlobal ·) = inside :=
      Level.takeWhile_inside hinside hlast
    have hdrop : ∀ rest, (inside ++ last :: rest).dropWhile (!closesGlobal ·) = last :: rest :=
      Level.dropWhile_inside hinside hlast
    simp only [htake, hdrop, List.isEmpty_cons]
  · rw [Level.opened_of_isHeader hline] at hinside hlast
    rw [read_of_isHeader hline, read_of_isHeader hline, Body.parse_fst hinside hlast]
    cases Header.parse? line <;> rfl
  · exact absurd hline h

/-- There is one item for each line at the top level, which is read there. -/
theorem forall₂_ofLines (n : Nat) (lines : List Text) :
    List.Forall₂ (fun item l => ∃ rest, item = (read l.1 l.2 rest).1) (ofLines n lines)
      (topLinesFrom .top n lines) := by
  induction n, lines using ofLines.induct with
  | case1 n =>
    rw [ofLines]
    exact .nil
  | case2 n line rest ih =>
    rw [ofLines]
    refine .cons ⟨rest, rfl⟩ ?_
    rw [read_snd] at ih
    rw [read_snd, Level.next, topLinesFrom_behind]
    exact ih

theorem ofLines_cons_of_opened_eq_top (h : Level.opened line = .top) (n : Nat) (rest : List Text) :
    ofLines n (line :: rest) = (read n line []).1 :: ofLines (n + 1) rest := by
  rw [ofLines, read_of_opened_eq_top h n rest, read_of_opened_eq_top h n [], Nat.sub_self,
    Nat.add_zero]

theorem ofLines_cons_inside {last : Text} (h : Level.opened line ≠ .top)
    (hinside : ∀ l ∈ inside, (Level.opened line).ends l = false)
    (hlast : (Level.opened line).ends last = true) (n : Nat) (rest : List Text) :
    ofLines n (line :: (inside ++ last :: rest)) =
      (read n line (inside ++ [last])).1 :: ofLines (n + (inside.length + 2)) rest := by
  have hnumber : n + 1 + ((inside ++ last :: rest).length - rest.length) =
      n + (inside.length + 2) := by
    rw [List.length_append, List.length_cons]
    omega
  rw [ofLines, read_inside h hinside hlast, hnumber]

/-- **Items one behind the other.** In front of a line at the top level, the items are read as if
nothing came behind. -/
theorem ofLines_append {front : List Text} (h : Level.top.after front = .top) (n : Nat)
    (rest : List Text) :
    ofLines n (front ++ rest) = ofLines n front ++ ofLines (n + front.length) rest := by
  -- By induction on the lines in front, one section or template at a time.
  induction hlength : front.length using Nat.strongRecOn generalizing n front with
  | ind length ih =>
    subst hlength
    cases front with
    | nil =>
      rw [ofLines]
      rfl
    | cons line lines =>
      rw [Level.after, List.foldl_cons] at h
      by_cases hline : Level.opened line = .top
      · rw [Level.next, hline] at h
        rw [List.cons_append, ofLines_cons_of_opened_eq_top hline,
          ofLines_cons_of_opened_eq_top hline, ih lines.length (Nat.lt_succ_self _) h _ rfl,
          List.cons_append, List.length_cons, Nat.add_assoc, Nat.add_comm 1]
      · obtain ⟨inside, last, lines', rfl, hinside, hlast, hafter⟩ :=
          Level.exists_of_after_eq_top hline h
        have hlt : lines'.length < (line :: (inside ++ last :: lines')).length := by
          rw [List.length_cons, List.length_append, List.length_cons]
          omega
        have hnumber : n + (inside.length + 2) + lines'.length =
            n + (line :: (inside ++ last :: lines')).length := by
          rw [List.length_cons, List.length_append, List.length_cons]
          omega
        rw [List.cons_append, List.append_assoc, List.cons_append,
          ofLines_cons_inside hline hinside hlast, ofLines_cons_inside hline hinside hlast,
          ih _ hlt hafter _ rfl, hnumber, List.cons_append]

end FileItem

end LiveSnippet
