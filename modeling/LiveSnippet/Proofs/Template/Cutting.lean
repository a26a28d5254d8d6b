import LiveSnippet.Proofs.Template.Levels
import Mathlib.Data.List.DropRight
import Mathlib.Data.List.TakeWhile

/-!
# The pieces of a line

A line of a template body is cut at its runs of exactly two backticks. Joined by two backticks the
pieces give the line back, and pieces are found again in the line that they give just if they stay
apart: none holds a delimiter, none touches one with a backtick of its own, and no two delimiters
come together.

The pieces are literal text and code by turns, and code is trimmed. A line is in normal form if each
of its pieces of code is set off by one blank. Bringing a line into normal form keeps the places
where it is cut, adds nothing but blanks, and makes no line a terminator.

## Main definitions

* `Body.Separated`: pieces that stay apart
* `Body.normal`: a line in normal form

## Main results

* `Body.intercalate_cut`, `Body.cut_intercalate`: cutting and joining
* `Body.cut_normal`: the pieces of a line in normal form
* `Body.isTerminator_normal`: a line in normal form ends no body unless it did before
-/

namespace LiveSnippet

/-! ### Blanks -/

namespace Text

theorem trimEnd_append_space (t : Text) : trimEnd (t ++ [' ']) = t.trimEnd := by
  rw [trimEnd, List.reverse_append]
  rfl

theorem trim_cons_space (t : Text) : trim (' ' :: t) = t.trim := rfl

theorem trim_append_space (t : Text) : trim (t ++ [' ']) = t.trim := by
  rw [trim, trim, trimStart, trimStart, List.dropWhile_append]
  split_ifs with h
  · rw [List.isEmpty_iff.mp h]
    rfl
  · exact trimEnd_append_space _

/-- Blanks at the front are not taken off by trimming the end, unless there is nothing else. -/
theorem trimStart_trimEnd {t : Text} (h : t.trimStart = t) : t.trimEnd.trimStart = t.trimEnd := by
  cases t with
  | nil => rfl
  | cons c t =>
    have hc : Unicode.isWhiteSpace c = false := by
      by_contra hc
      rw [Bool.not_eq_false] at hc
      rw [trimStart, List.dropWhile_cons_of_pos hc] at h
      have hle := (List.dropWhile_suffix Unicode.isWhiteSpace (l := t)).length_le
      rw [h, List.length_cons] at hle
      omega
    rw [trimEnd, List.reverse_cons, List.dropWhile_append]
    split_ifs
    · rw [List.dropWhile_cons_of_neg (by simp [hc])]
      exact List.dropWhile_cons_of_neg (by simp [hc])
    · rw [List.reverse_append]
      exact List.dropWhile_cons_of_neg (by simp [hc])

theorem trim_trim (t : Text) : t.trim.trim = t.trim := by
  have hstart : t.trimStart.trimStart = t.trimStart := List.dropWhile_idempotent _ _
  have hend : t.trimStart.trimEnd.trimEnd = t.trimStart.trimEnd := by
    rw [trimEnd, trimEnd, List.reverse_reverse, List.dropWhile_idempotent]
  rw [trim, trim, trimStart_trimEnd hstart, hend]

end Text

namespace Body

/-- Two backticks. -/
def delimiter : Text := ['\x60', '\x60']

/-! ### Cutting -/

variable {t piece p q : Text} {pieces : List Text} {c : Char} {ticks : Nat}

/-- The piece that has been begun is the front of the first piece. -/
theorem cutFrom_eq (piece : Text) (ticks : Nat) (t : Text) :
    cutFrom piece ticks t = (cutFrom [] ticks t).modifyHead (piece.reverse ++ ·) := by
  induction t generalizing piece ticks with
  | nil => by_cases h : ticks = 2 <;> simp [cutFrom, h]
  | cons c t ih =>
    rw [cutFrom, cutFrom]
    split_ifs
    · exact ih piece (ticks + 1)
    · simp
    · rw [ih, ih (c :: (List.replicate ticks '\x60' ++ [])), List.modifyHead_modifyHead]
      simp [Function.comp_def]

theorem exists_cutFrom_eq (piece : Text) (ticks : Nat) (t : Text) :
    ∃ q rest, cutFrom piece ticks t = q :: rest := by
  induction t generalizing piece ticks with
  | nil => by_cases h : ticks = 2 <;> simp [cutFrom, h]
  | cons c t ih =>
    rw [cutFrom]
    split_ifs
    · exact ih piece (ticks + 1)
    · exact ⟨_, _, rfl⟩
    · exact ih _ 0

theorem cutFrom_replicate (piece : Text) (n ticks : Nat) (t : Text) :
    cutFrom piece ticks (List.replicate n '\x60' ++ t) = cutFrom piece (ticks + n) t := by
  induction n generalizing ticks with
  | zero => rfl
  | succ n ih =>
    rw [List.replicate_succ, List.cons_append, cutFrom, if_pos rfl, ih, Nat.add_right_comm,
      Nat.add_assoc]

theorem cut_cons (hc : c ≠ '\x60') (t : Text) : cut (c :: t) = (cut t).modifyHead (c :: ·) := by
  rw [cut, cutFrom, if_neg hc, if_neg (by decide), cutFrom_eq]
  rfl

/-- Backticks that are no delimiter belong to the piece in front of them. -/
theorem cutFrom_cons (hc : c ≠ '\x60') (hticks : ticks ≠ 2) (t : Text) :
    cutFrom [] ticks (c :: t) =
      (cut t).modifyHead ((List.replicate ticks '\x60' ++ [c]) ++ ·) := by
  rw [cutFrom, if_neg hc, if_neg hticks, cutFrom_eq]
  simp [cut]

/-- The line holds no delimiter. -/
def Plain (t : Text) : Prop := cut t = [t]

theorem plain_cons_iff (hc : c ≠ '\x60') : Plain (c :: t) ↔ Plain t := by
  obtain ⟨q, rest, hcut⟩ := exists_cutFrom_eq [] 0 t
  rw [Plain, Plain, cut_cons hc, cut, hcut]
  simp

theorem cutFrom_append_singleton (hc : c ≠ '\x60') (piece : Text) (ticks : Nat) (t : Text) :
    ∃ front last, cutFrom piece ticks t = front ++ [last] ∧
      cutFrom piece ticks (t ++ [c]) = front ++ [last ++ [c]] := by
  induction t generalizing piece ticks with
  | nil =>
    by_cases h : ticks = 2
    · exact ⟨[piece.reverse], [], by simp [cutFrom, h], by simp [cutFrom, h, hc]⟩
    · exact ⟨[], (List.replicate ticks '\x60' ++ piece).reverse, by simp [cutFrom, h],
        by simp [cutFrom, h, hc]⟩
  | cons d t ih =>
    rw [List.cons_append, cutFrom, cutFrom]
    split_ifs
    · exact ih piece (ticks + 1)
    · obtain ⟨front, last, hfront, hlast⟩ := ih [d] 0
      exact ⟨piece.reverse :: front, last, by rw [hfront, List.cons_append],
        by rw [hlast, List.cons_append]⟩
    · exact ih _ 0

theorem plain_append_singleton_iff (hc : c ≠ '\x60') : Plain (t ++ [c]) ↔ Plain t := by
  obtain ⟨front, last, hfront, hlast⟩ := cutFrom_append_singleton hc [] 0 t
  rw [Plain, Plain, cut, cut, hfront, hlast]
  cases front <;> simp

theorem ne_tick_of_isWhiteSpace (h : Unicode.isWhiteSpace c = true) : c ≠ '\x60' := by
  rintro rfl
  revert h
  decide

/-- Trimming a text brings in no delimiter. -/
theorem Plain.trim (h : Plain t) : Plain t.trim := by
  have hstart : Plain t.trimStart := by
    induction t with
    | nil => exact h
    | cons c t ih =>
      rw [Text.trimStart, List.dropWhile_cons]
      split_ifs with hc
      · exact ih ((plain_cons_iff (ne_tick_of_isWhiteSpace hc)).mp h)
      · exact h
  rw [Text.trim]
  generalize t.trimStart = s at hstart
  induction s using List.reverseRecOn with
  | nil => exact hstart
  | append_singleton s c ih =>
    rw [Text.trimEnd, List.reverse_append, List.reverse_singleton, List.singleton_append,
      List.dropWhile_cons]
    split_ifs with hc
    · exact ih ((plain_append_singleton_iff (ne_tick_of_isWhiteSpace hc)).mp hstart)
    · rwa [List.reverse_cons, List.reverse_reverse]

/-- The pieces stay apart when delimiters are put between them: no piece holds a delimiter, none
ends or begins with a backtick at a delimiter, and no two delimiters come together. -/
def Separated : List Text → Prop
  | [] => False
  | [p] => Plain p
  | p :: q :: rest =>
    Plain p ∧ p.getLast? ≠ some '\x60' ∧ q.head? ≠ some '\x60' ∧ (q = [] → rest = []) ∧
      Separated (q :: rest)

/-- A front that holds no delimiter, and does not end with a backtick, may be put before the first
piece. -/
theorem Separated.modifyHead {front : Text} (hlast : front.getLast? ≠ some '\x60')
    (hplain : ∀ p, Plain p → Plain (front ++ p)) (h : Separated pieces) :
    Separated (pieces.modifyHead (front ++ ·)) := by
  cases pieces with
  | nil => exact h
  | cons p pieces =>
    cases pieces with
    | nil => exact hplain p h
    | cons q rest =>
      obtain ⟨hp, hend, hrest⟩ := h
      refine ⟨hplain p hp, ?_, hrest⟩
      rw [List.getLast?_append]
      cases hp : p.getLast? with
      | none => exact hlast
      | some d => rwa [hp] at hend

/-- The pieces of a line stay apart. -/
theorem separated_cutFrom (ticks : Nat) (t : Text) : Separated (cutFrom [] ticks t) := by
  induction t generalizing ticks with
  | nil =>
    rw [cutFrom]
    split_ifs with hticks
    · exact ⟨rfl, by simp, by simp, fun _ => rfl, rfl⟩
    · have hcut := cutFrom_replicate [] ticks 0 []
      rw [List.append_nil, Nat.zero_add, cutFrom, if_neg hticks] at hcut
      simpa [Separated, Plain, cut] using hcut
  | cons c t ih =>
    by_cases hc : c = '\x60'
    · rw [cutFrom, if_pos hc]
      exact ih (ticks + 1)
    by_cases hticks : ticks = 2
    · obtain ⟨q, rest, hcut⟩ := exists_cutFrom_eq [] 0 t
      have hlast : [c].getLast? ≠ some '\x60' := by simpa using hc
      have hrest := (ih 0).modifyHead hlast fun p hp => (plain_cons_iff hc).mpr hp
      rw [cutFrom, if_neg hc, if_pos hticks, cutFrom_eq]
      rw [hcut] at hrest ⊢
      exact ⟨rfl, by simp, by simpa using hc, by simp, hrest⟩
    · rw [cutFrom_cons hc hticks]
      refine (ih 0).modifyHead (by simpa using hc) fun p hp => ?_
      rw [Plain, cut, List.append_assoc, cutFrom_replicate, Nat.zero_add, List.singleton_append,
        cutFrom_cons hc hticks, hp]
      simp

theorem separated_cut (t : Text) : Separated (cut t) := separated_cutFrom 0 t

/-- A line is cut at a delimiter behind a text that holds none. -/
theorem cut_append_delimiter (hp : Plain p) (hlast : p.getLast? ≠ some '\x60')
    (ht : t.head? ≠ some '\x60') : cut (p ++ delimiter ++ t) = p :: cut t := by
  -- By induction on the text, for any number of backticks in front of it.
  suffices ∀ ticks, cutFrom [] ticks p = [List.replicate ticks '\x60' ++ p] →
      (List.replicate ticks '\x60' ++ p).getLast? ≠ some '\x60' →
      cutFrom [] ticks (p ++ delimiter ++ t) = (List.replicate ticks '\x60' ++ p) :: cut t from
    this 0 hp hlast
  clear hp hlast
  intro ticks hp hlast
  induction p generalizing ticks with
  | nil =>
    cases ticks with
    | succ ticks => simp [List.getLast?_replicate] at hlast
    | zero =>
      cases t with
      | nil => rfl
      | cons c t =>
        have hc : c ≠ '\x60' := by simpa using ht
        rw [cut_cons hc]
        simp [cutFrom, delimiter, hc, cutFrom_eq [c], cut]
  | cons c p ih =>
    by_cases hc : c = '\x60'
    · rw [hc] at hp hlast ⊢
      have hticks : List.replicate ticks '\x60' ++ '\x60' :: p =
          List.replicate (ticks + 1) '\x60' ++ p := by
        rw [List.replicate_succ', List.append_assoc, List.singleton_append]
      rw [cutFrom, if_pos rfl, hticks] at hp
      rw [hticks] at hlast ⊢
      rw [List.cons_append, List.cons_append, cutFrom, if_pos rfl]
      exact ih (ticks + 1) hp hlast
    · obtain ⟨q, rest, hcut⟩ := exists_cutFrom_eq [] 0 p
      have hticks : ticks ≠ 2 := by
        rintro rfl
        rw [cutFrom, if_neg hc, if_pos rfl, cutFrom_eq, hcut] at hp
        simp at hp
      rw [cutFrom_cons hc hticks, cut, hcut] at hp
      obtain ⟨rfl, rfl⟩ : q = p ∧ rest = [] := by simpa using hp
      have hend : (List.replicate 0 '\x60' ++ q).getLast? ≠ some '\x60' := by
        intro hq
        rw [List.replicate_zero, List.nil_append] at hq
        exact hlast (by simp [List.getLast?_append, List.getLast?_cons, hq])
      have hrest := ih 0 hcut hend
      rw [List.cons_append, List.cons_append, cutFrom_cons hc hticks, cut, hrest]
      simp

theorem head?_intercalate (h : Separated (p :: pieces)) (hp : p.head? ≠ some '\x60')
    (hempty : p = [] → pieces = []) :
    (delimiter.intercalate (p :: pieces)).head? ≠ some '\x60' := by
  cases p with
  | nil =>
    rw [hempty rfl]
    simp
  | cons c p =>
    cases pieces with
    | nil => simpa using hp
    | cons q rest => simpa [List.intercalate_cons_cons] using hp

/-- Separated pieces are found again. -/
theorem cut_intercalate (h : Separated pieces) : cut (delimiter.intercalate pieces) = pieces := by
  induction pieces with
  | nil => exact h.elim
  | cons p pieces ih =>
    cases pieces with
    | nil =>
      rw [List.intercalate_singleton]
      exact h
    | cons q rest =>
      obtain ⟨hp, hlast, hhead, hempty, hrest⟩ := h
      rw [List.intercalate_cons_cons, cut_append_delimiter hp hlast
        (head?_intercalate hrest hhead hempty), ih hrest]

/-- Cutting loses nothing but the delimiters. -/
theorem intercalate_cutFrom (ticks : Nat) (t : Text) :
    delimiter.intercalate (cutFrom [] ticks t) = List.replicate ticks '\x60' ++ t := by
  have hmodify (front : Text) {pieces : List Text} (h : pieces ≠ []) :
      delimiter.intercalate (pieces.modifyHead (front ++ ·)) =
        front ++ delimiter.intercalate pieces := by
    cases pieces with
    | nil => exact absurd rfl h
    | cons p pieces => cases pieces <;> simp [List.intercalate_cons_cons]
  induction t generalizing ticks with
  | nil => by_cases h : ticks = 2 <;> simp [cutFrom, h, delimiter, List.intercalate_cons_cons]
  | cons c t ih =>
    obtain ⟨q, rest, hcut⟩ := exists_cutFrom_eq [] 0 t
    have hne : cutFrom [] 0 t ≠ [] := by
      rw [hcut]
      exact List.cons_ne_nil _ _
    by_cases hc : c = '\x60'
    · rw [cutFrom, if_pos hc, ih, hc, List.replicate_succ', List.append_assoc,
        List.singleton_append]
    by_cases hticks : ticks = 2
    · have hrest := hmodify [c] hne
      rw [ih 0] at hrest
      rw [cutFrom, if_neg hc, if_pos hticks, cutFrom_eq, hticks]
      rw [hcut] at hrest ⊢
      rw [List.modifyHead_cons] at hrest ⊢
      rw [List.intercalate_cons_cons]
      simpa [delimiter] using hrest
    · rw [cutFrom_cons hc hticks, cut, hmodify _ hne, ih 0]
      simp

theorem intercalate_cut (t : Text) : delimiter.intercalate (cut t) = t := intercalate_cutFrom 0 t

theorem mem_intercalate {sep : Text} (h : c ∈ sep.intercalate pieces) :
    c ∈ sep ∨ ∃ p ∈ pieces, c ∈ p := by
  induction pieces with
  | nil => simp at h
  | cons p pieces ih =>
    cases pieces with
    | nil => exact .inr ⟨p, by simp, by simpa using h⟩
    | cons q rest =>
      rw [List.intercalate_cons_cons, List.mem_append, List.mem_append] at h
      rcases h with (h | h) | h
      · exact .inr ⟨p, by simp, h⟩
      · exact .inl h
      · exact (ih h).imp_right fun ⟨r, hr, hc⟩ => ⟨r, List.mem_cons_of_mem _ hr, hc⟩

theorem mem_intercalate_of_mem {sep : Text} (hp : p ∈ pieces) (hc : c ∈ p) :
    c ∈ sep.intercalate pieces := by
  induction pieces with
  | nil => cases hp
  | cons q pieces ih =>
    cases pieces with
    | nil => simpa [List.mem_singleton.mp hp] using hc
    | cons r rest =>
      rw [List.intercalate_cons_cons, List.mem_append, List.mem_append]
      rcases List.mem_cons.mp hp with rfl | hp
      · exact .inl (.inl hc)
      · exact .inr (ih hp)

/-! ### Lines in normal form -/

/-- A piece in normal form: literal text as it is, and a line of code trimmed and set off by blanks
from what stands around it. -/
def padded : (code closes : Bool) → Text → Text
  | false, _, piece => piece
  | true, false, piece => ' ' :: piece.trim
  | true, true, piece => ' ' :: piece.trim ++ [' ']

/-- The pieces of a line in normal form, the first of which is code if `code` holds. -/
def pad (code : Bool) : List Text → List Text
  | [] => []
  | [piece] => [padded code false piece]
  | piece :: next :: rest => padded code true piece :: pad (!code) (next :: rest)

/-- A line in normal form, which begins inside of a code span if `code` holds. -/
def normal (code : Bool) (line : Text) : Text := delimiter.intercalate (pad code (cut line))

theorem trim_padded (closes : Bool) (piece : Text) :
    (padded true closes piece).trim = piece.trim := by
  cases closes with
  | false => rw [padded, Text.trim_cons_space, Text.trim_trim]
  | true => rw [padded, Text.trim_append_space, Text.trim_cons_space, Text.trim_trim]

theorem Plain.padded (h : Plain p) (code closes : Bool) : Plain (padded code closes p) := by
  have hspace : Plain (' ' :: p.trim) := (plain_cons_iff (by decide)).mpr h.trim
  cases code with
  | false => exact h
  | true =>
    cases closes with
    | false => exact hspace
    | true => exact (plain_append_singleton_iff (by decide)).mpr hspace

theorem exists_pad_cons (code : Bool) (p : Text) (pieces : List Text) :
    ∃ closes rest, pad code (p :: pieces) = padded code closes p :: rest ∧
      (pieces = [] → rest = []) := by
  cases pieces with
  | nil => exact ⟨false, [], rfl, fun _ => rfl⟩
  | cons q pieces => exact ⟨true, _, rfl, fun h => by cases h⟩

theorem Separated.pad (h : Separated pieces) (code : Bool) : Separated (pad code pieces) := by
  induction pieces generalizing code with
  | nil => exact h
  | cons p pieces ih =>
    cases pieces with
    | nil => exact Plain.padded h code false
    | cons q pieces =>
      obtain ⟨hp, hlast, hhead, hempty, hrest⟩ := h
      have hpad := ih hrest (!code)
      obtain ⟨closes, rest, heq, hnil⟩ := exists_pad_cons (!code) q pieces
      rw [Body.pad, heq]
      rw [heq] at hpad
      refine ⟨hp.padded code true, ?_, ?_, fun hq => hnil (hempty ?_), hpad⟩
      · cases code with
        | false => exact hlast
        | true =>
          rw [padded, List.getLast?_append]
          simp
      · cases code with
        | false => cases closes <;> simp [padded]
        | true => exact hhead
      · cases code with
        | false => cases closes <;> simp [padded] at hq
        | true => exact hq

/-- A line in normal form is cut in the same places. -/
theorem cut_normal (code : Bool) (line : Text) : cut (normal code line) = pad code (cut line) :=
  cut_intercalate ((separated_cut line).pad code)

theorem mem_of_mem_padded {code closes : Bool} (h : c ∈ padded code closes p) :
    c = ' ' ∨ c ∈ p := by
  have htrim : p.trim ⊆ p := fun d hd =>
    (List.dropWhile_suffix _).subset ((Text.trimEnd_prefix _).subset hd)
  cases code with
  | false => exact .inr h
  | true => cases closes <;> simp [padded] at h <;> grind

theorem exists_of_mem_pad {code : Bool} (h : q ∈ pad code pieces) :
    ∃ p ∈ pieces, ∃ code closes, q = padded code closes p := by
  induction pieces generalizing code with
  | nil => cases h
  | cons p pieces ih =>
    cases pieces with
    | nil => exact ⟨p, by simp, code, false, by simpa [pad] using h⟩
    | cons r pieces =>
      rcases List.mem_cons.mp h with rfl | h
      · exact ⟨p, by simp, code, true, rfl⟩
      · obtain ⟨p', hp', hq⟩ := ih h
        exact ⟨p', List.mem_cons_of_mem _ hp', hq⟩

theorem mem_of_mem_cut (hp : p ∈ cut t) (hc : c ∈ p) : c ∈ t := by
  rw [← intercalate_cut t]
  exact mem_intercalate_of_mem hp hc

/-- Bringing a line into normal form adds only blanks. -/
theorem mem_of_mem_normal {code : Bool} (h : c ∈ normal code t) :
    c ∈ delimiter ∨ c = ' ' ∨ c ∈ t := by
  rcases mem_intercalate h with h | ⟨q, hq, hc⟩
  · exact .inl h
  · obtain ⟨p, hp, code, closes, rfl⟩ := exists_of_mem_pad hq
    exact .inr ((mem_of_mem_padded hc).imp_right (mem_of_mem_cut hp))

/-! ### Terminators -/

theorem tick_not_mem_of_isTerminator (h : isTerminator t = true) : '\x60' ∉ t := by
  intro hmem
  have hsplit : t.reverse.takeWhile Unicode.isWhiteSpace ++ t.trimEnd.reverse = t.reverse := by
    rw [Text.trimEnd, List.reverse_reverse, List.takeWhile_append_dropWhile]
  rw [← List.mem_reverse, ← hsplit, List.mem_append] at hmem
  rcases hmem with hmem | hmem
  · exact ne_tick_of_isWhiteSpace (List.mem_takeWhile_imp hmem) rfl
  · rw [eq_of_beq h] at hmem
    revert hmem
    decide

/-- No line that begins with a blank ends a body. -/
theorem isTerminator_cons_space (t : Text) : isTerminator (' ' :: t) = false := by
  by_contra h
  rw [Bool.not_eq_false] at h
  have hprefix := Text.trimEnd_prefix (' ' :: t)
  rw [eq_of_beq h] at hprefix
  obtain ⟨rest, hrest⟩ := hprefix
  exact absurd (List.cons.inj hrest).1 (by decide)

/-- A line ends a body if it does so in normal form. -/
theorem isTerminator_normal (code : Bool) (h : isTerminator t = false) :
    isTerminator (normal code t) = false := by
  obtain ⟨p, pieces, hcut⟩ := exists_cutFrom_eq [] 0 t
  have ht := intercalate_cut t
  rw [cut, hcut] at ht
  rw [normal, cut, hcut]
  cases code with
  | true =>
    obtain ⟨closes, rest, hpad, -⟩ := exists_pad_cons true p pieces
    rw [hpad]
    cases closes <;> cases rest <;> exact isTerminator_cons_space _
  | false =>
    cases pieces with
    | nil => rwa [pad, padded, ht]
    | cons q rest =>
      obtain ⟨closes, rest', hpad, -⟩ := exists_pad_cons true q rest
      by_contra hterm
      rw [Bool.not_eq_false] at hterm
      refine tick_not_mem_of_isTerminator hterm ?_
      rw [pad, Bool.not_false, hpad, List.intercalate_cons_cons]
      simp [delimiter]

end Body

end LiveSnippet
