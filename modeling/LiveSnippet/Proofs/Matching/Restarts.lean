import LiveSnippet.Pattern.Trigger
import LiveSnippet.Proofs.Text.Offsets
import Mathlib.Data.Option.Basic
import Mathlib.Data.Prod.Basic
import Mathlib.Tactic.IntervalCases

/-!
# Searching again

A pattern is searched for from the start of a text, and again behind the start of every match that
does not reach the end. No start is missed in this way: what is returned is the match with the least
start among all that reach the end, also if it overlaps one that was passed over or is empty.

Of the engine, which is a parameter, nothing is used but that it finds the match with the least
start. An engine counts in bytes and has to be asked at the start of a character, so its search is
told round by round, as a relation: a search that goes on for ever, or that leaves the starts of
characters, is related to nothing.

## Main definitions

* `round?`, `Scan`: the search in bytes
* `Leftmost`: the engine finds the match with the least start
* `IsFirstAtEnd`: the match with the least start among those that reach the end
* `searchInBytes`: a search by indices, asked from byte offsets

## Main results

* `Scan.unique`: a search in bytes has one result at most
* `Leftmost.noneBefore_of_next`, `Leftmost.isOutcome_of_done`: what a round keeps, and what the last
  one returns
* `Leftmost.isOutcome_of_scan`: what a search in bytes returns
* `Leftmost.scan_firstAtEnd`: the search in bytes ends, with what the search by indices returns
* `TextPattern.capturesAtEndBy?_leastStart`: no start is missed, however the search goes
* `TextPattern.capturesAtEnd?_eq_some_iff`, `TextPattern.capturesAtEnd?_eq_none_iff`: what a search
  with the program of a pattern returns
-/

namespace LiveSnippet.Pattern

open TextPattern (wholeSpan)

variable {text : Text} {matchAt? search : Nat → Option Captures} {c : Captures}
  {r r' : Option Captures} {o next : Nat}

/-- A match with spans in bytes reaches the end of the text. -/
def ReachesEnd (text : Text) (c : Captures) : Prop := (wholeSpan c).2 = text.byteSize

/-! ### The search in bytes -/

/-- What a round of the search leads to. -/
inductive Round
  | done (r : Option Captures)
  /-- The next round begins at an offset. -/
  | next (o : Nat)

/-- A round of the search, from a byte offset on; `none` at an offset that is not a place. Behind a
match that does not reach the end, the next round begins one character after its start. -/
def round? (text : Text) (search : Nat → Option Captures) (o : Nat) : Option Round :=
  if text.byteSize < o then some (.done none)
  else if ¬ text.IsBoundary o then none
  else match search o with
    | none => some (.done none)
    | some c => match c.head?.join with
      | none => some (.done none)
      | some (start, stop) =>
        if stop = text.byteSize then some (.done (some c)) else (text.next? start).map .next

/-- The search from a byte offset on ends, with what it returns. -/
inductive Scan (text : Text) (search : Nat → Option Captures) : Nat → Option Captures → Prop
  | done {o : Nat} {r : Option Captures} : round? text search o = some (.done r) →
      Scan text search o r
  | next {o o' : Nat} {r : Option Captures} : round? text search o = some (.next o') →
      Scan text search o' r → Scan text search o r

/-- A round that is not at a place is the last one, behind the end. -/
theorem isBoundary_of_round? {round : Round} (h : round? text search o = some round) :
    text.byteSize < o ∧ round = .done none ∨ text.IsBoundary o := by
  rw [round?] at h
  split_ifs at h with hlt ho
  · exact .inl ⟨hlt, (Option.some.inj h).symm⟩
  · exact .inr ho

theorem Scan.unique (h : Scan text search o r) (h' : Scan text search o r') : r = r' := by
  induction h with
  | done hround =>
    cases h' with
    | done hround' => cases hround.symm.trans hround'; rfl
    | next hround' _ => cases hround.symm.trans hround'
  | next hround _ ih =>
    cases h' with
    | done hround' => cases hround.symm.trans hround'
    | next hround' hrest => cases hround.symm.trans hround'; exact ih hrest

/-! ### What an engine finds -/

/-- The match begins at `start`, and none begins between `o` and there. -/
structure IsFirstFrom (matchAt? : Nat → Option Captures) (o start : Nat) (c : Captures) : Prop where
  found : matchAt? start = some c
  from_le : o ≤ start
  least : ∀ s c', o ≤ s → matchAt? s = some c' → start ≤ s

/-- The match at each start, if there is one, is `matchAt?`; it notes its start, which is a place. A
search from a place on finds the one with the least start. -/
structure Leftmost (text : Text) (matchAt? search : Nat → Option Captures) : Prop where
  begins : ∀ s c, matchAt? s = some c →
    text.IsBoundary s ∧ ∃ stop, c.head?.join = some (s, stop)
  first : ∀ o c, text.IsBoundary o → search o = some c → ∃ s, IsFirstFrom matchAt? o s c
  missing : ∀ o, text.IsBoundary o → search o = none → ∀ s, o ≤ s → matchAt? s = none

/-- The match begins at `start` and reaches the end, and none with a smaller start does. -/
structure IsFirstAtEnd (text : Text) (matchAt? : Nat → Option Captures) (start : Nat)
    (c : Captures) : Prop where
  found : matchAt? start = some c
  ends : ReachesEnd text c
  least : ∀ s c', matchAt? s = some c' → ReachesEnd text c' → start ≤ s

theorem IsFirstAtEnd.unique {start start' : Nat} {c' : Captures}
    (h : IsFirstAtEnd text matchAt? start c) (h' : IsFirstAtEnd text matchAt? start' c') :
    c = c' := by
  obtain rfl := Nat.le_antisymm (h.least start' c' h'.found h'.ends)
    (h'.least start c h.found h.ends)
  exact Option.some.inj (h.found.symm.trans h'.found)

/-- What a search for a match that reaches the end has to return. -/
def IsOutcome (text : Text) (matchAt? : Nat → Option Captures) : Option Captures → Prop
  | none => ∀ s c, matchAt? s = some c → ¬ ReachesEnd text c
  | some c => ∃ start, IsFirstAtEnd text matchAt? start c

/-- No match that begins before an offset reaches the end. -/
def NoneBefore (text : Text) (matchAt? : Nat → Option Captures) (o : Nat) : Prop :=
  ∀ s c, matchAt? s = some c → s < o → ¬ ReachesEnd text c

namespace Leftmost

theorem wholeSpan_fst (h : Leftmost text matchAt? search) {s : Nat} (hc : matchAt? s = some c) :
    (wholeSpan c).1 = s := by
  obtain ⟨-, stop, hspan⟩ := h.begins s c hc
  rw [wholeSpan, hspan, Option.getD_some]

/-- What a round at a place leads to. -/
theorem round?_of_isBoundary (h : Leftmost text matchAt? search) (ho : text.IsBoundary o) :
    (search o = none ∧ round? text search o = some (.done none)) ∨
    ∃ s c, search o = some c ∧ IsFirstFrom matchAt? o s c ∧
      (ReachesEnd text c ∧ round? text search o = some (.done (some c)) ∨
        ¬ ReachesEnd text c ∧
          ∃ o', text.next? s = some o' ∧ round? text search o = some (.next o')) := by
  rw [round?, if_neg (Nat.not_lt.mpr ho.le_byteSize), if_neg (not_not.mpr ho)]
  cases hsearch : search o with
  | none => exact .inl ⟨rfl, rfl⟩
  | some c =>
    obtain ⟨s, hfirst⟩ := h.first o c ho hsearch
    obtain ⟨hs, stop, hspan⟩ := h.begins s c hfirst.found
    obtain ⟨i, hi, rfl⟩ := Text.isBoundary_iff.mp hs
    have hends : ReachesEnd text c ↔ stop = text.byteSize := by
      rw [ReachesEnd, wholeSpan, hspan, Option.getD_some]
    refine .inr ⟨_, c, rfl, hfirst, ?_⟩
    simp only [hends, hspan]
    by_cases hstop : stop = text.byteSize
    · exact .inl ⟨hstop, if_pos hstop⟩
    · rw [if_neg hstop, Text.next?_offsetOf hi]
      exact .inr ⟨hstop, _, rfl, rfl⟩

/-- A round keeps it that no match before it reaches the end. -/
theorem noneBefore_of_next (h : Leftmost text matchAt? search) (hbefore : NoneBefore text matchAt? o)
    (hround : round? text search o = some (.next next)) : NoneBefore text matchAt? next := by
  obtain ⟨-, hdone⟩ | ho := isBoundary_of_round? hround
  · cases hdone
  obtain ⟨-, hdone⟩ | ⟨s, c, -, hfirst, ⟨-, hdone⟩ | ⟨hends, o', ho', hnext⟩⟩ :=
    h.round?_of_isBoundary ho
  · cases hround.symm.trans hdone
  · cases hround.symm.trans hdone
  · cases hround.symm.trans hnext
    intro s' c' hmatch hlt hends'
    by_cases hos : s' < o
    · exact hbefore s' c' hmatch hos hends'
    · have hle := hfirst.least s' c' (Nat.not_lt.mp hos) hmatch
      have hge := (h.begins s c hfirst.found).1.le_of_lt_next (h.begins s' c' hmatch).1 ho' hlt
      obtain rfl := Nat.le_antisymm hle hge
      obtain rfl := Option.some.inj (hfirst.found.symm.trans hmatch)
      exact hends hends'

/-- The last round returns what has to be returned. -/
theorem isOutcome_of_done (h : Leftmost text matchAt? search) (hbefore : NoneBefore text matchAt? o)
    (hround : round? text search o = some (.done r)) : IsOutcome text matchAt? r := by
  obtain ⟨hlt, hdone⟩ | ho := isBoundary_of_round? hround
  · cases hdone
    intro s c hmatch
    exact hbefore s c hmatch ((h.begins s c hmatch).1.le_byteSize.trans_lt hlt)
  obtain ⟨hsearch, hdone⟩ | ⟨s, c, -, hfirst, ⟨hends, hdone⟩ | ⟨-, o', -, hnext⟩⟩ :=
    h.round?_of_isBoundary ho
  · cases hround.symm.trans hdone
    intro s c hmatch
    by_cases hos : s < o
    · exact hbefore s c hmatch hos
    · cases hmatch.symm.trans (h.missing o ho hsearch s (Nat.not_lt.mp hos))
  · cases hround.symm.trans hdone
    refine ⟨s, hfirst.found, hends, fun s' c' hmatch hends' => ?_⟩
    have hos : o ≤ s' := Nat.not_lt.mp fun hlt => hbefore s' c' hmatch hlt hends'
    exact hfirst.least s' c' hos hmatch
  · cases hround.symm.trans hnext

/-- What a search returns, if no match before it reaches the end. -/
theorem isOutcome_of_scan (h : Leftmost text matchAt? search) (hscan : Scan text search o r)
    (hbefore : NoneBefore text matchAt? o) : IsOutcome text matchAt? r := by
  induction hscan with
  | done hround => exact h.isOutcome_of_done hbefore hround
  | next hround _ ih => exact ih (h.noneBefore_of_next hbefore hround)

end Leftmost

/-! ### The search by indices -/

/-- The spans of a match by indices, in bytes. -/
def inBytes (text : Text) (c : Captures) : Captures :=
  c.map (Option.map (Prod.map text.offsetOf text.offsetOf))

/-- A search by indices, asked from byte offsets. -/
def searchInBytes (text : Text) (search : Nat → Option Captures) (o : Nat) : Option Captures :=
  (search (text.indexAt o)).map (inBytes text)

theorem inBytes_injective (text : Text) : Function.Injective (inBytes text) :=
  have hoffset : Function.Injective text.offsetOf := text.offsetOf_strictMono.injective
  List.map_injective_iff.mpr (Option.map_injective (hoffset.prodMap hoffset))

theorem wholeSpan_inBytes (text : Text) (c : Captures) :
    wholeSpan (inBytes text c) =
      (text.offsetOf (wholeSpan c).1, text.offsetOf (wholeSpan c).2) := by
  rcases c with _ | ⟨_ | span, c⟩
  · simp [inBytes, wholeSpan]
  · simp [inBytes, wholeSpan]
  · rfl

theorem reachesEnd_inBytes : ReachesEnd text (inBytes text c) ↔ (wholeSpan c).2 = text.length := by
  rw [ReachesEnd, wholeSpan_inBytes, ← Text.offsetOf_length]
  exact text.offsetOf_strictMono.injective.eq_iff

theorem searchInBytes_offsetOf (text : Text) (search : Nat → Option Captures) (i : Nat) :
    searchInBytes text search (text.offsetOf i) = (search i).map (inBytes text) := by
  rw [searchInBytes, Text.indexAt_offsetOf]

/-- A round at an index, told by what the search by indices finds there. -/
theorem Leftmost.round?_offsetOf (h : Leftmost text matchAt? (searchInBytes text search))
    (hi : i ≤ text.length) :
    (search i = none ∧
      round? text (searchInBytes text search) (text.offsetOf i) = some (.done none)) ∨
    ∃ c, search i = some c ∧ i ≤ (wholeSpan c).1 ∧
      round? text (searchInBytes text search) (text.offsetOf i) =
        if (wholeSpan c).2 = text.length then some (.done (some (inBytes text c)))
        else some (.next (text.offsetOf ((wholeSpan c).1 + 1))) := by
  obtain ⟨hsearch, hdone⟩ | ⟨s, c', hsearch, hfirst, hround⟩ :=
    h.round?_of_isBoundary (Text.isBoundary_iff.mpr ⟨i, hi, rfl⟩)
  · rw [searchInBytes_offsetOf, Option.map_eq_none_iff] at hsearch
    exact .inl ⟨hsearch, hdone⟩
  · rw [searchInBytes_offsetOf] at hsearch
    obtain ⟨c, hc, rfl⟩ := Option.map_eq_some_iff.mp hsearch
    obtain ⟨j, hj, rfl⟩ := Text.isBoundary_iff.mp (h.begins _ _ hfirst.found).1
    have hstart : (wholeSpan c).1 = j := by
      have hspan := h.wholeSpan_fst hfirst.found
      rw [wholeSpan_inBytes] at hspan
      exact text.offsetOf_strictMono.injective hspan
    have hij : i ≤ j := text.offsetOf_strictMono.le_iff_le.mp hfirst.from_le
    refine .inr ⟨c, hc, hstart ▸ hij, ?_⟩
    rw [reachesEnd_inBytes, Text.next?_offsetOf hj] at hround
    obtain ⟨hends, hdone⟩ | ⟨hends, o', ho', hnext⟩ := hround
    · rw [hdone, if_pos hends]
    · obtain rfl := Option.some.inj ho'
      rw [hnext, if_neg hends, hstart]

/-- The search from an index on is the search in bytes from its offset on. -/
theorem Leftmost.scan_firstAtEnd (h : Leftmost text matchAt? (searchInBytes text search)) (i : Nat) :
    Scan text (searchInBytes text search) (text.offsetOf i)
      ((firstAtEnd wholeSpan search text.length i).map (inBytes text)) := by
  induction i using firstAtEnd.induct wholeSpan search text.length with
  | case1 i hlt =>
    rw [firstAtEnd, if_pos hlt]
    refine .done ?_
    rw [round?, if_pos (Text.byteSize_lt_offsetOf_iff.mpr hlt)]
    rfl
  | case2 i hle hsearch =>
    rw [firstAtEnd, if_neg hle, hsearch]
    obtain ⟨-, hround⟩ | ⟨c, hsearch', -⟩ := h.round?_offsetOf (Nat.not_lt.mp hle)
    · exact .done hround
    · cases hsearch.symm.trans hsearch'
  | case3 i hle c hsearch hend =>
    rw [firstAtEnd, if_neg hle, hsearch]
    dsimp only
    rw [if_pos hend]
    obtain ⟨hsearch', -⟩ | ⟨c', hsearch', -, hround⟩ := h.round?_offsetOf (Nat.not_lt.mp hle)
    · cases hsearch.symm.trans hsearch'
    · cases hsearch.symm.trans hsearch'
      rw [if_pos hend] at hround
      exact .done hround
  | case4 i hle c hsearch hend ih =>
    rw [firstAtEnd, if_neg hle, hsearch]
    dsimp only
    rw [if_neg hend]
    obtain ⟨hsearch', -⟩ | ⟨c', hsearch', hstart, hround⟩ :=
      h.round?_offsetOf (Nat.not_lt.mp hle)
    · cases hsearch.symm.trans hsearch'
    · cases hsearch.symm.trans hsearch'
      rw [if_neg hend] at hround
      -- No match begins before the search, so the guard of the search by indices is not used.
      rw [max_eq_right hstart] at ih ⊢
      exact .next hround ih

namespace TextPattern

section

variable (searcher : Searcher) (p : TextPattern)
  (h : Leftmost text matchAt? (searchInBytes text (searcher p text)))

include h

theorem scan_capturesAtEndBy? : Scan text (searchInBytes text (searcher p text)) 0
    ((p.capturesAtEndBy? searcher text).map (inBytes text)) := by
  have hscan := h.scan_firstAtEnd 0
  rwa [Text.offsetOf_zero] at hscan

theorem isOutcome_capturesAtEndBy? :
    IsOutcome text matchAt? ((p.capturesAtEndBy? searcher text).map (inBytes text)) :=
  h.isOutcome_of_scan (scan_capturesAtEndBy? searcher p h)
    fun s _ _ hlt => absurd hlt s.not_lt_zero

theorem capturesAtEndBy?_eq_some_iff :
    p.capturesAtEndBy? searcher text = some c ↔
      ∃ start, IsFirstAtEnd text matchAt? start (inBytes text c) := by
  have houtcome := isOutcome_capturesAtEndBy? searcher p h
  constructor
  · intro hfound
    rwa [hfound] at houtcome
  · rintro ⟨start, hfirst⟩
    cases hfound : p.capturesAtEndBy? searcher text with
    | none =>
      rw [hfound] at houtcome
      exact absurd hfirst.ends (houtcome start _ hfirst.found)
    | some c' =>
      rw [hfound] at houtcome
      obtain ⟨start', hfirst'⟩ := houtcome
      rw [inBytes_injective text (hfirst'.unique hfirst)]

theorem capturesAtEndBy?_eq_none_iff :
    p.capturesAtEndBy? searcher text = none ↔ ∀ s c, matchAt? s = some c → ¬ ReachesEnd text c := by
  have houtcome := isOutcome_capturesAtEndBy? searcher p h
  constructor
  · intro hnone
    rwa [hnone] at houtcome
  · intro hnone
    cases hfound : p.capturesAtEndBy? searcher text with
    | none => rfl
    | some c =>
      rw [hfound] at houtcome
      obtain ⟨start, hfirst⟩ := houtcome
      exact absurd hfirst.ends (hnone start _ hfirst.found)

/-- **No start is missed.** If the match with the least start is found in a text for a pattern, then
the search in bytes ends and returns the match with the least start among all that reach the end, and
nothing just if there is none. -/
theorem capturesAtEndBy?_leastStart :
    (∀ r, Scan text (searchInBytes text (searcher p text)) 0 r ↔
      r = (p.capturesAtEndBy? searcher text).map (inBytes text)) ∧
    (∀ c, p.capturesAtEndBy? searcher text = some c ↔
      ∃ start, IsFirstAtEnd text matchAt? start (inBytes text c)) ∧
    (p.capturesAtEndBy? searcher text = none ↔
      ∀ s c, matchAt? s = some c → ¬ ReachesEnd text c) := by
  have hscan := scan_capturesAtEndBy? searcher p h
  exact ⟨fun r => ⟨fun hr => hr.unique hscan, fun hr => hr ▸ hscan⟩,
    fun c => capturesAtEndBy?_eq_some_iff searcher p h, capturesAtEndBy?_eq_none_iff searcher p h⟩

end

/-! ### The search with a program -/

section

variable {p : TextPattern} (h : Leftmost text matchAt? (searchInBytes text (p.search? text)))

include h

/-- A program that finds the match with the least start misses no start. -/
theorem capturesAtEnd?_eq_some_iff :
    p.capturesAtEnd? text = some c ↔
      ∃ start, IsFirstAtEnd text matchAt? start (inBytes text c) :=
  capturesAtEndBy?_eq_some_iff search? p h

theorem capturesAtEnd?_eq_none_iff :
    p.capturesAtEnd? text = none ↔ ∀ s c, matchAt? s = some c → ¬ ReachesEnd text c :=
  capturesAtEndBy?_eq_none_iff search? p h

end

end TextPattern

/-! ### A match that overlaps one that was passed over -/

/-- A machine for `öyz|zyz`. It takes characters away in front until one of the two fits. -/
def overlapping : Machine where
  code := #[.split 3 1, .one (.range 'a' 'ö'), .jump 0,
    .save 0, .split 5 9,
    .one (.single 'ö'), .one (.single 'y'), .one (.single 'z'), .jump 12,
    .one (.single 'z'), .one (.single 'y'), .one (.single 'z'),
    .save 1, .accept]
  slots := 2
  groups := 0

/-- The matches of `öyz|zyz` in `öyzyz`, in bytes. They have a character in common. -/
def overlappingAt? (s : Nat) : Option Captures :=
  if s = 0 then some [some (0, 4)] else if s = 3 then some [some (3, 6)] else none

theorem overlappingAt?_eq_some {s : Nat} (h : overlappingAt? s = some c) :
    s = 0 ∧ c = [some (0, 4)] ∨ s = 3 ∧ c = [some (3, 6)] := by
  rw [overlappingAt?] at h
  split_ifs at h with h0 h3
  · exact .inl ⟨h0, (Option.some.inj h).symm⟩
  · exact .inr ⟨h3, (Option.some.inj h).symm⟩

/-- What the machine finds in `öyzyz` from each index on. -/
theorem search?_overlapping : ∀ i ≤ 5, overlapping.search? "öyzyz".toList.toArray i =
    if i = 0 then some [some (0, 3)] else if i ≤ 2 then some [some (2, 5)] else none := by
  decide +kernel

theorem leftmost_overlapping : Leftmost "öyzyz".toList overlappingAt?
    (searchInBytes "öyzyz".toList (overlapping.search? "öyzyz".toList.toArray)) where
  begins s c h := by
    obtain ⟨rfl, rfl⟩ | ⟨rfl, rfl⟩ := overlappingAt?_eq_some h
    · exact ⟨by decide, 4, rfl⟩
    · exact ⟨by decide, 6, rfl⟩
  first o c ho h := by
    obtain ⟨i, hi, rfl⟩ := Text.isBoundary_iff.mp ho
    rw [searchInBytes_offsetOf, search?_overlapping i hi] at h
    by_cases h0 : i = 0
    · subst h0
      obtain rfl := Option.some.inj h
      exact ⟨0, rfl, le_rfl, fun s _ _ _ => s.zero_le⟩
    · rw [if_neg h0] at h
      by_cases h2 : i ≤ 2
      · rw [if_pos h2] at h
        obtain rfl := Option.some.inj h
        have hlow : Text.offsetOf "öyzyz".toList 0 < Text.offsetOf "öyzyz".toList i :=
          Text.offsetOf_strictMono _ (Nat.pos_of_ne_zero h0)
        refine ⟨3, rfl, (Text.offsetOf_strictMono _).monotone h2, fun s c hle hc => ?_⟩
        obtain ⟨rfl, -⟩ | ⟨rfl, -⟩ := overlappingAt?_eq_some hc
        · exact absurd hlow (Nat.not_lt.mpr hle)
        · exact le_rfl
      · rw [if_neg h2] at h
        cases h
  missing o ho h s hle := by
    obtain ⟨i, hi, rfl⟩ := Text.isBoundary_iff.mp ho
    rw [searchInBytes_offsetOf, search?_overlapping i hi] at h
    have h3 : 3 ≤ i := by
      by_contra hlt
      interval_cases i <;> cases h
    have hfar : 3 < Text.offsetOf "öyzyz".toList i :=
      (by decide : 3 < Text.offsetOf "öyzyz".toList 3).trans_le
        ((Text.offsetOf_strictMono _).monotone h3)
    cases hc : overlappingAt? s with
    | none => rfl
    | some c => obtain ⟨rfl, -⟩ | ⟨rfl, -⟩ := overlappingAt?_eq_some hc <;> omega

/-- The second match is returned. -/
theorem TextPattern.capturesAtEnd?_overlapping :
    Leftmost "öyzyz".toList overlappingAt?
        (searchInBytes "öyzyz".toList (overlapping.search? "öyzyz".toList.toArray)) ∧
      capturesAtEnd? ⟨"öyz|zyz".toList, .hard overlapping⟩ "öyzyz".toList = some [some (2, 5)] := by
  refine ⟨leftmost_overlapping, ?_⟩
  obtain ⟨-, hfound, -⟩ := capturesAtEndBy?_leastStart search?
    ⟨"öyz|zyz".toList, .hard overlapping⟩ leftmost_overlapping
  refine (hfound _).mpr ⟨3, rfl, rfl, fun s c hc hend => ?_⟩
  obtain ⟨rfl, rfl⟩ | ⟨rfl, -⟩ := overlappingAt?_eq_some hc
  · rw [ReachesEnd] at hend
    exact absurd hend (by decide)
  · exact le_rfl

end LiveSnippet.Pattern
