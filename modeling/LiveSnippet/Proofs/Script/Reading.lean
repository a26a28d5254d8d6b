import LiveSnippet.Script.Parser
import Mathlib.Tactic.Common

/-!
# Steps of the parser

What a step of the parser does depends on the tokens still to read and on the open brackets. Places
only matter for errors, and so nothing is said about them here: `m.Reads v a w` says that the step
`m` gives `a` and leads from every state that stands at `v` to one that stands at `w`.

Between brackets the parser passes over line feeds before it looks at a token, so most lemmas ask
that the next token is not a line feed if any bracket is open.

## Main definitions

* `ParserState.standing`: the tokens still to read and the open brackets
* `Parse.Reads`

## Main results

* `Reads.bind`: steps one after another
* `Reads.advance_bind`, `reads_eat`, `reads_expect`, `reads_name`: steps that consume a token
* `reads_skipWhile`: tokens that are passed over
-/

namespace LiveSnippet.Script

/-- The tokens still to read, the current one first, and the number of open brackets. -/
structure Standing where
  upcoming : List Token
  nesting : Nat

/-- Where a state stands. -/
def ParserState.standing (s : ParserState) : Standing :=
  ⟨s.current.token :: s.rest.map (·.token), s.nesting⟩

/-- Passing over line feeds is not called for in front of the token. -/
def Standing.Settled (nesting : Nat) (t : Token) : Prop := nesting ≠ 0 → t ≠ .newline

theorem Standing.settled_zero (t : Token) : Settled 0 t := fun h => absurd rfl h

namespace Parse

variable {α β : Type} {m : Parse α} {f : α → Parse β} {u v w : Standing} {a : α} {b : β}
  {t : Token} {us : List Token} {n : Nat}

/-- The step gives `a` and leads from every state at `v` to one at `w`. -/
def Reads (m : Parse α) (v : Standing) (a : α) (w : Standing) : Prop :=
  ∀ s : ParserState, s.standing = v → ∃ t, m.run s = .ok (a, t) ∧ t.standing = w

theorem reads_pure (a : α) (v : Standing) : Reads (pure a) v a v := fun s hs => ⟨s, rfl, hs⟩

/-- Steps one after another. -/
theorem Reads.bind (hm : m.Reads u a v) (hf : (f a).Reads v b w) : (m >>= f).Reads u b w := by
  intro s hs
  obtain ⟨t, hrun, ht⟩ := hm s hs
  obtain ⟨t', hrun', ht'⟩ := hf t ht
  refine ⟨t', ?_, ht'⟩
  rw [StateT.run_bind, hrun]
  exact hrun'

/-- A step that depends on the state. -/
theorem Reads.get_bind {f : ParserState → Parse β}
    (hf : ∀ s, s.standing = v → (f s).Reads v b w) : (get >>= f).Reads v b w :=
  fun s hs => hf s hs s hs

theorem reads_set (s : ParserState) (v : Standing) : (set s : Parse PUnit).Reads v ⟨⟩ s.standing :=
  fun _ _ => ⟨s, rfl, rfl⟩

theorem settle_eq {s : ParserState} (hs : s.standing = ⟨t :: us, n⟩) (ht : Standing.Settled n t) :
    s.settle = s := by
  obtain ⟨htokens, hn⟩ := Standing.mk.inj hs
  rw [ParserState.settle]
  split_ifs with h
  · rfl
  · have hcurrent : s.current.token ≠ .newline := (List.cons.inj htokens).1 ▸ ht (hn ▸ h)
    obtain ⟨previous, current, rest, nesting⟩ := s
    cases rest with
    | nil => rfl
    | cons t' rest => simp only [ParserState.skipNewlinesFrom, if_neg hcurrent]

/-- Looking at the next token changes nothing. -/
theorem reads_peek (ht : Standing.Settled n t) : peek.Reads ⟨t :: us, n⟩ t ⟨t :: us, n⟩ := by
  intro s hs
  refine ⟨s, ?_, hs⟩
  have hrun : peek.run s = .ok (s.settle.current.token, s.settle) := rfl
  rw [hrun, settle_eq hs ht, (List.cons.inj (Standing.mk.inj hs).1).1]

theorem reads_check (k : Token) (ht : Standing.Settled n t) :
    (check k).Reads ⟨t :: us, n⟩ (decide (t = k)) ⟨t :: us, n⟩ :=
  (reads_peek ht).bind (reads_pure _ _)

/-- A step behind the next token, which is consumed. -/
theorem Reads.advance_bind {f : Located → Parse β} (ht : Standing.Settled n t) (heof : t ≠ .eof)
    (hus : us ≠ []) (hf : ∀ p, (f ⟨t, p⟩).Reads ⟨us, n⟩ b w) :
    (advance >>= f).Reads ⟨t :: us, n⟩ b w := by
  intro s hs
  obtain ⟨hcurrent, hrest⟩ := List.cons.inj (Standing.mk.inj hs).1
  have hrun : advance.run s = .ok (s.current, s.next) := by
    have hpeek : advance.run s =
        .ok (s.settle.current, if s.settle.current.token = .eof then s.settle else s.settle.next) := by
      simp only [advance, peek, bind_assoc, StateT.run_bind]
      split_ifs with h
      · simp [h, StateT.run_modify]
        rfl
      · simp [h]
        rfl
    rw [hpeek, settle_eq hs ht, if_neg (hcurrent ▸ heof)]
  have hnext : s.next.standing = ⟨us, n⟩ := by
    obtain ⟨previous, current, rest, nesting⟩ := s
    cases rest with
    | nil => exact absurd hrest.symm hus
    | cons t' rest =>
      simp only [ParserState.standing, Standing.mk.injEq] at hs
      simp only [ParserState.next, ParserState.standing, Standing.mk.injEq]
      exact ⟨hrest, hs.2⟩
  obtain ⟨t', hrun', ht'⟩ := hf s.current.place s.next hnext
  refine ⟨t', ?_, ht'⟩
  rw [StateT.run_bind, hrun]
  have hlocated : s.current = ⟨t, s.current.place⟩ := by rw [← hcurrent]
  rw [← hlocated] at hrun'
  exact hrun'

theorem reads_eat (ht : Standing.Settled n t) (heof : t ≠ .eof) (hus : us ≠ []) :
    (eat t).Reads ⟨t :: us, n⟩ true ⟨us, n⟩ := by
  refine (reads_check t ht).bind ?_
  rw [if_pos (decide_eq_true rfl)]
  exact Reads.advance_bind ht heof hus fun _ => reads_pure _ _

/-- Another token than the next one is not consumed. -/
theorem reads_eat_of_ne {k : Token} (ht : Standing.Settled n t) (hk : t ≠ k) :
    (eat k).Reads ⟨t :: us, n⟩ false ⟨t :: us, n⟩ := by
  refine (reads_check k ht).bind ?_
  rw [if_neg (by simpa using hk)]
  exact reads_pure _ _

theorem reads_expect (what : Expectation) (ht : Standing.Settled n t) (heof : t ≠ .eof)
    (hus : us ≠ []) : (expect t what).Reads ⟨t :: us, n⟩ ⟨⟩ ⟨us, n⟩ :=
  (reads_eat ht heof hus).bind (reads_pure _ _)

theorem reads_name (x : Text) (what : Expectation) (hus : us ≠ []) :
    (name what).Reads ⟨.ident x :: us, n⟩ x ⟨us, n⟩ := by
  have ht : Standing.Settled n (.ident x) := fun _ => Token.noConfusion
  exact (reads_peek ht).bind
    (Reads.advance_bind ht Token.noConfusion hus fun _ => reads_pure _ _)

theorem reads_openBracket : openBracket.Reads ⟨us, n⟩ ⟨⟩ ⟨us, n + 1⟩ := by
  intro s hs
  obtain ⟨htokens, hn⟩ := Standing.mk.inj hs
  exact ⟨_, rfl, by rw [← htokens, ← hn]; rfl⟩

theorem reads_closeBracket : closeBracket.Reads ⟨us, n + 1⟩ ⟨⟩ ⟨us, n⟩ := by
  intro s hs
  obtain ⟨htokens, hn⟩ := Standing.mk.inj hs
  exact ⟨_, rfl, by rw [← htokens, ← Nat.add_sub_cancel (n := n) (m := 1), ← hn]; rfl⟩

theorem reads_remaining : remaining.Reads ⟨us, n⟩ us.length ⟨us, n⟩ := by
  intro s hs
  have hlength : s.rest.length + 1 = us.length := by
    rw [← (Standing.mk.inj hs).1, List.length_cons, List.length_map]
  exact ⟨s, hlength ▸ rfl, hs⟩

/-- Tokens that are passed over, with no bracket open. -/
theorem reads_skipWhile {skips : Token → Bool} {passed : List Token} {k : Nat}
    (hpassed : ∀ t ∈ passed, skips t = true ∧ t ≠ .eof) (ht : skips t = false)
    (hk : passed.length < k) :
    (skipWhile skips k).Reads ⟨passed ++ t :: us, 0⟩ ⟨⟩ ⟨t :: us, 0⟩ := by
  induction passed generalizing k with
  | nil =>
    obtain ⟨k, rfl⟩ := Nat.exists_eq_succ_of_ne_zero (Nat.pos_iff_ne_zero.mp hk)
    refine (reads_peek (Standing.settled_zero t)).bind ?_
    rw [if_neg (by simp [ht])]
    exact reads_pure _ _
  | cons t' passed ih =>
    obtain ⟨k, rfl⟩ := Nat.exists_eq_succ_of_ne_zero (Nat.ne_zero_of_lt hk)
    obtain ⟨⟨hskip, heof⟩, hpassed⟩ := List.forall_mem_cons.mp hpassed
    refine (reads_peek (Standing.settled_zero t')).bind ?_
    rw [if_pos hskip]
    exact Reads.advance_bind (Standing.settled_zero t') heof (by simp) fun _ =>
      ih hpassed (Nat.lt_of_succ_lt_succ hk)

end Parse

end LiveSnippet.Script
