import LiveSnippet.Proofs.Script.Indexed
import Mathlib.Tactic.Common

/-!
# Parsing by positions gives the same

The parser and the parser by positions make the same steps. A step of the one mirrors a step of the
other if both go from states at the same token to states at the same token with the same result, or
stop with the same error at some token. A fault is neither of these, so a step that is mirrored has
none.

## Main definitions

* `EndsInEof`: what the lexer returns
* `Stands`: a state of the parser and one of the parser by positions at the same token
* `Mirrors`: two steps that do the same
* `Later`, `Advanced`: how far a step has come

## Main results

* `Mirrors.bind`: steps one after another
* `mirrors_peek`, `mirrors_advance`, `mirrors_eat`, `mirrors_expect`, `mirrors_name`
-/

namespace LiveSnippet.Script

/-- The last token is `eof`, and no other is. -/
def EndsInEof (tokens : List Located) : Prop :=
  ∃ init place, tokens = init ++ [⟨.eof, place⟩] ∧ ∀ t ∈ init, t.token ≠ .eof

/-- Both states are at the same one of the tokens, with as many brackets open. -/
inductive Stands (tokens : List Located) : ParserState → IndexedState → Prop
  | mk (done : List Located) (current : Located) (rest : List Located) (nesting : Nat)
    (htokens : tokens = done ++ current :: rest) :
    Stands tokens ⟨done.getLast?.map (·.token), current, rest, nesting⟩
      ⟨tokens, done.length, nesting⟩

/-- The second state is not in front of the first, and as many brackets are open. -/
structure Later (s s' : ParserState) : Prop where
  le : s'.rest.length ≤ s.rest.length
  nesting : s'.nesting = s.nesting

/-- The second state is behind the first, and as many brackets are open. -/
structure Advanced (s s' : ParserState) : Prop where
  lt : s'.rest.length < s.rest.length
  nesting : s'.nesting = s.nesting

/-- One more bracket is open, at the same token. -/
structure Opened (s s' : ParserState) : Prop where
  rest : s'.rest.length = s.rest.length
  nesting : s'.nesting = s.nesting + 1

/-- The token has been consumed in between; `eof` is not left behind. -/
structure Consumed (k : Token) (s s' : ParserState) : Prop where
  later : Later s s'
  advanced (hk : k ≠ .eof) : Advanced s s'
  current (hk : k = .eof) : s'.current.token = .eof

variable {s s' s'' : ParserState}

theorem Later.refl (s : ParserState) : Later s s := ⟨Nat.le_refl _, rfl⟩

theorem Later.trans (h : Later s s') (h' : Later s' s'') : Later s s'' :=
  ⟨Nat.le_trans h'.le h.le, h'.nesting.trans h.nesting⟩

theorem Advanced.later (h : Advanced s s') : Later s s' := ⟨Nat.le_of_lt h.lt, h.nesting⟩

theorem Advanced.trans_later (h : Advanced s s') (h' : Later s' s'') : Advanced s s'' :=
  ⟨Nat.lt_of_le_of_lt h'.le h.lt, h'.nesting.trans h.nesting⟩

theorem Later.trans_advanced (h : Later s s') (h' : Advanced s' s'') : Advanced s s'' :=
  ⟨Nat.lt_of_lt_of_le h'.lt h.le, h'.nesting.trans h.nesting⟩

theorem Later.trans_consumed {k : Token} (h : Later s s') (h' : Consumed k s' s'') :
    Consumed k s s'' :=
  ⟨h.trans h'.later, fun hk => h.trans_advanced (h'.advanced hk), h'.current⟩

/-- Both steps give the same and lead to states at the same token, or both stop with the same error,
which is at one of the tokens. -/
inductive Mirrors {α : Type} (tokens : List Located) (m : Parse α) (m' : Indexed α)
    (s : ParserState) (c : IndexedState) (post : α → ParserState → Prop) : Prop
  | ok {a : α} {s' : ParserState} {c' : IndexedState} (hm : m.run s = .ok (a, s'))
    (hm' : m'.run c = .ok (a, c')) (hs : Stands tokens s' c') (hpost : post a s')
  | error {e : ParseError} (hm : m.run s = .error e) (hm' : m'.run c = .error (.error e))
    (hplace : ∃ t ∈ tokens, e.place = t.place)

variable {α β : Type} {tokens : List Located} {m : Parse α} {m' : Indexed α} {c : IndexedState}
  {post : α → ParserState → Prop}

theorem mirrors_pure {a : α} (hs : Stands tokens s c) (hpost : post a s) :
    Mirrors tokens (pure a) (pure a) s c post := .ok rfl rfl hs hpost

/-- Only what the steps do at these states matters. -/
theorem Mirrors.congr {n : Parse α} {n' : Indexed α} (h : Mirrors tokens n n' s c post)
    (hm : m.run s = n.run s) (hm' : m'.run c = n'.run c) : Mirrors tokens m m' s c post := by
  cases h with
  | ok hn hn' hs hpost => exact .ok (hm.trans hn) (hm'.trans hn') hs hpost
  | error hn hn' hplace => exact .error (hm.trans hn) (hm'.trans hn') hplace

/-- Steps one after another. -/
theorem Mirrors.bind {f : α → Parse β} {f' : α → Indexed β} {post' : β → ParserState → Prop}
    (h : Mirrors tokens m m' s c post)
    (hf : ∀ a s' c', Stands tokens s' c' → post a s' → Mirrors tokens (f a) (f' a) s' c' post') :
    Mirrors tokens (m >>= f) (m' >>= f') s c post' := by
  cases h with
  | @ok a s' c' hm hm' hs hpost =>
    have hrun : (m >>= f).run s = (f a).run s' := by rw [StateT.run_bind, hm]; rfl
    have hrun' : (m' >>= f').run c = (f' a).run c' := by rw [StateT.run_bind, hm']; rfl
    cases hf a s' c' hs hpost with
    | ok hf hf' hs' hpost' => exact .ok (hrun.trans hf) (hrun'.trans hf') hs' hpost'
    | error hf hf' hplace => exact .error (hrun.trans hf) (hrun'.trans hf') hplace
  | error hm hm' hplace =>
    exact .error (by rw [StateT.run_bind, hm]; rfl) (by rw [StateT.run_bind, hm']; rfl) hplace

theorem Mirrors.mono {post' : α → ParserState → Prop} (h : Mirrors tokens m m' s c post)
    (hpost : ∀ a s', post a s' → post' a s') : Mirrors tokens m m' s c post' := by
  cases h with
  | ok hm hm' hs h => exact .ok hm hm' hs (hpost _ _ h)
  | error hm hm' hplace => exact .error hm hm' hplace

/-! ### Looking at tokens -/

section EndsInEof

variable {done rest : List Located} {current : Located}

/-- A token other than `eof` has a token behind it. -/
theorem EndsInEof.rest_ne_nil (h : EndsInEof (done ++ current :: rest))
    (hcurrent : current.token ≠ .eof) : rest ≠ [] := by
  rintro rfl
  obtain ⟨init, place, heq, -⟩ := h
  obtain ⟨-, hlast⟩ := List.append_inj' heq rfl
  cases hlast
  exact hcurrent rfl

/-- Nothing is behind `eof`. -/
theorem EndsInEof.rest_eq_nil (h : EndsInEof (done ++ current :: rest))
    (hcurrent : current.token = .eof) : rest = [] := by
  obtain ⟨init, place, heq, hinit⟩ := h
  rcases List.eq_nil_or_concat rest with rfl | ⟨rest, last, rfl⟩
  · rfl
  · rw [List.concat_eq_append, ← List.cons_append, ← List.append_assoc] at heq
    obtain ⟨rfl, -⟩ := List.append_inj' heq rfl
    exact absurd hcurrent (hinit current (by simp))

/-- Where the line feeds end, the parser stands at a token again. -/
theorem EndsInEof.skipNewlinesFrom (h : EndsInEof (done ++ current :: rest)) (nesting : Nat) :
    ∃ passed t rest', current :: rest = passed ++ t :: rest' ∧
      passed = (current :: rest).takeWhile (·.token = .newline) ∧
      ParserState.skipNewlinesFrom nesting (done.getLast?.map (·.token)) current rest =
        ⟨(done ++ passed).getLast?.map (·.token), t, rest', nesting⟩ := by
  induction rest generalizing done current with
  | nil =>
    have hne : current.token ≠ .newline := by
      intro hcurrent
      exact h.rest_ne_nil (by rw [hcurrent]; exact Token.noConfusion) rfl
    exact ⟨[], current, [], rfl, by simp [hne], by simp [ParserState.skipNewlinesFrom]⟩
  | cons t rest ih =>
    rw [ParserState.skipNewlinesFrom]
    split
    · rename_i hcurrent
      have hnext : EndsInEof (done ++ [current] ++ t :: rest) := by simpa using h
      obtain ⟨passed, t', rest', hsplit, hpassed, hskip⟩ := ih hnext
      have hprevious : (done ++ [current]).getLast?.map (·.token) = some .newline := by
        simp [hcurrent]
      refine ⟨current :: passed, t', rest', by rw [hsplit]; rfl, ?_, ?_⟩
      · rw [List.takeWhile_cons_of_pos (by simpa using hcurrent), ← hpassed]
      · rw [← hprevious, hskip, List.append_assoc, List.singleton_append]
    · rename_i hcurrent
      exact ⟨[], current, t :: rest, rfl, by simp [hcurrent], by simp⟩

end EndsInEof

theorem Stands.current_mem (hs : Stands tokens s c) : s.current ∈ tokens := by
  cases hs with
  | mk done current rest nesting htokens => simp [htokens]

variable (heof : EndsInEof tokens) (hs : Stands tokens s c)

include hs in
/-- The current token. -/
theorem Mirrors.get_bind {f : ParserState → Parse β} {f' : Located → Indexed β}
    {post : β → ParserState → Prop} (h : Mirrors tokens (f s) (f' s.current) s c post) :
    Mirrors tokens (get >>= f) (Indexed.current >>= f') s c post := by
  refine h.congr rfl ?_
  cases hs with
  | mk done current rest nesting htokens =>
    have hget : tokens[done.length]? = some current := by simp [htokens]
    rw [StateT.run_bind, Indexed.current]
    simp [hget]

/-- Positions at which there is a token can be moved to. -/
theorem moveTo_run {pos : Nat} (h : pos < tokens.length) (pos' nesting : Nat) :
    (Indexed.moveTo pos).run ⟨tokens, pos', nesting⟩ = .ok ((), ⟨tokens, pos, nesting⟩) := by
  simp [Indexed.moveTo, h]
  rfl

include heof hs in
theorem mirrors_settle : Mirrors tokens (modify ParserState.settle) Indexed.settle s c
    fun _ s' => s' = s ∨ Advanced s s' := by
  cases hs with
  | mk done current rest nesting htokens =>
    by_cases hnesting : nesting = 0
    · subst hnesting
      exact .ok rfl rfl (.mk _ _ _ _ htokens) (.inl rfl)
    · obtain ⟨passed, t, rest', hsplit, hpassed, hskip⟩ :=
        (htokens ▸ heof : EndsInEof (done ++ current :: rest)).skipNewlinesFrom nesting
      have hsettle : ParserState.settle ⟨done.getLast?.map (·.token), current, rest, nesting⟩ =
          ⟨(done ++ passed).getLast?.map (·.token), t, rest', nesting⟩ :=
        (if_neg hnesting).trans hskip
      have hafter : tokens = done ++ passed ++ t :: rest' := by
        rw [htokens, hsplit, List.append_assoc]
      have hlength : (done ++ passed).length < tokens.length := by simp [hafter]
      have hrun : Indexed.settle.run ⟨tokens, done.length, nesting⟩ =
          .ok ((), ⟨tokens, (done ++ passed).length, nesting⟩) := by
        have hpos : done.length + ((tokens.drop done.length).takeWhile
            (·.token = .newline)).length = (done ++ passed).length := by
          rw [htokens, List.drop_left, ← hpassed, List.length_append]
        rw [← moveTo_run hlength done.length, ← hpos]
        simp only [Indexed.settle, StateT.run_bind, StateT.run_get, pure_bind, if_pos hnesting]
      refine .ok (congrArg (fun s => Except.ok ((), s)) hsettle) hrun (.mk _ _ _ _ hafter) ?_
      cases passed with
      | nil =>
        obtain ⟨rfl, rfl⟩ := List.cons.inj hsplit
        exact .inl (by simp)
      | cons p passed =>
        obtain ⟨-, rfl⟩ := List.cons.inj hsplit
        refine .inr ⟨?_, rfl⟩
        simp only [List.append_eq, List.length_append, List.length_cons]
        omega

include heof hs in
/-- Looking at the current token. -/
theorem mirrors_peek : Mirrors tokens Parse.peek Indexed.peek s c
    fun t s' => s'.current.token = t ∧ Later s s' :=
  (mirrors_settle heof hs).bind fun _ _ _ hs' hsettled =>
    Mirrors.get_bind hs' (mirrors_pure hs' ⟨rfl, hsettled.elim (· ▸ Later.refl s) Advanced.later⟩)

include heof hs in
/-- Both fail at the current token. -/
theorem mirrors_fail {what : Expectation} {post : α → ParserState → Prop} :
    Mirrors tokens (Parse.fail what) (Indexed.fail what) s c post := by
  have hfail : Mirrors tokens
      (modify ParserState.settle >>= fun _ => get >>= fun s =>
        throw ⟨s.current.place, .expected what⟩)
      (Indexed.settle >>= fun _ => Indexed.current >>= fun t =>
        throw (.error ⟨t.place, .expected what⟩)) s c post :=
    (mirrors_settle heof hs).bind fun _ _ _ hs' _ =>
      Mirrors.get_bind hs' (.error rfl rfl ⟨_, hs'.current_mem, rfl⟩)
  exact hfail.congr rfl rfl

include heof hs in
theorem mirrors_next (hcurrent : s.current.token ≠ .eof) :
    Mirrors tokens (set s.next) Indexed.next s c fun _ s' => Advanced s s' := by
  cases hs with
  | mk done current rest nesting htokens =>
    obtain ⟨t, rest, rfl⟩ : ∃ t rest', rest = t :: rest' :=
      List.exists_cons_of_ne_nil ((htokens ▸ heof).rest_ne_nil hcurrent)
    have hafter : tokens = done ++ [current] ++ t :: rest := by simp [htokens]
    have hlength : (done ++ [current]).length < tokens.length := by simp [hafter]
    have hs' := Stands.mk (done ++ [current]) t rest nesting hafter
    rw [List.getLast?_concat] at hs'
    refine .ok rfl ?_ hs' ⟨Nat.lt_succ_self _, rfl⟩
    rw [← moveTo_run hlength done.length, List.length_append]
    rfl

include heof hs in
/-- Consuming the current token. Only `eof` is not left behind. -/
theorem mirrors_advance : Mirrors tokens Parse.advance Indexed.advance s c fun t s' =>
    t ∈ tokens ∧ (Advanced s s' ∨ s' = s ∧ t = s.current ∧ t.token = .eof) := by
  have hadvance : Mirrors tokens
      (modify ParserState.settle >>= fun _ => get >>= fun s => do
        unless s.current.token = .eof do set s.next
        return s.current)
      Indexed.advance s c fun t s' =>
        t ∈ tokens ∧ (Advanced s s' ∨ s' = s ∧ t = s.current ∧ t.token = .eof) := by
    refine (mirrors_settle heof hs).bind fun _ s' c' hs' hsettled => Mirrors.get_bind hs' ?_
    have hlater : Later s s' := hsettled.elim (· ▸ Later.refl s) Advanced.later
    by_cases hcurrent : s'.current.token = .eof
    · rw [if_pos hcurrent, if_pos hcurrent]
      refine mirrors_pure hs' ⟨hs'.current_mem, ?_⟩
      rcases hsettled with rfl | hsettled
      · exact .inr ⟨rfl, rfl, hcurrent⟩
      · exact .inl hsettled
    · rw [if_neg hcurrent, if_neg hcurrent]
      refine (mirrors_next heof hs' hcurrent).bind fun _ s'' _ hs'' hnext => ?_
      exact mirrors_pure hs'' ⟨hs'.current_mem, .inl (hlater.trans_advanced hnext)⟩
  exact hadvance.congr rfl rfl

/-! ### Consuming tokens -/

include heof hs in
theorem Stands.rest_eq_nil (hcurrent : s.current.token = .eof) : s.rest = [] := by
  cases hs with
  | mk done current rest nesting htokens => exact (htokens ▸ heof).rest_eq_nil hcurrent

variable {k : Token}

include heof in
/-- A token that has been looked at is left behind unless it is `eof`. -/
theorem mirrors_advance_of_ne (hs : Stands tokens s' c) (hlater : Later s s')
    (hk : s'.current.token = k) (hne : k ≠ .eof) :
    Mirrors tokens Parse.advance Indexed.advance s' c fun _ s'' => Advanced s s'' :=
  (mirrors_advance heof hs).mono fun _ _ h => hlater.trans_advanced <|
    h.2.resolve_right fun ⟨_, ht, hteof⟩ => hne (hk.symm.trans (ht ▸ hteof))

include heof hs in
theorem mirrors_check : Mirrors tokens (Parse.check k) (Indexed.check k) s c
    fun b s' => (b = true → s'.current.token = k) ∧ Later s s' :=
  (mirrors_peek heof hs).bind fun _ _ _ hs' ⟨ht, hlater⟩ =>
    mirrors_pure hs' ⟨fun hb => ht.trans (of_decide_eq_true hb), hlater⟩

include heof hs in
theorem mirrors_eat : Mirrors tokens (Parse.eat k) (Indexed.eat k) s c
    fun b s' => Later s s' ∧ (b = true → Consumed k s s') := by
  refine (mirrors_check heof hs).bind fun b s₁ c₁ hs₁ ⟨hb, hlater⟩ => ?_
  cases b with
  | false => exact mirrors_pure hs₁ ⟨hlater, nofun⟩
  | true =>
    refine (mirrors_advance heof hs₁).bind fun t s₂ c₂ hs₂ ⟨_, ht⟩ => ?_
    have hconsumed : Consumed k s₁ s₂ := by
      -- `eof` has nothing behind it, and so the parser has not moved on from it.
      rcases ht with hnext | ⟨rfl, rfl, hteof⟩
      · refine ⟨hnext.later, fun _ => hnext, fun hk => ?_⟩
        have hrest := hs₁.rest_eq_nil heof ((hb rfl).trans hk)
        exact absurd hnext.lt (by simp [hrest])
      · exact ⟨.refl _, fun hk => absurd ((hb rfl).symm.trans hteof) hk, fun _ => hteof⟩
    exact mirrors_pure hs₂ ⟨hlater.trans hconsumed.later, fun _ => hlater.trans_consumed hconsumed⟩

include heof hs in
theorem mirrors_expect {what : Expectation} :
    Mirrors tokens (Parse.expect k what) (Indexed.expect k what) s c
      fun _ s' => Consumed k s s' := by
  refine (mirrors_eat heof hs).bind fun b s₁ c₁ hs₁ ⟨_, hb⟩ => ?_
  cases b with
  | false => exact mirrors_fail heof hs₁
  | true => exact mirrors_pure hs₁ (hb rfl)

include heof hs in
theorem mirrors_name {what : Expectation} :
    Mirrors tokens (Parse.name what) (Indexed.name what) s c fun _ s' => Advanced s s' := by
  refine (mirrors_peek heof hs).bind fun t s₁ c₁ hs₁ ⟨ht, hlater⟩ => ?_
  cases t
  case ident x =>
    exact (mirrors_advance_of_ne heof hs₁ hlater ht Token.noConfusion).bind
      fun _ s₂ c₂ hs₂ hnext => mirrors_pure hs₂ hnext
  all_goals exact mirrors_fail heof hs₁

include heof in
/-- Skipping tokens ends in front of `eof`, before the bound is reached. -/
theorem mirrors_skipWhile {skips : Token → Bool} (hskips : skips .eof = false) {n : Nat}
    (hs : Stands tokens s c) (hn : s.rest.length < n) :
    Mirrors tokens (Parse.skipWhile skips n) (Indexed.skipWhile skips n) s c
      fun _ s' => Later s s' := by
  induction n generalizing s c with
  | zero => exact absurd hn (Nat.not_lt_zero _)
  | succ n ih =>
    refine (mirrors_peek heof hs).bind fun t s₁ c₁ hs₁ ⟨ht, hlater⟩ => ?_
    by_cases hskip : skips t = true
    · have hne : t ≠ .eof := by
        rintro rfl
        rw [hskips] at hskip
        cases hskip
      rw [if_pos hskip, if_pos hskip]
      refine (mirrors_advance_of_ne heof hs₁ hlater ht hne).bind fun _ s₂ c₂ hs₂ hnext => ?_
      have hlt : s₂.rest.length < n := by
        have := hnext.lt
        omega
      exact (ih hs₂ hlt).mono fun _ _ h => hnext.later.trans h
    · rw [if_neg hskip, if_neg hskip]
      exact mirrors_pure hs₁ hlater

include hs in
theorem mirrors_remaining : Mirrors tokens Parse.remaining Indexed.remaining s c
    fun n s' => n = s.rest.length + 1 ∧ s' = s := by
  cases hs with
  | mk done current rest nesting htokens =>
    have hlength : tokens.length - done.length = rest.length + 1 := by simp [htokens]
    refine .ok rfl ?_ (.mk done current rest nesting htokens) ⟨rfl, rfl⟩
    change Except.ok (tokens.length - done.length, _) = _
    rw [hlength]

include heof hs in
theorem mirrors_skipSeparators :
    Mirrors tokens Parse.skipSeparators Indexed.skipSeparators s c fun _ s' => Later s s' := by
  refine (mirrors_remaining hs).bind ?_
  rintro _ _ c' hs' ⟨rfl, rfl⟩
  exact mirrors_skipWhile heof rfl hs' (Nat.lt_succ_self _)

include heof hs in
theorem mirrors_skipNewlines :
    Mirrors tokens Parse.skipNewlines Indexed.skipNewlines s c fun _ s' => Later s s' := by
  refine (mirrors_remaining hs).bind ?_
  rintro _ _ c' hs' ⟨rfl, rfl⟩
  exact mirrors_skipWhile heof rfl hs' (Nat.lt_succ_self _)

/-! ### Brackets -/

include hs in
theorem mirrors_openBracket :
    Mirrors tokens Parse.openBracket Indexed.openBracket s c fun _ s' => Opened s s' := by
  cases hs with
  | mk done current rest nesting htokens =>
    exact .ok rfl rfl (.mk done current rest (nesting + 1) htokens) ⟨rfl, rfl⟩

include hs in
/-- A bracket that has been opened can be closed again. -/
theorem mirrors_closeBracket {s₀ s₁ : ParserState} (hopened : Opened s₀ s₁) (hlater : Later s₁ s) :
    Mirrors tokens Parse.closeBracket Indexed.closeBracket s c fun _ s' => Later s₀ s' := by
  have hle : s.rest.length ≤ s₀.rest.length := hopened.rest ▸ hlater.le
  have hnesting : s.nesting = s₀.nesting + 1 := hlater.nesting.trans hopened.nesting
  cases hs with
  | mk done current rest nesting htokens =>
    obtain rfl : nesting = s₀.nesting + 1 := hnesting
    exact .ok rfl rfl (.mk done current rest s₀.nesting htokens) ⟨hle, rfl⟩

include heof in
theorem mirrors_params {n : Nat} (hs : Stands tokens s c) (hn : s.rest.length < n) :
    Mirrors tokens (Parse.params n) (Indexed.params n) s c fun _ s' => Later s s' := by
  induction n generalizing s c with
  | zero => exact absurd hn (Nat.not_lt_zero _)
  | succ n ih =>
    refine (mirrors_check heof hs).bind fun b s₁ c₁ hs₁ ⟨_, hlater₁⟩ => ?_
    cases b with
    | true => exact mirrors_pure hs₁ hlater₁
    | false =>
      refine (mirrors_name heof hs₁).bind fun param s₂ c₂ hs₂ hname => ?_
      refine (mirrors_eat heof hs₂).bind fun b s₃ c₃ hs₃ ⟨hlater₃, _⟩ => ?_
      have hadvanced : Advanced s s₃ := (hlater₁.trans_advanced hname).trans_later hlater₃
      cases b with
      | false => exact mirrors_pure hs₃ hadvanced.later
      | true =>
        have hlt : s₃.rest.length < n := by
          have := hadvanced.lt
          omega
        exact (ih hs₃ hlt).bind fun _ s₄ c₄ hs₄ hlater₄ =>
          mirrors_pure hs₄ (hadvanced.later.trans hlater₄)

/-! ### Statements -/

include hs in
theorem mirrors_upcomingAssign :
    Mirrors tokens Parse.upcomingAssign Indexed.upcomingAssign s c fun _ s' => s' = s := by
  cases hs with
  | mk done current rest nesting htokens =>
    have hget : tokens[done.length + 1]? = rest.head? := by
      simp [htokens, List.getElem?_append_right, List.head?_eq_getElem?]
    refine .ok rfl ?_ (.mk done current rest nesting htokens) rfl
    change Except.ok (tokens[done.length + 1]?.bind _, _) = _
    rw [hget]

include hs in
/-- What stands in front of the current token. -/
theorem Mirrors.previous_bind {f : ParserState → Parse β} {f' : Bool → Indexed β}
    {post : β → ParserState → Prop}
    (h : Mirrors tokens (f s) (f' (decide (s.previous = some .rightBrace))) s c post) :
    Mirrors tokens (get >>= f) (Indexed.behindBrace >>= f') s c post := by
  refine h.congr rfl ?_
  cases hs with
  | mk done current rest nesting htokens =>
    have hbrace : (decide (done.length ≠ 0) &&
        decide (tokens[done.length - 1]?.map (·.token) = some .rightBrace)) =
          decide (done.getLast?.map (·.token) = some .rightBrace) := by
      rcases List.eq_nil_or_concat done with rfl | ⟨done, last, rfl⟩
      · rfl
      · simp [htokens]
    rw [← hbrace]
    rfl

include hs in
/-- A statement may begin where no bracket is open. -/
theorem Mirrors.begin_bind {f' : Unit → Indexed α} (hnesting : s.nesting = 0)
    (h : Mirrors tokens m (f' ()) s c post) :
    Mirrors tokens m (Indexed.beginStatement >>= f') s c post := by
  refine h.congr rfl ?_
  cases hs with
  | mk done current rest nesting htokens =>
    obtain rfl : nesting = 0 := hnesting
    rfl

include hs in
/-- Going back to a token that has been passed. -/
theorem mirrors_restore {s₀ : ParserState} {c₀ : IndexedState} (hs₀ : Stands tokens s₀ c₀)
    (hnesting : s.nesting = s₀.nesting) :
    Mirrors tokens (set s₀) (Indexed.moveTo c₀.pos) s c fun _ s' => s' = s₀ := by
  cases hs with
  | mk done current rest nesting htokens =>
    cases hs₀ with
    | mk done₀ current₀ rest₀ nesting₀ htokens₀ =>
      obtain rfl : nesting = nesting₀ := hnesting
      have hlength : done₀.length < tokens.length := by simp [htokens₀]
      exact .ok rfl (moveTo_run hlength _ _) (.mk done₀ current₀ rest₀ nesting htokens₀) rfl

end LiveSnippet.Script
