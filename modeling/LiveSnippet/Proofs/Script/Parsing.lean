import LiveSnippet.Proofs.Script.Mirroring

/-!
# Parsing ends without a fault

Only a few calls follow one another at the same token, and then one is consumed. So eight calls for
each token are enough, and the recursion is never cut off. Along the way every bracket that is
opened is closed again, no step leaves the tokens, and whatever goes wrong goes wrong at a token:
the parser mirrors the parser by positions, which therefore has no fault.

## Main definitions

* `Suffices`: a depth of the recursion that is enough
* `ExprsMirror`, `StmtsMirror`: what is proved of expressions and of statements with all their parts
* `Answers`: a run of the parser by positions without a fault, and the answer of the parser

## Main results

* `exprsMirror`, `stmtsMirror`: expressions and statements are mirrored
* `tokensFrom_endsInEof`: what the lexer returns
* `parse_without_fault`: scripts are parsed without a fault
-/

namespace LiveSnippet.Script

/-- The depth is enough for the tokens to read from the state on, and for `rank` calls more. -/
def Suffices (rank depth : Nat) (s : ParserState) : Prop := 8 * s.rest.length + rank ≤ depth

variable {s s' : ParserState} {rank rank' d e : Nat}

/-- At the same token a call of a lower rank is possible. -/
theorem Suffices.call (h : Suffices rank (d + 1) s) (hlater : Later s s') (hrank : rank' < rank) :
    Suffices rank' d s' := by
  have := hlater.le
  rw [Suffices] at h ⊢
  omega

/-- Behind the token any call is possible. -/
theorem Suffices.callBehind (h : Suffices rank (d + 1) s) (hadvanced : Advanced s s')
    (hrank : rank' ≤ 7) : Suffices rank' d s' := by
  have := hadvanced.lt
  rw [Suffices] at h ⊢
  omega

theorem Suffices.later (h : Suffices rank d s) (hlater : Later s s') : Suffices rank d s' :=
  Nat.le_trans (Nat.add_le_add_right (Nat.mul_le_mul_left 8 hlater.le) rank) h

theorem not_suffices_zero : ¬ Suffices (rank + 1) 0 s := Nat.not_succ_le_zero _

theorem Suffices.open (h : Suffices rank d s) (hopened : Opened s s') : Suffices rank d s' := by
  rwa [Suffices, hopened.rest]

variable {tokens : List Located} (heof : EndsInEof tokens) {c : IndexedState}

/-! ### Expressions -/

/-- The parts of an expression are mirrored if the depth of the recursion is enough. -/
structure ExprsMirror (tokens : List Located) (d e : Nat) : Prop where
  expr (power : Nat) {s : ParserState} {c : IndexedState} (hs : Stands tokens s c)
    (hd : Suffices 2 d s) :
    Mirrors tokens (Parse.expr d power) (Indexed.expr e power) s c fun _ s' => Advanced s s'
  operators (power : Nat) (left : Expr) {s : ParserState} {c : IndexedState}
    (hs : Stands tokens s c) (hd : Suffices 1 d s) :
    Mirrors tokens (Parse.operators d power left) (Indexed.operators e power left) s c
      fun _ s' => Later s s'
  operand {s : ParserState} {c : IndexedState} (hs : Stands tokens s c) (hd : Suffices 1 d s) :
    Mirrors tokens (Parse.operand d) (Indexed.operand e) s c fun _ s' => Advanced s s'
  items (closing : Token) (what : Expectation) {s : ParserState} {c : IndexedState}
    (hs : Stands tokens s c) (hd : Suffices 4 d s) :
    Mirrors tokens (Parse.items d closing what) (Indexed.items e closing what) s c
      fun _ s' => Later s s'
  itemsUpTo (closing : Token) {s : ParserState} {c : IndexedState} (hs : Stands tokens s c)
    (hd : Suffices 3 d s) :
    Mirrors tokens (Parse.itemsUpTo d closing) (Indexed.itemsUpTo e closing) s c
      fun _ s' => Later s s'

namespace ExprsMirror

variable (ih : ExprsMirror tokens d e) (hs : Stands tokens s c)

include ih hs in
theorem expr_succ (power : Nat) (hd : Suffices 2 (d + 1) s) :
    Mirrors tokens (Parse.expr (d + 1) power) (Indexed.expr (e + 1) power) s c
      fun _ s' => Advanced s s' := by
  rw [Parse.expr, Indexed.expr]
  refine (ih.operand hs (hd.call (.refl s) (by decide))).bind fun left s₁ c₁ hs₁ hleft => ?_
  exact (ih.operators power left hs₁ (hd.callBehind hleft (by decide))).mono fun _ _ h =>
    hleft.trans_later h

include ih heof hs in
/-- A binary operator and what stands on its right. -/
theorem binary_succ (power : Nat) (left : Expr) (op : BinaryOp) (hcurrent : s.current.token ≠ .eof)
    (hd : Suffices 1 (d + 1) s) :
    Mirrors tokens
      (do
        if op.leftPower < power then return left
        let _ ← Parse.advance
        let right ← Parse.expr d op.rightPower
        Parse.operators d power (.binary op left right))
      (do
        if op.leftPower < power then return left
        let _ ← Indexed.advance
        let right ← Indexed.expr e op.rightPower
        Indexed.operators e power (.binary op left right))
      s c fun _ s' => Later s s' := by
  split
  · exact mirrors_pure hs (.refl s)
  · refine (mirrors_advance_of_ne heof hs (.refl s) rfl hcurrent).bind fun _ s₁ c₁ hs₁ hop => ?_
    refine (ih.expr _ hs₁ (hd.callBehind hop (by decide))).bind fun right s₂ c₂ hs₂ hright => ?_
    have hbehind : Advanced s s₂ := hop.trans_later hright.later
    exact (ih.operators power _ hs₂ (hd.callBehind hbehind (by decide))).mono fun _ _ h =>
      hbehind.later.trans h

include ih heof hs in
theorem operators_succ (power : Nat) (left : Expr) (hd : Suffices 1 (d + 1) s) :
    Mirrors tokens (Parse.operators (d + 1) power left) (Indexed.operators (e + 1) power left) s c
      fun _ s' => Later s s' := by
  rw [Parse.operators, Indexed.operators]
  refine (mirrors_peek heof hs).bind fun t s₁ c₁ hs₁ ⟨ht, hlater⟩ => ?_
  cases t
  case leftParen =>
    refine (mirrors_advance_of_ne heof hs₁ hlater ht Token.noConfusion).bind
      fun _ s₂ c₂ hs₂ hopen => ?_
    refine (ih.items _ _ hs₂ (hd.callBehind hopen (by decide))).bind fun args s₃ c₃ hs₃ hargs => ?_
    have hbehind : Advanced s s₃ := hopen.trans_later hargs
    exact (ih.operators power _ hs₃ (hd.callBehind hbehind (by decide))).mono fun _ _ h =>
      hbehind.later.trans h
  case leftBracket =>
    refine (mirrors_advance_of_ne heof hs₁ hlater ht Token.noConfusion).bind
      fun _ s₂ c₂ hs₂ hopen => ?_
    refine (mirrors_openBracket hs₂).bind fun _ s₃ c₃ hs₃ hopened => ?_
    refine (ih.expr 0 hs₃ ((hd.callBehind hopen (by decide)).open hopened)).bind
      fun subscript s₄ c₄ hs₄ hsubscript => ?_
    refine (mirrors_closeBracket hs₄ hopened hsubscript.later).bind fun _ s₅ c₅ hs₅ hclosed => ?_
    refine (mirrors_expect heof hs₅).bind fun _ s₆ c₆ hs₆ hexpect => ?_
    have hbehind : Advanced s s₆ := (hopen.trans_later hclosed).trans_later hexpect.later
    exact (ih.operators power _ hs₆ (hd.callBehind hbehind (by decide))).mono fun _ _ h =>
      hbehind.later.trans h
  case dot =>
    refine (mirrors_advance_of_ne heof hs₁ hlater ht Token.noConfusion).bind
      fun _ s₂ c₂ hs₂ hdot => ?_
    refine (mirrors_name heof hs₂).bind fun property s₃ c₃ hs₃ hname => ?_
    have hbehind : Advanced s s₃ := hdot.trans_later hname.later
    exact (ih.operators power _ hs₃ (hd.callBehind hbehind (by decide))).mono fun _ _ h =>
      hbehind.later.trans h
  case question =>
    dsimp only
    split
    · exact mirrors_pure hs₁ hlater
    refine (mirrors_advance_of_ne heof hs₁ hlater ht Token.noConfusion).bind
      fun _ s₂ c₂ hs₂ hopen => ?_
    refine (mirrors_openBracket hs₂).bind fun _ s₃ c₃ hs₃ hopened => ?_
    refine (ih.expr 0 hs₃ ((hd.callBehind hopen (by decide)).open hopened)).bind
      fun yes s₄ c₄ hs₄ hyes => ?_
    refine (mirrors_expect heof hs₄).bind fun _ s₅ c₅ hs₅ hcolon => ?_
    refine (mirrors_closeBracket hs₅ hopened (hyes.later.trans hcolon.later)).bind
      fun _ s₆ c₆ hs₆ hclosed => ?_
    have hbetween : Advanced s s₆ := hopen.trans_later hclosed
    refine (ih.expr _ hs₆ (hd.callBehind hbetween (by decide))).bind fun no s₇ c₇ hs₇ hno => ?_
    have hbehind : Advanced s s₇ := hbetween.trans_later hno.later
    exact (ih.operators power _ hs₇ (hd.callBehind hbehind (by decide))).mono fun _ _ h =>
      hbehind.later.trans h
  -- What is left is a binary operator or no operator at all.
  all_goals
    first
    | exact mirrors_pure hs₁ hlater
    | have hcurrent : s₁.current.token ≠ .eof := by rw [ht]; exact Token.noConfusion
      exact (ih.binary_succ heof hs₁ power left _ hcurrent (hd.later hlater)).mono fun _ _ h =>
        hlater.trans h

include ih heof hs in
theorem operand_succ (hd : Suffices 1 (d + 1) s) :
    Mirrors tokens (Parse.operand (d + 1)) (Indexed.operand (e + 1)) s c
      fun _ s' => Advanced s s' := by
  rw [Parse.operand, Indexed.operand]
  refine (mirrors_advance heof hs).bind fun t s₁ c₁ hs₁ ⟨hmem, hadvance⟩ => ?_
  obtain ⟨token, place⟩ := t
  have hnext (hne : token ≠ .eof) : Advanced s s₁ := hadvance.resolve_right fun h => hne h.2.2
  cases token
  case leftParen =>
    have hopen : Advanced s s₁ := hnext Token.noConfusion
    refine (mirrors_openBracket hs₁).bind fun _ s₂ c₂ hs₂ hopened => ?_
    refine (ih.expr 0 hs₂ ((hd.callBehind hopen (by decide)).open hopened)).bind
      fun inner s₃ c₃ hs₃ hinner => ?_
    refine (mirrors_closeBracket hs₃ hopened hinner.later).bind fun _ s₄ c₄ hs₄ hclosed => ?_
    refine (mirrors_expect heof hs₄).bind fun _ s₅ c₅ hs₅ hexpect => ?_
    exact mirrors_pure hs₅ ((hopen.trans_later hclosed).trans_later hexpect.later)
  case leftBracket =>
    have hopen : Advanced s s₁ := hnext Token.noConfusion
    exact (ih.items _ _ hs₁ (hd.callBehind hopen (by decide))).bind fun _ s₂ c₂ hs₂ hitems =>
      mirrors_pure hs₂ (hopen.trans_later hitems)
  case minus | plus | bang =>
    have hsign : Advanced s s₁ := hnext Token.noConfusion
    exact (ih.expr _ hs₁ (hd.callBehind hsign (by decide))).bind fun _ s₂ c₂ hs₂ hexpr =>
      mirrors_pure hs₂ (hsign.trans_later hexpr.later)
  -- What is left is a constant, a name, or a token with which no expression begins.
  all_goals first
    | exact mirrors_pure hs₁ (hnext Token.noConfusion)
    | exact .error rfl rfl ⟨_, hmem, rfl⟩

include ih heof hs in
theorem items_succ (closing : Token) (what : Expectation) (hd : Suffices 4 (d + 1) s) :
    Mirrors tokens (Parse.items (d + 1) closing what) (Indexed.items (e + 1) closing what) s c
      fun _ s' => Later s s' := by
  rw [Parse.items, Indexed.items]
  refine (mirrors_openBracket hs).bind fun _ s₁ c₁ hs₁ hopened => ?_
  refine (ih.itemsUpTo closing hs₁ ((hd.call (.refl s) (by decide)).open hopened)).bind
    fun exprs s₂ c₂ hs₂ hexprs => ?_
  refine (mirrors_closeBracket hs₂ hopened hexprs).bind fun _ s₃ c₃ hs₃ hclosed => ?_
  refine (mirrors_expect heof hs₃).bind fun _ s₄ c₄ hs₄ hexpect => ?_
  exact mirrors_pure hs₄ (hclosed.trans hexpect.later)

include ih heof hs in
theorem itemsUpTo_succ (closing : Token) (hd : Suffices 3 (d + 1) s) :
    Mirrors tokens (Parse.itemsUpTo (d + 1) closing) (Indexed.itemsUpTo (e + 1) closing) s c
      fun _ s' => Later s s' := by
  rw [Parse.itemsUpTo, Indexed.itemsUpTo]
  refine (mirrors_check heof hs).bind fun b s₁ c₁ hs₁ ⟨_, hlater⟩ => ?_
  cases b with
  | true => exact mirrors_pure hs₁ hlater
  | false =>
    refine (ih.expr 0 hs₁ (hd.call hlater (by decide))).bind fun item s₂ c₂ hs₂ hitem => ?_
    refine (mirrors_eat heof hs₂).bind fun b s₃ c₃ hs₃ ⟨hcomma, _⟩ => ?_
    have hbehind : Advanced s s₃ := (hlater.trans_advanced hitem).trans_later hcomma
    cases b with
    | false => exact mirrors_pure hs₃ hbehind.later
    | true =>
      exact (ih.itemsUpTo closing hs₃ (hd.callBehind hbehind (by decide))).bind
        fun _ s₄ c₄ hs₄ hitems => mirrors_pure hs₄ (hbehind.later.trans hitems)

end ExprsMirror

include heof in
/-- Expressions are mirrored at every depth that is enough. -/
theorem exprsMirror (d extra : Nat) : ExprsMirror tokens d (extra + d) := by
  induction d with
  | zero =>
    exact ⟨fun _ _ _ _ hd => absurd hd not_suffices_zero,
      fun _ _ _ _ _ hd => absurd hd not_suffices_zero, fun _ hd => absurd hd not_suffices_zero,
      fun _ _ _ _ _ hd => absurd hd not_suffices_zero,
      fun _ _ _ _ hd => absurd hd not_suffices_zero⟩
  | succ d ih =>
    exact ⟨fun power _ _ hs => ih.expr_succ hs power,
      fun power left _ _ hs => ih.operators_succ heof hs power left,
      fun hs => ih.operand_succ heof hs,
      fun closing what _ _ hs => ih.items_succ heof hs closing what,
      fun closing _ _ hs => ih.itemsUpTo_succ heof hs closing⟩

/-! ### Statements -/

/-- Statements and what they consist of are mirrored, with no bracket open, if the depth of the
recursion is enough. -/
structure StmtsMirror (tokens : List Located) (d e : Nat) : Prop where
  statements (closing : Token) {s : ParserState} {c : IndexedState} (hs : Stands tokens s c)
    (htop : s.nesting = 0) (hd : Suffices 4 d s) :
    Mirrors tokens (Parse.statements d closing) (Indexed.statements e closing) s c
      fun _ s' => Later s s' ∧ (s'.current.token = closing ∨ s'.current.token = .eof)
  block {s : ParserState} {c : IndexedState} (hs : Stands tokens s c) (htop : s.nesting = 0)
    (hd : Suffices 1 d s) :
    Mirrors tokens (Parse.block d) (Indexed.block e) s c fun _ s' => Later s s'
  branch {s : ParserState} {c : IndexedState} (hs : Stands tokens s c) (htop : s.nesting = 0)
    (hd : Suffices 4 d s) :
    Mirrors tokens (Parse.branch d) (Indexed.branch e) s c fun _ s' => Later s s'
  statement {s : ParserState} {c : IndexedState} (hs : Stands tokens s c) (htop : s.nesting = 0)
    (hd : Suffices 3 d s) :
    Mirrors tokens (Parse.statement d) (Indexed.statement e) s c fun _ s' => Advanced s s'

namespace StmtsMirror

variable (exprs : ExprsMirror tokens d e) (ih : StmtsMirror tokens d e) (hs : Stands tokens s c)
  (htop : s.nesting = 0)

include ih heof hs htop in
theorem statements_succ (closing : Token) (hd : Suffices 4 (d + 1) s) :
    Mirrors tokens (Parse.statements (d + 1) closing) (Indexed.statements (e + 1) closing) s c
      fun _ s' => Later s s' ∧ (s'.current.token = closing ∨ s'.current.token = .eof) := by
  rw [Parse.statements, Indexed.statements]
  refine (mirrors_skipSeparators heof hs).bind fun _ s₁ c₁ hs₁ hskip => ?_
  refine (mirrors_peek heof hs₁).bind fun t s₂ c₂ hs₂ ⟨ht, hpeek⟩ => ?_
  have hlater : Later s s₂ := hskip.trans hpeek
  by_cases hend : (decide (t = closing) || decide (t = .eof)) = true
  · rw [if_pos hend, if_pos hend]
    refine mirrors_pure hs₂ ⟨hlater, ?_⟩
    simpa [ht] using hend
  · rw [if_neg hend, if_neg hend]
    refine (ih.statement hs₂ (hlater.nesting.trans htop) (hd.call hlater (by decide))).bind
      fun stmt s₃ c₃ hs₃ hstmt => ?_
    have hbehind : Advanced s s₃ := hlater.trans_advanced hstmt
    have hrest {s' : ParserState} {c' : IndexedState} (hs' : Stands tokens s' c')
        (h : Advanced s s') :
        Mirrors tokens (do return stmt :: (← Parse.statements d closing))
          (do return stmt :: (← Indexed.statements e closing)) s' c'
          fun _ s' => Later s s' ∧ (s'.current.token = closing ∨ s'.current.token = .eof) :=
      (ih.statements closing hs' (h.nesting.trans htop) (hd.callBehind h (by decide))).bind
        fun _ _ _ hs'' ⟨hstmts, hend⟩ => mirrors_pure hs'' ⟨h.later.trans hstmts, hend⟩
    refine Mirrors.previous_bind hs₃ ?_
    dsimp only
    by_cases hbrace : s₃.previous = some .rightBrace
    · rw [if_pos hbrace, if_pos (decide_eq_true hbrace)]
      exact hrest hs₃ hbehind
    · rw [if_neg hbrace, if_neg (by simpa using hbrace)]
      refine (mirrors_peek heof hs₃).bind fun t s₄ c₄ hs₄ ⟨_, hpeek⟩ => ?_
      split
      · exact hrest hs₄ (hbehind.trans_later hpeek)
      · exact (mirrors_fail heof hs₄).bind fun _ _ _ _ => False.elim

include ih heof hs htop in
theorem block_succ (hd : Suffices 1 (d + 1) s) :
    Mirrors tokens (Parse.block (d + 1)) (Indexed.block (e + 1)) s c fun _ s' => Later s s' := by
  rw [Parse.block, Indexed.block]
  refine (mirrors_expect heof hs).bind fun _ s₁ c₁ hs₁ hopen => ?_
  have hnext : Advanced s s₁ := hopen.advanced Token.noConfusion
  refine (ih.statements .rightBrace hs₁ (hnext.nesting.trans htop)
    (hd.callBehind hnext (by decide))).bind fun stmts s₂ c₂ hs₂ ⟨hstmts, _⟩ => ?_
  refine (mirrors_expect heof hs₂).bind fun _ s₃ c₃ hs₃ hclose => ?_
  exact mirrors_pure hs₃ (hnext.later.trans (hstmts.trans hclose.later))

include ih heof hs htop in
theorem branch_succ (hd : Suffices 4 (d + 1) s) :
    Mirrors tokens (Parse.branch (d + 1)) (Indexed.branch (e + 1)) s c fun _ s' => Later s s' := by
  rw [Parse.branch, Indexed.branch]
  refine (mirrors_skipNewlines heof hs).bind fun _ s₁ c₁ hs₁ hskip => ?_
  refine (mirrors_check heof hs₁).bind fun b s₂ c₂ hs₂ ⟨_, hcheck⟩ => ?_
  have hlater : Later s s₂ := hskip.trans hcheck
  have htop₂ : s₂.nesting = 0 := hlater.nesting.trans htop
  cases b with
  | true =>
    exact (ih.block hs₂ htop₂ (hd.call hlater (by decide))).mono fun _ _ h => hlater.trans h
  | false =>
    exact (ih.statement hs₂ htop₂ (hd.call hlater (by decide))).bind fun _ s₃ c₃ hs₃ hstmt =>
      mirrors_pure hs₃ (hlater.trans hstmt.later)

include ih heof hs htop in
/-- The branch behind `else`, or the way back to the token behind the first branch. -/
theorem else_succ (condition : Expr) (yes : List Stmt) (hd : Suffices 4 d s) :
    Mirrors tokens
      (do
        Parse.skipSeparators
        if ← Parse.eat .elseWord then return Stmt.branch condition yes (← Parse.branch d)
        set s
        return Stmt.branch condition yes [])
      (do
        Indexed.skipSeparators
        if ← Indexed.eat .elseWord then return Stmt.branch condition yes (← Indexed.branch e)
        Indexed.moveTo c.pos
        return Stmt.branch condition yes [])
      s c fun _ s' => Later s s' := by
  refine (mirrors_skipSeparators heof hs).bind fun _ s₁ c₁ hs₁ hskip => ?_
  refine (mirrors_eat heof hs₁).bind fun b s₂ c₂ hs₂ ⟨helse, _⟩ => ?_
  have hlater : Later s s₂ := hskip.trans helse
  cases b with
  | true =>
    exact (ih.branch hs₂ (hlater.nesting.trans htop) (hd.later hlater)).bind
      fun _ s₃ c₃ hs₃ hno => mirrors_pure hs₃ (hlater.trans hno)
  | false =>
    refine (mirrors_restore hs₂ hs hlater.nesting).bind ?_
    rintro _ _ c₃ hs₃ rfl
    exact mirrors_pure hs₃ (.refl _)

include exprs ih heof hs htop in
theorem statement_succ (hd : Suffices 3 (d + 1) s) :
    Mirrors tokens (Parse.statement (d + 1)) (Indexed.statement (e + 1)) s c
      fun _ s' => Advanced s s' := by
  rw [Parse.statement, Indexed.statement]
  refine Mirrors.begin_bind hs htop ?_
  refine (mirrors_peek heof hs).bind fun t s₁ c₁ hs₁ ⟨ht, hlater⟩ => ?_
  cases t
  case letWord =>
    refine (mirrors_advance_of_ne heof hs₁ hlater ht Token.noConfusion).bind
      fun _ s₂ c₂ hs₂ hlet => ?_
    refine (mirrors_name heof hs₂).bind fun target s₃ c₃ hs₃ hname => ?_
    refine (mirrors_eat heof hs₃).bind fun b s₄ c₄ hs₄ ⟨hassign, _⟩ => ?_
    have hbehind : Advanced s s₄ := (hlet.trans_later hname.later).trans_later hassign
    cases b with
    | false => exact mirrors_pure hs₄ hbehind
    | true =>
      exact (exprs.expr 0 hs₄ (hd.callBehind hbehind (by decide))).bind
        fun _ s₅ c₅ hs₅ hexpr => mirrors_pure hs₅ (hbehind.trans_later hexpr.later)
  case ifWord =>
    refine (mirrors_advance_of_ne heof hs₁ hlater ht Token.noConfusion).bind
      fun _ s₂ c₂ hs₂ hif => ?_
    refine (mirrors_expect heof hs₂).bind fun _ s₃ c₃ hs₃ hparen => ?_
    have hopen : Advanced s s₃ := hif.trans_later hparen.later
    refine (mirrors_openBracket hs₃).bind fun _ s₄ c₄ hs₄ hopened => ?_
    refine (exprs.expr 0 hs₄ ((hd.callBehind hopen (by decide)).open hopened)).bind
      fun condition s₅ c₅ hs₅ hcondition => ?_
    refine (mirrors_closeBracket hs₅ hopened hcondition.later).bind fun _ s₆ c₆ hs₆ hclosed => ?_
    refine (mirrors_expect heof hs₆).bind fun _ s₇ c₇ hs₇ hexpect => ?_
    have hhead : Advanced s s₇ := (hopen.trans_later hclosed).trans_later hexpect.later
    refine (ih.branch hs₇ (hhead.nesting.trans htop) (hd.callBehind hhead (by decide))).bind
      fun yes s₈ c₈ hs₈ hyes => ?_
    have hbranch : Advanced s s₈ := hhead.trans_later hyes
    have helse := ih.else_succ heof hs₈ (hbranch.nesting.trans htop) condition yes
      (hd.callBehind hbranch (by decide))
    exact (helse.mono fun _ _ h => hbranch.trans_later h).congr rfl rfl
  case functionWord =>
    refine (mirrors_advance_of_ne heof hs₁ hlater ht Token.noConfusion).bind
      fun _ s₂ c₂ hs₂ hfunction => ?_
    refine (mirrors_name heof hs₂).bind fun function s₃ c₃ hs₃ hname => ?_
    refine (mirrors_expect heof hs₃).bind fun _ s₄ c₄ hs₄ hparen => ?_
    have hopen : Advanced s s₄ := (hfunction.trans_later hname.later).trans_later hparen.later
    refine (mirrors_openBracket hs₄).bind fun _ s₅ c₅ hs₅ hopened => ?_
    refine (mirrors_remaining hs₅).bind ?_
    rintro _ _ c₆ hs₆ ⟨rfl, rfl⟩
    refine (mirrors_params heof hs₆ (Nat.lt_succ_self _)).bind fun params s₇ c₇ hs₇ hparams => ?_
    refine (mirrors_closeBracket hs₇ hopened hparams).bind fun _ s₈ c₈ hs₈ hclosed => ?_
    refine (mirrors_expect heof hs₈).bind fun _ s₉ c₉ hs₉ hexpect => ?_
    refine (mirrors_skipNewlines heof hs₉).bind fun _ s₁₀ c₁₀ hs₁₀ hskip => ?_
    have hhead : Advanced s s₁₀ :=
      (hopen.trans_later hclosed).trans_later (hexpect.later.trans hskip)
    exact (ih.block hs₁₀ (hhead.nesting.trans htop) (hd.callBehind hhead (by decide))).bind
      fun _ s₁₁ c₁₁ hs₁₁ hblock => mirrors_pure hs₁₁ (hhead.trans_later hblock)
  case returnWord =>
    refine (mirrors_advance_of_ne heof hs₁ hlater ht Token.noConfusion).bind
      fun _ s₂ c₂ hs₂ hreturn => ?_
    refine (mirrors_peek heof hs₂).bind fun t s₃ c₃ hs₃ ⟨_, hpeek⟩ => ?_
    have hbehind : Advanced s s₃ := hreturn.trans_later hpeek
    split
    · exact mirrors_pure hs₃ hbehind
    · exact (exprs.expr 0 hs₃ (hd.callBehind hbehind (by decide))).bind
        fun _ s₄ c₄ hs₄ hexpr => mirrors_pure hs₄ (hbehind.trans_later hexpr.later)
  case ident target =>
    refine (mirrors_upcomingAssign hs₁).bind ?_
    rintro op _ c₂ hs₂ rfl
    cases op with
    | none =>
      exact (exprs.expr 0 hs₂ (hd.call hlater (by decide))).bind fun _ s₃ c₃ hs₃ hexpr =>
        mirrors_pure hs₃ (hlater.trans_advanced hexpr)
    | some op =>
      refine (mirrors_advance_of_ne heof hs₂ hlater ht Token.noConfusion).bind
        fun _ s₃ c₃ hs₃ htarget => ?_
      refine (mirrors_advance heof hs₃).bind fun _ s₄ c₄ hs₄ ⟨_, hop⟩ => ?_
      have hbehind : Advanced s s₄ := hop.elim (fun h => htarget.trans_later h.later)
        fun ⟨heq, _⟩ => heq ▸ htarget
      exact (exprs.expr 0 hs₄ (hd.callBehind hbehind (by decide))).bind
        fun _ s₅ c₅ hs₅ hexpr => mirrors_pure hs₅ (hbehind.trans_later hexpr.later)
  all_goals
    exact (exprs.expr 0 hs₁ (hd.call hlater (by decide))).bind fun _ s₂ c₂ hs₂ hexpr =>
      mirrors_pure hs₂ (hlater.trans_advanced hexpr)

end StmtsMirror

include heof in
/-- Statements are mirrored at every depth that is enough. -/
theorem stmtsMirror (d extra : Nat) : StmtsMirror tokens d (extra + d) := by
  induction d with
  | zero =>
    exact ⟨fun _ _ _ _ _ hd => absurd hd not_suffices_zero,
      fun _ _ hd => absurd hd not_suffices_zero, fun _ _ hd => absurd hd not_suffices_zero,
      fun _ _ hd => absurd hd not_suffices_zero⟩
  | succ d ih =>
    exact ⟨fun closing _ _ hs htop => ih.statements_succ heof hs htop closing,
      fun hs htop => ih.block_succ heof hs htop, fun hs htop => ih.branch_succ heof hs htop,
      fun hs htop => ih.statement_succ heof (exprsMirror heof d extra) hs htop⟩

/-! ### Scripts -/

theorem wordToken_ne_eof (word : Text) : wordToken word ≠ .eof := by
  unfold wordToken
  split_ifs <;> exact Token.noConfusion

theorem symbol?_ne_eof {first : Char} {rest : Text} {token : Token} {n : Nat}
    (h : symbol? first rest = some (token, n)) : token ≠ .eof := by
  rintro rfl
  unfold symbol? at h
  split at h
  all_goals grind

theorem numberToken_ne_eof {literal : Text} {token : Token}
    (h : numberToken literal = .ok token) : token ≠ .eof := by
  unfold numberToken at h
  dsimp only at h
  split at h
  · cases h
    exact Token.noConfusion
  · cases h

theorem scanToken_ne_eof {place : Place} {first : Char} {rest : Text} {token : Token}
    {cursor : Cursor} (h : scanToken place first rest = .ok (token, cursor)) : token ≠ .eof := by
  unfold scanToken at h
  dsimp only at h
  split_ifs at h
  · split at h
    · rename_i hnumber
      cases h
      exact numberToken_ne_eof hnumber
    · cases h
  · split at h
    · cases h
      exact Token.noConfusion
    · cases h
  · cases h
    exact wordToken_ne_eof _
  · split at h
    · rename_i hsymbol
      cases h
      exact symbol?_ne_eof hsymbol
    · cases h

/-- The lexer returns tokens of which the last is `eof`, and no other. -/
theorem tokensFrom_endsInEof {place : Place} {text : Text}
    (h : tokensFrom place text = .ok tokens) : EndsInEof tokens := by
  fun_induction tokensFrom place text generalizing tokens with
  | case1 => cases h
  | case2 place text start =>
    cases h
    exact ⟨[], start, rfl, nofun⟩
  | case3 => cases h
  | case4 place text start first rest _ token cursor htoken ih =>
    cases htail : tokensFrom cursor.place cursor.rest with
    | error e => simp [htail, Except.map] at h
    | ok tail =>
      obtain ⟨init, last, rfl, hinit⟩ := ih htail
      simp only [htail, Except.map, Except.ok.injEq] at h
      subst h
      refine ⟨⟨token, start⟩ :: init, last, rfl, ?_⟩
      exact List.forall_mem_cons.2 ⟨scanToken_ne_eof htoken, hinit⟩

/-- What a run of the parser by positions says about the answer of the parser: it gives the same,
and has read all tokens up to `eof` with no bracket open, or it stops with the same error, which is
at one of the tokens. -/
def Answers {α : Type} (tokens : List Located) (run : Except Stop (α × IndexedState))
    (answer : Except ParseError α) : Prop :=
  (∃ a, run = .ok (a, ⟨tokens, tokens.length - 1, 0⟩) ∧ answer = .ok a) ∨
    ∃ e, run = .error (.error e) ∧ answer = .error e ∧ ∃ t ∈ tokens, e.place = t.place

theorem Mirrors.answers {α : Type} {m : Parse α} {m' : Indexed α} (heof : EndsInEof tokens)
    (h : Mirrors tokens m m' (ParserState.ofTokens tokens) ⟨tokens, 0, 0⟩
      fun _ s' => s'.nesting = 0 ∧ s'.current.token = .eof) :
    Answers tokens (m'.run ⟨tokens, 0, 0⟩) (m.run' (ParserState.ofTokens tokens)) := by
  cases h with
  | @ok a s' c' hm hm' hs hpost =>
    have hrest : s'.rest = [] := hs.rest_eq_nil heof hpost.2
    have hc : c' = ⟨tokens, tokens.length - 1, 0⟩ := by
      cases hs with
      | mk done current rest nesting htokens =>
        obtain rfl : rest = [] := hrest
        obtain rfl : nesting = 0 := hpost.1
        simp [htokens]
    exact .inl ⟨a, hc ▸ hm', by rw [StateT.run'_eq, hm]; rfl⟩
  | @error e hm hm' hplace => exact .inr ⟨e, hm', by rw [StateT.run'_eq, hm]; rfl, hplace⟩

include heof in
theorem stands_ofTokens : Stands tokens (ParserState.ofTokens tokens) ⟨tokens, 0, 0⟩ := by
  obtain ⟨init, place, htokens, -⟩ := heof
  cases tokens with
  | nil => simp at htokens
  | cons t rest => exact .mk [] t rest 0 rfl

theorem suffices_depthBound (tokens : List Located) (hrank : rank ≤ 8) :
    Suffices rank (depthBound tokens) (ParserState.ofTokens tokens) := by
  rw [Suffices, depthBound]
  cases tokens with
  | nil => simpa [ParserState.ofTokens] using hrank
  | cons t rest =>
    simp only [ParserState.ofTokens, List.length_cons]
    omega

theorem ofTokens_nesting (tokens : List Located) : (ParserState.ofTokens tokens).nesting = 0 := by
  cases tokens <;> rfl

include heof in
theorem program_answers (extra : Nat) :
    Answers tokens ((Indexed.program (extra + depthBound tokens)).run ⟨tokens, 0, 0⟩)
      ((parseTokens tokens).map Program.mk) := by
  have hs := stands_ofTokens heof
  have hmirrors : Mirrors tokens
      (do return ⟨← Parse.statements (depthBound tokens) .eof⟩)
      (Indexed.program (extra + depthBound tokens))
      (ParserState.ofTokens tokens) ⟨tokens, 0, 0⟩
      fun _ s' => s'.nesting = 0 ∧ s'.current.token = .eof :=
    ((stmtsMirror heof (depthBound tokens) extra).statements .eof hs (ofTokens_nesting tokens)
      (suffices_depthBound tokens (by decide))).bind fun _ s₁ c₁ hs₁ ⟨hlater, hend⟩ =>
        mirrors_pure hs₁ ⟨hlater.nesting.trans (ofTokens_nesting tokens), hend.elim id id⟩
  have hanswers := hmirrors.answers heof
  rw [StateT.run'_eq, StateT.run_bind] at hanswers
  rw [parseTokens, StateT.run'_eq]
  cases hrun : (Parse.statements (depthBound tokens) .eof).run (ParserState.ofTokens tokens) with
  | ok result => rwa [hrun] at hanswers
  | error e => rwa [hrun] at hanswers

include heof in
theorem expression_answers (extra : Nat) :
    Answers tokens ((Indexed.expression (extra + depthBound tokens)).run ⟨tokens, 0, 0⟩)
      ((do
        Parse.skipSeparators
        let expr ← Parse.expr (depthBound tokens) 0
        Parse.skipSeparators
        Parse.expect .eof .endOfExpression
        return expr : Parse Expr).run' (ParserState.ofTokens tokens)) := by
  refine Mirrors.answers heof ?_
  have hs := stands_ofTokens heof
  refine (mirrors_skipSeparators heof hs).bind fun _ s₁ c₁ hs₁ hskip => ?_
  have hd : Suffices 2 (depthBound tokens) s₁ :=
    (suffices_depthBound tokens (by decide)).later hskip
  refine ((exprsMirror heof (depthBound tokens) extra).expr 0 hs₁ hd).bind
    fun expr s₂ c₂ hs₂ hexpr => ?_
  refine (mirrors_skipSeparators heof hs₂).bind fun _ s₃ c₃ hs₃ hskip' => ?_
  refine (mirrors_expect heof hs₃).bind fun _ s₄ c₄ hs₄ hend => ?_
  have hlater : Later (ParserState.ofTokens tokens) s₄ :=
    (hskip.trans hexpr.later).trans (hskip'.trans hend.later)
  exact mirrors_pure hs₄ ⟨hlater.nesting.trans (ofTokens_nesting tokens), hend.current rfl⟩

/-- Scripts are parsed without a fault. Either the lexer fails, and the parser with it, or the
parser by positions gives the answer of the parser, whatever is added to the bound of its
recursion. -/
theorem parse_without_fault (source : Text) :
    (∃ e, tokenize source = .error e ∧ parseProgram source = .error e ∧
      parseExpression source = .error e) ∨
    ∃ tokens, tokenize source = .ok tokens ∧ EndsInEof tokens ∧ ∀ extra,
      Answers tokens ((Indexed.program (extra + depthBound tokens)).run ⟨tokens, 0, 0⟩)
        (parseProgram source) ∧
      Answers tokens ((Indexed.expression (extra + depthBound tokens)).run ⟨tokens, 0, 0⟩)
        (parseExpression source) := by
  cases htokens : tokenize source with
  | error e =>
    refine .inl ⟨e, rfl, ?_, ?_⟩
    · rw [parseProgram, htokens]; rfl
    · rw [parseExpression, htokens]; rfl
  | ok tokens =>
    have heof := tokensFrom_endsInEof htokens
    refine .inr ⟨tokens, rfl, heof, fun extra => ⟨?_, ?_⟩⟩
    · rw [parseProgram, htokens]
      exact program_answers heof extra
    · rw [parseExpression, htokens]
      exact expression_answers heof extra

/-- Tokens that no lexer returns are left where `eof` is missing. -/
example : (Indexed.program 16).run ⟨[⟨.ident ['x'], ⟨1, 1⟩⟩], 0, 0⟩ = .error (.fault .pastEnd) := by
  rfl

end LiveSnippet.Script
