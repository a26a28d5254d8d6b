import LiveSnippet.Proofs.Script.Expressions

/-!
# Reading back programs

The parser is a left inverse of the printer: from the tokens of a program it gets the program, and no
token is left but the end of the input. This holds whatever separators follow the statements, and
wherever the tokens stand in a text.

A closing brace needs no separator behind it, and behind a branch the parser looks past separators
for an `else`. Neither can go wrong: a separator follows every statement, and what follows the
separator is never an `else` or another separator.

## Main definitions

* `Token.beginsStatement`: what follows a separator, unless the statements end there
* `Stmt.Readable`: the parser reads back the statement

## Main results

* `reads_statements`: statements are read back if each of them is
* `Stmt.readable`: every statement is readable
* `Program.statements_tokens`: every program is read back
-/

namespace LiveSnippet.Script

open Parse

variable {e : Expr} {stmt : Stmt} {stmts : List Stmt} {ends : Site → Separator} {site : Site}
  {d n i : Nat} {t : Token} {us : List Token}

/-- The tokens with which a statement can begin. -/
def Token.beginsStatement : Token → Bool
  | letWord | ifWord | functionWord | returnWord => true
  | t => t.beginsOperand

/-- The tokens that end a list of statements. -/
def Token.endsStatements : Token → Bool
  | rightBrace | eof => true
  | _ => false

namespace Token

theorem beginsStatement_of_beginsOperand (h : t.beginsOperand = true) : t.beginsStatement = true := by
  cases t <;> simp_all [beginsStatement, beginsOperand]

/-- What follows a separator: a statement or the end of the statements. -/
def FollowsSeparator (t : Token) : Prop := t.beginsStatement = true ∨ t.endsStatements = true

theorem FollowsSeparator.ne_separator (h : t.FollowsSeparator) : t ≠ .newline ∧ t ≠ .semicolon := by
  rcases h with h | h <;> cases t <;> simp_all [beginsStatement, beginsOperand, endsStatements]

theorem FollowsSeparator.ne_elseWord (h : t.FollowsSeparator) : t ≠ .elseWord := by
  rcases h with h | h <;> cases t <;> simp_all [beginsStatement, beginsOperand, endsStatements]

theorem ne_of_endsStatements {k : Token} (ht : t.beginsStatement = true)
    (hk : k.endsStatements = true) : t ≠ k := by
  rintro rfl
  cases t <;> simp_all [beginsStatement, beginsOperand, endsStatements]

end Token

theorem Separator.isClosing_token (s : Separator) : s.token.isClosing = true := by
  cases s <;> rfl

namespace Parse

/-- Separators are passed over. -/
theorem reads_skipSeparators {passed : List Separator} (ht : t ≠ .newline ∧ t ≠ .semicolon) :
    skipSeparators.Reads ⟨passed.map Separator.token ++ t :: us, 0⟩ ⟨⟩ ⟨t :: us, 0⟩ := by
  refine reads_remaining.bind (reads_skipWhile ?_ ?_ ?_)
  · intro k hk
    obtain ⟨s, -, rfl⟩ := List.mem_map.mp hk
    cases s <;> exact ⟨rfl, Token.noConfusion⟩
  · simp [ht]
  · simp

theorem reads_skipNewlines (ht : t ≠ .newline) :
    skipNewlines.Reads ⟨t :: us, 0⟩ ⟨⟩ ⟨t :: us, 0⟩ :=
  reads_remaining.bind (reads_skipWhile (List.forall_mem_nil _) (by simp [ht]) (by simp))

theorem reads_upcomingAssign {t' : Token} :
    upcomingAssign.Reads ⟨t :: t' :: us, n⟩ (assignOp? t') ⟨t :: t' :: us, n⟩ := by
  intro s hs
  refine ⟨s, ?_, hs⟩
  obtain ⟨previous, current, rest, nesting⟩ := s
  cases rest with
  | nil => simp [ParserState.standing] at hs
  | cons l rest =>
    have hl : l.token = t' := by simp_all [ParserState.standing]
    exact hl ▸ rfl

theorem length_le_separateByCommas (ps : List Text) :
    ps.length ≤ (separateByCommas (ps.map fun p => [Token.ident p])).length := by
  induction ps with
  | nil => exact Nat.zero_le _
  | cons p ps ih =>
    cases ps with
    | nil => exact le_rfl
    | cons p₁ ps =>
      simp only [List.map_cons, separateByCommas, List.length_append, List.length_cons] at ih ⊢
      omega

/-- Names separated by commas, up to a closing parenthesis. -/
theorem reads_params {ps : List Text} {k : Nat} (hk : ps.length ≤ k) :
    (params k).Reads ⟨separateByCommas (ps.map fun p => [.ident p]) ++ .rightParen :: us, n⟩ ps
      ⟨.rightParen :: us, n⟩ := by
  have hsettled : Standing.Settled n .rightParen := fun _ => Token.noConfusion
  induction ps generalizing k with
  | nil =>
    cases k with
    | zero => exact reads_pure _ _
    | succ k =>
      refine (reads_check _ hsettled).bind ?_
      rw [if_pos (decide_eq_true rfl)]
      exact reads_pure _ _
  | cons p ps ih =>
    obtain ⟨k, rfl⟩ := Nat.exists_eq_add_of_le' (show 1 ≤ k from Nat.le_of_lt_succ (by simp_all; omega))
    rw [params]
    cases ps with
    | nil =>
      refine (reads_check _ fun _ => Token.noConfusion).bind ?_
      rw [if_neg (by simp)]
      refine (reads_name p _ (by simp)).bind ?_
      exact (reads_eat_of_ne hsettled Token.noConfusion).bind (reads_pure _ _)
    | cons p₁ ps =>
      refine (reads_check _ fun _ => Token.noConfusion).bind ?_
      rw [if_neg (by simp)]
      refine (reads_name p _ (by simp)).bind ?_
      refine (reads_eat (fun _ => Token.noConfusion) Token.noConfusion (by simp)).bind ?_
      exact (ih (Nat.le_of_succ_le_succ hk)).bind (reads_pure _ _)

end Parse

/-! ### Telling statements apart -/

/-- No assignment operator is among the tokens. -/
def unassigning (ts : List Token) : Bool := ts.all fun t => (assignOp? t).isNone

@[simp] theorem unassigning_nil : unassigning [] = true := rfl

@[simp] theorem unassigning_cons (t : Token) (ts : List Token) :
    unassigning (t :: ts) = ((assignOp? t).isNone && unassigning ts) := List.all_cons

@[simp] theorem unassigning_append (ts us : List Token) :
    unassigning (ts ++ us) = (unassigning ts && unassigning us) := List.all_append

theorem unassigning_separateByCommas {es : List Expr}
    (h : ∀ e ∈ es, unassigning e.tokens = true) :
    unassigning (separateByCommas (es.map Expr.tokens)) = true := by
  induction es with
  | nil => rfl
  | cons e es ih =>
    obtain ⟨he, hes⟩ := List.forall_mem_cons.mp h
    have hrest := ih hes
    cases es with
    | nil => exact he
    | cons e₁ es =>
      rw [List.map_cons] at hrest
      simp [separateByCommas, he, hrest, assignOp?]

theorem unassigning_guarded (p : Nat) (e : Expr) (ts : List Token) :
    unassigning (e.guarded p ts) = unassigning ts := by
  rw [Expr.guarded]
  split_ifs
  · simp [assignOp?]
  · rfl

/-- No assignment operator is among the tokens of an expression. -/
theorem unassigning_tokens : ∀ e : Expr, unassigning e.tokens = true
  | .literal l => by
    cases l with
    | bool b => cases b <;> simp [Expr.tokens, Literal.token, assignOp?]
    | _ => simp [Expr.tokens, Literal.token, assignOp?]
  | .list items => by
    have h := unassigning_separateByCommas fun e (_ : e ∈ items) => unassigning_tokens e
    simp [Expr.tokens, Expr.tokensOfAll_eq_map, assignOp?, h]
  | .ident name => by simp [Expr.tokens, assignOp?]
  | .member receiver name => by
    simp [Expr.tokens, assignOp?, unassigning_guarded, unassigning_tokens receiver]
  | .index receiver subscript => by
    simp [Expr.tokens, assignOp?, unassigning_guarded, unassigning_tokens receiver,
      unassigning_tokens subscript]
  | .call callee args => by
    have h := unassigning_separateByCommas fun e (_ : e ∈ args) => unassigning_tokens e
    simp [Expr.tokens, Expr.tokensOfAll_eq_map, assignOp?, unassigning_guarded,
      unassigning_tokens callee, h]
  | .unary op operand => by
    cases op <;>
      simp [Expr.tokens, UnaryOp.token, assignOp?, unassigning_guarded, unassigning_tokens operand]
  | .binary op left right => by
    have hop : (assignOp? op.token).isNone = true := by cases op <;> rfl
    simp [Expr.tokens, hop, unassigning_guarded, unassigning_tokens left, unassigning_tokens right]
  | .conditional condition yes no => by
    simp [Expr.tokens, assignOp?, unassigning_guarded, unassigning_tokens condition,
      unassigning_tokens yes, unassigning_tokens no]

@[simp] theorem assignOp?_token (op : AssignOp) : assignOp? op.token = some op := by
  cases op <;> rfl

theorem Stmt.exists_tokens_eq (ends : Site → Separator) (site : Site) (stmt : Stmt) :
    ∃ t ts, stmt.tokens ends site = t :: ts ∧ t.beginsStatement = true := by
  have hexpr : ∀ e : Expr, ∃ t ts, e.tokens = t :: ts ∧ t.beginsStatement = true := by
    intro e
    obtain ⟨t, ts, htokens, ht⟩ := e.beginsOperand_tokens
    exact ⟨t, ts, htokens, Token.beginsStatement_of_beginsOperand ht⟩
  cases stmt with
  | declare name value => cases value <;> exact ⟨.letWord, _, by rw [tokens], rfl⟩
  | assign name op value => exact ⟨.ident name, _, by rw [tokens], rfl⟩
  | branch condition yes no => exact ⟨.ifWord, _, by rw [tokens]; rfl, rfl⟩
  | function name params body => exact ⟨.functionWord, _, by rw [tokens]; rfl, rfl⟩
  | result value => cases value <;> exact ⟨.returnWord, _, by rw [tokens], rfl⟩
  | expr value =>
    rw [tokens]
    exact hexpr value

/-! ### Statements -/

namespace Stmt

/-- The parser reads back the statement, behind which there is a separator and then a statement or
the end of the statements. -/
structure Readable (stmt : Stmt) : Prop where
  reads_statement : ∀ {ends : Site → Separator} {site : Site} {d : Nat} {sep : Separator}
    {t : Token} {us : List Token},
    t.FollowsSeparator → 8 * (stmt.tokens ends site).length + 1 < d →
    (Parse.statement d).Reads ⟨stmt.tokens ends site ++ sep.token :: t :: us, 0⟩ stmt
      ⟨sep.token :: t :: us, 0⟩

theorem readable_declare_none (name : Text) : (declare name none).Readable := by
  refine ⟨fun {ends site d sep t us} _ hd => ?_⟩
  have hsep : sep.token ≠ .assign := by cases sep <;> exact Token.noConfusion
  obtain ⟨d, rfl⟩ := Nat.exists_eq_add_of_le' (show 1 ≤ d by omega)
  rw [tokens, statement]
  refine (reads_peek (Standing.settled_zero _)).bind ?_
  refine Reads.advance_bind (Standing.settled_zero _) Token.noConfusion (by simp) fun _ => ?_
  refine (reads_name name _ (by simp)).bind ?_
  exact (reads_eat_of_ne (Standing.settled_zero _) hsep).bind (reads_pure _ _)

theorem readable_declare_some (name : Text) (e : Expr) : (declare name (some e)).Readable := by
  refine ⟨fun {ends site d sep t us} _ hd => ?_⟩
  rw [tokens] at hd ⊢
  simp only [List.length_cons] at hd
  obtain ⟨d, rfl⟩ := Nat.exists_eq_add_of_le' (show 1 ≤ d by omega)
  rw [statement]
  refine (reads_peek (Standing.settled_zero _)).bind ?_
  refine Reads.advance_bind (Standing.settled_zero _) Token.noConfusion (by simp) fun _ => ?_
  refine (reads_name name _ (by simp)).bind ?_
  refine (reads_eat (Standing.settled_zero _) Token.noConfusion (by simp)).bind ?_
  exact (e.reads_tokens sep.isClosing_token (Standing.settled_zero _) (by omega)).bind
    (reads_pure _ _)

theorem readable_assign (name : Text) (op : AssignOp) (e : Expr) : (assign name op e).Readable := by
  refine ⟨fun {ends site d sep t us} _ hd => ?_⟩
  have hop : op.token ≠ .eof := by cases op <;> exact Token.noConfusion
  rw [tokens] at hd ⊢
  simp only [List.length_cons] at hd
  obtain ⟨d, rfl⟩ := Nat.exists_eq_add_of_le' (show 1 ≤ d by omega)
  rw [statement]
  refine (reads_peek (Standing.settled_zero _)).bind ?_
  refine reads_upcomingAssign.bind ?_
  rw [assignOp?_token]
  refine Reads.advance_bind (Standing.settled_zero _) Token.noConfusion (by simp) fun _ => ?_
  refine Reads.advance_bind (Standing.settled_zero _) hop (by simp) fun _ => ?_
  exact (e.reads_tokens sep.isClosing_token (Standing.settled_zero _) (by omega)).bind
    (reads_pure _ _)

theorem readable_result_none : (result none).Readable := by
  refine ⟨fun {ends site d sep t us} _ hd => ?_⟩
  have hsep : endsStatement .rightBrace sep.token = true := by cases sep <;> rfl
  obtain ⟨d, rfl⟩ := Nat.exists_eq_add_of_le' (show 1 ≤ d by omega)
  rw [tokens, statement]
  refine (reads_peek (Standing.settled_zero _)).bind ?_
  refine Reads.advance_bind (Standing.settled_zero _) Token.noConfusion (by simp) fun _ => ?_
  refine (reads_peek (Standing.settled_zero _)).bind ?_
  rw [if_pos hsep]
  exact reads_pure _ _

theorem readable_result_some (e : Expr) : (result (some e)).Readable := by
  refine ⟨fun {ends site d sep t us} _ hd => ?_⟩
  rw [tokens] at hd ⊢
  simp only [List.length_cons] at hd
  obtain ⟨d, rfl⟩ := Nat.exists_eq_add_of_le' (show 1 ≤ d by omega)
  have hexpr : (Parse.expr d 0).Reads ⟨e.tokens ++ sep.token :: t :: us, 0⟩ e
      ⟨sep.token :: t :: us, 0⟩ :=
    e.reads_tokens sep.isClosing_token (Standing.settled_zero _) (by omega)
  obtain ⟨t₀, ts, htokens, hfirst⟩ := e.beginsOperand_tokens
  have hends : endsStatement .rightBrace t₀ = false := by
    cases t₀ <;> simp_all [endsStatement, Token.beginsOperand]
  rw [htokens] at hexpr ⊢
  rw [statement]
  refine (reads_peek (Standing.settled_zero _)).bind ?_
  refine Reads.advance_bind (Standing.settled_zero _) Token.noConfusion (by simp) fun _ => ?_
  refine (reads_peek (Standing.settled_zero _)).bind ?_
  rw [if_neg (by simp [hends])]
  exact hexpr.bind (reads_pure _ _)

theorem readable_expr (e : Expr) : (Stmt.expr e).Readable := by
  refine ⟨fun {ends site d sep t us} _ hd => ?_⟩
  rw [tokens] at hd ⊢
  obtain ⟨d, rfl⟩ := Nat.exists_eq_add_of_le' (show 1 ≤ d by omega)
  have hexpr : (Parse.expr d 0 >>= fun v => pure (Stmt.expr v)).Reads
      ⟨e.tokens ++ sep.token :: t :: us, 0⟩ (.expr e) ⟨sep.token :: t :: us, 0⟩ :=
    (e.reads_tokens sep.isClosing_token (Standing.settled_zero _) (by omega)).bind (reads_pure _ _)
  have hunassigning := unassigning_tokens e
  obtain ⟨t₀, ts, htokens, hfirst⟩ := e.beginsOperand_tokens
  rw [htokens, List.cons_append] at hexpr ⊢
  rw [statement]
  refine (reads_peek (Standing.settled_zero _)).bind ?_
  split
  · cases hfirst
  · cases hfirst
  · cases hfirst
  · cases hfirst
  · obtain ⟨t₁, ts', hsecond, hassign⟩ : ∃ t₁ ts', ts ++ sep.token :: t :: us = t₁ :: ts' ∧
        assignOp? t₁ = none := by
      cases ts with
      | nil => exact ⟨_, _, rfl, by cases sep <;> rfl⟩
      | cons t₁ ts => exact ⟨t₁, _, rfl, by simp_all⟩
    rw [hsecond] at hexpr ⊢
    refine reads_upcomingAssign.bind ?_
    rw [hassign]
    exact hexpr
  · exact hexpr

end Stmt

/-! ### Lists of statements -/

section StatementLists

variable {closing : Token}

theorem Stmt.exists_tokensOfAll_eq (ends : Site → Separator) (site : Site) (i : Nat)
    (stmts : List Stmt) (hclosing : closing.endsStatements = true) (us : List Token) :
    ∃ t ts, tokensOfAll ends site i stmts ++ closing :: us = t :: ts ∧ t.FollowsSeparator := by
  cases stmts with
  | nil => exact ⟨closing, us, rfl, .inr hclosing⟩
  | cons stmt stmts =>
    obtain ⟨t, ts, htokens, ht⟩ := stmt.exists_tokens_eq ends (i :: site)
    exact ⟨t, _, by rw [tokensOfAll, htokens]; rfl, .inl ht⟩

/-- Statements are read back if each of them is. -/
theorem reads_statements {passed : List Separator} (hstmts : ∀ stmt ∈ stmts, stmt.Readable)
    (hclosing : closing.endsStatements = true)
    (hd : 8 * (Stmt.tokensOfAll ends site i stmts).length + 1 < d) :
    (statements d closing).Reads
      ⟨passed.map Separator.token ++ (Stmt.tokensOfAll ends site i stmts ++ closing :: us), 0⟩ stmts
      ⟨closing :: us, 0⟩ := by
  -- By induction on the statements. The separator of each is passed over in front of the next one.
  induction stmts generalizing passed i d with
  | nil =>
    obtain ⟨d, rfl⟩ := Nat.exists_eq_add_of_le' (show 1 ≤ d by omega)
    rw [statements]
    refine (reads_skipSeparators (Token.FollowsSeparator.ne_separator (.inr hclosing))).bind ?_
    refine (reads_peek (Standing.settled_zero _)).bind ?_
    rw [if_pos (by simp)]
    exact reads_pure _ _
  | cons stmt stmts ih =>
    obtain ⟨hstmt, hstmts⟩ := List.forall_mem_cons.mp hstmts
    obtain ⟨d, rfl⟩ := Nat.exists_eq_add_of_le' (show 1 ≤ d by omega)
    rw [Stmt.tokensOfAll] at hd ⊢
    simp only [List.length_append, List.length_cons] at hd
    set sep := ends (i :: site)
    obtain ⟨t', ts', hrest, ht'⟩ := Stmt.exists_tokensOfAll_eq ends site (i + 1) stmts hclosing us
    have hread : (statement d).Reads
        ⟨stmt.tokens ends (i :: site) ++ sep.token :: t' :: ts', 0⟩ stmt
        ⟨sep.token :: t' :: ts', 0⟩ := hstmt.reads_statement ht' (by omega)
    have hreads : (statements d closing).Reads
        ⟨[sep].map Separator.token ++ (Stmt.tokensOfAll ends site (i + 1) stmts ++ closing :: us), 0⟩
        stmts ⟨closing :: us, 0⟩ := ih hstmts (by omega)
    have htail : (statements d closing >>= fun rest => pure (stmt :: rest)).Reads
        ⟨sep.token :: t' :: ts', 0⟩ (stmt :: stmts) ⟨closing :: us, 0⟩ :=
      (hrest ▸ hreads).bind (reads_pure _ _)
    obtain ⟨t, ts, htokens, ht⟩ := stmt.exists_tokens_eq ends (i :: site)
    rw [List.append_assoc, List.cons_append, hrest]
    rw [htokens, List.cons_append] at hread ⊢
    rw [statements]
    refine (reads_skipSeparators (Token.FollowsSeparator.ne_separator (.inl ht))).bind ?_
    refine (reads_peek (Standing.settled_zero _)).bind ?_
    have hne : t ≠ closing ∧ t ≠ .eof :=
      ⟨Token.ne_of_endsStatements ht hclosing, Token.ne_of_endsStatements ht rfl⟩
    rw [if_neg (by simp [hne])]
    refine hread.bind (Reads.get_bind fun s _ => ?_)
    -- A separator is not called for behind a brace, and stands there anyway.
    split_ifs
    · exact htail
    · have hends : endsStatement closing sep.token = true := by cases sep <;> rfl
      refine (reads_peek (Standing.settled_zero _)).bind ?_
      rw [if_pos hends]
      exact htail

theorem reads_block (hstmts : ∀ stmt ∈ stmts, stmt.Readable) (hus : us ≠ [])
    (hd : 8 * (Stmt.tokensOfAll ends site i stmts).length + 2 < d) :
    (block d).Reads ⟨.leftBrace :: (Stmt.tokensOfAll ends site i stmts ++ .rightBrace :: us), 0⟩
      stmts ⟨us, 0⟩ := by
  obtain ⟨d, rfl⟩ := Nat.exists_eq_add_of_le' (show 1 ≤ d by omega)
  have hbody : (statements d .rightBrace).Reads
      ⟨([] : List Separator).map Separator.token ++
        (Stmt.tokensOfAll ends site i stmts ++ .rightBrace :: us), 0⟩ stmts ⟨.rightBrace :: us, 0⟩ :=
    reads_statements hstmts rfl (by omega)
  rw [block]
  refine (reads_expect _ (Standing.settled_zero _) Token.noConfusion (by simp)).bind ?_
  refine hbody.bind ?_
  exact (reads_expect _ (Standing.settled_zero _) Token.noConfusion hus).bind (reads_pure _ _)

theorem reads_branch (hstmts : ∀ stmt ∈ stmts, stmt.Readable) (hus : us ≠ [])
    (hd : 8 * (Stmt.tokensOfAll ends site i stmts).length + 3 < d) :
    (branch d).Reads ⟨.leftBrace :: (Stmt.tokensOfAll ends site i stmts ++ .rightBrace :: us), 0⟩
      stmts ⟨us, 0⟩ := by
  obtain ⟨d, rfl⟩ := Nat.exists_eq_add_of_le' (show 1 ≤ d by omega)
  rw [branch]
  refine (reads_skipNewlines Token.noConfusion).bind ?_
  refine (reads_check _ (Standing.settled_zero _)).bind ?_
  rw [if_pos (decide_eq_true rfl)]
  exact reads_block hstmts hus (by omega)

end StatementLists

/-! ### Statements with blocks -/

namespace Stmt

theorem readable_branch (condition : Expr) {yes no : List Stmt} (hyes : ∀ stmt ∈ yes, stmt.Readable)
    (hno : ∀ stmt ∈ no, stmt.Readable) : (branch condition yes no).Readable := by
  refine ⟨fun {ends site d sep t us} ht hd => ?_⟩
  rw [tokens] at hd ⊢
  simp only [List.length_append, List.length_cons] at hd
  obtain ⟨d, rfl⟩ := Nat.exists_eq_add_of_le' (show 1 ≤ d by omega)
  simp only [List.cons_append, List.append_assoc]
  rw [statement]
  refine (reads_peek (Standing.settled_zero _)).bind ?_
  refine Reads.advance_bind (Standing.settled_zero _) Token.noConfusion (by simp) fun _ => ?_
  refine (reads_expect _ (Standing.settled_zero _) Token.noConfusion (by simp)).bind ?_
  refine reads_openBracket.bind ?_
  refine (condition.reads_tokens rfl (fun _ => Token.noConfusion) (by omega)).bind ?_
  refine reads_closeBracket.bind ?_
  refine (reads_expect _ (Standing.settled_zero _) Token.noConfusion (by simp)).bind ?_
  refine (reads_branch hyes (by simp) (by omega)).bind ?_
  refine Reads.get_bind fun saved hsaved => ?_
  cases no with
  | nil =>
    have hskip : skipSeparators.Reads ⟨[sep].map Separator.token ++ t :: us, 0⟩ ⟨⟩ ⟨t :: us, 0⟩ :=
      reads_skipSeparators ht.ne_separator
    refine hskip.bind ?_
    refine (reads_eat_of_ne (Standing.settled_zero _) ht.ne_elseWord).bind ?_
    exact hsaved ▸ (reads_set saved _).bind (reads_pure _ _)
  | cons stmt no =>
    have hskip : skipSeparators.Reads ⟨([] : List Separator).map Separator.token ++ .elseWord ::
        (.leftBrace :: (tokensOfAll ends (1 :: site) 0 (stmt :: no) ++
          .rightBrace :: sep.token :: t :: us)), 0⟩ ⟨⟩ ⟨_, 0⟩ :=
      reads_skipSeparators ⟨Token.noConfusion, Token.noConfusion⟩
    simp only [List.isEmpty_cons, Bool.false_eq_true, if_false, List.length_append,
      List.length_cons, List.cons_append, List.append_assoc, List.nil_append] at hd ⊢
    refine hskip.bind ?_
    refine (reads_eat (Standing.settled_zero _) Token.noConfusion (by simp)).bind ?_
    exact (reads_branch hno (by simp) (by omega)).bind (reads_pure _ _)

theorem readable_function (name : Text) (params : List Text) {body : List Stmt}
    (hbody : ∀ stmt ∈ body, stmt.Readable) : (function name params body).Readable := by
  refine ⟨fun {ends site d sep t us} ht hd => ?_⟩
  rw [tokens] at hd ⊢
  simp only [List.length_append, List.length_cons] at hd
  obtain ⟨d, rfl⟩ := Nat.exists_eq_add_of_le' (show 1 ≤ d by omega)
  simp only [List.cons_append, List.append_assoc]
  rw [statement]
  refine (reads_peek (Standing.settled_zero _)).bind ?_
  refine Reads.advance_bind (Standing.settled_zero _) Token.noConfusion (by simp) fun _ => ?_
  refine (reads_name name _ (by simp)).bind ?_
  refine (reads_expect _ (Standing.settled_zero _) Token.noConfusion (by simp)).bind ?_
  refine reads_openBracket.bind ?_
  refine reads_remaining.bind ?_
  have hparams := length_le_separateByCommas params
  refine (reads_params (by simp only [List.length_append]; omega)).bind ?_
  refine reads_closeBracket.bind ?_
  refine (reads_expect _ (Standing.settled_zero _) Token.noConfusion (by simp)).bind ?_
  refine (reads_skipNewlines Token.noConfusion).bind ?_
  exact (reads_block hbody (by simp) (by omega)).bind (reads_pure _ _)

/-- Every statement is readable. -/
theorem readable : ∀ stmt : Stmt, stmt.Readable
  | declare name none => readable_declare_none name
  | declare name (some value) => readable_declare_some name value
  | assign name op value => readable_assign name op value
  | branch condition _ _ =>
    readable_branch condition (fun stmt _ => readable stmt) fun stmt _ => readable stmt
  | function name params _ => readable_function name params fun stmt _ => readable stmt
  | result none => readable_result_none
  | result (some value) => readable_result_some value
  | expr value => readable_expr value

end Stmt

/-! ### Programs -/

/-- The statements of a program are read back from its tokens, wherever these stand, and no token is
left but the end of the input. -/
theorem Program.statements_tokens (p : Program) (ends : Site → Separator) (located : List Located)
    (htokens : located.map (·.token) = p.tokens ends) :
    ∃ s, (statements (depthBound located) .eof).run (ParserState.ofTokens located) = .ok (p.stmts, s) ∧
      s.current.token = .eof ∧ s.rest = [] := by
  have hlength : located.length = (p.tokens ends).length := by rw [← htokens, List.length_map]
  rw [Program.tokens, List.length_append, List.length_singleton] at hlength
  have hreads : (statements (depthBound located) .eof).Reads
      ⟨([] : List Separator).map Separator.token ++
        (Stmt.tokensOfAll ends [] 0 p.stmts ++ .eof :: []), 0⟩ p.stmts ⟨.eof :: [], 0⟩ :=
    reads_statements (fun stmt _ => stmt.readable) rfl (by rw [depthBound]; omega)
  have hstanding : (ParserState.ofTokens located).standing = ⟨p.tokens ends, 0⟩ := by
    cases located with
    | nil => simp at hlength
    | cons l located => rw [← htokens]; rfl
  obtain ⟨s, hrun, hs⟩ := hreads _ hstanding
  obtain ⟨hcurrent, hrest⟩ := List.cons.inj (Standing.mk.inj hs).1
  exact ⟨s, hrun, hcurrent, List.map_eq_nil_iff.mp hrest⟩

/-- The statement `if (!(a || b)) { a = -b[a]; }` and a line feed. -/
theorem Program.statements_tokens_branch :
    let a : Text := ['a']
    let b : Text := ['b']
    let located : List Located :=
      [.ifWord, .leftParen, .bang, .leftParen, .ident a, .orOr, .ident b, .rightParen, .rightParen,
        .leftBrace, .ident a, .assign, .minus, .ident b, .leftBracket, .ident a, .rightBracket,
        .semicolon, .rightBrace, .newline, .eof].map (⟨·, Place.first⟩)
    ∃ s, (statements (depthBound located) .eof).run (ParserState.ofTokens located) =
        .ok ([.branch (.unary .not (.binary .or (.ident a) (.ident b)))
          [.assign a .set (.unary .neg (.index (.ident b) (.ident a)))] []], s) ∧
      s.current.token = .eof ∧ s.rest = [] :=
  Program.statements_tokens ⟨_⟩ (fun site => if site = [0] then .newline else .semicolon) _ rfl

end LiveSnippet.Script
