import LiveSnippet.Proofs.Script.Printer
import LiveSnippet.Proofs.Script.Reading
import Mathlib.Order.Nat

/-!
# Reading back expressions

The tokens of an expression are read back as that expression. The parser reads the first operand and
then takes in operators, so the statement that goes through an induction is not about the whole
expression: it says that the parser gets from the first token of an expression to the point where the
expression is the left operand of whatever follows.

## Main definitions

* `Halts`: an expression read with some power ends in front of a token
* `Expr.endPower`: the power with which the last operand of a bare expression is read
* `Expr.Readable`: the parser gets behind the bare expression

## Main results

* `Expr.Readable.reads_tokensAt`: the same at a position
* `Expr.readable`: every expression is readable
* `Expr.reads_tokens`: every expression is read back
-/

namespace LiveSnippet.Script

/-- No operator that binds as tightly as `power` begins with the token. -/
structure Halts (power : Nat) (t : Token) : Prop where
  leftParen : t ≠ .leftParen
  leftBracket : t ≠ .leftBracket
  dot : t ≠ .dot
  question : t = .question → conditionalPower < power
  binary : ∀ op, binaryOp? t = some op → op.leftPower < power

namespace Halts

theorem mono {p q : Nat} {t : Token} (h : Halts p t) (hpq : p ≤ q) : Halts q t :=
  ⟨h.leftParen, h.leftBracket, h.dot, fun ht => (h.question ht).trans_le hpq,
    fun op hop => (h.binary op hop).trans_le hpq⟩

@[simp] theorem binaryOp?_token (op : BinaryOp) : binaryOp? op.token = some op := by
  cases op <;> rfl

/-- What is read with more power than an operator has on its left ends in front of it. -/
theorem token {op : BinaryOp} {p : Nat} (h : op.leftPower < p) : Halts p op.token := by
  refine ⟨?_, ?_, ?_, ?_, fun op' hop => ?_⟩
  · cases op <;> exact Token.noConfusion
  · cases op <;> exact Token.noConfusion
  · cases op <;> exact Token.noConfusion
  · cases op <;> exact Token.noConfusion
  · rw [binaryOp?_token] at hop
    exact Option.some.inj hop ▸ h

theorem of_question {p : Nat} (h : conditionalPower < p) : Halts p .question :=
  ⟨Token.noConfusion, Token.noConfusion, Token.noConfusion, fun _ => h, nofun⟩

end Halts

/-- The tokens behind which any expression ends. -/
def Token.isClosing : Token → Bool
  | rightParen | rightBracket | comma | colon | newline | semicolon | eof => true
  | _ => false

/-- The tokens with which an expression can begin. -/
def Token.beginsOperand : Token → Bool
  | number _ | string _ | ident _ | trueWord | falseWord | nullWord | leftParen | leftBracket | minus
  | plus | bang => true
  | _ => false

theorem Halts.of_isClosing {t : Token} (p : Nat) (h : t.isClosing = true) : Halts p t := by
  constructor <;> cases t <;> simp_all [Token.isClosing, binaryOp?]

namespace Expr

/-- The power with which the last operand of a bare expression is read, if it ends in one. -/
def endPower : Expr → Option Nat
  | unary .. => some unaryPower
  | binary op .. => some op.rightPower
  | conditional .. => some conditionalPower
  | _ => none

/-- A bare expression ends in front of the token. -/
def EndsBefore (e : Expr) (t : Token) : Prop := ∀ p, e.endPower = some p → Halts p t

theorem power_le_of_endPower {e : Expr} {p : Nat} (h : e.endPower = some p) : e.power ≤ p := by
  cases e with
  | unary => exact (Option.some.inj h).le
  | binary op => exact (Nat.le_succ _).trans_eq (Option.some.inj h)
  | conditional => exact (Option.some.inj h).le
  | _ => cases h

/-- An expression that needs no parentheses at a position ends where the position does. -/
theorem endsBefore_of_halts {e : Expr} {p : Nat} {t : Token} (h : Halts p t) (hp : p ≤ e.power) :
    e.EndsBefore t := fun _ hq => h.mono (hp.trans (power_le_of_endPower hq))

theorem leftPower_lt (op : BinaryOp) : conditionalPower < op.leftPower ∧
    op.leftPower < unaryPower := by
  cases op <;> decide

/-- An expression that needs no parentheses in front of an operator ends there. -/
theorem endsBefore_token {e : Expr} {op : BinaryOp} (h : op.leftPower ≤ e.power) :
    e.EndsBefore op.token := by
  intro p hp
  refine Halts.token ?_
  have hop := leftPower_lt op
  cases e with
  | unary => exact Option.some.inj hp ▸ (leftPower_lt op).2
  | binary op' => exact (Nat.lt_succ_of_le h).trans_eq (Option.some.inj hp)
  | conditional => exact absurd h (not_le.mpr (leftPower_lt op).1)
  | _ => cases hp

/-- An expression that needs no parentheses as a condition ends in front of the question mark. -/
theorem endsBefore_question {e : Expr} (h : conditionalPower < e.power) :
    e.EndsBefore .question := fun _ hp => .of_question (h.trans_le (power_le_of_endPower hp))

theorem endsBefore_of_postfixPower_le {e : Expr} (h : postfixPower ≤ e.power) (t : Token) :
    e.EndsBefore t := by
  intro p hp
  cases e with
  | binary op _ _ =>
    have hop := (leftPower_lt op).2
    simp only [power, unaryPower, postfixPower] at h hop
    omega
  | unary => exact absurd h (by simp [power, unaryPower, postfixPower])
  | conditional => exact absurd h (by simp [power, conditionalPower, postfixPower])
  | _ => cases hp

/-- The parser gets behind the bare expression, with any power that it holds together at, and takes
it for the left operand of what follows. On the way it uses up depth in proportion to the tokens. -/
structure Readable (e : Expr) : Prop where
  reads_expr : ∀ {d q n : Nat} {t : Token} {us : List Token} {e' : Expr} {w : Standing},
    q ≤ e.power → e.EndsBefore t → Standing.Settled n t → 8 * e.tokens.length ≤ d →
    (∀ d', d ≤ d' + 8 * e.tokens.length → (Parse.operators d' q e).Reads ⟨t :: us, n⟩ e' w) →
    (Parse.expr d q).Reads ⟨e.tokens ++ t :: us, n⟩ e' w

end Expr

open Parse

variable {e e' : Expr} {d p q n : Nat} {t : Token} {us : List Token} {w : Standing}

/-- The parser stops taking in operators in front of a token at which the power halts. -/
theorem reads_operators (h : Halts q t) (ht : Standing.Settled n t) :
    (operators (d + 1) q e).Reads ⟨t :: us, n⟩ e ⟨t :: us, n⟩ := by
  rw [operators]
  refine (reads_peek ht).bind ?_
  split
  · exact absurd rfl h.leftParen
  · exact absurd rfl h.leftBracket
  · exact absurd rfl h.dot
  · rw [if_pos (h.question rfl)]
    exact reads_pure _ _
  · split
    · exact reads_pure _ _
    · rename_i op hop
      rw [if_pos (h.binary op hop)]
      exact reads_pure _ _

namespace Expr

/-- A readable expression is read back where no parentheses are needed. -/
theorem Readable.reads_bare (he : e.Readable) (hq : q ≤ e.power) (hhalts : Halts q t)
    (ht : Standing.Settled n t) (hd : 8 * e.tokens.length < d) :
    (expr d q).Reads ⟨e.tokens ++ t :: us, n⟩ e ⟨t :: us, n⟩ := by
  refine he.reads_expr hq (endsBefore_of_halts hhalts hq) ht hd.le fun d' hd' => ?_
  obtain ⟨d', rfl⟩ := Nat.exists_eq_succ_of_ne_zero (show d' ≠ 0 by omega)
  exact reads_operators hhalts ht

theorem reads_parenthesized (he : e.Readable) (hus : us ≠ [])
    (hd : 8 * e.tokens.length < d) :
    (operand (d + 1)).Reads ⟨.leftParen :: e.tokens ++ .rightParen :: us, n⟩ e ⟨us, n⟩ := by
  rw [operand]
  refine Reads.advance_bind (fun _ => Token.noConfusion) Token.noConfusion (by simp) fun _ => ?_
  refine reads_openBracket.bind ?_
  refine (he.reads_bare (Nat.zero_le _) (.of_isClosing 0 rfl) (fun _ => Token.noConfusion) hd).bind ?_
  refine reads_closeBracket.bind ?_
  exact (reads_expect _ (fun _ => Token.noConfusion) Token.noConfusion hus).bind (reads_pure _ _)

/-- The parser gets behind an expression at a position, in parentheses or not. -/
theorem Readable.guarded (he : e.Readable) (hq : q ≤ p) (hend : p ≤ e.power → e.EndsBefore t)
    (ht : Standing.Settled n t) (hd : 8 * (e.tokensAt p).length ≤ d)
    (hrest : ∀ d', d ≤ d' + 8 * (e.tokensAt p).length →
      (operators d' q e).Reads ⟨t :: us, n⟩ e' w) :
    (expr d q).Reads ⟨e.tokensAt p ++ t :: us, n⟩ e' w := by
  rw [tokensAt, Expr.guarded] at hd hrest ⊢
  split_ifs at hd hrest ⊢ with hp
  · simp only [List.length_append, List.length_cons, List.length_nil] at hd hrest
    obtain ⟨d, rfl⟩ := Nat.exists_eq_add_of_le' (show 2 ≤ d by omega)
    rw [expr, List.append_assoc]
    exact (reads_parenthesized he (by simp) (by omega)).bind (hrest _ (by omega))
  · have hp := not_lt.mp hp
    exact he.reads_expr (hq.trans hp) (hend hp) ht hd hrest

/-- A readable expression is read back at every position. -/
theorem Readable.reads_tokensAt (he : e.Readable) (hhalts : Halts p t)
    (ht : Standing.Settled n t) (hd : 8 * (e.tokensAt p).length < d) :
    (expr d p).Reads ⟨e.tokensAt p ++ t :: us, n⟩ e ⟨t :: us, n⟩ := by
  refine he.guarded le_rfl (endsBefore_of_halts hhalts) ht hd.le fun d' hd' => ?_
  obtain ⟨d', rfl⟩ := Nat.exists_eq_succ_of_ne_zero (show d' ≠ 0 by omega)
  exact reads_operators hhalts ht

/-! ### First tokens -/

/-- An expression can begin with the first of the tokens. -/
def BeginsOperand (ts : List Token) : Prop := ∃ t us, ts = t :: us ∧ t.beginsOperand = true

theorem BeginsOperand.append {ts : List Token} (h : BeginsOperand ts) (us : List Token) :
    BeginsOperand (ts ++ us) := by
  obtain ⟨t, ts, rfl, ht⟩ := h
  exact ⟨t, ts ++ us, rfl, ht⟩

theorem BeginsOperand.guarded (h : BeginsOperand e.tokens) (p : Nat) :
    BeginsOperand (guarded p e e.tokens) := by
  rw [Expr.guarded]
  split_ifs
  · exact ⟨_, _, rfl, rfl⟩
  · exact h

theorem beginsOperand_tokens : ∀ e : Expr, BeginsOperand e.tokens
  | literal l => by
    refine ⟨l.token, [], by rw [tokens], ?_⟩
    cases l with
    | bool b => cases b <;> rfl
    | _ => rfl
  | list items => ⟨.leftBracket, _, by rw [tokens]; rfl, rfl⟩
  | ident name => ⟨.ident name, [], by rw [tokens], rfl⟩
  | member receiver name => by
    rw [tokens]
    exact ((beginsOperand_tokens receiver).guarded _).append _
  | index receiver subscript => by
    rw [tokens, List.append_assoc]
    exact ((beginsOperand_tokens receiver).guarded _).append _
  | call callee args => by
    rw [tokens, List.append_assoc]
    exact ((beginsOperand_tokens callee).guarded _).append _
  | unary op operand => by
    refine ⟨op.token, _, by rw [tokens], ?_⟩
    cases op <;> rfl
  | binary op left right => by
    rw [tokens]
    exact ((beginsOperand_tokens left).guarded _).append _
  | conditional condition yes no => by
    rw [tokens, List.append_assoc]
    exact ((beginsOperand_tokens condition).guarded _).append _

/-! ### Constants, names, lists and prefixed operators -/

/-- An expression that is read as a first operand is readable. -/
theorem readable_of_operand
    (h : ∀ {d n : Nat} {t : Token} {us : List Token}, e.EndsBefore t → Standing.Settled n t →
      8 * e.tokens.length ≤ d + 2 →
        (operand (d + 1)).Reads ⟨e.tokens ++ t :: us, n⟩ e ⟨t :: us, n⟩) : e.Readable := by
  refine ⟨fun {d q n t us e' w} hq hend ht hd hrest => ?_⟩
  obtain ⟨t₀, ts, htokens, -⟩ := beginsOperand_tokens e
  have hpos : 0 < e.tokens.length := by rw [htokens]; exact Nat.succ_pos _
  obtain ⟨d, rfl⟩ := Nat.exists_eq_add_of_le' (show 2 ≤ d by omega)
  rw [expr]
  exact (h hend ht hd).bind (hrest _ (by omega))

theorem readable_literal (l : Literal) : (literal l).Readable := by
  refine readable_of_operand fun _ _ _ => ?_
  rw [tokens, operand]
  cases l with
  | bool b =>
    cases b
    · exact Reads.advance_bind (fun _ => Token.noConfusion) Token.noConfusion (by simp) fun _ =>
        reads_pure _ _
    · exact Reads.advance_bind (fun _ => Token.noConfusion) Token.noConfusion (by simp) fun _ =>
        reads_pure _ _
  | _ =>
    exact Reads.advance_bind (fun _ => Token.noConfusion) Token.noConfusion (by simp) fun _ =>
      reads_pure _ _

theorem readable_ident (name : Text) : (ident name).Readable := by
  refine readable_of_operand fun _ _ _ => ?_
  rw [tokens, operand]
  exact Reads.advance_bind (fun _ => Token.noConfusion) Token.noConfusion (by simp) fun _ =>
    reads_pure _ _

theorem Readable.unary (he : e.Readable) (op : UnaryOp) : (unary op e).Readable := by
  refine readable_of_operand fun {d n t us} hend ht hd => ?_
  rw [tokens, ← tokensAt, List.length_cons] at hd
  have hreads : (expr d unaryPower).Reads ⟨tokensAt unaryPower e ++ t :: us, n⟩ e ⟨t :: us, n⟩ :=
    he.reads_tokensAt (hend _ rfl) ht (by omega)
  rw [tokens, operand, ← tokensAt]
  cases op <;>
    exact Reads.advance_bind (fun _ => Token.noConfusion) Token.noConfusion (by simp) fun _ =>
      hreads.bind (reads_pure _ _)

theorem tokensOfAll_eq_map (es : List Expr) : tokensOfAll es = es.map tokens := by
  induction es with
  | nil => rw [tokensOfAll, List.map_nil]
  | cons e es ih => rw [tokensOfAll, ih, List.map_cons]

/-- A closing bracket is not the first token of an expression. -/
theorem reads_check_closing {closing : Token} (e : Expr) (hclosing : closing.isClosing = true)
    (us : List Token) :
    (check closing).Reads ⟨e.tokens ++ us, n⟩ false ⟨e.tokens ++ us, n⟩ := by
  obtain ⟨t, ts, htokens, ht⟩ := beginsOperand_tokens e
  have hne : ∀ k : Token, k.isClosing = true → t ≠ k := by
    rintro k hk rfl
    cases t <;> simp_all [Token.isClosing, Token.beginsOperand]
  rw [htokens, List.cons_append, ← decide_eq_false (hne closing hclosing)]
  exact reads_check closing fun _ => hne _ rfl

/-- Expressions separated by commas, up to a closing bracket. -/
theorem reads_itemsUpTo {es : List Expr} {closing : Token} (hes : ∀ e ∈ es, e.Readable)
    (hclosing : closing = .rightParen ∨ closing = .rightBracket)
    (hd : 8 * (separateByCommas (es.map tokens)).length + 1 < d) :
    (itemsUpTo d closing).Reads ⟨separateByCommas (es.map tokens) ++ closing :: us, n⟩ es
      ⟨closing :: us, n⟩ := by
  have hcloses : closing.isClosing = true := by rcases hclosing with rfl | rfl <;> rfl
  have hsettled : Standing.Settled n closing := fun _ h => by
    rcases hclosing with rfl | rfl <;> cases h
  -- By induction on the expressions. The last one is a case of its own: no comma follows it.
  induction es generalizing d with
  | nil =>
    obtain ⟨d, rfl⟩ := Nat.exists_eq_add_of_le' (show 1 ≤ d by omega)
    rw [itemsUpTo]
    refine (reads_check closing hsettled).bind ?_
    rw [if_pos (decide_eq_true rfl)]
    exact reads_pure _ _
  | cons e es ih =>
    obtain ⟨d, rfl⟩ := Nat.exists_eq_add_of_le' (show 1 ≤ d by omega)
    obtain ⟨he, hes⟩ := List.forall_mem_cons.mp hes
    rw [itemsUpTo]
    cases es with
    | nil =>
      have hcomma : closing ≠ .comma := by rcases hclosing with rfl | rfl <;> exact Token.noConfusion
      refine (reads_check_closing e hcloses _).bind ?_
      rw [if_neg Bool.false_ne_true]
      refine (he.reads_bare (Nat.zero_le _) (.of_isClosing 0 hcloses) hsettled
        (Nat.lt_of_succ_lt_succ hd)).bind ?_
      exact (reads_eat_of_ne hsettled hcomma).bind (reads_pure _ _)
    | cons e₁ es =>
      have hsplit : separateByCommas ((e :: e₁ :: es).map tokens) =
          e.tokens ++ .comma :: separateByCommas ((e₁ :: es).map tokens) := rfl
      rw [hsplit, List.append_assoc]
      rw [hsplit, List.length_append, List.length_cons] at hd
      refine (reads_check_closing e hcloses _).bind ?_
      rw [if_neg Bool.false_ne_true]
      refine (he.reads_bare (Nat.zero_le _) (.of_isClosing 0 rfl) (fun _ => Token.noConfusion)
        (by omega)).bind ?_
      refine (reads_eat (fun _ => Token.noConfusion) Token.noConfusion (by simp)).bind ?_
      exact (ih hes (by omega)).bind (reads_pure _ _)

/-- Expressions between brackets, the first of which has been read. -/
theorem reads_items {es : List Expr} {closing : Token} (what : Expectation)
    (hes : ∀ e ∈ es, e.Readable) (hclosing : closing = .rightParen ∨ closing = .rightBracket)
    (hus : us ≠ []) (hd : 8 * (separateByCommas (es.map tokens)).length + 1 < d) :
    (items (d + 1) closing what).Reads ⟨separateByCommas (es.map tokens) ++ closing :: us, n⟩ es
      ⟨us, n⟩ := by
  have heof : closing ≠ .eof := by rcases hclosing with rfl | rfl <;> exact Token.noConfusion
  have hsettled : Standing.Settled n closing := fun _ h => by
    rcases hclosing with rfl | rfl <;> cases h
  rw [items]
  refine reads_openBracket.bind ?_
  refine (reads_itemsUpTo hes hclosing hd).bind ?_
  refine reads_closeBracket.bind ?_
  exact (reads_expect what hsettled heof hus).bind (reads_pure _ _)

theorem readable_list {es : List Expr} (hes : ∀ e ∈ es, e.Readable) : (list es).Readable := by
  refine readable_of_operand fun {d n t us} _ _ hd => ?_
  simp only [tokens, tokensOfAll_eq_map, List.length_append, List.length_cons,
    List.length_nil] at hd
  obtain ⟨d, rfl⟩ := Nat.exists_eq_add_of_le' (show 1 ≤ d by omega)
  rw [tokens, tokensOfAll_eq_map, operand, List.append_assoc]
  refine Reads.advance_bind (fun _ => Token.noConfusion) Token.noConfusion (by simp) fun _ => ?_
  exact (reads_items _ hes (Or.inr rfl) (by simp) (by omega)).bind (reads_pure _ _)

/-! ### Operators behind an operand -/

/-- An expression that begins with a receiver is readable if the parser gets from behind the
receiver to behind the expression. -/
theorem Readable.postfix (he : e.Readable) {e₁ : Expr} (t₁ : Token) (ts : List Token)
    (htokens : e₁.tokens = tokensAt postfixPower e ++ t₁ :: ts) (hpower : e₁.power = postfixPower)
    (ht₁ : t₁ ≠ .newline)
    (h : ∀ {d q n : Nat} {t : Token} {us : List Token} {e' : Expr} {w : Standing},
      Standing.Settled n t → 8 * (ts.length + 1) ≤ d →
      (operators (d - 1) q e₁).Reads ⟨t :: us, n⟩ e' w →
      (operators d q e).Reads ⟨t₁ :: ts ++ t :: us, n⟩ e' w) : e₁.Readable := by
  refine ⟨fun {d q n t us e' w} hq _ ht hd hrest => ?_⟩
  rw [htokens] at hd hrest ⊢
  simp only [List.length_append, List.length_cons] at hd hrest
  rw [List.append_assoc, List.cons_append]
  refine he.guarded (hq.trans_eq hpower) (fun hp => endsBefore_of_postfixPower_le hp _)
    (fun _ => ht₁) (by omega) fun d' hd' => ?_
  exact h ht (by omega) (hrest _ (by omega))

theorem Readable.member (he : e.Readable) (name : Text) : (member e name).Readable := by
  refine he.postfix .dot [.ident name] (by rw [tokens, tokensAt]) rfl
    Token.noConfusion fun {d q n t us e' w} ht hd hrest => ?_
  obtain ⟨d, rfl⟩ := Nat.exists_eq_add_of_le' (show 1 ≤ d by omega)
  rw [operators]
  refine (reads_peek fun _ => Token.noConfusion).bind ?_
  refine Reads.advance_bind (fun _ => Token.noConfusion) Token.noConfusion (by simp) fun _ => ?_
  exact (reads_name name _ (by simp)).bind hrest

theorem Readable.index (he : e.Readable) {subscript : Expr} (hsub : subscript.Readable) :
    (index e subscript).Readable := by
  refine he.postfix .leftBracket (subscript.tokens ++ [.rightBracket])
    (by rw [tokens, tokensAt, List.append_assoc]; rfl) rfl Token.noConfusion
    fun {d q n t us e' w} ht hd hrest => ?_
  rw [List.length_append, List.length_singleton] at hd
  obtain ⟨d, rfl⟩ := Nat.exists_eq_add_of_le' (show 1 ≤ d by omega)
  rw [operators, List.cons_append, List.append_assoc]
  refine (reads_peek fun _ => Token.noConfusion).bind ?_
  refine Reads.advance_bind (fun _ => Token.noConfusion) Token.noConfusion (by simp) fun _ => ?_
  refine reads_openBracket.bind ?_
  refine (hsub.reads_bare (Nat.zero_le _) (.of_isClosing 0 rfl) (fun _ => Token.noConfusion)
    (by omega)).bind ?_
  refine reads_closeBracket.bind ?_
  exact (reads_expect _ (fun _ => Token.noConfusion) Token.noConfusion (by simp)).bind hrest

theorem Readable.call (he : e.Readable) {args : List Expr} (hargs : ∀ a ∈ args, a.Readable) :
    (call e args).Readable := by
  refine he.postfix .leftParen (separateByCommas (args.map tokens) ++ [.rightParen])
    (by rw [tokens, tokensAt, tokensOfAll_eq_map, List.append_assoc]; rfl) rfl Token.noConfusion
    fun {d q n t us e' w} ht hd hrest => ?_
  rw [List.length_append, List.length_singleton] at hd
  obtain ⟨d, rfl⟩ := Nat.exists_eq_add_of_le' (show 2 ≤ d by omega)
  rw [operators, List.cons_append, List.append_assoc]
  refine (reads_peek fun _ => Token.noConfusion).bind ?_
  refine Reads.advance_bind (fun _ => Token.noConfusion) Token.noConfusion (by simp) fun _ => ?_
  exact (reads_items _ hargs (Or.inl rfl) (by simp) (by omega)).bind hrest

/-- A binary operator that binds tightly enough is taken in, with its right operand. -/
theorem reads_operators_token {op : BinaryOp} {right : Expr} {v : Standing} (hus : us ≠ [])
    (hq : q ≤ op.leftPower) (hright : (expr d op.rightPower).Reads ⟨us, n⟩ right v)
    (hrest : (operators d q (.binary op e right)).Reads v e' w) :
    (operators (d + 1) q e).Reads ⟨op.token :: us, n⟩ e' w := by
  have htoken : Halts op.rightPower op.token := .token (Nat.lt_succ_self _)
  have hne : op.token ≠ .newline ∧ op.token ≠ .eof := by cases op <;> exact ⟨nofun, nofun⟩
  have hsettled : Standing.Settled n op.token := fun _ => hne.1
  rw [operators]
  refine (reads_peek hsettled).bind ?_
  split
  · exact absurd ‹op.token = _› htoken.leftParen
  · exact absurd ‹op.token = _› htoken.leftBracket
  · exact absurd ‹op.token = _› htoken.dot
  · exact absurd ‹op.token = _› (by cases op <;> exact Token.noConfusion)
  · rw [Halts.binaryOp?_token]
    dsimp only
    rw [if_neg (not_lt.mpr hq)]
    exact Reads.advance_bind hsettled hne.2 hus fun _ => hright.bind hrest

theorem Readable.binary {left right : Expr} (hleft : left.Readable) (hright : right.Readable)
    (op : BinaryOp) : (binary op left right).Readable := by
  refine ⟨fun {d q n t us e' w} hq hend ht hd hrest => ?_⟩
  rw [tokens, ← tokensAt, ← tokensAt] at hd hrest ⊢
  rw [List.length_append, List.length_cons] at hd hrest
  rw [List.append_assoc, List.cons_append]
  have hsettled : Standing.Settled n op.token := fun _ => by cases op <;> exact Token.noConfusion
  refine hleft.guarded hq endsBefore_token hsettled (by omega) fun d' hd' => ?_
  obtain ⟨d', rfl⟩ := Nat.exists_eq_add_of_le' (show 1 ≤ d' by omega)
  refine reads_operators_token (by simp) hq
    (hright.reads_tokensAt (hend _ rfl) ht (by omega)) (hrest _ (by omega))

theorem Readable.conditional {condition yes no : Expr} (hcondition : condition.Readable)
    (hyes : yes.Readable) (hno : no.Readable) : (conditional condition yes no).Readable := by
  refine ⟨fun {d q n t us e' w} hq hend ht hd hrest => ?_⟩
  rw [tokens, ← tokensAt, ← tokensAt, List.append_assoc] at hd hrest ⊢
  simp only [List.length_append, List.length_cons] at hd hrest
  simp only [List.append_assoc, List.cons_append]
  refine hcondition.guarded (Nat.le_succ_of_le hq) endsBefore_question (fun _ => Token.noConfusion)
    (by omega) fun d' hd' => ?_
  obtain ⟨d', rfl⟩ := Nat.exists_eq_add_of_le' (show 1 ≤ d' by omega)
  rw [operators]
  refine (reads_peek fun _ => Token.noConfusion).bind ?_
  dsimp only
  rw [if_neg (show ¬conditionalPower < q from not_lt.mpr hq)]
  refine Reads.advance_bind (fun _ => Token.noConfusion) Token.noConfusion (by simp) fun _ => ?_
  -- The question mark and the colon count as brackets around what stands between them.
  refine reads_openBracket.bind ?_
  refine (hyes.reads_bare (Nat.zero_le _) (.of_isClosing 0 rfl) (fun _ => Token.noConfusion)
    (by omega)).bind ?_
  refine (reads_expect _ (fun _ => Token.noConfusion) Token.noConfusion (by simp)).bind ?_
  refine reads_closeBracket.bind ?_
  exact (hno.reads_tokensAt (hend _ rfl) ht (by omega)).bind (hrest _ (by omega))

/-- **Every expression is readable.** -/
theorem readable : ∀ e : Expr, e.Readable
  | literal l => readable_literal l
  | list items => readable_list fun e _ => readable e
  | ident name => readable_ident name
  | member receiver name => (readable receiver).member name
  | index receiver subscript => (readable receiver).index (readable subscript)
  | call callee args => (readable callee).call fun e _ => readable e
  | unary op operand => (readable operand).unary op
  | binary op left right => (readable left).binary (readable right) op
  | conditional condition yes no =>
    (readable condition).conditional (readable yes) (readable no)

/-- **Expressions are read back**, in front of every token that closes them. -/
theorem reads_tokens (e : Expr) (ht : t.isClosing = true) (hsettled : Standing.Settled n t)
    (hd : 8 * e.tokens.length < d) :
    (expr d 0).Reads ⟨e.tokens ++ t :: us, n⟩ e ⟨t :: us, n⟩ :=
  (readable e).reads_bare (Nat.zero_le _) (.of_isClosing 0 ht) hsettled hd

end Expr

end LiveSnippet.Script
