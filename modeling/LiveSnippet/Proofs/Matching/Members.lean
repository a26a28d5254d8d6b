import LiveSnippet.Matching.Candidate

/-!
# The members of a list of templates

Templates are looked at one after the other, and the search ends at the first automatic one whose
trigger stands before the cursor. Outcomes can be put one behind the other in the same way: an
automatic one hides all that comes behind it, and takes the place of the candidates in front of it.
So matching takes a list of templates to the outcomes of its members, one behind the other.

## Main definitions

* `MatchOutcome.automatic?`: the winner of an outcome
* `MatchOutcome.append`: two outcomes, one behind the other

## Main results

* `matchTemplatesBy_append`: matching two lists, one behind the other
* `Template.candidate?_lookback`: only patterns over several lines see the lines above the cursor
* `matchTemplatesBy_members`: matching a list is matching its members
-/

namespace LiveSnippet

namespace MatchOutcome

variable {o o' o'' : MatchOutcome} {c : Candidate} {cs : List Candidate}

/-- The candidate of an automatic template that won. -/
def automatic? : MatchOutcome → Option Candidate
  | automatic c => some c
  | candidates _ => none

/-- The outcome for some templates and, behind them, some others. -/
def append : MatchOutcome → MatchOutcome → MatchOutcome
  | automatic c, _ => automatic c
  | candidates _, automatic c => automatic c
  | candidates cs, candidates ds => candidates (cs ++ ds)

instance : Append MatchOutcome := ⟨append⟩

@[simp] theorem automatic_append (c : Candidate) (o : MatchOutcome) :
    automatic c ++ o = automatic c := rfl

@[simp] theorem candidates_append_automatic (cs : List Candidate) (c : Candidate) :
    candidates cs ++ automatic c = automatic c := rfl

@[simp] theorem candidates_append_candidates (cs ds : List Candidate) :
    candidates cs ++ candidates ds = candidates (cs ++ ds) := rfl

@[simp] theorem candidates_nil_append (o : MatchOutcome) : candidates [] ++ o = o := by
  cases o <;> rfl

theorem append_assoc (o o' o'' : MatchOutcome) : o ++ o' ++ o'' = o ++ (o' ++ o'') := by
  cases o <;> cases o' <;> cases o'' <;> simp

theorem eq_automatic_of_automatic? (h : o.automatic? = some c) : o = automatic c := by
  cases o with
  | automatic c' => exact congrArg automatic (Option.some.inj h)
  | candidates cs => cases h

theorem eq_candidates_of_automatic? (h : o.automatic? = none) : o = candidates o.toList := by
  cases o with
  | automatic c => cases h
  | candidates cs => rfl

end MatchOutcome

variable {f : Template → Option Candidate} {found : List Candidate} {t : Template}
  {ts us : List Template}

/-- The candidates that have been found stand in front of the outcome for the rest. -/
theorem matchFrom_eq (f : Template → Option Candidate) (found : List Candidate)
    (ts : List Template) :
    matchFrom f found ts = .candidates found.reverse ++ matchFrom f [] ts := by
  -- By induction on the templates, whatever has been found: a candidate that does not win is one
  -- more of those in front of the rest.
  induction ts generalizing found with
  | nil => simp [matchFrom]
  | cons t ts ih =>
    rw [matchFrom, matchFrom]
    cases f t with
    | none => exact ih found
    | some c =>
      by_cases hauto : c.isAutomatic = true
      · simp only [hauto, if_true, MatchOutcome.candidates_append_automatic]
      · simp only [if_neg hauto]
        rw [ih (c :: found), ih [c], ← MatchOutcome.append_assoc, List.reverse_cons]
        rfl

/-- The outcome for a list begins with that for its first member. -/
theorem matchFrom_cons (f : Template → Option Candidate) (t : Template) (ts : List Template) :
    matchFrom f [] (t :: ts) = matchFrom f [] [t] ++ matchFrom f [] ts := by
  rw [matchFrom, matchFrom]
  cases f t with
  | none => exact (MatchOutcome.candidates_nil_append _).symm
  | some c =>
    by_cases hauto : c.isAutomatic = true
    · simp only [hauto, if_true, MatchOutcome.automatic_append]
    · simp only [if_neg hauto]
      exact matchFrom_eq f [c] ts

theorem matchFrom_append (f : Template → Option Candidate) (ts us : List Template) :
    matchFrom f [] (ts ++ us) = matchFrom f [] ts ++ matchFrom f [] us := by
  induction ts with
  | nil => exact (MatchOutcome.candidates_nil_append _).symm
  | cons t ts ih =>
    rw [List.cons_append, matchFrom_cons, ih, matchFrom_cons f t ts, MatchOutcome.append_assoc]

/-- Templates that offer nothing can be left out. -/
theorem matchFrom_filter {p : Template → Bool} (h : ∀ t, p t = false → f t = none) :
    matchFrom f found (ts.filter p) = matchFrom f found ts := by
  induction ts generalizing found with
  | nil => rfl
  | cons t ts ih =>
    cases hp : p t with
    | true => simp only [List.filter_cons_of_pos hp, matchFrom, ih]
    | false =>
      rw [List.filter_cons_of_neg (by simp [hp]), ih, matchFrom, h t hp]

/-- The first winner among the members wins; without one, there are the candidates of all members. -/
theorem matchFrom_members (f : Template → Option Candidate) (ts : List Template) :
    matchFrom f [] ts = match ts.findSome? fun t => (matchFrom f [] [t]).automatic? with
      | some c => .automatic c
      | none => .candidates (ts.flatMap fun t => (matchFrom f [] [t]).toList) := by
  induction ts with
  | nil => rfl
  | cons t ts ih =>
    rw [matchFrom_cons, List.findSome?_cons]
    cases hauto : (matchFrom f [] [t]).automatic? with
    | some c => rw [MatchOutcome.eq_automatic_of_automatic? hauto, MatchOutcome.automatic_append]
    | none =>
      rw [MatchOutcome.eq_candidates_of_automatic? hauto, ih, List.flatMap_cons]
      cases ts.findSome? fun t => (matchFrom f [] [t]).automatic? with
      | some c => rfl
      | none => rfl

/-! ### Templates at a place in a document -/

section

variable (engine : Pattern.Engine) (d : Document) (r : MatchRequest)

theorem matchTemplatesBy_append (ts us : List Template) :
    matchTemplatesBy engine d (ts ++ us) r =
      matchTemplatesBy engine d ts r ++ matchTemplatesBy engine d us r :=
  matchFrom_append _ ts us

theorem matchTemplatesBy_filter (ts : List Template) :
    matchTemplatesBy engine d (ts.filter (·.accepts r.scopes)) r =
      matchTemplatesBy engine d ts r := by
  refine matchFrom_filter fun t hrejects => ?_
  rw [Template.candidate?, if_neg (by simp [hrejects])]

/-- The lines above the cursor are for patterns over several lines only. -/
theorem Template.candidate?_lookback {t : Template} (h : ¬ (t.trigger.isPattern ∧ t.flags.multiline))
    (p : Position) (k : Nat) (scopes : List Text) :
    t.candidate? engine (.of d p k) scopes = t.candidate? engine (.of d p 0) scopes := by
  rw [candidate?, candidate?]
  cases htrigger : t.trigger with
  | literal trigger => rfl
  | pattern pattern =>
    have hline : ¬ t.flags.multiline = true := fun hmulti => h ⟨congrArg _ htrigger, hmulti⟩
    simp only [if_neg hline]
    rfl

/-- **A list and its members.** If some templates win alone, the first of them wins; else the
candidates that each template offers alone are offered in the order of the list. So templates that
reject the scopes can be left out, what stands behind a winner does not matter, and the lines above
the cursor matter to the members that are patterns over several lines only. -/
theorem matchTemplatesBy_members (ts : List Template) :
    matchTemplatesBy engine d ts r =
      (match ts.findSome? fun t => (matchTemplatesBy engine d [t] r).automatic? with
      | some c => .automatic c
      | none => .candidates (ts.flatMap fun t => (matchTemplatesBy engine d [t] r).toList)) ∧
    matchTemplatesBy engine d (ts.filter (·.accepts r.scopes)) r =
      matchTemplatesBy engine d ts r ∧
    (∀ us, matchTemplatesBy engine d (ts ++ us) r =
      match matchTemplatesBy engine d ts r with
      | .automatic c => .automatic c
      | .candidates cs => .candidates cs ++ matchTemplatesBy engine d us r) ∧
    ∀ t, ¬ (t.trigger.isPattern ∧ t.flags.multiline) → ∀ k,
      matchTemplatesBy engine d [t] { r with lookbackLines := k } =
        matchTemplatesBy engine d [t] r := by
  refine ⟨matchFrom_members _ ts, matchTemplatesBy_filter engine d r ts, fun us => ?_,
    fun t ht k => ?_⟩
  · rw [matchTemplatesBy_append]
    cases matchTemplatesBy engine d ts r <;> rfl
  · simp only [matchTemplatesBy, matchFrom, Template.candidate?_lookback engine d ht]

end

end LiveSnippet
