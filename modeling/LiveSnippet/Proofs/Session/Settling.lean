import LiveSnippet.Proofs.Session.Routing
import LiveSnippet.Session.Host

/-!
# Settling a batch

The corrective edits that an expansion answers are reported to it like those of a user. They cause
no run of the generator, so they are answered by nothing: a batch of the user causes one run and one
batch of corrective edits at most, and the loop of the host always ends because there is nothing
left to do, never because it has run out of rounds.

## Main definitions

* `Host.Settled`: the three ways in which a batch of the user ends

## Main results

* `Host.settle_eq`: what the loop computes, whatever the bound
* `Host.edit_settles`: every batch that succeeds settles, with one run at most
-/

namespace LiveSnippet.Host

/-- How a batch of the user ends, with the host after it. -/
inductive Settled (h : Host) (edits : List Edit) : Host → Prop
  /-- There is no live expansion. -/
  | idle {buffer : Buffer} (happly : h.buffer.apply edits = .ok buffer) (hlive : h.live = none) :
      Settled h edits { h with buffer }
  /-- The expansion answers no edits. -/
  | quiet {buffer : Buffer} {x x' : Expansion} {outcome : UpdateOutcome}
      (happly : h.buffer.apply edits = .ok buffer) (hlive : h.live = some x)
      (hupdate : x.update edits buffer.document = (outcome, x')) (hedits : outcome.edits = []) :
      Settled h edits ({ h with buffer }.record outcome x')
  /-- The expansion answers corrective edits. They are applied, and it answers them by nothing. -/
  | corrected {buffer buffer' : Buffer} {x x' x'' : Expansion} {outcome : UpdateOutcome}
      (happly : h.buffer.apply edits = .ok buffer) (hlive : h.live = some x)
      (hupdate : x.update edits buffer.document = (outcome, x')) (hedits : outcome.edits ≠ [])
      (hcorrect : buffer.apply outcome.edits = .ok buffer')
      (hecho : x'.update outcome.edits buffer'.document = (.none, x'')) :
      Settled h edits ({ { h with buffer }.record outcome x' with
        buffer := buffer', correctiveEdits := h.correctiveEdits + outcome.edits.length }.record
        .none x'')

@[simp] theorem record_live (h : Host) (outcome : UpdateOutcome) (x : Expansion) :
    (h.record outcome x).live = some x := rfl

@[simp] theorem record_regenerations (h : Host) (outcome : UpdateOutcome) (x : Expansion) :
    (h.record outcome x).regenerations = h.regenerations + outcome.regenerated.toNat := rfl

/-- What the loop of the host computes: the bound on the rounds plays no part. -/
theorem settle_eq (h : Host) (x : Expansion) (edits : List Edit) (rounds : Nat) :
    h.settle x edits (rounds + 2) =
      let (outcome, x') := x.update edits h.buffer.document
      if outcome.edits.isEmpty then (.ok (), h.record outcome x')
      else match h.buffer.apply outcome.edits with
        | .error e => (.error e, h.record outcome x')
        | .ok buffer =>
          (.ok (), { h.record outcome x' with
            buffer, correctiveEdits := h.correctiveEdits + outcome.edits.length }.record .none
              (x'.moved outcome.edits buffer.document)) := by
  cases hu : x.update edits h.buffer.document with
  | mk outcome x' =>
    have hflag := x.update_blockChanged edits h.buffer.document
    simp only [hu] at hflag
    simp only [settle, hu]
    split_ifs with hedits
    · rfl
    · -- The flag is set, so the next answer is empty and the loop ends in its second round.
      have hchanged : x'.blockChanged = true := by simpa [hflag] using hedits
      rw [show (h.record outcome x').buffer = h.buffer from rfl]
      cases h.buffer.apply outcome.edits with
      | error e => rfl
      | ok buffer => simp [x'.update_of_blockChanged _ _ hchanged, UpdateOutcome.none, record]

variable {h h' : Host} {edits : List Edit}

/-- However a batch ends, the generator has run once at most. -/
theorem Settled.regenerations_le (hs : h.Settled edits h') :
    h'.regenerations ≤ h.regenerations + 1 := by
  cases hs with
  | idle => exact Nat.le_succ _
  | quiet => exact Nat.add_le_add_left (Bool.toNat_le _) _
  | corrected => simpa [UpdateOutcome.none] using Bool.toNat_le _

/-- However a batch ends, no corrective edits are under way behind it. -/
theorem Settled.blockChanged (hs : h.Settled edits h') {y : Expansion} (hy : h'.live = some y) :
    y.blockChanged = false := by
  cases hs with
  | idle _ hlive => simp [hlive] at hy
  | @quiet buffer x x' outcome _ _ hupdate hedits =>
    obtain rfl := Option.some.inj hy
    have hflag := x.update_blockChanged edits buffer.document
    rw [hupdate] at hflag
    simpa [hedits] using hflag
  | @corrected _ buffer' _ x' x'' outcome _ _ _ _ _ hecho =>
    obtain rfl := Option.some.inj hy
    have hflag := x'.update_blockChanged outcome.edits buffer'.document
    rw [hecho] at hflag
    exact hflag

/-- A batch that the loop ends without an error is settled. -/
theorem settled_of_settle {buffer : Buffer} {x : Expansion} {rounds : Nat}
    (happly : h.buffer.apply edits = .ok buffer) (hlive : h.live = some x)
    (hok : { h with buffer }.settle x edits (rounds + 2) = (.ok (), h')) : h.Settled edits h' := by
  have hflag := x.update_blockChanged edits buffer.document
  rw [settle_eq] at hok
  cases hu : x.update edits buffer.document with
  | mk outcome x' =>
    simp only [hu] at hok hflag
    by_cases hedits : outcome.edits.isEmpty
    · rw [if_pos hedits] at hok
      obtain rfl := (Prod.mk.inj hok).2
      exact .quiet happly hlive hu (List.isEmpty_iff.mp hedits)
    · rw [if_neg hedits] at hok
      have hchanged : x'.blockChanged = true := by simpa [hflag] using hedits
      cases hcorrect : buffer.apply outcome.edits with
      | error e => simp [hcorrect] at hok
      | ok buffer' =>
        simp only [hcorrect] at hok
        obtain rfl := (Prod.mk.inj hok).2
        exact .corrected happly hlive hu (by simpa using hedits) hcorrect
          (x'.update_of_blockChanged _ _ hchanged)

/-- **No feedback.** A batch of the user that succeeds settles: it causes one run of the generator
at most, no corrective edits are under way behind it, and every bound of two rounds or more gives
the same host. -/
theorem edit_settles (hok : h.edit edits = (.ok (), h')) :
    h.Settled edits h' ∧ h'.regenerations ≤ h.regenerations + 1 ∧
      (∀ x, h'.live = some x → x.blockChanged = false) ∧
      ∀ buffer x, h.buffer.apply edits = .ok buffer → h.live = some x →
        ∀ rounds, 2 ≤ rounds → { h with buffer }.settle x edits rounds = (.ok (), h') := by
  have hs : h.Settled edits h' := by
    rw [edit] at hok
    cases happly : h.buffer.apply edits with
    | error e => simp [happly] at hok
    | ok buffer =>
      cases hlive : h.live with
      | none =>
        simp only [happly, hlive] at hok
        obtain rfl : h' = { h with buffer } := by rw [← (Prod.mk.inj hok).2, hlive]
        exact .idle happly hlive
      | some x =>
        simp only [happly, hlive] at hok
        exact settled_of_settle happly hlive (hlive ▸ hok)
  -- With two rounds or more the loop computes the same, so the bound of the host plays no part.
  refine ⟨hs, hs.regenerations_le, fun x => hs.blockChanged, fun buffer x happly hlive => ?_⟩
  intro rounds hr
  obtain ⟨n, rfl⟩ := Nat.exists_eq_add_of_le' hr
  simp only [edit, happly, hlive] at hok
  rw [← hok, maxRounds, settle_eq, settle_eq, hlive]

/-- A template with one placeholder, whose block repeats the text of the placeholder. -/
def echoTemplate : Template where
  trigger := .literal "echo".toList
  description := []
  flags := .empty
  priority := 0
  placeholderCount := 1
  contextFilter := none
  generator := ⟨[.text "$1 = ".toList, .block 0], 1, fun input => .ok input.placeholderTexts⟩
  line := 1

/-- An empty document into which a template has been put. -/
def ofTemplate (t : Template) : Host :=
  ((Host.new []).expand t ⟨.origin, .origin⟩ ⟨.origin, [], [], [], []⟩).2

/-- Two letters typed into the placeholder are answered by one corrective edit. -/
theorem edit_settles_echo :
    let h := ofTemplate echoTemplate
    let h' := (h.edit [.insert .origin "ab".toList]).2
    h'.buffer.text = "ab = ab".toList ∧ h'.correctiveEdits = 1 ∧
      h.Settled [.insert .origin "ab".toList] h' ∧ h'.regenerations ≤ h.regenerations + 1 ∧
      ∀ x, h'.live = some x → x.blockChanged = false := by
  have hok : (ofTemplate echoTemplate).edit [.insert .origin "ab".toList] =
      (.ok (), ((ofTemplate echoTemplate).edit [.insert .origin "ab".toList]).2) :=
    Prod.ext (by decide +kernel) rfl
  exact ⟨by decide +kernel, by decide +kernel, (edit_settles hok).1, (edit_settles hok).2.1,
    (edit_settles hok).2.2.1⟩

end LiveSnippet.Host
