import LiveSnippet.Session.Update

/-!
# Hosts

A host holds a document and one live expansion at most. It reports every batch of edits to the
expansion, applies the corrective edits that it answers, and reports these, too, until the expansion
answers none.

## Main definitions

* `Host`, `Host.new`
* `Host.expand`, `Host.edit`, `Host.typeText`, `Host.replaceSelected`
* `Host.next`, `Host.prev`, `Host.leaveIfOutside`
-/

namespace LiveSnippet

/-- A document and its live expansion. -/
structure Host where
  buffer : Buffer
  live : Option Expansion
  /-- The number of corrective edits so far. -/
  correctiveEdits : Nat
  /-- The number of runs of a generator that edits have caused so far. -/
  regenerations : Nat
  diagnostics : List Diagnostic

namespace Host

/-- The host of a text. -/
def new (text : Text) : Host := ⟨⟨text⟩, none, 0, 0, []⟩

/-- Replaces the text of `trigger` by an expansion, which becomes the live one. -/
def expand (h : Host) (t : Template) (trigger : Span) (r : ExpansionRequest) :
    Except BufferError Unit × Host :=
  let r := { r with position := trigger.start }
  let (x, diagnostic) := Expansion.new t r h.buffer.document
  let h := { h with diagnostics := h.diagnostics ++ diagnostic.toList }
  let text := renderSnippet x.snippet (h.buffer.lineIndent trigger.start.line)
  match h.buffer.apply [⟨trigger, text⟩] with
  | .error e => (.error e, h)
  | .ok buffer => (.ok (), { h with buffer, live := some x })

/-- The largest number of answers that are looked at for one batch. -/
def maxRounds : Nat := 8

/-- Takes note of an answer of the live expansion, which is now `x`. -/
def record (h : Host) (outcome : UpdateOutcome) (x : Expansion) : Host :=
  { h with
    live := some x
    regenerations := h.regenerations + outcome.regenerated.toNat
    diagnostics := h.diagnostics ++ outcome.diagnostic.toList }

/-- Reports a batch that has been applied, and applies and reports the corrective edits that are
answered, with at most the given number of answers looked at. -/
def settle (h : Host) (x : Expansion) (edits : List Edit) : Nat → Except BufferError Unit × Host
  | 0 => (.ok (), { h with live := some (x.update edits h.buffer.document).2 })
  | rounds + 1 =>
    let (outcome, x) := x.update edits h.buffer.document
    let h := h.record outcome x
    if outcome.edits.isEmpty then (.ok (), h)
    else match h.buffer.apply outcome.edits with
      | .error e => (.error e, h)
      | .ok buffer =>
        settle { h with buffer, correctiveEdits := h.correctiveEdits + outcome.edits.length } x
          outcome.edits rounds

/-- Applies a batch of the user and brings the live expansion up to date. -/
def edit (h : Host) (edits : List Edit) : Except BufferError Unit × Host :=
  match h.buffer.apply edits with
  | .error e => (.error e, h)
  | .ok buffer =>
    match h.live with
    | none => (.ok (), { h with buffer })
    | some x => settle { h with buffer } x edits maxRounds

/-- The span of the selected placeholder. -/
def selectedSpan? (h : Host) : Option Span := h.live.bind (·.selectedSpan?)

/-- Applies an edit that depends on the span of the selected placeholder. Says whether there is
one. -/
def editSelected (h : Host) (f : Span → Edit) : Except BufferError Bool × Host :=
  match h.selectedSpan? with
  | none => (.ok false, h)
  | some s => let (r, h) := h.edit [f s]; (r.map fun _ => true, h)

/-- Types a text at the end of the selected placeholder. -/
def typeText (h : Host) (text : Text) : Except BufferError Bool × Host :=
  h.editSelected fun s => .insert s.stop text

/-- Replaces the text of the selected placeholder. -/
def replaceSelected (h : Host) (text : Text) : Except BufferError Bool × Host :=
  h.editSelected fun s => ⟨s, text⟩

/-- Selects another placeholder. If there is none, the expansion is let go. Says whether the session
goes on. -/
def navigate (h : Host) (step : Expansion → Expansion) : Bool × Host :=
  match h.live with
  | none => (false, h)
  | some x =>
    let x := step x
    (x.goesOn, { h with live := if x.selected?.isSome then some x else none })

/-- Selects the next placeholder. -/
def next (h : Host) : Bool × Host := h.navigate Expansion.next

/-- Selects the placeholder before the selected one. -/
def prev (h : Host) : Bool × Host := h.navigate Expansion.prev

/-- Lets the expansion go if a position lies outside of it. -/
def leaveIfOutside (h : Host) (p : Position) : Host :=
  { h with live := h.live.filter (·.contains p) }

end Host

end LiveSnippet
