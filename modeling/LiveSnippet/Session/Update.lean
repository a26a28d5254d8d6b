import LiveSnippet.Session.Expansion

/-!
# Updates of an expansion

The editor reports every batch of edits. The parts follow the edits; if the selected placeholder
took one in, the generator runs again, and the blocks whose output has changed are to be replaced by
corrective edits.

The corrective edits come back as the next batch. They are known by the flag that was set when they
were issued, and each by its text, which is the content of its block; so they never cause another
run.

An edit goes to the parts in their order. A part that covers it may absorb it, which ends its way;
otherwise the text of the edit stays behind the part. Every part that is not reached gets the text
in front of it.

## Main definitions

* `Routed`, `route`: the edits that each part is to follow
* `Expansion.regenerate`: a run of the generator
* `Expansion.update`: the answer to a batch
-/

namespace LiveSnippet

/-- A part and the edits it is to follow. -/
structure Routed where
  part : Part
  moves : List (Edit × Growth)
  /-- Whether the part is a placeholder that absorbed an edit. -/
  touched : Bool

namespace Routed

/-- A part without edits. -/
def ofPart (p : Part) : Routed := ⟨p, [], false⟩

/-- Hands an edit to the part. -/
def give (e : Edit) (g : Growth) (r : Routed) : Routed := { r with moves := r.moves ++ [(e, g)] }

/-- Has the part absorb an edit. -/
def absorb (e : Edit) (r : Routed) : Routed :=
  { r.give e .grow with touched := r.touched || r.part.kind.isPlaceholder }

/-- The part after its edits. -/
def followed (r : Routed) : Part := r.part.follow r.moves

end Routed

/-- Offers an edit to parts: to those that cover it up to the first that absorbs it. Gives these
parts, and the others. -/
def offer (absorbs : Part → Bool) (e : Edit) : List Routed → List Routed × List Routed
  | [] => ([], [])
  | r :: rest =>
    if r.part.range.covers e.span then
      if absorbs r.part then ([r.absorb e], rest.map (·.give e .fixRight))
      else
        let (passed, rest) := offer absorbs e rest
        (r.give e .fixLeft :: passed, rest)
    else ([], (r :: rest).map (·.give e .fixRight))

/-- Hands edits to parts. Parts that end before an edit does not concern, and parts that have been
offered an edit, are not concerned by later ones. -/
def route (absorbs : Edit → Part → Bool) : List Edit → List Routed → List Routed
  | [], parts => parts
  | e :: edits, parts =>
    let endsBefore := fun (r : Routed) => decide (r.part.range.stop < e.span.stop)
    let (passed, rest) := offer (absorbs e) e (parts.dropWhile endsBefore)
    parts.takeWhile endsBefore ++ passed ++ route absorbs edits rest

/-- The answer to a batch. -/
structure UpdateOutcome where
  /-- Edits to apply to the document as it is. -/
  edits : List Edit
  /-- Whether the generator ran. -/
  regenerated : Bool
  diagnostic : Option Diagnostic
deriving DecidableEq, Repr

namespace UpdateOutcome

/-- The answer that asks for nothing. -/
def none : UpdateOutcome := ⟨[], false, .none⟩

end UpdateOutcome

namespace Part

/-- The edit that replaces the content of a block whose output has changed. -/
def correction? (blocks : List Text) (p : Part) : Option Edit :=
  match p.kind with
  | .placeholder _ => none
  | .block index => (blocks[index]?).bind fun output =>
    if output = p.content then none else some ⟨p.range.span, output⟩

/-- The part with its new output. -/
def withOutput (blocks : List Text) (p : Part) : Part :=
  match p.kind with
  | .placeholder _ => p
  | .block index => { p with content := (blocks[index]?).getD p.content }

end Part

namespace Expansion

/-- Whether a part absorbs an edit: the selected placeholder does, and while corrective edits are
under way a block whose content is the text of the edit. -/
def absorbs (x : Expansion) (e : Edit) (p : Part) : Bool :=
  match p.kind with
  | .placeholder id => x.selected? == some id && !x.blockChanged
  | .block _ => x.blockChanged && p.content == e.text

/-- The contents of the placeholders in the order of the document, and empty texts up to the number
of markers. -/
def placeholderTexts (x : Expansion) : List Text :=
  let texts := (x.parts.filter (·.kind.isPlaceholder)).map (·.content)
  texts ++ List.replicate (x.template.placeholderCount - texts.length) []

/-- Runs the generator. If it fails, the blocks stay as they are. -/
def regenerate (x : Expansion) : UpdateOutcome × Expansion :=
  match x.template.generator.invoke (x.input x.placeholderTexts) with
  | .error e => (⟨[], true, some (diagnose x.template e)⟩, x)
  | .ok output =>
    let edits := x.parts.filterMap (·.correction? output.blocks)
    (⟨edits, true, none⟩,
      { x with
        parts := x.parts.map (·.withOutput output.blocks)
        blockChanged := !edits.isEmpty })

/-- A part after its edits, with its content read again if it absorbed one as a placeholder. -/
def reread (d : Document) (r : Routed) : Part :=
  let p := r.followed
  if r.touched then { p with content := (d.text? p.range.span).getD [] } else p

/-- Answers a batch of edits, given the document after the batch. -/
def update (x : Expansion) (edits : List Edit) (d : Document) : UpdateOutcome × Expansion :=
  let edits := Edit.sortByStop edits
  let routed := route x.absorbs edits (x.parts.map .ofPart)
  let x' := { x with
    range := x.range.update (edits.map (·, .grow))
    parts := routed.map (reread d)
    blockChanged := false }
  if routed.any (·.touched) then x'.regenerate else (.none, x')

end Expansion

end LiveSnippet
