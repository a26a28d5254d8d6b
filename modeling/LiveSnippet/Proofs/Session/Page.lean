import LiveSnippet.Proofs.Text.Replacing
import LiveSnippet.Session.Host

/-!
# Pages

A page is what a document with an expansion should look like: the text in front of the expansion,
its fields one after the other, and the text behind it. A field is a run of literal text, a
placeholder at its first marker, or the output of a block. A page knows no positions: its text is
the concatenation of what its fields show, so it is the yardstick for the positions and edits of an
expansion.

A session is a page with a selected placeholder. Typing changes the text of the placeholder and
renews the outputs of all blocks, unless the generator fails.

## Main definitions

* `Field`, `Field.ofSegments`: the fields of a template body
* `Field.separated`: no two blocks touch each other
* `Page`, `Page.shown`, `Page.text`
* `Session`, `Op`, `Session.step`, `Session.trace`, `Session.pages`
* `Host.act`, `Host.trace`: the same operations on a host
* `Page.Fits`, `Page.Sound`, `Session.Sound`: pages on which sessions are kept in sync

## Main results

* `Page.text_write`: the document when a placeholder has been written
* `Session.Sound.step`: every operation leads from one sound session to another
-/

namespace LiveSnippet

/-- A piece of an expansion as a document shows it. -/
inductive Field
  | literal (run : Text)
  | placeholder (id : Nat)
  | block (index : Nat)
deriving DecidableEq, Repr

namespace Field

/-- The placeholder of a field. -/
def id? : Field → Option Nat
  | placeholder id => some id
  | _ => none

/-- The field of a piece of literal text, further lines indented. -/
def ofPiece (indent : Text) : Marker.Piece → Field
  | .text run => literal (Text.indented indent run)
  | .dollar => literal ['$']
  | .marker id => placeholder id

/-- The fields of a segment. A block without output is left out. -/
def ofSegment (indent selected : Text) (blockCount : Nat) : Segment → List Field
  | .text run => (Marker.pieces (Layout.withSelection selected run)).map (ofPiece indent)
  | .block index => if index < blockCount then [block index] else []

/-- The fields without the markers whose placeholder is already known, or has been marked before. -/
def firsts (known : List Nat) : List Field → List Field
  | [] => []
  | placeholder id :: rest =>
    if known.contains id then firsts known rest
    else placeholder id :: firsts (known ++ [id]) rest
  | field :: rest => field :: firsts known rest

/-- The fields of a template body. -/
def ofSegments (indent selected : Text) (blockCount : Nat) (segments : List Segment) :
    List Field :=
  firsts [] (segments.flatMap (ofSegment indent selected blockCount))

/-- Whether literal characters stand between any two blocks; `open'` says that none has been shown
since the last block. -/
def separated (open' : Bool) : List Field → Bool
  | [] => true
  | literal run :: rest => separated (open' && run.isEmpty) rest
  | placeholder _ :: rest => separated open' rest
  | block _ :: rest => !open' && separated true rest

end Field

/-- What a document with an expansion should look like. -/
structure Page where
  /-- The text in front of the expansion. -/
  front : Text
  fields : List Field
  /-- The text behind the expansion. -/
  back : Text
  /-- The texts of the placeholders. -/
  texts : Nat → Text
  /-- The outputs of the blocks in the latest run of the generator that succeeded. -/
  outputs : List Text

namespace Page

/-- What a field shows. -/
def shown (p : Page) : Field → Text
  | .literal run => run
  | .placeholder id => p.texts id
  | .block index => (p.outputs[index]?).getD []

/-- The whole document. -/
def text (p : Page) : Text := p.front ++ p.fields.flatMap p.shown ++ p.back

/-- The texts of the placeholders in the order of the document, and empty texts up to the number of
markers. -/
def placeholderTexts (p : Page) (count : Nat) : List Text :=
  let texts := (p.fields.filterMap Field.id?).map p.texts
  texts ++ List.replicate (count - texts.length) []

/-- The page with another text of a placeholder. -/
def write (p : Page) (id : Nat) (text : Text) : Page :=
  { p with texts := fun i => if i = id then text else p.texts i }

/-- The page with other outputs. -/
def renew (p : Page) (outputs : List Text) : Page := { p with outputs }

end Page

/-- A page and the selected placeholder. -/
structure Session where
  page : Page
  /-- The placeholders in the order in which they are visited. -/
  stops : List Nat
  /-- The index of the selected placeholder; `none` when the session has ended. -/
  active : Option Nat

/-- What a user does in a session. -/
inductive Op
  | type (text : Text)
  | replace (text : Text)
  | next
  | prev
deriving DecidableEq, Repr

namespace Op

/-- The text that is typed. -/
def typed : Op → Text
  | type text => text
  | replace text => text
  | _ => []

end Op

namespace Session

variable (t : Template) (r : ExpansionRequest)

/-- The page with the outputs of a run of the generator, if that succeeds. -/
def regenerate (p : Page) : Page :=
  match t.generator.invoke
      ⟨p.placeholderTexts t.placeholderCount, r.matchGroups, r.workspaceId, r.fileId⟩ with
  | .ok output => p.renew output.blocks
  | .error _ => p

/-- The selected placeholder. -/
def selected? (s : Session) : Option Nat := s.active.bind (s.stops[·]?)

/-- The selected placeholder if the page shows it. -/
def field? (s : Session) : Option Nat :=
  s.selected?.filter fun id => s.page.fields.contains (.placeholder id)

/-- The page when the selected placeholder has been written and no block is renewed yet. -/
def written (s : Session) (f : Text → Text) : Page :=
  match s.field? with
  | none => s.page
  | some id => s.page.write id (f (s.page.texts id))

/-- Writes the selected placeholder and renews the blocks. Says whether there is one. -/
def write (s : Session) (f : Text → Text) : Bool × Session :=
  match s.field? with
  | none => (false, s)
  | some _ => (true, { s with page := regenerate t r (s.written f) })

/-- Selects another placeholder. Says whether the session goes on. -/
def select (s : Session) (active : Option Nat) : Bool × Session :=
  ((active.bind (s.stops[·]?)).any (· ≠ 0), { s with active })

/-- The page when an operation has been carried out and no block is renewed yet. -/
def halfway (s : Session) : Op → Page
  | .type text => s.written (· ++ text)
  | .replace text => s.written fun _ => text
  | _ => s.page

/-- Carries out an operation. -/
def step (s : Session) : Op → Bool × Session
  | .type text => s.write t r (· ++ text)
  | .replace text => s.write t r fun _ => text
  | .next => s.select ((s.active.map (· + 1)).filter (· < s.stops.length))
  | .prev => s.select (s.active.bind fun i => if i = 0 then none else some (i - 1))

/-- The answers of some operations, each with the document after it. -/
def trace (s : Session) : List Op → List (Bool × Text)
  | [] => []
  | op :: ops =>
    let (answer, s) := s.step t r op
    (answer, s.page.text) :: trace s ops

/-- All pages on the way. -/
def pages (s : Session) : List Op → List Page
  | [] => [s.page]
  | op :: ops => s.page :: s.halfway op :: pages (s.step t r op).2 ops

/-- The session of a template that has been put in the place of `trigger`, where the first run of
its generator gave `output`. -/
def start (b : Buffer) (trigger : Span) (output : GeneratorOutput) : Session :=
  let fields := Field.ofSegments (b.lineIndent trigger.start.line) r.selectedText
    output.blocks.length output.segments
  let (i, j) := (b.toIndices trigger).toOption.getD (0, 0)
  { page :=
      { front := b.text.take i
        fields := fields
        back := b.text.drop j
        texts := fun _ => []
        outputs := output.blocks }
    -- Placeholder 0 is where a session ends, so it is the last one that is visited.
    stops := ((fields.filterMap Field.id?).filter (0 < ·)).mergeSort
      (fun a b => decide (a ≤ b)) ++ [0]
    active := some 0 }

end Session

namespace Host

/-- Carries out an operation. -/
def act (h : Host) : Op → Except BufferError Bool × Host
  | .type text => h.typeText text
  | .replace text => h.replaceSelected text
  | .next => let (goesOn, h) := h.next; (.ok goesOn, h)
  | .prev => let (goesOn, h) := h.prev; (.ok goesOn, h)

/-- The answers of some operations, each with the document after it. -/
def trace (h : Host) : List Op → List (Except BufferError Bool × Text)
  | [] => []
  | op :: ops =>
    let (answer, h) := h.act op
    (answer, h.buffer.text) :: trace h ops

end Host

/-! ### Sound sessions -/

namespace Page

variable {p : Page} {id : Nat} {text : Text} {f : Field} {fs gs : List Field} {n : Nat}

/-- No output of the page has a line break, and all positions of the document can be stored. -/
structure Fits (p : Page) : Prop where
  noBreak : ∀ o ∈ p.outputs, Text.NoBreak o
  addressable : (⟨p.text⟩ : Buffer).Addressable

/-- A short document has small coordinates. -/
theorem fits_of_length_le (hbreak : ∀ o ∈ p.outputs, Text.NoBreak o) (hlf : p.text.LfOnly)
    (h : p.text.length ≤ maxCoordinate) : p.Fits :=
  ⟨hbreak, Buffer.addressable_of_length_le hlf h⟩

/-- A page of a template with `n` blocks: LF is the only line break, no two blocks touch each other,
no placeholder is shown twice, and all blocks have an output. -/
structure Sound (p : Page) (n : Nat) : Prop where
  lfOnly : p.text.LfOnly
  separated : Field.separated false p.fields
  nodup : (p.fields.filterMap Field.id?).Nodup
  index_lt : ∀ index, .block index ∈ p.fields → index < n
  outputs_length : p.outputs.length = n

theorem lfOnly_text_iff :
    p.text.LfOnly ↔ p.front.LfOnly ∧ (∀ f ∈ p.fields, (p.shown f).LfOnly) ∧ p.back.LfOnly := by
  have hfields : Text.LfOnly (p.fields.flatMap p.shown) ↔ ∀ f ∈ p.fields, (p.shown f).LfOnly := by
    constructor
    · exact fun h f hf c hc => h c (List.mem_flatMap.mpr ⟨f, hf, hc⟩)
    · intro h c hc
      obtain ⟨f, hf, hc⟩ := List.mem_flatMap.mp hc
      exact h f hf c hc
  rw [text, Text.lfOnly_append, Text.lfOnly_append, hfields, and_assoc]

theorem shown_write_self : (p.write id text).shown (.placeholder id) = text := if_pos rfl

theorem shown_write_of_ne (h : f ≠ .placeholder id) : (p.write id text).shown f = p.shown f := by
  cases f with
  | literal run => rfl
  | block index => rfl
  | placeholder i => exact if_neg fun hi => h (congrArg Field.placeholder hi)

theorem shown_write_of_mem (h : .placeholder id ∉ fs) (hf : f ∈ fs) :
    (p.write id text).shown f = p.shown f := shown_write_of_ne fun heq => h (heq ▸ hf)

theorem shown_renew_placeholder (p : Page) (outputs : List Text) (id : Nat) :
    p.shown (.placeholder id) = (p.renew outputs).shown (.placeholder id) := rfl

/-- The document around a placeholder. -/
theorem text_eq_of_fields (h : p.fields = fs ++ .placeholder id :: gs) :
    p.text = p.front ++ fs.flatMap p.shown ++ p.texts id ++ (gs.flatMap p.shown ++ p.back) := by
  simp [text, h, shown]

/-- The document when a placeholder has been written. -/
theorem text_write (h : p.fields = fs ++ .placeholder id :: gs) (hfs : .placeholder id ∉ fs)
    (hgs : .placeholder id ∉ gs) :
    (p.write id text).text =
      p.front ++ fs.flatMap p.shown ++ text ++ (gs.flatMap p.shown ++ p.back) := by
  have hwrite : (p.write id text).fields = fs ++ .placeholder id :: gs := h
  rw [text_eq_of_fields hwrite, List.flatMap_congr fun f hf => shown_write_of_mem hfs hf,
    List.flatMap_congr fun f hf => shown_write_of_mem hgs hf]
  exact congrArg (_ ++ · ++ _) (if_pos rfl)

/-- A placeholder stands in one field only. -/
theorem Sound.exists_fields (hp : p.Sound n) (h : .placeholder id ∈ p.fields) :
    ∃ fs gs, p.fields = fs ++ .placeholder id :: gs ∧ .placeholder id ∉ fs ∧
      .placeholder id ∉ gs := by
  obtain ⟨fs, gs, hfields⟩ := List.append_of_mem h
  have hid : (Field.placeholder id).id? = some id := rfl
  have hnodup := hp.nodup
  rw [hfields, List.filterMap_append, List.filterMap_cons_some hid] at hnodup
  obtain ⟨-, hgs, hdisjoint⟩ := List.nodup_append.mp hnodup
  -- A second field of the placeholder would count it twice, in front or behind.
  refine ⟨fs, gs, hfields, fun hmem => ?_, fun hmem => ?_⟩
  · exact hdisjoint id (List.mem_filterMap.mpr ⟨_, hmem, rfl⟩) id List.mem_cons_self rfl
  · exact (List.nodup_cons.mp hgs).1 (List.mem_filterMap.mpr ⟨_, hmem, rfl⟩)

theorem Sound.write (hp : p.Sound n) (htext : text.LfOnly) : (p.write id text).Sound n := by
  obtain ⟨hfront, hfields, hback⟩ := lfOnly_text_iff.mp hp.lfOnly
  refine ⟨lfOnly_text_iff.mpr ⟨hfront, fun f hf => ?_, hback⟩, hp.separated, hp.nodup, hp.index_lt,
    hp.outputs_length⟩
  by_cases h : f = .placeholder id
  · rw [h, shown_write_self]
    exact htext
  · rw [shown_write_of_ne h]
    exact hfields f hf

/-- A block shows an output. -/
theorem Fits.noBreak_shown (hp : p.Fits) (index : Nat) : (p.shown (.block index)).NoBreak := by
  rw [shown]
  cases hout : p.outputs[index]? with
  | none => exact Text.noBreak_nil
  | some output => exact hp.noBreak output (List.mem_of_getElem? hout)

theorem Sound.renew {outputs : List Text} (hp : p.Sound n) (hlength : outputs.length = n)
    (hfits : (p.renew outputs).Fits) : (p.renew outputs).Sound n := by
  obtain ⟨hfront, hfields, hback⟩ := lfOnly_text_iff.mp hp.lfOnly
  refine ⟨lfOnly_text_iff.mpr ⟨hfront, fun f hf => ?_, hback⟩, hp.separated, hp.nodup, hp.index_lt,
    hlength⟩
  -- Only the blocks show anything new, and an output that fits has no line break at all.
  cases f with
  | literal run => exact hfields _ hf
  | placeholder id => exact hfields _ hf
  | block index => exact (hfits.noBreak_shown index).lfOnly

end Page

namespace Session

variable {t : Template} {r : ExpansionRequest} {s : Session} {p : Page} {op : Op}
  {f : Text → Text} {id n : Nat}

/-- A session on a sound page, whose selected placeholder is one of those that are visited. -/
structure Sound (s : Session) (n : Nat) : Prop where
  page : s.page.Sound n
  active_lt : ∀ i, s.active = some i → i < s.stops.length

theorem field?_eq_some_iff :
    s.field? = some id ↔ s.selected? = some id ∧ .placeholder id ∈ s.page.fields := by
  rw [field?, Option.filter_eq_some_iff, List.contains_iff_mem]

theorem page_mem_pages (t : Template) (r : ExpansionRequest) (s : Session) (ops : List Op) :
    s.page ∈ s.pages t r ops := by
  cases ops <;> exact List.mem_cons_self

/-- A run of the generator changes the outputs at most. -/
theorem exists_regenerate_eq (r : ExpansionRequest) (hp : p.Sound t.generator.blockCount) :
    ∃ outputs : List Text, outputs.length = t.generator.blockCount ∧
      regenerate t r p = p.renew outputs := by
  rw [regenerate]
  split
  · exact ⟨_, (Generator.segments_of_invoke ‹_›).2, rfl⟩
  · exact ⟨p.outputs, hp.outputs_length, rfl⟩

theorem sound_regenerate (hp : p.Sound t.generator.blockCount) (hfits : (regenerate t r p).Fits) :
    (regenerate t r p).Sound t.generator.blockCount := by
  obtain ⟨outputs, hlength, heq⟩ := exists_regenerate_eq r hp
  rw [heq] at hfits ⊢
  exact hp.renew hlength hfits

theorem Sound.written (hs : s.Sound n) (hf : ∀ text : Text, text.LfOnly → (f text).LfOnly) :
    (s.written f).Sound n := by
  rw [Session.written]
  split
  · exact hs.page
  · rename_i id hid
    obtain ⟨-, hmem⟩ := field?_eq_some_iff.mp hid
    exact hs.page.write (hf _ ((Page.lfOnly_text_iff.mp hs.page.lfOnly).2.1 _ hmem))

theorem Sound.write (hs : s.Sound t.generator.blockCount)
    (hf : ∀ text : Text, text.LfOnly → (f text).LfOnly) (hfits : (s.write t r f).2.page.Fits) :
    (s.write t r f).2.Sound t.generator.blockCount := by
  rw [Session.write] at hfits ⊢
  split
  · exact hs
  · rename_i id hid
    rw [hid] at hfits
    exact ⟨sound_regenerate (hs.written hf) hfits, hs.active_lt⟩

/-- Every operation leads from one sound session to another. -/
theorem Sound.step (hs : s.Sound t.generator.blockCount) (htyped : op.typed.LfOnly)
    (hfits : (s.step t r op).2.page.Fits) : (s.step t r op).2.Sound t.generator.blockCount := by
  cases op with
  | type text => exact hs.write (fun _ h => Text.lfOnly_append.mpr ⟨h, htyped⟩) hfits
  | replace text => exact hs.write (fun _ _ => htyped) hfits
  | next =>
    refine ⟨hs.page, fun i hi => ?_⟩
    exact of_decide_eq_true (Option.filter_eq_some_iff.mp hi).2
  | prev =>
    refine ⟨hs.page, fun i hi => ?_⟩
    obtain ⟨j, hj, hi⟩ := Option.bind_eq_some_iff.mp hi
    have hlt := hs.active_lt j hj
    split_ifs at hi
    obtain rfl := Option.some.inj hi
    exact Nat.lt_of_le_of_lt (Nat.sub_le j 1) hlt

end Session

end LiveSnippet
