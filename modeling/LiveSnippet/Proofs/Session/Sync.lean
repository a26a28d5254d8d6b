import LiveSnippet.Proofs.Session.Opening
import LiveSnippet.Proofs.Session.Settling
import LiveSnippet.Proofs.Template.Seams

/-!
# Sessions stay in sync

A host with a live expansion behaves like a session on a page. An edit of the selected placeholder
is taken in by its part, the generator sees the texts of the page, its corrective edits are those
that patch the fields whose text has changed, and their echo moves every part to the place that the
page has for it. So every operation succeeds, and the document is the text of the page after each of
them.

## Main definitions

* `Expansion.Tracks`: an expansion is in step with a session
* `Host.Shows`: a host shows a session

## Main results

* `Expansion.Tracks.moved`, `Expansion.Tracks.regenerate`, `Expansion.Tracks.echo`: an edit, the run
  that it causes, and the echo of the corrective edits
* `Host.Shows.act`: an operation of a host is an operation of the session
* `Host.expand_trace_eq`: a whole session stays in sync
* `Host.expand_trace_of_safeSeams`: so it does if the segments have safe seams
-/

namespace LiveSnippet

/-! ### The parts of a page -/

namespace Field

variable {shown shown' content : Field → Text} {pre : Text} {fs : List Field}
  {blocks : List Text} {id : Nat}

/-- A placeholder without a field has no part. -/
theorem find?_parts_eq_none (h : placeholder id ∉ fs) :
    (parts shown content pre fs).find? (·.kind == .placeholder id) = none := by
  rw [List.find?_eq_none]
  intro q hq hkind
  obtain ⟨f, hf, hfkind, -⟩ := exists_of_mem_parts hq
  rw [beq_iff_eq.mp hkind, kind?_eq_some_placeholder_iff] at hfkind
  exact h (hfkind ▸ hf)

/-- The contents of the placeholders are what their fields show. -/
theorem map_content_parts :
    ((parts shown content pre fs).filter (·.kind.isPlaceholder)).map (·.content) =
      (fs.filterMap id?).map fun id => content (placeholder id) := by
  induction fs generalizing pre with
  | nil => rfl
  | cons f fs ih =>
    cases f with
    | literal run => exact ih
    | placeholder id => exact congrArg (content (placeholder id) :: ·) ih
    | block index => exact ih

/-- The parts of a page on which a placeholder has been written. -/
theorem parts_write {p : Page} {gs : List Field} {text : Text}
    (hfields : p.fields = fs ++ placeholder id :: gs) (hfs : placeholder id ∉ fs)
    (hgs : placeholder id ∉ gs) :
    parts (p.write id text).shown (p.write id text).shown p.front (p.write id text).fields =
      parts p.shown p.shown p.front fs ++
        Part.ofTexts (.placeholder id) (p.front ++ fs.flatMap p.shown) text text ::
          parts p.shown p.shown (p.front ++ fs.flatMap p.shown ++ text) gs := by
  have hwrite : (p.write id text).fields = fs ++ placeholder id :: gs := hfields
  have hkind : (placeholder id).kind? = some (.placeholder id) := rfl
  have hsame : ∀ {l : List Field}, placeholder id ∉ l → ∀ f ∈ l,
      (p.write id text).shown f = p.shown f ∧ (p.write id text).shown f = p.shown f :=
    fun hl f hf => ⟨Page.shown_write_of_mem hl hf, Page.shown_write_of_mem hl hf⟩
  have hfront : fs.flatMap (p.write id text).shown = fs.flatMap p.shown :=
    List.flatMap_congr fun f hf => Page.shown_write_of_mem hfs hf
  rw [hwrite, parts_append, parts_cons_some hkind, Page.shown_write_self, hfront,
    parts_congr (hsame hfs), parts_congr (hsame hgs)]

section

variable (htext : ∀ id, shown (placeholder id) = shown' (placeholder id))
  (hblock : ∀ index, block index ∈ fs → blocks[index]? = some (shown' (block index)))

include htext hblock

/-- The parts with their new outputs. -/
theorem map_withOutput_parts :
    (parts shown shown pre fs).map (·.withOutput blocks) = parts shown shown' pre fs := by
  induction fs generalizing pre with
  | nil => rfl
  | cons f fs ih =>
    have hrest := fun pre =>
      @ih pre fun index hmem => hblock index (List.mem_cons_of_mem f hmem)
    cases f with
    | literal run => exact hrest _
    | placeholder id =>
      rw [parts_cons_some rfl, parts_cons_some rfl, List.map_cons, hrest, ← htext]
      rfl
    | block index =>
      have hout := hblock index List.mem_cons_self
      rw [parts_cons_some rfl, parts_cons_some rfl, List.map_cons, hrest]
      simp [Part.withOutput, Part.ofTexts, hout]

variable (hlit : ∀ run, shown (literal run) = shown' (literal run))

include hlit

/-- The corrective edits are those that patch the fields. -/
theorem filterMap_correction?_parts :
    (parts shown shown pre fs).filterMap (·.correction? blocks) =
      Patch.edits pre (fs.map (patch shown shown')) := by
  induction fs generalizing pre with
  | nil => rfl
  | cons f fs ih =>
    have hrest := fun pre =>
      @ih pre fun index hmem => hblock index (List.mem_cons_of_mem f hmem)
    rw [List.map_cons]
    cases f with
    | literal run =>
      rw [parts_cons_none rfl, patch_of_eq (hlit run), Patch.edits]
      exact hrest _
    | placeholder id =>
      rw [parts_cons_some rfl, patch_of_eq (htext id), Patch.edits, List.filterMap_cons_none rfl]
      exact hrest _
    | block index =>
      have hout := hblock index List.mem_cons_self
      rw [parts_cons_some rfl]
      by_cases hsame : shown (block index) = shown' (block index)
      · rw [patch_of_eq hsame, Patch.edits, List.filterMap_cons_none]
        · exact hrest _
        · simp [Part.correction?, Part.ofTexts, hout, hsame]
      · rw [patch_of_ne hsame, Patch.edits]
        refine (List.filterMap_cons_some ?_).trans (congrArg _ (hrest _))
        simp [Part.correction?, Part.ofTexts, hout, Ne.symm hsame]

end

end Field

/-! ### Expansions in step with a session -/

/-- The expansion is in step with the page of a session, and the same placeholder is selected. -/
structure Expansion.Tracks (x : Expansion) (t : Template) (r : ExpansionRequest) (s : Session) :
    Prop where
  template : x.template = t
  matchGroups : x.matchGroups = r.matchGroups
  workspaceId : x.workspaceId = r.workspaceId
  fileId : x.fileId = r.fileId
  parts : x.parts = Field.parts s.page.shown s.page.shown s.page.front s.page.fields
  placeholderIds : x.placeholderIds = s.stops
  active : x.active = s.active
  blockChanged : x.blockChanged = false

namespace Expansion.Tracks

variable {x : Expansion} {t : Template} {r : ExpansionRequest} {s : Session} {fs gs : List Field}
  {id : Nat} {e : Edit} {c o : Text}

theorem selected? (hx : x.Tracks t r s) : x.selected? = s.selected? := by
  rw [Expansion.selected?, Session.selected?, hx.active, hx.placeholderIds]

/-- The generator sees the texts of the page. -/
theorem input (hx : x.Tracks t r s) :
    x.input x.placeholderTexts =
      ⟨s.page.placeholderTexts t.placeholderCount, r.matchGroups, r.workspaceId, r.fileId⟩ := by
  have htexts : x.placeholderTexts = s.page.placeholderTexts t.placeholderCount := by
    rw [placeholderTexts, hx.parts, Field.map_content_parts, hx.template]
    rfl
  rw [Expansion.input, htexts, hx.matchGroups, hx.workspaceId, hx.fileId]

/-- If no field of the page is selected, no part is. -/
theorem selectedSpan?_eq_none (hx : x.Tracks t r s) (h : s.field? = none) :
    x.selectedSpan? = none := by
  rw [selectedSpan?, hx.selected?]
  cases hid : s.selected? with
  | none => rfl
  | some id =>
    have hmem : .placeholder id ∉ s.page.fields := by
      intro hmem
      have hfield := Session.field?_eq_some_iff.mpr ⟨hid, hmem⟩
      rw [h] at hfield
      cases hfield
    rw [Option.bind_some, placeholderSpan?, hx.parts, Field.find?_parts_eq_none hmem]
    rfl

/-- The span of the selected placeholder is that of its field. -/
theorem selectedSpan?_eq_some (hx : x.Tracks t r s) (hid : s.selected? = some id)
    (hfields : s.page.fields = fs ++ .placeholder id :: gs) (hfs : .placeholder id ∉ fs) :
    x.selectedSpan? =
      some ⟨Text.endPosition (s.page.front ++ fs.flatMap s.page.shown),
        Text.endPosition (s.page.front ++ fs.flatMap s.page.shown ++ s.page.texts id)⟩ := by
  rw [selectedSpan?, hx.selected?, hid, Option.bind_some, placeholderSpan?, hx.parts, hfields,
    Field.parts_append, List.find?_append, Field.find?_parts_eq_none hfs, Option.none_or,
    Field.parts_cons_some rfl, List.find?_cons_of_pos (by simp [Part.ofTexts])]
  rfl

theorem next (hx : x.Tracks t r s) :
    x.next.Tracks t r
      { s with active := (s.active.map (· + 1)).filter (· < s.stops.length) } :=
  ⟨hx.template, hx.matchGroups, hx.workspaceId, hx.fileId, hx.parts, hx.placeholderIds,
    by rw [Expansion.next, hx.active, hx.placeholderIds], hx.blockChanged⟩

theorem prev (hx : x.Tracks t r s) :
    x.prev.Tracks t r
      { s with active := s.active.bind fun i => if i = 0 then none else some (i - 1) } :=
  ⟨hx.template, hx.matchGroups, hx.workspaceId, hx.fileId, hx.parts, hx.placeholderIds,
    by rw [Expansion.prev, hx.active], hx.blockChanged⟩

/-! ### An edit -/

/-- A placeholder that has taken in an edit is read again. -/
theorem reread_absorbed {pre post content : Text}
    (hspan : e.span = ⟨Text.endPosition (pre ++ c), Text.endPosition (pre ++ (c ++ o))⟩)
    (hlf : Text.LfOnly (pre ++ (c ++ e.text) ++ post))
    (haddr : Text.Addressable (pre ++ (c ++ e.text) ++ post)) :
    reread (⟨pre ++ (c ++ e.text) ++ post⟩ : Buffer).document
        ((Field.pushed [] (Part.ofTexts (.placeholder id) pre (c ++ o) content)).absorb e) =
      Part.ofTexts (.placeholder id) pre (c ++ e.text) (c ++ e.text) := by
  have hcarry := Edit.carries_nil pre.endPosition
  have hfollow : ((Field.pushed [] (Part.ofTexts (.placeholder id) pre (c ++ o) content)).absorb
      e).followed = Part.ofTexts (.placeholder id) pre (c ++ e.text) content :=
    Field.follow_absorbed hcarry (by simp) hspan (haddr.mono (List.prefix_append _ _))
      (hcarry.snoc_text hspan (Or.inr rfl))
  have hread : (⟨pre ++ (c ++ e.text) ++ post⟩ : Buffer).document.text?
      (Part.ofTexts (.placeholder id) pre (c ++ e.text) content).range.span = some (c ++ e.text) :=
    congrArg Except.toOption (Buffer.slice_endPosition hlf)
  rw [reread, hfollow, hread]
  rfl

/-- No part in front of the selected placeholder absorbs an edit. -/
theorem absorbs_eq_false {pre : Text} {shown content : Field → Text} {q : Part}
    (hx : x.Tracks t r s) (hid : s.selected? = some id) (hfs : .placeholder id ∉ fs)
    (hq : q ∈ Field.parts shown content pre fs) : x.absorbs e q = false := by
  obtain ⟨f, hf, hkind, -⟩ := Field.exists_of_mem_parts hq
  rw [absorbs, hx.blockChanged]
  cases hq : q.kind with
  | block index => rfl
  | placeholder i =>
    rw [hq, Field.kind?_eq_some_placeholder_iff] at hkind
    have hne : id ≠ i := fun h => hfs (h ▸ hkind ▸ hf)
    simp [hx.selected?, hid, hne]

/-- The selected placeholder does. -/
theorem absorbs_selected (hx : x.Tracks t r s) (hid : s.selected? = some id)
    (pre mid content : Text) :
    x.absorbs e (Part.ofTexts (.placeholder id) pre mid content) = true := by
  simp [absorbs, Part.ofTexts, hx.selected?, hid, hx.blockChanged]

/-- **A written placeholder.** An edit at the end of the selected placeholder, or of its whole text,
is taken in by it, and the expansion is in step with the page that has been written. -/
theorem moved (hx : x.Tracks t r s) (hid : s.selected? = some id)
    (hfields : s.page.fields = fs ++ .placeholder id :: gs) (hfs : .placeholder id ∉ fs)
    (hgs : .placeholder id ∉ gs) (htext : s.page.texts id = c ++ o)
    (hspan : e.span = ⟨Text.endPosition (s.page.front ++ fs.flatMap s.page.shown ++ c),
      Text.endPosition (s.page.front ++ fs.flatMap s.page.shown ++ (c ++ o))⟩)
    (hlf : (s.page.write id (c ++ e.text)).text.LfOnly)
    (hfits : (s.page.write id (c ++ e.text)).Fits) :
    (x.routed [e]).any (·.touched) = true ∧
      (x.moved [e] (⟨(s.page.write id (c ++ e.text)).text⟩ : Buffer).document).Tracks t r
        { s with page := s.page.write id (c ++ e.text) } := by
  have haddr := hfits.addressable.text hlf
  rw [Page.text_write hfields hfs hgs] at hlf haddr ⊢
  have hprefix :
      s.page.front ++ fs.flatMap s.page.shown ++ (c ++ e.text) ++ gs.flatMap s.page.shown <+:
      s.page.front ++ fs.flatMap s.page.shown ++ (c ++ e.text) ++
        (gs.flatMap s.page.shown ++ s.page.back) := by
    rw [← List.append_assoc _ (gs.flatMap _)]
    exact List.prefix_append _ _
  have hkind : (Field.placeholder id).kind? = some (.placeholder id) := rfl
  obtain ⟨L, R, hroute, ⟨hL, hLt⟩, hR, hRt⟩ := Field.route_edit hkind htext hspan
    (fun _ => hx.absorbs_eq_false hid hfs) (hx.absorbs_selected hid _ _ _) (haddr.mono hprefix)
  have hrouted : x.routed [e] = L ++ (Field.pushed [] (Part.ofTexts (.placeholder id)
      (s.page.front ++ fs.flatMap s.page.shown) (c ++ o)
        (s.page.shown (.placeholder id)))).absorb e :: R := by
    rw [routed, Edit.sortByStop, List.mergeSort_singleton, hx.parts, hfields]
    exact hroute
  refine ⟨by simp [hrouted, Field.pushed, Routed.absorb, Part.ofTexts, PartKind.isPlaceholder],
    hx.template, hx.matchGroups, hx.workspaceId, hx.fileId, ?_, hx.placeholderIds, hx.active, rfl⟩
  have hmoved : (x.moved [e] (⟨s.page.front ++ fs.flatMap s.page.shown ++ (c ++ e.text) ++
      (gs.flatMap s.page.shown ++ s.page.back)⟩ : Buffer).document).parts = _ :=
    congrArg (List.map _) hrouted
  rw [hmoved, List.map_append, List.map_cons, map_reread hLt, map_reread hRt, hL, hR,
    reread_absorbed hspan hlf haddr]
  exact (Field.parts_write hfields hfs hgs).symm

/-! ### The corrective edits -/

/-- **A run of the generator.** The corrective edits patch the page into the one with the new
outputs, and every block holds its new output. -/
theorem regenerate (hx : x.Tracks t r s) (hs : s.page.Sound t.generator.blockCount) :
    x.regenerate.1.edits = Patch.edits s.page.front
        (s.page.fields.map (Field.patch s.page.shown (Session.regenerate t r s.page).shown)) ∧
      x.regenerate.2 = { x with
        parts := Field.parts s.page.shown (Session.regenerate t r s.page).shown s.page.front
          s.page.fields
        blockChanged := !x.regenerate.1.edits.isEmpty } := by
  cases hrun : x.template.generator.invoke (x.input x.placeholderTexts) with
  | error e =>
    have hx' : x.regenerate = (⟨[], true, some (diagnose x.template e)⟩, x) := by
      rw [Expansion.regenerate, hrun]
    rw [hx.template, hx.input] at hrun
    have hpage : Session.regenerate t r s.page = s.page := by rw [Session.regenerate, hrun]
    rw [hx', hpage, Field.edits_patch_eq_nil_iff.mpr fun _ _ => rfl, ← hx.parts]
    exact ⟨rfl, by rw [List.isEmpty_nil, Bool.not_true, ← hx.blockChanged]⟩
  | ok output =>
    have hx' : x.regenerate = (⟨x.parts.filterMap (·.correction? output.blocks), true, none⟩,
        { x with
          parts := x.parts.map (·.withOutput output.blocks)
          blockChanged := !(x.parts.filterMap (·.correction? output.blocks)).isEmpty }) := by
      rw [Expansion.regenerate, hrun]
    rw [hx.template, hx.input] at hrun
    have hpage : Session.regenerate t r s.page = s.page.renew output.blocks := by
      rw [Session.regenerate, hrun]
    have hlength := (Generator.segments_of_invoke hrun).2
    have hblock : ∀ index, .block index ∈ s.page.fields → output.blocks[index]? =
        some ((s.page.renew output.blocks).shown (.block index)) := by
      intro index hmem
      have hlt : index < output.blocks.length := hlength ▸ hs.index_lt index hmem
      rw [Page.shown, Page.renew, List.getElem?_eq_getElem hlt, Option.getD_some]
    have htext := s.page.shown_renew_placeholder output.blocks
    have hlit (run : Text) : s.page.shown (.literal run) =
        (s.page.renew output.blocks).shown (.literal run) := rfl
    rw [hx', hpage, hx.parts, Field.filterMap_correction?_parts htext hblock hlit,
      Field.map_withOutput_parts htext hblock]
    exact ⟨rfl, rfl⟩

/-- If all fields show the same as before, there is nothing to correct, and the expansion is in step
with the page with the new outputs. -/
theorem quiet {outputs : List Text} {y : Expansion} (hx : x.Tracks t r s)
    (hsame : ∀ f ∈ s.page.fields, s.page.shown f = (s.page.renew outputs).shown f)
    (hy : y = { x with
      parts := Field.parts s.page.shown (s.page.renew outputs).shown s.page.front s.page.fields
      blockChanged := false }) :
    y.Tracks t r { s with page := s.page.renew outputs } := by
  have hparts : Field.parts s.page.shown (s.page.renew outputs).shown s.page.front s.page.fields =
      Field.parts (s.page.renew outputs).shown (s.page.renew outputs).shown s.page.front
        s.page.fields :=
    Field.parts_congr fun f hf => ⟨hsame f hf, rfl⟩
  subst hy
  exact ⟨hx.template, hx.matchGroups, hx.workspaceId, hx.fileId, hparts, hx.placeholderIds,
    hx.active, rfl⟩

/-- **The echo.** When the corrective edits come back, the expansion is in step with the page with
the new outputs. -/
theorem echo {outputs : List Text} {y : Expansion} {n : Nat} (hx : x.Tracks t r s)
    (hs : s.page.Sound n) (hfits : s.page.Fits) (hs' : (s.page.renew outputs).Sound n)
    (hfits' : (s.page.renew outputs).Fits)
    (hy : y = { x with
      parts := Field.parts s.page.shown (s.page.renew outputs).shown s.page.front s.page.fields
      blockChanged := true }) (d : Document) :
    (y.moved (Patch.edits s.page.front
      (s.page.fields.map (Field.patch s.page.shown (s.page.renew outputs).shown))) d).Tracks t r
        { s with page := s.page.renew outputs } := by
  have hchanged : y.blockChanged = true := by rw [hy]
  have hparts : y.parts =
      Field.parts s.page.shown (s.page.renew outputs).shown s.page.front s.page.fields := by rw [hy]
  have hblock : ∀ index, .block index ∈ s.page.fields →
      '\n' ∉ s.page.shown (.block index) ∧ '\n' ∉ (s.page.renew outputs).shown (.block index) ∧
        (s.page.renew outputs).shown (.block index) = (s.page.renew outputs).shown (.block index) :=
    fun index _ => ⟨(hfits.noBreak_shown index).not_mem, (hfits'.noBreak_shown index).not_mem, rfl⟩
  -- While the corrective edits are under way, blocks absorb them and placeholders absorb nothing.
  have habsorb : ∀ e q index, q.kind = .block index → y.absorbs e q = (q.content == e.text) := by
    intro e q index hq
    rw [absorbs, hq, hchanged]
    rfl
  have hrefuse : ∀ e q id, q.kind = .placeholder id → y.absorbs e q = false := by
    intro e q id hq
    rw [absorbs, hq, hchanged]
    exact Bool.and_false _
  have haddr :
      Text.Addressable (s.page.front ++ s.page.fields.flatMap (s.page.renew outputs).shown) :=
    (hfits'.addressable.text hs'.lfOnly).mono (List.prefix_append _ _)
  have hlit (run : Text) : s.page.shown (.literal run) = run ∧
      (s.page.renew outputs).shown (.literal run) = run := ⟨rfl, rfl⟩
  have hroute := Field.route_corrections hs.separated hlit (s.page.shown_renew_placeholder outputs)
    hblock habsorb hrefuse (Edit.carries_nil _) (by simp) haddr
  have hmoved : (y.moved (Patch.edits s.page.front
      (s.page.fields.map (Field.patch s.page.shown (s.page.renew outputs).shown))) d).parts =
      Field.parts (s.page.renew outputs).shown (s.page.renew outputs).shown s.page.front
        s.page.fields := by
    rw [y.moved_parts_of_blockChanged _ _ hchanged, routed, Patch.sortByStop_edits, hparts]
    exact hroute
  subst hy
  exact ⟨hx.template, hx.matchGroups, hx.workspaceId, hx.fileId, hmoved, hx.placeholderIds,
    hx.active, rfl⟩

end Expansion.Tracks

/-! ### Hosts that show a session -/

/-- The host has the document of a session, and its live expansion is in step with it. -/
structure Host.Shows (h : Host) (t : Template) (r : ExpansionRequest) (s : Session) : Prop where
  buffer : h.buffer = ⟨s.page.text⟩
  live : ∀ x, h.live = some x → x.Tracks t r s
  ended : h.live = none → s.active = none

namespace Host

variable {h : Host} {t : Template} {r : ExpansionRequest} {s : Session}

/-- The corrective edits turn the page into the one with the new outputs. -/
theorem apply_corrections {outputs : List Text} {n : Nat} (hs : s.page.Sound n) :
    (⟨s.page.text⟩ : Buffer).apply (Patch.edits s.page.front
        (s.page.fields.map (Field.patch s.page.shown (s.page.renew outputs).shown))) =
      .ok ⟨(s.page.renew outputs).text⟩ := by
  have hlf := hs.lfOnly
  rw [Page.text, ← Field.flatMap_old_patch _ (s.page.renew outputs).shown] at hlf ⊢
  rw [Patch.apply_edits hlf, Field.flatMap_new_patch]
  rfl

/-- An edit that has been taken in settles on the page with the new outputs. -/
theorem settle_shows {x y : Expansion} {edits : List Edit} (hbuffer : h.buffer = ⟨s.page.text⟩)
    (hupdate : x.update edits h.buffer.document = y.regenerate) (hy : y.Tracks t r s)
    (hs : s.page.Sound t.generator.blockCount) (hfits : s.page.Fits)
    (hfits' : (Session.regenerate t r s.page).Fits) :
    ∃ h', h.settle x edits maxRounds = (.ok (), h') ∧
      h'.Shows t r { s with page := Session.regenerate t r s.page } := by
  obtain ⟨hedits, hexpansion⟩ := hy.regenerate hs
  have hs' := Session.sound_regenerate hs hfits'
  obtain ⟨outputs, -, hpage⟩ := Session.exists_regenerate_eq r hs
  rw [hpage] at hedits hexpansion hfits' hs' ⊢
  rw [maxRounds, settle_eq, hupdate]
  cases hreg : y.regenerate with
  | mk outcome x' =>
    rw [hreg] at hedits hexpansion
    dsimp only at hedits hexpansion ⊢
    by_cases hnil : outcome.edits = []
    · have hsame := Field.edits_patch_eq_nil_iff.mp (hedits.symm.trans hnil)
      have htext : s.page.text = (s.page.renew outputs).text := by
        rw [Page.text, Page.text, List.flatMap_congr hsame]
        rfl
      have hunchanged : (!outcome.edits.isEmpty) = false := by simp [hnil]
      rw [if_pos (List.isEmpty_iff.mpr hnil)]
      refine ⟨_, rfl, hbuffer.trans (by rw [htext]), fun z hz => ?_,
        fun hnone => absurd hnone (by simp)⟩
      obtain rfl := Option.some.inj hz
      rw [hunchanged] at hexpansion
      exact hy.quiet hsame hexpansion
    · have happly : h.buffer.apply outcome.edits = .ok ⟨(s.page.renew outputs).text⟩ := by
        rw [hbuffer, hedits, apply_corrections hs]
      have hchanged : (!outcome.edits.isEmpty) = true := by simpa using hnil
      rw [if_neg (by simpa using hnil), happly]
      refine ⟨_, rfl, rfl, fun z hz => ?_, fun hnone => absurd hnone (by simp)⟩
      obtain rfl := Option.some.inj hz
      rw [hchanged] at hexpansion
      rw [hedits]
      exact hy.echo hs hfits hs' hfits' hexpansion _

/-- An edit at the end of the selected placeholder, or of its whole text, writes the page and renews
its outputs. -/
theorem edit_shows {x : Expansion} {fs gs : List Field} {id : Nat} {e : Edit} {c o : Text}
    (hbuffer : h.buffer = ⟨s.page.text⟩) (hlive : h.live = some x) (hx : x.Tracks t r s)
    (hid : s.selected? = some id) (hfields : s.page.fields = fs ++ .placeholder id :: gs)
    (hfs : .placeholder id ∉ fs) (hgs : .placeholder id ∉ gs) (htext : s.page.texts id = c ++ o)
    (hspan : e.span = ⟨Text.endPosition (s.page.front ++ fs.flatMap s.page.shown ++ c),
      Text.endPosition (s.page.front ++ fs.flatMap s.page.shown ++ (c ++ o))⟩)
    (hlf : s.page.text.LfOnly)
    (hwritten : (s.page.write id (c ++ e.text)).Sound t.generator.blockCount)
    (hfits : (s.page.write id (c ++ e.text)).Fits)
    (hfits' : (Session.regenerate t r (s.page.write id (c ++ e.text))).Fits) :
    ∃ h', h.edit [e] = (.ok (), h') ∧
      h'.Shows t r { s with page := Session.regenerate t r (s.page.write id (c ++ e.text)) } := by
  have happly : h.buffer.apply [e] = .ok ⟨(s.page.write id (c ++ e.text)).text⟩ := by
    rw [Page.text_eq_of_fields hfields, htext, ← List.append_assoc _ c o] at hlf
    have hedit : e = ⟨⟨Text.endPosition (s.page.front ++ fs.flatMap s.page.shown ++ c),
        Text.endPosition (s.page.front ++ fs.flatMap s.page.shown ++ c ++ o)⟩, e.text⟩ := by
      rw [List.append_assoc _ c o, ← hspan]
    rw [hbuffer, Page.text_eq_of_fields hfields, htext, ← List.append_assoc _ c o, hedit,
      Buffer.apply_singleton hlf, Page.text_write hfields hfs hgs, List.append_assoc _ c]
  obtain ⟨htouched, hmoved⟩ := hx.moved hid hfields hfs hgs htext hspan hwritten.lfOnly hfits
  have hupdate : x.update [e] (⟨(s.page.write id (c ++ e.text)).text⟩ : Buffer).document =
      (x.moved [e] (⟨(s.page.write id (c ++ e.text)).text⟩ : Buffer).document).regenerate := by
    rw [Expansion.update_eq, if_pos htouched]
  obtain ⟨h', hsettle, hshows⟩ := settle_shows (h := { h with
    buffer := ⟨(s.page.write id (c ++ e.text)).text⟩ }) rfl hupdate hmoved hwritten hfits hfits'
  refine ⟨h', ?_, hshows⟩
  rw [edit, happly, hlive]
  exact hsettle

/-- So does an edit of the host that depends on the span of the selected placeholder. -/
theorem editSelected_shows {f : Span → Edit} {g : Text → Text}
    (hf : ∀ pre text : Text, ∃ c o, text = c ++ o ∧
      (f ⟨pre.endPosition, Text.endPosition (pre ++ text)⟩).span =
        ⟨Text.endPosition (pre ++ c), Text.endPosition (pre ++ (c ++ o))⟩ ∧
      g text = c ++ (f ⟨pre.endPosition, Text.endPosition (pre ++ text)⟩).text)
    (hg : ∀ text : Text, text.LfOnly → (g text).LfOnly) (hs : s.Sound t.generator.blockCount)
    (hshows : h.Shows t r s) (hfits : (s.written g).Fits) (hfits' : (s.write t r g).2.page.Fits) :
    ∃ h', h.editSelected f = (.ok (s.write t r g).1, h') ∧ h'.Shows t r (s.write t r g).2 := by
  have hwritten := hs.written hg
  rw [Session.write] at hfits' ⊢
  cases hid : s.field? with
  | none =>
    have hspan : h.selectedSpan? = none := by
      rw [selectedSpan?]
      cases hlive : h.live with
      | none => rfl
      | some x => exact (hshows.live x hlive).selectedSpan?_eq_none hid
    exact ⟨h, by rw [editSelected, hspan], hshows⟩
  | some id =>
    obtain ⟨hselected, hmem⟩ := Session.field?_eq_some_iff.mp hid
    obtain ⟨fs, gs, hfields, hfs, hgs⟩ := hs.page.exists_fields hmem
    cases hlive : h.live with
    | none =>
      rw [Session.selected?, hshows.ended hlive] at hselected
      cases hselected
    | some x =>
      have hx := hshows.live x hlive
      obtain ⟨c, o, htext, hspan, hnew⟩ :=
        hf (s.page.front ++ fs.flatMap s.page.shown) (s.page.texts id)
      have hpage : s.written g = s.page.write id (g (s.page.texts id)) := by
        rw [Session.written, hid]
      rw [hid] at hfits'
      rw [hpage, hnew] at hwritten hfits hfits'
      obtain ⟨h', hedit, hshows'⟩ := edit_shows hshows.buffer hlive hx hselected hfields hfs hgs
        htext hspan hs.page.lfOnly hwritten hfits hfits'
      refine ⟨h', ?_, ?_⟩
      · rw [editSelected, selectedSpan?, hlive, Option.bind_some,
          hx.selectedSpan?_eq_some hselected hfields hfs]
        dsimp only
        rw [hedit]
        rfl
      · rw [hpage, hnew]
        exact hshows'

/-- Selecting another placeholder selects it on the page. The expansion is let go if there
is none. -/
theorem navigate_shows {step : Expansion → Expansion} {active : Option Nat}
    (hstep : ∀ x : Expansion, x.Tracks t r s → (step x).Tracks t r { s with active })
    (hlt : ∀ i, active = some i → i < s.stops.length) (hover : s.active = none → active = none)
    (hshows : h.Shows t r s) :
    ∃ h', h.navigate step = ((s.select active).1, h') ∧ h'.Shows t r (s.select active).2 := by
  rw [navigate]
  cases hlive : h.live with
  | none =>
    have hnone := hover (hshows.ended hlive)
    refine ⟨h, by rw [hnone]; rfl, hshows.buffer, fun x hx => ?_, fun _ => hnone⟩
    rw [hlive] at hx
    cases hx
  | some x =>
    have hx := hstep x (hshows.live x hlive)
    refine ⟨_, congrArg (·, _) ?_, hshows.buffer, fun y hy => ?_, fun hnone => ?_⟩
    · rw [Expansion.goesOn, hx.selected?]
      rfl
    · dsimp only at hy
      split_ifs at hy
      obtain rfl := Option.some.inj hy
      exact hx
    · have hunselected : (step x).selected?.isSome = false := by simpa using hnone
      rw [hx.selected?, Session.selected?] at hunselected
      cases hactive : active with
      | none => rfl
      | some i =>
        dsimp only at hunselected
        rw [hactive, Option.bind_some, List.getElem?_eq_getElem (hlt i hactive)] at hunselected
        cases hunselected

/-- **One operation.** An operation of the host succeeds with the answer of the session, and the
host shows the session after it. -/
theorem Shows.act {op : Op} (hs : s.Sound t.generator.blockCount) (hshows : h.Shows t r s)
    (htyped : op.typed.LfOnly) (hfits : (s.halfway op).Fits)
    (hfits' : (s.step t r op).2.page.Fits) :
    ∃ h', h.act op = (.ok (s.step t r op).1, h') ∧ h'.Shows t r (s.step t r op).2 := by
  cases op with
  | type text =>
    refine editSelected_shows (fun pre old => ⟨old, [], (List.append_nil _).symm, ?_, rfl⟩)
      (fun _ h => Text.lfOnly_append.mpr ⟨h, htyped⟩) hs hshows hfits hfits'
    rw [List.append_nil]
    rfl
  | replace text =>
    refine editSelected_shows (fun pre old => ⟨[], old, rfl, ?_, rfl⟩) (fun _ _ => htyped) hs hshows
      hfits hfits'
    rw [List.append_nil, List.nil_append]
  | next =>
    obtain ⟨h', hnavigate, hshows'⟩ := navigate_shows (fun _ => Expansion.Tracks.next)
      (hs.step htyped hfits').active_lt (fun hnone => by rw [hnone]; rfl) hshows
    exact ⟨h', by rw [Host.act, Host.next, hnavigate]; rfl, hshows'⟩
  | prev =>
    obtain ⟨h', hnavigate, hshows'⟩ := navigate_shows (fun _ => Expansion.Tracks.prev)
      (hs.step htyped hfits').active_lt (fun hnone => by rw [hnone]; rfl) hshows
    exact ⟨h', by rw [Host.act, Host.prev, hnavigate]; rfl, hshows'⟩

/-- Any number of operations: all succeed, and the document is that of the page after each
of them. -/
theorem Shows.trace_eq (hs : s.Sound t.generator.blockCount) (hshows : h.Shows t r s)
    {ops : List Op} (htyped : ∀ op ∈ ops, op.typed.LfOnly)
    (hpages : ∀ p ∈ s.pages t r ops, p.Fits) :
    h.trace ops = (s.trace t r ops).map fun (answer, text) => (.ok answer, text) := by
  induction ops generalizing h s with
  | nil => rfl
  | cons op ops ih =>
    obtain ⟨hop, hops⟩ := List.forall_mem_cons.mp htyped
    obtain ⟨-, hrest⟩ := List.forall_mem_cons.mp hpages
    obtain ⟨hhalf, hrest⟩ := List.forall_mem_cons.mp hrest
    have hnext := hrest _ (Session.page_mem_pages t r _ ops)
    obtain ⟨h', hact, hshows'⟩ := hshows.act hs hop hhalf hnext
    rw [Host.trace, hact, Session.trace, List.map_cons, ← ih (hs.step hop hnext) hshows' hops hrest]
    exact congrArg (fun b : Buffer => (_, b.text) :: _) hshows'.buffer

/-! ### Expanding a template -/

/-- The expansion that is laid out is in step with the first page. -/
theorem place_tracks (t : Template) (r : ExpansionRequest) {pre mid post : Text}
    {output : GeneratorOutput} (hlf : Text.LfOnly (pre ++ mid ++ post))
    (hbreak : ∀ o ∈ output.blocks, Text.NoBreak o) :
    (Expansion.place t { r with position := pre.endPosition }
      ((⟨pre ++ mid ++ post⟩ : Buffer).lineIndent pre.endPosition.line).length output).Tracks t r
      (Session.start r ⟨pre ++ mid ++ post⟩ ⟨pre.endPosition, Text.endPosition (pre ++ mid)⟩
        output) := by
  rw [Session.start_eq hlf]
  have hindent := Buffer.noBreak_lineIndent ⟨pre ++ mid ++ post⟩ pre.endPosition.line
  have hopens := Page.opens (p := ⟨pre, [], post, fun _ => [], output.blocks⟩) (fun _ => rfl)
    hbreak ((⟨pre ++ mid ++ post⟩ : Buffer).lineIndent pre.endPosition.line)
  have hholds := Layout.holds_ofOutput hopens pre r.selectedText hindent.not_mem output.segments
  refine ⟨rfl, rfl, rfl, rfl, hholds.parts, ?_, rfl, rfl⟩
  rw [Expansion.place, Layout.placeholderIds]
  dsimp only
  rw [hholds.ids]

section

variable {trigger : Span} {output : GeneratorOutput}
  (hfirst : t.generator.invoke ⟨List.replicate t.placeholderCount [], r.matchGroups,
    r.workspaceId, r.fileId⟩ = .ok output)

include hfirst

/-- A template that is expanded shows its first page. -/
theorem expand_shows {pre mid post : Text} (hbuffer : h.buffer = ⟨pre ++ mid ++ post⟩)
    (hlf : Text.LfOnly (pre ++ mid ++ post))
    (htrigger : trigger = ⟨pre.endPosition, Text.endPosition (pre ++ mid)⟩)
    (hbreak : ∀ o ∈ output.blocks, Text.NoBreak o)
    (hrender : Marker.render (output.snippets r.selectedText).flatten =
      (output.snippets r.selectedText).flatMap Marker.render) :
    ∃ h', h.expand t trigger r = (.ok (), h') ∧
      h'.Shows t r (Session.start r h.buffer trigger output) := by
  have hnew := Expansion.new_of_invoke (r := { r with position := trigger.start })
    h.buffer.document hfirst
  have hsnippet : (Expansion.place t { r with position := trigger.start }
      (h.buffer.lineIndent trigger.start.line).length output).snippet =
      (output.snippets r.selectedText).flatten := Layout.ofOutput_snippet _ _ _ _
  have happly : h.buffer.apply [⟨trigger, renderSnippet (output.snippets r.selectedText).flatten
      (h.buffer.lineIndent trigger.start.line)⟩] =
      .ok ⟨(Session.start r h.buffer trigger output).page.text⟩ := by
    rw [htrigger, hbuffer, Buffer.apply_singleton hlf, Session.text_start hlf hbreak hrender]
  have hexpand : h.expand t trigger r = (.ok (), { h with
      buffer := ⟨(Session.start r h.buffer trigger output).page.text⟩
      live := some (Expansion.place t { r with position := trigger.start }
        (h.buffer.lineIndent trigger.start.line).length output)
      diagnostics := h.diagnostics ++ [] }) := by
    rw [expand, hnew]
    dsimp only [Buffer.document]
    rw [hsnippet, happly]
    rfl
  refine ⟨_, hexpand, rfl, fun x hx => ?_, fun hnone => by cases hnone⟩
  obtain rfl := Option.some.inj hx
  rw [htrigger, hbuffer]
  exact place_tracks t r hlf hbreak

/-- A template is expanded in the place of a span. The first page is then sound and shown, if it
fits and its rendering goes segment by segment. -/
theorem expand_sound (hbuffer : h.buffer.text.LfOnly)
    (hsegments : ∀ run, .text run ∈ t.generator.segments → Text.LfOnly run)
    (hselected : r.selectedText.LfOnly) (htrigger : h.buffer.HasSpan trigger)
    (hfits : (Session.start r h.buffer trigger output).page.Fits)
    (hseparated : Field.separated false (Session.start r h.buffer trigger output).page.fields)
    (hrender : Marker.render (output.snippets r.selectedText).flatten =
      (output.snippets r.selectedText).flatMap Marker.render) :
    ∃ h', h.expand t trigger r = (.ok (), h') ∧
      h'.Shows t r (Session.start r h.buffer trigger output) ∧
      (Session.start r h.buffer trigger output).Sound t.generator.blockCount := by
  obtain ⟨pre, mid, post, hcut, hspan⟩ := htrigger.exists_cut hbuffer
  have hbuffer' : h.buffer = ⟨pre ++ mid ++ post⟩ := by rw [← hcut]
  obtain ⟨hsegments', hlength⟩ := Generator.segments_of_invoke hfirst
  have hbreak : ∀ o ∈ output.blocks, Text.NoBreak o := fun o ho => by
    have hnoBreak := hfits.noBreak
    rw [hbuffer', hspan, Session.start_eq (hcut ▸ hbuffer)] at hnoBreak
    exact hnoBreak o ho
  obtain ⟨h', hexpand, hshows⟩ := expand_shows hfirst hbuffer' (hcut ▸ hbuffer) hspan hbreak hrender
  refine ⟨h', hexpand, hshows, ?_⟩
  rw [hbuffer', hspan] at hseparated ⊢
  exact hlength ▸ Session.sound_start (hcut ▸ hbuffer) hselected (hsegments' ▸ hsegments) hbreak
    hrender hseparated

end

section

variable (h : Host) (t : Template) (trigger : Span) (r : ExpansionRequest) (ops : List Op)
  {output : GeneratorOutput} (hbuffer : h.buffer.text.LfOnly)
  (hsegments : ∀ run, .text run ∈ t.generator.segments → Text.LfOnly run)
  (hselected : r.selectedText.LfOnly) (htyped : ∀ op ∈ ops, op.typed.LfOnly)
  (htrigger : h.buffer.HasSpan trigger)
  (hfirst : t.generator.invoke ⟨List.replicate t.placeholderCount [], r.matchGroups,
    r.workspaceId, r.fileId⟩ = .ok output)
  (hpages : ∀ p ∈ (Session.start r h.buffer trigger output).pages t r ops, p.Fits)
  (hseparated : Field.separated false (Session.start r h.buffer trigger output).page.fields)

include hbuffer hsegments hselected htyped htrigger hfirst hpages hseparated

/-- **Session sync.** A template is expanded in the place of a span, and any operations follow. All
of them succeed with the answers of the session on its page, and the document is the text of the
page after each of them, if LF is the only line break, no output has one, all coordinates can be
stored, a literal character stands between any two blocks, and rendering goes segment by segment. -/
theorem expand_trace_eq
    (hrender : Marker.render (output.snippets r.selectedText).flatten =
      (output.snippets r.selectedText).flatMap Marker.render) :
    (h.expand t trigger r).1 = .ok () ∧
      (h.expand t trigger r).2.buffer.text =
        (Session.start r h.buffer trigger output).page.text ∧
      (h.expand t trigger r).2.trace ops =
        ((Session.start r h.buffer trigger output).trace t r ops).map
          fun (answer, text) => (.ok answer, text) := by
  have hfits := hpages _ (Session.page_mem_pages t r _ ops)
  obtain ⟨h', hexpand, hshows, hsound⟩ :=
    expand_sound hfirst hbuffer hsegments hselected htrigger hfits hseparated hrender
  rw [hexpand]
  exact ⟨rfl, congrArg Buffer.text hshows.buffer, hshows.trace_eq hsound htyped hpages⟩

/-- The same for segments with safe seams, which can be checked one after the other. -/
theorem expand_trace_of_safeSeams
    (hseams : Marker.SafeSeams (output.snippets r.selectedText)) :
    (h.expand t trigger r).1 = .ok () ∧
      (h.expand t trigger r).2.buffer.text =
        (Session.start r h.buffer trigger output).page.text ∧
      (h.expand t trigger r).2.trace ops =
        ((Session.start r h.buffer trigger output).trace t r ops).map
          fun (answer, text) => (.ok answer, text) := by
  have hfits := hpages _ (Session.page_mem_pages t r _ ops)
  obtain ⟨h', hexpand, hshows, hsound⟩ := expand_sound hfirst hbuffer hsegments hselected htrigger
    hfits hseparated (Marker.render_flatten hseams)
  rw [hexpand]
  exact ⟨rfl, congrArg Buffer.text hshows.buffer, hshows.trace_eq hsound htyped hpages⟩

end

/-- A placeholder is typed, replaced, left and visited again in a line that is indented. -/
theorem expand_trace_echo :
    let h := Host.new "  =".toList
    let trigger : Span := ⟨⟨0, 2⟩, ⟨0, 3⟩⟩
    let r : ExpansionRequest := ⟨.origin, [], [], [], []⟩
    let ops : List Op := [.type "ab".toList, .replace "c".toList, .next, .type "d".toList, .prev,
      .type "e".toList]
    (h.expand echoTemplate trigger r).1 = .ok () ∧
      (h.expand echoTemplate trigger r).2.trace ops =
        [(.ok true, "  ab = ab".toList), (.ok true, "  c = c".toList),
          (.ok false, "  c = c".toList), (.ok false, "  c = c".toList),
          (.ok true, "  c = c".toList), (.ok true, "  ce = ce".toList)] := by
  intro h trigger r ops
  have hsegments : ∀ run, .text run ∈ echoTemplate.generator.segments → Text.LfOnly run := by
    intro run hrun
    obtain rfl : run = "$1 = ".toList := by simpa [echoTemplate] using hrun
    decide
  have hfirst : echoTemplate.generator.invoke ⟨[[]], [], [], []⟩ =
      .ok ⟨echoTemplate.generator.segments, [[]]⟩ := rfl
  have hpages : ∀ p ∈ (Session.start r h.buffer trigger
      ⟨echoTemplate.generator.segments, [[]]⟩).pages echoTemplate r ops,
      (∀ o ∈ p.outputs, Text.NoBreak o) ∧ p.text.LfOnly ∧ p.text.length ≤ maxCoordinate := by
    decide +kernel
  have hsnippets : GeneratorOutput.snippets ⟨echoTemplate.generator.segments, [[]]⟩ [] =
      ["$1 = ".toList, []] := by decide +kernel
  have hseams : Marker.SafeSeams ["$1 = ".toList, []] := by decide
  have hsync := expand_trace_eq h echoTemplate trigger r ops (by decide) hsegments (by decide)
    (by decide) (by decide) hfirst
    (fun p hp => Page.fits_of_length_le (hpages p hp).1 (hpages p hp).2.1 (hpages p hp).2.2)
    (by decide +kernel) (Marker.render_flatten (hsnippets ▸ hseams))
  exact ⟨hsync.1, hsync.2.2.trans (by decide +kernel)⟩

end Host

end LiveSnippet
