import PhraseMark.Page.Locator
import PhraseMark.Proofs.Scan.Outcome

/-!
# Highlights of a scan

The passes of a scan work on one page, and later passes see the markers of earlier ones. They do
not enter them, so every highlight that was told is in the end a marker under the body with its
text in it, and no other element is new there.
-/

namespace PhraseMark

open Marking

namespace Marking

variable {markerClass : String}

theorem mem_highlightsOf {bs : List (NodeId × Piece)} {hl : Highlight} :
    hl ∈ highlightsOf bs ↔ (hl.span, Piece.hit hl.text) ∈ bs := by
  rw [highlightsOf, List.mem_filterMap]
  constructor
  · rintro ⟨⟨i, a⟩, hb, heq⟩
    cases a with
    | plain text => cases heq
    | hit text =>
        cases heq
        exact hb
  · intro hb
    exact ⟨_, hb, rfl⟩

theorem mem_highlightsOfCuts {cuts : List Cut} {hl : Highlight} :
    hl ∈ highlightsOfCuts cuts ↔ ∃ cut ∈ cuts, (hl.span, Piece.hit hl.text) ∈ cut.pieces := by
  simp only [highlightsOfCuts, List.mem_flatMap, mem_highlightsOf]

theorem span_sublist_nodesOf (markerClass : String) (parent : Option NodeId)
    (bs : List (NodeId × Piece)) :
    ((highlightsOf bs).map (·.span)).Sublist ((nodesOf markerClass parent bs).map (·.id)) := by
  induction bs with
  | nil => exact List.Sublist.refl _
  | cons b bs ih =>
      obtain ⟨i, a⟩ := b
      rw [nodesOf, List.flatMap_cons, List.map_append]
      cases a with
      | plain text => exact ih.cons i
      | hit text => exact (ih.cons (i + 1)).cons_cons i

end Marking

namespace Page

variable {p q : Page} {markerClass : String} {cuts : List Cut} {body t x : NodeId}
  {style : MarkStyle} {hs : List Highlight}

theorem span_sublist_piecesOf (p : Page) (markerClass : String) (cuts : List Cut) :
    ((highlightsOfCuts cuts).map (·.span)).Sublist
      ((p.piecesOf markerClass cuts).map (·.id)) := by
  induction cuts with
  | nil => exact List.Sublist.refl _
  | cons cut cuts ih =>
      rw [highlightsOfCuts, piecesOf, List.flatMap_cons, List.flatMap_cons, List.map_append,
        List.map_append]
      exact (span_sublist_nodesOf _ _ _).append ih

theorem nodup_span (hids : p.Numbered markerClass cuts) :
    ((highlightsOfCuts cuts).map (·.span)).Nodup := by
  refine (span_sublist_piecesOf p markerClass cuts).nodup ?_
  rw [hids]
  exact List.nodup_range'

theorem le_span_of_mem (hids : p.Numbered markerClass cuts) :
    ∀ hl ∈ highlightsOfCuts cuts, p.size ≤ hl.span := by
  intro hl hmem
  have hspan := (span_sublist_piecesOf p markerClass cuts).subset (List.mem_map_of_mem hmem)
  rw [hids, List.mem_range'_1] at hspan
  exact hspan.1

/-! ## Markers -/

/-- A highlight that names a marker under the body with its text in it. -/
structure IsMarker (p : Page) (body : NodeId) (markerClass : String) (hl : Highlight) :
    Prop where
  under : body ∈ p.lineage hl.span
  ne_body : hl.span ≠ body
  label : (p.node hl.span).unlinked =
    { (Node.ofTag "span").setAttr "class" markerClass with id := hl.span }
  text : ∃ c, (p.node hl.span).children = [c] ∧ (p.node c).isText = true ∧
    (p.node c).value = hl.text

namespace IsMarker

variable {hl : Highlight}

theorem isElement (h : p.IsMarker body markerClass hl) :
    (p.node hl.span).isElement = true := by
  have hkind := congrArg Node.isElement h.label
  exact hkind

theorem name (h : p.IsMarker body markerClass hl) : (p.node hl.span).name = "SPAN" := by
  have hname := congrArg Node.name h.label
  exact hname.trans (name_marker markerClass)

theorem attr_class (h : p.IsMarker body markerClass hl) :
    (p.node hl.span).attr? "class" = some markerClass := by
  have hattr := congrArg (Node.attr? · "class") h.label
  exact hattr.trans (Node.attr?_setAttr_self (Node.ofTag "span") "class" markerClass)

theorem lt_size (h : p.IsMarker body markerClass hl) : hl.span < p.size := by
  obtain ⟨c, hc, -⟩ := h.text
  exact lt_of_mem_children (by rw [hc]; exact List.mem_cons_self)

theorem avoided (h : p.IsMarker body style.markerClass hl)
    (htoken : IsClassToken style.markerClass) : avoids style (p.node hl.span) = true := by
  have hclass := congrArg (Node.hasClass · style.markerClass) h.label
  have hmarker : (p.node hl.span).hasClass style.markerClass = true :=
    hclass.trans (hasClass_marker htoken)
  rw [avoids, hmarker, Bool.or_true]

end IsMarker

/-! ## One pass -/

/-- A page is marked when its markers are those of the highlights told so far, and every element
under the body that is not of the old page is one of them. -/
structure Marked (p : Page) (body : NodeId) (style : MarkStyle) (q : Page)
    (hs : List Highlight) : Prop where
  wellFormed : q.WellFormed
  childless : q.TextsChildless
  size_le : p.size ≤ q.size
  nodup : (hs.map (·.span)).Nodup
  isMarker : ∀ hl ∈ hs, q.IsMarker body style.markerClass hl
  isNew : ∀ hl ∈ hs, p.size ≤ hl.span
  mem_of_new : ∀ x, p.size ≤ x → (q.node x).isElement = true → body ∈ q.lineage x →
    x ∈ hs.map (·.span)

theorem Marked.init (h : p.WellFormed) (hchildless : p.TextsChildless) (hbody : body < p.size)
    (style : MarkStyle) : Marked p body style p [] where
  wellFormed := h
  childless := hchildless
  size_le := Nat.le_refl _
  nodup := List.nodup_nil
  isMarker := fun hl hmem => absurd hmem List.not_mem_nil
  isNew := fun hl hmem => absurd hmem List.not_mem_nil
  mem_of_new := by
    intro x hle _ hx
    exact absurd (h.lt_of_mem_lineage hx hbody) (Nat.not_lt.2 hle)

/-- Cuts at text nodes with a parent under the body and with no element above them that a pass
avoids. -/
def AtMarkable (p : Page) (body : NodeId) (style : MarkStyle) (cuts : List Cut) : Prop :=
  ∀ t ∈ cuts.map (·.target), (p.node t).isText = true ∧ body ∈ p.lineage t ∧ t ≠ body ∧
    ∀ z, body ∈ p.lineage z → z ≠ body → z ∈ p.lineage t → z ≠ t →
      avoids style (p.node z) = false

namespace AtMarkable

theorem notMem_of_isElement (hat : p.AtMarkable body style cuts)
    (hx : (p.node x).isElement = true) : x ∉ cuts.map (·.target) := by
  intro hmem
  have htext := Node.isElement_eq_false_of_isText (hat x hmem).1
  rw [hx] at htext
  cases htext

theorem notMem_of_children (hat : p.AtMarkable body style cuts) (hchildless : p.TextsChildless)
    (hx : (p.node x).children ≠ []) : x ∉ cuts.map (·.target) :=
  fun hmem => hx (hchildless x (hat x hmem).1)

theorem lineage_eq (hat : p.AtMarkable body style cuts) (h : p.WellFormed)
    (hchildless : p.TextsChildless) (hq : (p.batch markerClass cuts).WellFormed)
    (hx : x < p.size) (hnot : x ∉ cuts.map (·.target)) :
    (p.batch markerClass cuts).lineage x = p.lineage x := by
  refine h.lineage_batch hq hx (fun y hy hmem => hnot ?_)
  rw [h.eq_of_mem_lineage_of_nil (hchildless y (hat y hmem).1) hy]
  exact hmem

/-- A marker stays one: a pass cuts up nothing below it. -/
theorem isMarker (hat : p.AtMarkable body style cuts) (h : p.WellFormed)
    (hchildless : p.TextsChildless) (hq : (p.batch style.markerClass cuts).WellFormed)
    (htoken : IsClassToken style.markerClass) {hl : Highlight}
    (hm : p.IsMarker body style.markerClass hl) :
    (p.batch style.markerClass cuts).IsMarker body style.markerClass hl := by
  obtain ⟨c, hc, htext, hvalue⟩ := hm.text
  have hmem : c ∈ (p.node hl.span).children := by simp [hc]
  have hparent := (h.mem_children_iff hl.span c).1 hmem
  have hspan := Page.lt_of_mem_children hmem
  have hclt := h.lt_of_mem_children hmem
  have hnot := hat.notMem_of_isElement hm.isElement
  have hcnot : c ∉ cuts.map (·.target) := by
    intro hcut
    obtain ⟨-, -, -, hfree⟩ := hat c hcut
    have havoids := hfree hl.span hm.under hm.ne_body (h.mem_lineage_of_parent hparent)
      (h.ne_of_parent hparent).symm
    rw [hm.avoided htoken] at havoids
    cases havoids
  have hlabel := unlinked_batch style.markerClass cuts hclt
  refine ⟨?_, hm.ne_body, (unlinked_batch _ _ hspan).trans hm.label, c, ?_, ?_, ?_⟩
  · rw [hat.lineage_eq h hchildless hq hspan hnot]
    exact hm.under
  · rw [children_batch _ _ hspan, hc, List.flatMap_singleton, place_of_notMem hcnot]
  · exact (congrArg Node.isText hlabel).trans htext
  · exact (congrArg Node.value hlabel).trans hvalue

theorem isMarker_new (hat : p.AtMarkable body style cuts) (h : p.WellFormed)
    (hchildless : p.TextsChildless) (hq : (p.batch style.markerClass cuts).WellFormed)
    (hids : p.Numbered style.markerClass cuts) (hbody : body < p.size) {hl : Highlight}
    (hmem : hl ∈ highlightsOfCuts cuts) :
    (p.batch style.markerClass cuts).IsMarker body style.markerClass hl := by
  obtain ⟨cut, hcut, hb⟩ := mem_highlightsOfCuts.1 hmem
  obtain ⟨htext, hunder, hne, -⟩ := hat cut.target (List.mem_map_of_mem hcut)
  have hnode : ∀ n ∈ (Piece.hit hl.text).nodes style.markerClass (p.node cut.target).parent hl.span,
      (p.batch style.markerClass cuts).node n.id = n := by
    intro n hn
    exact node_batch_of_mem hids (List.mem_flatMap.2 ⟨cut, hcut, mem_nodesOf.2 ⟨_, hb, hn⟩⟩)
  have hspan := hnode _ List.mem_cons_self
  have hinner := hnode _ (List.mem_cons_of_mem _ List.mem_cons_self)
  simp only at hspan hinner
  obtain ⟨x, hparent, hx⟩ := h.exists_parent_of_mem_lineage hunder hne
  have hchild := (h.mem_children_iff x cut.target).2 hparent
  have hxnot : x ∉ cuts.map (·.target) :=
    hat.notMem_of_children hchildless (List.ne_nil_of_mem hchild)
  have hup : ((p.batch style.markerClass cuts).node hl.span).parent = some x := by
    rw [hspan]
    exact hparent
  refine ⟨?_, ?_, ?_, hl.span + 1, ?_, ?_, ?_⟩
  · rw [hq.lineage_of_parent hup,
      hat.lineage_eq h hchildless hq (h.parent_lt hparent) hxnot]
    exact List.mem_cons_of_mem _ hx
  · exact fun heq => Nat.not_lt.2 (le_span_of_mem hids hl hmem) (heq ▸ hbody)
  · rw [hspan]
    rfl
  · rw [hspan]
  · rw [hinner]
    rfl
  · rw [hinner]
    rfl

theorem mem_of_isElement (hat : p.AtMarkable body style cuts) (h : p.WellFormed)
    (hchildless : p.TextsChildless) (hq : (p.batch markerClass cuts).WellFormed)
    (hids : p.Numbered markerClass cuts) (hbody : body < p.size)
    (helement : ((p.batch markerClass cuts).node x).isElement = true)
    (hx : body ∈ (p.batch markerClass cuts).lineage x) :
    (x < p.size ∧ (p.node x).isElement = true ∧ body ∈ p.lineage x) ∨
      x ∈ (highlightsOfCuts cuts).map (·.span) := by
  by_cases hold : x < p.size
  · have hkept : (p.node x).isElement = true :=
      (label_batch (g := Node.isElement) (fun _ => rfl) markerClass cuts hold).symm.trans helement
    rw [hat.lineage_eq h hchildless hq hold (hat.notMem_of_isElement hkept)] at hx
    exact .inl ⟨hold, hkept, hx⟩
  · right
    have hle := Nat.not_lt.1 hold
    have hsize : p.size ≤ (p.batch markerClass cuts).size := by
      rw [size_batch]
      exact Nat.le_add_right _ _
    have hlt := hq.lt_of_mem_lineage hx (Nat.lt_of_lt_of_le hbody hsize)
    obtain ⟨cut, hcut, ⟨i, a⟩, hb, n, hn, hnx, hnode⟩ := exists_piece_of_le hids hle hlt
    rw [hnode] at helement
    rcases Piece.cases_of_mem_nodes hn with ⟨htext, -⟩ | ⟨-, hid, text, rfl⟩
    · rw [Node.isElement_eq_false_of_isText htext] at helement
      cases helement
    · have hmem : (⟨i, text⟩ : Highlight) ∈ highlightsOfCuts cuts :=
        mem_highlightsOfCuts.2 ⟨cut, hcut, hb⟩
      exact List.mem_map.2 ⟨_, hmem, hid.symm.trans hnx⟩

end AtMarkable

theorem TextsChildless.batch (hchildless : p.TextsChildless) (hids : p.Numbered markerClass cuts) :
    (p.batch markerClass cuts).TextsChildless := by
  intro x htext
  by_cases hx : x < p.size
  · rw [node_batch_of_lt _ _ hx] at htext ⊢
    rw [relink]
    simp only [hchildless x htext, List.flatMap_nil]
  · by_cases hlt : x < (p.batch markerClass cuts).size
    · obtain ⟨cut, -, ⟨i, a⟩, -, n, hn, -, hnode⟩ :=
        exists_piece_of_le hids (Nat.not_lt.1 hx) hlt
      rw [hnode] at htext ⊢
      rcases Piece.cases_of_mem_nodes hn with ⟨-, hnil⟩ | ⟨hmarker, -⟩
      · exact hnil
      · rw [hmarker] at htext
        cases htext
    · exact children_of_le (Nat.not_lt.1 hlt)

/-! ## All passes -/

theorem Marked.mark (hm : Marked p body style q hs) (hbody : body < p.size)
    (htoken : IsClassToken style.markerClass) (matcher : Matcher) :
    Marked p body style (q.mark body style matcher).page
      (hs ++ (q.mark body style matcher).highlights) := by
  have h := hm.wellFormed
  have hbq : body < q.size := Nat.lt_of_lt_of_le hbody hm.size_le
  have hdone := h.mark_completes_markable hm.childless hbq htoken matcher
  have hids := q.numbered_plan style.markerClass (cutUp style matcher) (q.markable body style)
  have hat : q.AtMarkable body style (plan (cutUp style matcher) q.size (q.markable body style)) :=
    fun t ht => h.markable_of_target ht
  have hq := hdone.wellFormed
  rw [hdone.page] at hq
  rw [hdone.page, hdone.highlights]
  set cuts := plan (cutUp style matcher) q.size (q.markable body style)
  have hnew := le_span_of_mem hids
  refine ⟨hq, hm.childless.batch hids, ?_, ?_, ?_, ?_, ?_⟩
  · rw [size_batch]
    exact Nat.le_trans hm.size_le (Nat.le_add_right _ _)
  · rw [List.map_append, List.nodup_append]
    refine ⟨hm.nodup, nodup_span hids, ?_⟩
    rintro i hi j hj rfl
    obtain ⟨hl, hmem, rfl⟩ := List.mem_map.1 hi
    obtain ⟨hl', hmem', heq⟩ := List.mem_map.1 hj
    have hold := (hm.isMarker hl hmem).lt_size
    exact Nat.not_lt.2 (heq ▸ hnew hl' hmem') hold
  · intro hl hmem
    rcases List.mem_append.1 hmem with hmem | hmem
    · exact hat.isMarker h hm.childless hq htoken (hm.isMarker hl hmem)
    · exact hat.isMarker_new h hm.childless hq hids hbq hmem
  · intro hl hmem
    rcases List.mem_append.1 hmem with hmem | hmem
    · exact hm.isNew hl hmem
    · exact Nat.le_trans hm.size_le (hnew hl hmem)
  · intro x hle helement hx
    rw [List.map_append, List.mem_append]
    rcases hat.mem_of_isElement h hm.childless hq hids hbq helement hx with ⟨-, hkept, hx⟩ | hmem
    · exact .inl (hm.mem_of_new x hle hkept hx)
    · exact .inr hmem

/-- After all passes the page is marked with the highlights of all of them. -/
theorem Marked.passes (hm : Marked p body style q hs) (hbody : body < p.size)
    (htoken : IsClassToken style.markerClass) (found : List KeywordMatch) :
    Marked p body style (pageAfter body style q found)
      (hs ++ (passes body style q found).flatMap (·.highlights)) := by
  induction found generalizing q hs with
  | nil => simpa [Page.passes, pageAfter] using hm
  | cons k ks ih =>
      have hrest := ih (hm.mark hbody htoken k.pattern.spans)
      rw [List.append_assoc] at hrest
      exact hrest

/-! ## Locators -/

theorem WellFormed.exists_positionOf (h : p.WellFormed) (x : NodeId) :
    ∃ i, p.positionOf (p.node x) = .ok i := by
  unfold positionOf
  cases hp : (p.node x).parent with
  | none => exact ⟨1, rfl⟩
  | some y =>
      simp only [get_of_lt (h.parent_lt hp)]
      exact ⟨_, rfl⟩

theorem WellFormed.exists_stepsUp (h : p.WellFormed) (links : Nat) (hx : x < p.size) :
    ∃ steps, p.stepsUp links x = .ok steps := by
  induction links generalizing x with
  | zero => exact ⟨[], rfl⟩
  | succ links ih =>
      obtain ⟨i, hi⟩ := h.exists_positionOf x
      unfold stepsUp
      simp only [get_of_lt hx, hi]
      obtain ⟨own, hown⟩ : ∃ own, (if (p.node x).isElement then
          (Except.ok i : Except Fault Nat).map (fun i =>
            [{ name := Text.lowercase (p.node x).name, position := i }]) else .ok []) =
              .ok (own : List LocatorStep) := by
        split <;> exact ⟨_, rfl⟩
      simp only [hown]
      cases hp : (p.node x).parent with
      | none => exact ⟨own, rfl⟩
      | some y =>
          obtain ⟨steps, hsteps⟩ := ih (h.parent_lt hp)
          simp only [hsteps]
          exact ⟨_, rfl⟩

theorem WellFormed.exists_locator (h : p.WellFormed) (hx : x < p.size) :
    ∃ text, p.locator x = .ok text := by
  obtain ⟨steps, hsteps⟩ := h.exists_stepsUp (p.size + 1) hx
  rw [locator, locatorSteps, hsteps]
  exact ⟨_, rfl⟩

/-! ## The report of a scan -/

/-- A scan that succeeds has made the passes for the keywords it found, and reports their
highlights with the locators in the last page. -/
theorem WellFormed.scan_of_ok (h : p.WellFormed) {scanId : String} {source : Source}
    {config : ScanConfig} (htoken : IsClassToken config.markerClass) {report : Report}
    (hreport : (p.scan scanId source config).outcome = .ok report) :
    ∃ body found, p.body? = some body ∧
      (p.scan scanId source config).page = pageAfter body config.markStyle p found ∧
      report.highlights = ((Page.passes body config.markStyle p found).flatMap (·.highlights)).map
        (pageAfter body config.markStyle p found).locateHighlight := by
  cases hks : source.keywords with
  | error e =>
      simp only [scan, hks] at hreport
      cases hreport
  | ok ks =>
      simp only [scan, hks] at hreport ⊢
      cases hbody : p.body? with
      | none =>
          rw [(scanFor_of_missing ks config hbody).1] at hreport
          cases hreport
      | some body =>
          obtain ⟨text, htext⟩ := h.exists_visibleText (h.body?_some hbody).1
          by_cases hfound : foundKeywords config (Text.lowercase text) ks = []
          · obtain ⟨houtcome, hidle⟩ := scanFor_of_nil hbody htext hfound
            rw [houtcome] at hreport
            cases hreport
            exact ⟨body, [], rfl, hidle.page, rfl⟩
          · obtain ⟨report', houtcome, -, -, hdetection⟩ :=
              h.scanFor_of_found htoken hbody htext hfound
            rw [houtcome] at hreport
            cases hreport
            exact ⟨body, _, rfl, hdetection.page, hdetection.highlights⟩

theorem highlights_mark_samplePage (htoken : IsClassToken style.markerClass)
    (hall : style.all = false) :
    (samplePage.mark 0 style samplePattern.spans).highlights = [⟨2, "1"⟩] := by
  have hdone := consistent_samplePage.toWellFormed.mark_completes_markable textsChildless_samplePage
    (show 0 < samplePage.size by decide) htoken samplePattern.spans
  have hmarkable : samplePage.markable 0 style =
      [{ Node.ofText "1!" with id := 1 }] := rfl
  have hpieces : cutUp style samplePattern.spans
      { Node.ofText "1!" with id := 1 } = some [.hit "1", .plain "!"] := by
    have hchosen : chosen style samplePattern.spans "1!" = [⟨0, 1⟩] := by
      rw [chosen, spans_samplePattern, hall]
      rfl
    have hvalue : ({ Node.ofText "1!" with id := 1 } : Node).value = "1!" := rfl
    rw [cutUp, hvalue, hchosen]
    decide
  rw [hdone.highlights, hmarkable]
  simp only [plan, hpieces]
  rfl

/-- Every reported highlight names a marker of its own in the page after the scan: a span under the
body with the class of markers, whose one child is a text node with the reported text, and whose
locator in that page is the reported one. The reported spans are just the elements under the body
that were not in the page before. -/
theorem report_highlights (h : p.WellFormed) (hchildless : p.TextsChildless) (scanId : String)
    (source : Source) (config : ScanConfig) (htoken : IsClassToken config.markerClass)
    (report : Report) (hreport : (p.scan scanId source config).outcome = .ok report) :
    ∃ body, p.body? = some body ∧
      (report.highlights.map (·.span)).Nodup ∧
      (∀ hl ∈ report.highlights,
        body ∈ (p.scan scanId source config).page.lineage hl.span ∧ hl.span ≠ body ∧
        ((p.scan scanId source config).page.node hl.span).isElement = true ∧
        ((p.scan scanId source config).page.node hl.span).name = "SPAN" ∧
        ((p.scan scanId source config).page.node hl.span).attr? "class" =
          some config.markerClass ∧
        (∃ c, ((p.scan scanId source config).page.node hl.span).children = [c] ∧
          ((p.scan scanId source config).page.node c).isText = true ∧
          ((p.scan scanId source config).page.node c).value = hl.text) ∧
        (p.scan scanId source config).page.locator hl.span = .ok hl.locator) ∧
      ∀ x, x ∈ report.highlights.map (·.span) ↔
        ((p.scan scanId source config).page.node x).isElement = true ∧
          body ∈ (p.scan scanId source config).page.lineage x ∧ p.size ≤ x := by
  obtain ⟨body, found, hbody, hpage, hhighlights⟩ := h.scan_of_ok htoken hreport
  have hlt := (h.body?_some hbody).1
  have hmarked := (Marked.init h hchildless hlt config.markStyle).passes hlt htoken found
  rw [List.nil_append] at hmarked
  have hspans : report.highlights.map (·.span) =
      ((Page.passes body config.markStyle p found).flatMap (·.highlights)).map (·.span) := by
    rw [hhighlights, List.map_map]
    rfl
  rw [hpage, hspans]
  refine ⟨body, hbody, hmarked.nodup, fun hl hmem => ?_, fun x => ⟨fun hx => ?_, ?_⟩⟩
  · rw [hhighlights] at hmem
    obtain ⟨hl, hmem', rfl⟩ := List.mem_map.1 hmem
    have hmarker := hmarked.isMarker hl hmem'
    obtain ⟨text, htext⟩ := hmarked.wellFormed.exists_locator hmarker.lt_size
    refine ⟨hmarker.under, hmarker.ne_body, hmarker.isElement, hmarker.name, hmarker.attr_class,
      hmarker.text, ?_⟩
    simp only [locateHighlight, htext]
    rfl
  · obtain ⟨hl, hmem, rfl⟩ := List.mem_map.1 hx
    have hmarker := hmarked.isMarker hl hmem
    exact ⟨hmarker.isElement, hmarker.under, hmarked.isNew hl hmem⟩
  · rintro ⟨helement, hunder, hle⟩
    exact hmarked.mem_of_new x hle helement hunder

theorem report_highlights_samplePage :
    ∃ report, (samplePage.scan "" (Source.ofList ["1"]) {}).outcome = .ok report ∧
      report.highlights.map (·.span) = [2] ∧
      ((samplePage.scan "" (Source.ofList ["1"]) {}).page.node 2).name = "SPAN" ∧
      0 ∈ (samplePage.scan "" (Source.ofList ["1"]) {}).page.lineage 2 := by
  have hwf := consistent_samplePage.toWellFormed
  have htoken : IsClassToken ({} : ScanConfig).markerClass := isClassToken_default
  have hfound : foundKeywords {} (Text.lowercase "1!") ["1"] ≠ [] := by
    simp [lowercase_sampleText, foundKeywords, verdict_one]
  obtain ⟨report, hok, -, -, hdetection⟩ :=
    hwf.scanFor_of_found htoken body?_samplePage visibleText_samplePage hfound
  have hspans : report.highlights.map (·.span) = [2] := by
    have hmark := @highlights_mark_samplePage ({} : ScanConfig).markStyle htoken rfl
    rw [hdetection.highlights, lowercase_sampleText, found_scanText_sample, List.map_map]
    simp only [passes, List.flatMap_singleton, hmark]
    rfl
  have hscan := report_highlights hwf textsChildless_samplePage "" (Source.ofList ["1"]) {} htoken
    report hok
  obtain ⟨body, hbody, -, hmarkers, -⟩ := hscan
  cases hbody.symm.trans body?_samplePage
  obtain ⟨hl, hmem, hspan⟩ : ∃ hl ∈ report.highlights, hl.span = 2 := by
    have htwo : 2 ∈ report.highlights.map (·.span) := by
      rw [hspans]
      exact List.mem_singleton_self 2
    exact List.mem_map.1 htwo
  obtain ⟨hunder, -, -, hname, -⟩ := hmarkers hl hmem
  rw [hspan] at hunder hname
  exact ⟨report, hok, hspans, hname, hunder⟩

end Page

end PhraseMark
