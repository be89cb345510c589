import PhraseMark.Proofs.Scan.Seams

/-!
# Scanning again

A scan leaves the body and its visible text as they were: blanks collapse in the same way wherever
a text is parted, and a marker writes nothing of its own. So a second scan finds and rejects what
the first one did.
-/

namespace PhraseMark

open Marking

/-- What a report says of the keywords. -/
def Report.verdicts (r : Report) : List String × List RejectedKeyword := (r.matched, r.rejected)

namespace Draft

theorem pushText_nil (d : Draft) : d.pushText (.ofList []) = d := by
  unfold pushText
  split <;> rfl

/-- It does not matter where a text is parted, neither within a run of blanks nor under `PRE`. -/
theorem pushText_append (d : Draft) (cs ds : List Char) :
    d.pushText (.ofList (cs ++ ds)) = (d.pushText (.ofList cs)).pushText (.ofList ds) := by
  by_cases hpre : 0 < d.preDepth
  · simp only [pushText, hpre, if_true, String.toList_ofList, List.reverse_append,
      List.append_assoc]
  · simp only [pushText, hpre, if_false, String.toList_ofList, List.foldl_append]

end Draft

namespace Marking

variable {markerClass : String} {i : NodeId}

/-! ## Markers in visible text -/

theorem isUnrendered_marker : (marker markerClass i).isUnrendered = false := by
  rw [Node.isUnrendered, hasTagIn_marker]
  decide +kernel

theorem isHidden_marker : (marker markerClass i).isHidden = false := by
  have hattr : ∀ name, name ≠ "class" → (marker markerClass i).attr? name = none := by
    intro name hne
    have hget := Attributes.get?_insert .empty "class" markerClass name
    rw [if_neg hne] at hget
    exact hget
  have hhidden := hattr "hidden" (by decide)
  have hstyle := hattr "style" (by decide)
  have helement : (marker markerClass i).isElement = true := rfl
  have hvisible : (marker markerClass i).visible = none := rfl
  rw [Node.isHidden, Node.isShownByStyle, helement, hhidden, hstyle, hvisible]
  rfl

/-- A marker is neither `PRE` nor on a line of its own. -/
theorem openElement_marker (d : Draft) :
    d.openElement (marker markerClass i) = d ∧ d.closeElement (marker markerClass i) = d := by
  have hpre : (marker markerClass i).hasTag "PRE" = false := by
    rw [hasTag_marker]
    decide +kernel
  have hblock : (marker markerClass i).isBlock = false := by
    rw [Node.isBlock, hasTagIn_marker]
    decide +kernel
  constructor
  · rw [Draft.openElement, hpre, hblock]
    rfl
  · rw [Draft.closeElement, hpre, hblock]
    rfl

end Marking

namespace Page

variable {p : Page} {body root x : NodeId} {style : MarkStyle} {matcher : Matcher}

theorem read_visibleTurn_text {n : Node} (htext : n.isText = true) (root : NodeId)
    (ts : List Tree) (d : Draft) :
    (Tree.node n ts).read (fun n => visibleTurn root n.id n) d = d.pushText n.value := by
  apply Tree.read_of_pass
  rw [visibleTurn, Node.kind_of_isText htext]

theorem visibleTurn_marker (root x : NodeId) (markerClass : String) (i : NodeId) (d : Draft) :
    visibleTurn root x (marker markerClass i) d = .enter d (fun d => d) := by
  have hkind : (marker markerClass i).kind = .element := rfl
  have hopen := (@openElement_marker markerClass i d).1
  have hclose : (fun d => Draft.closeElement d (marker markerClass i)) = (fun d => d) :=
    funext (fun d => (openElement_marker d).2)
  rw [visibleTurn, hkind]
  simp only [isUnrendered_marker, isHidden_marker, Bool.or_self, Bool.and_false, hopen, hclose]
  rfl

theorem seamless_visibleTurn (root : NodeId) (markerClass : String) (next : NodeId) :
    Seamless (fun n => visibleTurn root n.id n) (fun _ => True)
      (fun d cs => d.pushText (.ofList cs)) markerClass next where
  write_nil := Draft.pushText_nil
  write_append := Draft.pushText_append
  plain_write := fun _ _ => trivial
  piece := by
    intro i d a _ _
    apply read_piece (fun cs => d.pushText (.ofList cs))
    · intro n htext
      rw [String.ofList_toList]
      exact read_visibleTurn_text htext root [] d
    · intro ts
      rw [Tree.read_node, visibleTurn_marker]

/-! ## The body -/

theorem find?_flatMap_congr {α β : Type} {f g : α → List β} {a b : β → Bool} {cs : List α}
    (h : ∀ c ∈ cs, (f c).find? a = (g c).find? b) :
    (cs.flatMap f).find? a = (cs.flatMap g).find? b := by
  induction cs with
  | nil => rfl
  | cons c cs ih =>
      rw [List.flatMap_cons, List.flatMap_cons, List.find?_append, List.find?_append,
        h c List.mem_cons_self, ih (fun d hd => h d (List.mem_cons_of_mem c hd))]

theorem hasTag_unlinked (n : Node) (tag : String) : n.unlinked.hasTag tag = n.hasTag tag := rfl

/-- A search that would end at the root of a pass finds after the pass what it found before: up to
that root the pass has changed nothing. -/
theorem WellFormed.find?_mark (h : p.WellFormed) (hroot : root < p.size)
    (htoken : IsClassToken style.markerClass) (hlawful : Lawful matcher)
    (htag : (p.node root).hasTag "BODY" = true) (hx : x < p.size)
    (hout : x = root ∨ root ∉ p.lineage x) :
    ((p.mark root style matcher).page.tree x).ids.find?
        (fun y => ((p.mark root style matcher).page.node y).hasTag "BODY") =
      (p.tree x).ids.find? (fun y => (p.node y).hasTag "BODY") := by
  obtain ⟨hpage, hq, -⟩ := h.mark_reached hroot htoken hlawful
  have hqsize := h.size_le_mark hroot htoken matcher
  rw [hpage] at hqsize ⊢
  induction x using h.down_induction with
  | step x ih =>
      have hsame : ((p.batch style.markerClass (p.reachedCuts root style matcher)).node x).hasTag
          "BODY" = (p.node x).hasTag "BODY" := by
        have hlabel := unlinked_batch style.markerClass (p.reachedCuts root style matcher) hx
        rw [← hasTag_unlinked, hlabel, hasTag_unlinked]
      rw [hq.ids_tree (Nat.lt_of_lt_of_le hx hqsize), h.ids_tree hx, List.find?_cons,
        List.find?_cons, hsame]
      cases hxtag : (p.node x).hasTag "BODY" with
      | true => rfl
      | false =>
          have hnot : root ∉ p.lineage x := by
            rcases hout with rfl | hnot
            · rw [htag] at hxtag
              cases hxtag
            · exact hnot
          -- the texts that are cut stand under the root of the pass, and this node does not
          have hplace : ∀ c ∈ (p.node x).children,
              c ∉ (p.reachedCuts root style matcher).map (·.target) := by
            intro c hc hmem
            obtain ⟨cut, hcut, rfl⟩ := List.mem_map.1 hmem
            obtain ⟨y, -, -, hreached, -⟩ := h.exists_of_mem_reachedCuts hcut
            cases hreached.parent.symm.trans ((h.mem_children_iff x cut.target).1 hc)
            exact hnot hreached.below
          rw [children_batch _ _ hx, flatMap_place_of_forall hplace]
          apply find?_flatMap_congr
          intro c hc
          apply ih c hc (h.lt_of_mem_children hc)
          rw [h.lineage_of_parent ((h.mem_children_iff x c).1 hc), List.mem_cons, not_or]
          by_cases hcroot : c = root
          · exact .inl hcroot
          · exact .inr ⟨Ne.symm hcroot, hnot⟩

theorem WellFormed.body?_mark (h : p.WellFormed) (hbody : p.body? = some body)
    (htoken : IsClassToken style.markerClass) (hlawful : Lawful matcher) :
    (p.mark body style matcher).page.body? = some body := by
  obtain ⟨hlt, htag, root, hroot, hmem⟩ := h.body?_some hbody
  obtain ⟨hpage, hq, -⟩ := h.mark_reached hlt htoken hlawful
  have hrootlt := h.lineage_lt hlt hmem
  have hout : root = body ∨ body ∉ p.lineage root := by
    by_cases heq : root = body
    · exact .inl heq
    · exact .inr (fun hunder => heq (h.lineage_antisymm hmem hunder))
  have hqroot : (p.mark body style matcher).page.root = some root := by
    rw [hpage]
    exact hroot
  have hfind := h.find?_mark hlt htoken hlawful htag hrootlt hout
  have hqlt := Nat.lt_of_lt_of_le hrootlt (h.size_le_mark hlt htoken matcher)
  rw [← hpage] at hq
  rw [hq.body?_eq hqroot hqlt, hfind, ← h.body?_eq hroot hrootlt, hbody]

theorem WellFormed.body?_pageAfter (h : p.WellFormed) (hbody : p.body? = some body)
    (htoken : IsClassToken style.markerClass) (found : List KeywordMatch) :
    (pageAfter body style p found).body? = some body := by
  induction found generalizing p with
  | nil => exact hbody
  | cons k ks ih =>
      have hdone := h.mark_completes (h.body?_some hbody).1 htoken k.pattern.spans
      exact ih hdone.wellFormed (h.body?_mark hbody htoken (lawful_spans _))

theorem WellFormed.visibleText_pageAfter (h : p.WellFormed) (hbody : body < p.size)
    (htoken : IsClassToken style.markerClass) (found : List KeywordMatch) :
    (pageAfter body style p found).visibleText body = p.visibleText body := by
  obtain ⟨hq, hle, -⟩ := h.after_passes hbody htoken found
  have hread := h.read_pageAfter hbody htoken (Tree.carried_true _)
    (seamless_visibleTurn body style.markerClass p.size) ?_ (fun _ _ _ _ => trivial) found hbody {}
  · rw [hq.visibleText_eq (Nat.lt_of_lt_of_le hbody hle), h.visibleText_eq hbody, hread]
  · intro n ts d htext _
    rw [String.ofList_toList]
    exact read_visibleTurn_text htext body ts d

/-! ## Two scans -/

/-- Where there is a body, a scan succeeds: it sorts the keywords by the visible text of the body,
and leaves the page after the passes for some of them. -/
theorem WellFormed.scanFor_of_body (h : p.WellFormed) {config : ScanConfig}
    (htoken : IsClassToken config.markerClass) (hbody : p.body? = some body) {text : String}
    (htext : p.visibleText body = .ok text) (ks : List String) :
    ∃ report found, (p.scanFor ks config).outcome = .ok report ∧
      report.matched = foundKeywords config (Text.lowercase text) ks ∧
      report.rejected = rejectedKeywords config (Text.lowercase text) ks ∧
      (p.scanFor ks config).page = pageAfter body config.markStyle p found := by
  by_cases hfound : foundKeywords config (Text.lowercase text) ks = []
  · obtain ⟨houtcome, hidle⟩ := scanFor_of_nil hbody htext hfound
    exact ⟨_, [], houtcome, hfound.symm, rfl, hidle.page⟩
  · obtain ⟨report, houtcome, hmatched, hrejected, hdetection⟩ :=
      h.scanFor_of_found htoken hbody htext hfound
    exact ⟨report, _, houtcome, hmatched, hrejected, hdetection.page⟩

theorem scan_of_keywords {source : Source} {ks : List String} (hks : source.keywords = .ok ks)
    (p : Page) (scanId : String) (config : ScanConfig) :
    (p.scan scanId source config).page = (p.scanFor ks config).page ∧
      (p.scan scanId source config).outcome = (p.scanFor ks config).outcome := by
  simp only [scan, hks]
  exact ⟨trivial, trivial⟩

theorem scan_of_failure {source : Source} {e : ScanError} (he : source.keywords = .error e)
    (p : Page) (scanId : String) (config : ScanConfig) :
    (p.scan scanId source config).page = p ∧
      (p.scan scanId source config).outcome = .error e := by
  simp only [scan, he]
  exact ⟨trivial, trivial⟩

/-- The page after a scan is the page before it, or that after passes under its body. -/
theorem WellFormed.page_scan (h : p.WellFormed) (scanId : String) (source : Source)
    {config : ScanConfig} (htoken : IsClassToken config.markerClass) :
    (p.scan scanId source config).page = p ∨
      ∃ body found, p.body? = some body ∧
        (p.scan scanId source config).page = pageAfter body config.markStyle p found := by
  cases hks : source.keywords with
  | error e => exact .inl (scan_of_failure hks p scanId config).1
  | ok ks =>
      rw [(scan_of_keywords hks p scanId config).1]
      cases hbody : p.body? with
      | none => exact .inl (scanFor_of_missing ks config hbody).2.page
      | some body =>
          obtain ⟨text, htext⟩ := h.exists_visibleText (h.body?_some hbody).1
          obtain ⟨-, found, -, -, -, hafter⟩ := h.scanFor_of_body htoken hbody htext ks
          exact .inr ⟨body, found, rfl, hafter⟩

/-- A scan does not change what is scanned: the body is the same element after it, with the same
visible text. So a second scan for the same keywords fails as the first one did, or finds and
rejects the same keywords. -/
theorem scan_again (h : p.WellFormed) (scanId scanId' : String) {source source' : Source}
    (hsource : source'.keywords = source.keywords) (config : ScanConfig)
    (htoken : IsClassToken config.markerClass) :
    (∀ body, p.body? = some body →
      (p.scan scanId source config).page.body? = some body ∧
        ∃ text, p.visibleText body = .ok text ∧
          (p.scan scanId source config).page.visibleText body = .ok text) ∧
    ((p.scan scanId source config).page.scan scanId' source' config).outcome.map Report.verdicts =
      (p.scan scanId source config).outcome.map Report.verdicts := by
  cases hks : source.keywords with
  | error e =>
      obtain ⟨hpage, houtcome⟩ := scan_of_failure hks p scanId config
      rw [hpage, houtcome, (scan_of_failure (hsource.trans hks) p scanId' config).2]
      refine ⟨fun body hbody => ⟨hbody, ?_⟩, rfl⟩
      obtain ⟨text, htext⟩ := h.exists_visibleText (h.body?_some hbody).1
      exact ⟨text, htext, htext⟩
  | ok ks =>
      obtain ⟨hpage, houtcome⟩ := scan_of_keywords hks p scanId config
      obtain ⟨-, hagain⟩ := scan_of_keywords (hsource.trans hks)
        (p.scan scanId source config).page scanId' config
      rw [hagain, houtcome, hpage]
      cases hbody : p.body? with
      | none =>
          obtain ⟨-, hidle⟩ := scanFor_of_missing ks config hbody
          rw [hidle.page]
          refine ⟨?_, rfl⟩
          intro body heq
          cases heq
      | some body =>
          have hlt := (h.body?_some hbody).1
          obtain ⟨text, htext⟩ := h.exists_visibleText hlt
          obtain ⟨report, found, hok, hmatched, hrejected, hafter⟩ :=
            h.scanFor_of_body htoken hbody htext ks
          have hbody' := h.body?_pageAfter hbody htoken.markStyle found
          have htext' := (h.visibleText_pageAfter hlt htoken.markStyle found).trans htext
          have hq := (h.after_passes hlt htoken.markStyle found).1
          obtain ⟨report', -, hok', hmatched', hrejected', -⟩ :=
            hq.scanFor_of_body htoken hbody' htext' ks
          rw [hafter]
          constructor
          · intro body' heq
            cases heq
            exact ⟨hbody', text, htext, htext'⟩
          · rw [hok, hok']
            simp only [ScanOutcome.map, Report.verdicts, hmatched, hrejected, hmatched', hrejected']

theorem scan_again_samplePage :
    (samplePage.scan "" (Source.ofList ["1", ""]) {}).page.visibleText 0 = .ok "1!" ∧
      ((samplePage.scan "" (Source.ofList ["1", ""]) {}).page.scan "again"
        (Source.ofList ["1", ""]) {}).outcome.map Report.verdicts =
          .ok (["1"], [⟨"", .emptyPattern⟩]) := by
  have htoken : IsClassToken ({} : ScanConfig).markerClass := isClassToken_default
  have hwf := consistent_samplePage.toWellFormed
  have hagain := @scan_again samplePage hwf "" "again" (Source.ofList ["1", ""])
    (Source.ofList ["1", ""]) rfl {} htoken
  obtain ⟨hsame, houtcome⟩ := hagain
  obtain ⟨-, text, htext, hafter⟩ := hsame 0 body?_samplePage
  rw [visibleText_samplePage] at htext
  cases htext
  obtain ⟨report, found, hok, hmatched, hrejected, -⟩ :=
    hwf.scanFor_of_body htoken body?_samplePage visibleText_samplePage ["1", ""]
  rw [lowercase_sampleText, foundKeywords_sample] at hmatched
  rw [lowercase_sampleText, rejectedKeywords_sample] at hrejected
  refine ⟨hafter, houtcome.trans ?_⟩
  have hfirst : (samplePage.scan "" (Source.ofList ["1", ""]) {}).outcome = .ok report := hok
  rw [hfirst, ScanOutcome.map, Report.verdicts, hmatched, hrejected]

end Page

end PhraseMark
