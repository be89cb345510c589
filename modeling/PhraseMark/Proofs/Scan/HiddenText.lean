import PhraseMark.Proofs.Page.Loading
import PhraseMark.Proofs.Page.Resolution
import PhraseMark.Proofs.Scan.Bounds
import PhraseMark.Proofs.Text.Lowercase

/-!
# Hidden text

The visible text of the body leaves out elements whose resolved visibility is false, but it looks
neither at the visibility of the body itself nor at that of what is no element. So text that is
hidden by the body or from above it is read all the same where it stands right under the body; all
other hidden text has no part in what a scan finds.
-/

namespace PhraseMark

open Marking

/-- A document or a part of one. -/
def Node.isDocument (n : Node) : Bool := n.kind == .document || n.kind == .documentFragment

theorem Node.isElement_eq_false_of_isDocument {n : Node} (h : n.isDocument = true) :
    n.isElement = false := by
  rw [isElement]
  cases hkind : n.kind <;> simp_all [isDocument]

namespace Page

variable {p q : Page} {root body x y c : NodeId} {edits : List (NodeId × String)}

/-! ## Other values -/

/-- Gives nodes other values, one after the other. -/
def setValues (p : Page) (edits : List (NodeId × String)) : Page :=
  edits.foldl (fun q edit => q.modify edit.1 (fun n => { n with value := edit.2 })) p

theorem node_setValues (p : Page) (edits : List (NodeId × String)) (y : NodeId) :
    ∃ value, (p.setValues edits).node y = { p.node y with value } := by
  induction edits generalizing p with
  | nil => exact ⟨(p.node y).value, rfl⟩
  | cons edit edits ih =>
      obtain ⟨value, hy⟩ := ih (p.modify edit.1 (fun n => { n with value := edit.2 }))
      rw [node_modify] at hy
      refine ⟨value, hy.trans ?_⟩
      split <;> rfl

theorem node_setValues_of_not_mem (hy : ∀ edit ∈ edits, edit.1 ≠ y) :
    (p.setValues edits).node y = p.node y := by
  induction edits generalizing p with
  | nil => rfl
  | cons edit edits ih =>
      have hne := hy edit List.mem_cons_self
      rw [setValues, List.foldl_cons]
      refine (ih (fun e he => hy e (List.mem_cons_of_mem edit he))).trans ?_
      rw [node_modify, if_neg (fun h => hne h.1.symm)]

theorem Redrawn.textsChildless (h : Redrawn p q) (hchildless : p.TextsChildless) :
    q.TextsChildless := by
  intro y htext
  rw [h.kept (g := Node.isText) (fun _ _ _ => rfl)] at htext
  rw [h.kept (g := Node.children) (fun _ _ _ => rfl), hchildless y htext]

theorem redrawn_setValues (p : Page) (edits : List (NodeId × String)) :
    Redrawn p (p.setValues edits) := by
  refine ⟨?_, ?_, fun y => ?_⟩
  · induction edits generalizing p with
    | nil => rfl
    | cons edit edits ih => exact (ih _).trans (size_modify p _ _)
  · induction edits generalizing p with
    | nil => rfl
    | cons edit edits ih => exact ih _
  · obtain ⟨value, hy⟩ := node_setValues p edits y
    exact ⟨value, (p.node y).visible, hy⟩

/-! ## What the visible text reads -/

/-- The node stands under the body, with nothing but documents and parts of documents between. -/
def Exposed (p : Page) (body x : NodeId) : Prop :=
  body ∈ p.lineage x ∧
    ∀ z ∈ p.lineage x, body ∈ p.lineage z → z = x ∨ z = body ∨ (p.node z).isDocument = true

instance (p : Page) (body x : NodeId) : Decidable (p.Exposed body x) :=
  inferInstanceAs (Decidable (_ ∧ _))

/-- An edit of text that is hidden and not exposed. -/
structure Concealed (p : Page) (edit : NodeId × String) : Prop where
  isText : (p.node edit.1).isText = true
  hidden : (p.node edit.1).visible = some false
  covered : ∀ body, p.body? = some body → ¬ p.Exposed body edit.1

/-- The node is an element, or it may be read when the tour has come to it. -/
def Legible (p : Page) (body x : NodeId) : Prop :=
  (p.node x).isElement = true ∨ p.Exposed body x ∨ (p.node x).visible = some true

theorem WellFormed.exposed_child (h : p.WellFormed) (hparent : (p.node c).parent = some x)
    (hx : x = body ∨ p.Exposed body x ∧ (p.node x).isDocument = true) : p.Exposed body c := by
  have hmem : body ∈ p.lineage x := by
    rcases hx with rfl | ⟨hx, -⟩
    · exact h.mem_lineage_self x
    · exact hx.1
  refine ⟨h.mem_lineage_trans hmem (h.mem_lineage_of_parent hparent), ?_⟩
  intro z hz hbody
  rw [h.lineage_of_parent hparent] at hz
  rcases List.mem_cons.1 hz with rfl | hz
  · exact .inl rfl
  refine .inr ?_
  rcases hx with rfl | ⟨hx, hdocument⟩
  · exact .inl (h.lineage_antisymm hz hbody)
  · rcases hx.2 z hz hbody with rfl | hzx
    · exact .inr hdocument
    · exact hzx

/-- A tour for the visible text goes on in elements that are not hidden, in the body and in
documents. -/
def Entered (body x : NodeId) (n : Node) : Prop :=
  n.isElement = true ∧ (x ≠ body → n.isHidden = false) ∨ n.isDocument = true

theorem entered_of_enter {n : Node} {d d' : Draft} {leave : Draft → Draft}
    (h : visibleTurn body x n d = .enter d' leave) : Entered body x n := by
  unfold visibleTurn at h
  split at h
  · cases h
  · cases h
  · rename_i hkind
    refine .inl ⟨by rw [Node.isElement, hkind]; rfl, fun hx => ?_⟩
    rw [bne_iff_ne.2 hx, Bool.true_and] at h
    split at h
    · cases h
    · rename_i hshown
      rw [Bool.or_eq_true, not_or] at hshown
      exact Bool.eq_false_iff.2 hshown.2
  · rename_i hkind
    exact .inr (by rw [Node.isDocument, hkind]; rfl)
  · rename_i hkind
    exact .inr (by rw [Node.isDocument, hkind]; rfl)
  · cases h

/-- Where a tour for the visible text goes on, it comes to legible nodes. -/
theorem Resolved.legible_child (hres : p.Resolved root) (h : p.WellFormed)
    (hroot : root ∈ p.lineage x) (hparent : (p.node c).parent = some x)
    (hx : p.Legible body x) (hentered : Entered body x (p.node x)) : p.Legible body c := by
  by_cases helement : (p.node c).isElement = true
  · exact .inl helement
  have hvisible := hres.inherited x c hparent hroot (Bool.eq_false_iff.2 helement)
  refine .inr ?_
  by_cases hbody : x = body
  · exact .inl (h.exposed_child hparent (.inl hbody))
  rcases hentered with ⟨-, hshown⟩ | hdocument
  · -- the element is not hidden, so its visibility is true
    refine .inr (hvisible.trans ?_)
    have hknown := hres.known x (h.parent_lt hparent) hroot
    have hnot := hshown hbody
    rw [Node.isHidden, Bool.or_eq_false_iff] at hnot
    cases hv : (p.node x).visible with
    | none => exact absurd hv hknown
    | some visible =>
        cases visible with
        | true => rfl
        | false =>
            rw [hv] at hnot
            cases hnot.1
  · rcases hx with hx | hx | hx
    · rw [Node.isElement_eq_false_of_isDocument hdocument] at hx
      cases hx
    · exact .inl (h.exposed_child hparent (.inr ⟨hx, hdocument⟩))
    · exact .inr (hvisible.trans hx)

/-- The turn of the visible text, told by the node alone. -/
def visibleRead (body : NodeId) (n : Node) (d : Draft) : Turn Draft := visibleTurn body n.id n d

theorem Concealed.ne_of_legible {edit : NodeId × String} (hedit : q.Concealed edit)
    (hbody : q.body? = some body) (hx : q.Legible body x) : edit.1 ≠ x := by
  rintro rfl
  obtain ⟨htext, hhidden, hcovered⟩ := hedit
  rcases hx with hx | hx | hx
  · rw [Node.isElement_eq_false_of_isText htext] at hx
    cases hx
  · exact hcovered body hbody hx
  · rw [hhidden] at hx
    cases hx

/-- When a reading comes only to nodes for which `P` holds, the values of other nodes do not matter
to it. -/
theorem WellFormed.read_setValues (h : q.WellFormed) {σ : Type} {turn : Node → σ → Turn σ}
    (hgoes : ∀ n s s', turn n s ≠ .stop s') {P : NodeId → Prop}
    (hedits : ∀ edit ∈ edits, ¬ P edit.1)
    (hstep : ∀ {x c s s' leave}, (q.node c).parent = some x → P x →
      turn (q.node x).unlinked s = .enter s' leave → P c)
    (hx : P x) (s : σ) : ((q.setValues edits).tree x).read turn s = (q.tree x).read turn s := by
  induction x using h.down_induction generalizing s with
  | step x ih =>
      have hredrawn := redrawn_setValues q edits
      have hsame : (q.setValues edits).node x = q.node x := by
        apply node_setValues_of_not_mem
        rintro edit hedit rfl
        exact hedits edit hedit hx
      rw [(hredrawn.wellFormed h).tree_eq, h.tree_eq, hsame]
      cases hturn : turn (q.node x).unlinked s with
      | stop s' => exact absurd hturn (hgoes _ _ _)
      | pass s' => rw [Tree.read_of_pass hturn, Tree.read_of_pass hturn]
      | enter s' leave =>
          rw [Tree.read_of_enter hturn, Tree.read_of_enter hturn]
          congr 1
          rw [Tree.readAll, Tree.readAll, List.foldl_map, List.foldl_map]
          apply List.foldl_ext
          intro s'' c hc
          exact ih c hc (hstep ((h.mem_children_iff x c).1 hc) hx hturn) s''

theorem WellFormed.visibleText_setValues (h : q.WellFormed) {P : NodeId → Prop}
    (hedits : ∀ edit ∈ edits, ¬ P edit.1)
    (hstep : ∀ {x c d d' leave}, (q.node c).parent = some x → P x →
      visibleTurn body x (q.node x).unlinked d = .enter d' leave → P c)
    (hlt : body < q.size) (hbody : P body) :
    (q.setValues edits).visibleText body = q.visibleText body := by
  have hredrawn := redrawn_setValues q edits
  rw [(hredrawn.wellFormed h).visibleText_eq (hredrawn.size ▸ hlt), h.visibleText_eq hlt]
  have hread : ((q.setValues edits).tree body).read (visibleRead body) {} =
      (q.tree body).read (visibleRead body) {} := by
    apply h.read_setValues (fun n => visibleTurn_ne_stop body n.id n) hedits _ hbody
    intro x c d d' leave hparent hx hturn
    have hid : (q.node x).unlinked.id = x := h.id_node x (h.parent_lt hparent)
    have hturn' : visibleTurn body (q.node x).unlinked.id (q.node x).unlinked d = .enter d' leave :=
      hturn
    rw [hid] at hturn'
    exact hstep hparent hx hturn'
  exact congrArg (fun d => Except.ok (Draft.text d)) hread

/-- A tour comes to legible nodes, so it passes by the text that is concealed. -/
theorem Resolved.visibleText_setValues (hres : q.Resolved root) (h : q.WellFormed)
    (hqroot : q.root = some root) (hedits : ∀ edit ∈ edits, q.Concealed edit)
    (hbody : q.body? = some body) :
    (q.setValues edits).visibleText body = q.visibleText body := by
  obtain ⟨hlt, htag, root', hroot', hlineage⟩ := h.body?_some hbody
  cases hqroot.symm.trans hroot'
  apply h.visibleText_setValues (P := fun x => root ∈ q.lineage x ∧ q.Legible body x) _ _ hlt
  · exact ⟨hlineage, .inl (Node.isElement_of_hasTag htag)⟩
  · rintro edit hedit ⟨-, hlegible⟩
    exact (hedits edit hedit).ne_of_legible hbody hlegible rfl
  · rintro x c d d' leave hparent ⟨hroot, hlegible⟩ hturn
    exact ⟨h.mem_lineage_trans hroot (h.mem_lineage_of_parent hparent),
      hres.legible_child h hroot hparent hlegible (entered_of_enter hturn)⟩

/-! ## What a scan finds -/

/-- Two pages with the same visible text of the same body are alike for what scans find that end. -/
theorem matched_scan_congr (hbody : q.body? = p.body?)
    (htext : ∀ body, p.body? = some body →
      ∃ text, p.visibleText body = .ok text ∧ q.visibleText body = .ok text)
    (scanId : String) (source : Source) (config : ScanConfig)
    (hp : (p.scan scanId source config).outcome ≠ .unfinished)
    (hq : (q.scan scanId source config).outcome ≠ .unfinished) :
    (q.scan scanId source config).outcome.map Report.matched =
      (p.scan scanId source config).outcome.map Report.matched := by
  cases hks : source.keywords with
  | error e =>
      rw [(scan_of_failure hks p scanId config).2, (scan_of_failure hks q scanId config).2]
  | ok ks =>
      cases hpbody : p.body? with
      | none =>
          rw [(scan_of_keywords hks p scanId config).2, (scan_of_keywords hks q scanId config).2,
            (scanFor_of_missing ks config hpbody).1,
            (scanFor_of_missing ks config (hbody.trans hpbody)).1]
      | some body =>
          obtain ⟨text, hptext, hqtext⟩ := htext body hpbody
          rw [map_matched_scan hpbody hptext hks scanId hp,
            map_matched_scan (hbody.trans hpbody) hqtext hks scanId hq]

/-- A snapshot that loads gives a well-formed page with the root at its first place, and its
visibility can be resolved. -/
theorem resolved_of_load {maxDepth : Nat} {snapshot : Json} {top : NodeId} {loaded : Page}
    (hload : p.load maxDepth snapshot = (loaded, .ok top)) :
    loaded.WellFormed ∧ loaded.root = some 0 ∧
      ∃ q, loaded.resolveVisibility = .ok q ∧
        Painted (loaded.shownUpTo 0) (fun y => 0 ∈ loaded.lineage y) loaded q := by
  obtain ⟨json, -, -, hholds⟩ := holds_of_load hload
  have h := hholds.consistent.toWellFormed
  exact ⟨h, hholds.root,
    h.resolveVisibility_eq hholds.root (hholds.consistent.root_lt 0 hholds.root)⟩

/-- A snapshot that loads becomes a page whose visibility can be resolved. When text that is hidden
on it and not exposed gets other values, the body is the same element with the same visible text.
A scan of the one page and a scan of the other, if both end, find the same keywords or fail alike,
and with a class of one token both end. -/
theorem scan_setValues {maxDepth : Nat} {snapshot : Json} {top : NodeId} {loaded : Page}
    (hload : p.load maxDepth snapshot = (loaded, .ok top)) :
    ∃ q, loaded.resolveVisibility = .ok q ∧
      ∀ edits : List (NodeId × String), (∀ edit ∈ edits, q.Concealed edit) →
        (q.setValues edits).body? = q.body? ∧
        (∀ body, q.body? = some body → ∃ text, q.visibleText body = .ok text ∧
          (q.setValues edits).visibleText body = .ok text) ∧
        ∀ (scanId : String) (source : Source) (config : ScanConfig),
          ((q.scan scanId source config).outcome ≠ .unfinished →
            ((q.setValues edits).scan scanId source config).outcome ≠ .unfinished →
              ((q.setValues edits).scan scanId source config).outcome.map Report.matched =
                (q.scan scanId source config).outcome.map Report.matched) ∧
          (IsClassToken config.markerClass →
            (q.scan scanId source config).outcome ≠ .unfinished ∧
              ((q.setValues edits).scan scanId source config).outcome ≠ .unfinished) := by
  obtain ⟨h, hroot, q, hq, hpainted⟩ := resolved_of_load hload
  have hwf := hpainted.redrawn.wellFormed h
  refine ⟨q, hq, fun edits hedits => ?_⟩
  have hbody := (redrawn_setValues q edits).body?_eq hwf
  have htext : ∀ body, q.body? = some body → ∃ text, q.visibleText body = .ok text ∧
      (q.setValues edits).visibleText body = .ok text := by
    intro body hbody
    obtain ⟨text, htext⟩ := hwf.exists_visibleText (hwf.body?_some hbody).1
    refine ⟨text, htext, ?_⟩
    rw [← htext]
    exact (hpainted.resolved h).visibleText_setValues hwf (hpainted.root.trans hroot) hedits hbody
  have hwf' := (redrawn_setValues q edits).wellFormed hwf
  refine ⟨hbody, htext, fun scanId source config => ⟨?_, fun htoken => ⟨?_, ?_⟩⟩⟩
  · exact matched_scan_congr hbody htext scanId source config
  · exact hwf.scan_ne_unfinished scanId source htoken
  · exact hwf'.scan_ne_unfinished scanId source htoken

/-! ## A hidden body -/

/-- A document whose body is hidden. A text node and a division with one stand in the body. -/
def shroudedSnapshot : Json :=
  .object [("root", .object [("backendNodeId", .natural 1), ("nodeType", .natural 9),
    ("children", .array [.object [("backendNodeId", .natural 2), ("nodeType", .natural 1),
      ("nodeName", .string "BODY"), ("attributes", .array [.string "hidden", .string ""]),
      ("children", .array [
        .object [("backendNodeId", .natural 3), ("nodeType", .natural 3),
          ("nodeValue", .string "act now!")],
        .object [("backendNodeId", .natural 4), ("nodeType", .natural 1),
          ("nodeName", .string "DIV"), ("children", .array [
            .object [("backendNodeId", .natural 5), ("nodeType", .natural 3)]])]])]])])]

/-- The page of the snapshot with its visibility resolved. -/
def shroudedPage : Page :=
  match (empty.load 3 shroudedSnapshot).1.resolveVisibility with
  | .ok q => q
  | .error _ => empty

theorem load_shroudedSnapshot :
    empty.load 3 shroudedSnapshot = ((empty.load 3 shroudedSnapshot).1, .ok 0) := by
  apply Prod.ext
  · rfl
  · decide

theorem resolveVisibility_shroudedSnapshot :
    (empty.load 3 shroudedSnapshot).1.resolveVisibility = .ok shroudedPage := by
  have hok : (empty.load 3 shroudedSnapshot).1.resolveVisibility.isOk = true := by
    decide +kernel
  rw [shroudedPage]
  cases hq : (empty.load 3 shroudedSnapshot).1.resolveVisibility with
  | ok q => rfl
  | error e =>
      rw [hq] at hok
      cases hok

theorem wellFormed_shroudedPage : shroudedPage.WellFormed := by
  obtain ⟨h, -, q, hq, hpainted⟩ := resolved_of_load load_shroudedSnapshot
  cases hq.symm.trans resolveVisibility_shroudedSnapshot
  exact hpainted.redrawn.wellFormed h

/-- Both texts are invisible. The one in the body makes up the visible text of the body, and the one
in the division has no part in it. -/
theorem shroudedPage_texts :
    shroudedPage.body? = some 1 ∧ shroudedPage.visibleText 1 = .ok "act now!" ∧
      (∀ x ∈ [2, 4], (shroudedPage.node x).isText = true ∧
        (shroudedPage.node x).visible = some false) ∧
      ¬ shroudedPage.Exposed 1 4 ∧
      (shroudedPage.setValues [(2, "")]).visibleText 1 = .ok "" ∧
      (shroudedPage.setValues [(4, "act now")]).visibleText 1 = .ok "act now!" := by
  decide +kernel

theorem body?_shroudedPage : shroudedPage.body? = some 1 := shroudedPage_texts.1

theorem visibleText_shroudedPage : shroudedPage.visibleText 1 = .ok "act now!" :=
  shroudedPage_texts.2.1

theorem concealed_shroudedPage : shroudedPage.Concealed (4, "act now") := by
  obtain ⟨hbody, -, htexts, hexposed, -⟩ := shroudedPage_texts
  obtain ⟨htext, hhidden⟩ := htexts 4 (by simp)
  refine ⟨htext, hhidden, fun body hbody' => ?_⟩
  cases hbody.symm.trans hbody'
  exact hexposed

theorem occurs_shroudedPage :
    ({} : ScanConfig).Takes "act now" ∧ Text.Occurs "act now" (Text.lowercase "act now!") :=
  ⟨by decide, (Text.occurs_lowercase_iff_undotted (by decide)).2 (by decide)⟩

theorem matched_shroudedPage :
    (shroudedPage.scan "" (Source.ofList ["act now"]) {}).outcome.map Report.matched =
      .ok ["act now"] := by
  have hks : (Source.ofList ["act now"]).keywords = .ok ["act now"] := rfl
  rw [map_matched_scan body?_shroudedPage visibleText_shroudedPage hks ""
    (wellFormed_shroudedPage.scan_ne_unfinished "" _ isClassToken_default)]
  simp [foundKeywords, verdict_literal, occurs_shroudedPage]

/-- Text in an element under the hidden body has no part in what is found. -/
theorem scan_setValues_shroudedPage :
    shroudedPage.Concealed (4, "act now") ∧
      (shroudedPage.setValues [(4, "act now")]).visibleText 1 = .ok "act now!" ∧
      ((shroudedPage.setValues [(4, "act now")]).scan "" (Source.ofList ["act now"])
        {}).outcome.map Report.matched = .ok ["act now"] := by
  obtain ⟨q, hq, hedits⟩ := scan_setValues load_shroudedSnapshot
  cases hq.symm.trans resolveVisibility_shroudedSnapshot
  obtain ⟨-, htexts, hscans⟩ :=
    hedits [(4, "act now")] (by simpa using concealed_shroudedPage)
  obtain ⟨text, htext, htext'⟩ := htexts 1 body?_shroudedPage
  cases htext.symm.trans visibleText_shroudedPage
  obtain ⟨hmatched, hended⟩ := hscans "" (Source.ofList ["act now"]) {}
  obtain ⟨hp, hq⟩ := hended isClassToken_default
  exact ⟨concealed_shroudedPage, htext', (hmatched hp hq).trans matched_shroudedPage⟩

/-- With a class of two tokens the mark in the body is left behind, as its text goes on after it,
while one in the division would not be. -/
theorem leavesMarks_shroudedPage {matcher : Matcher} (hfinds : Finds "act now".toList matcher) :
    shroudedPage.LeavesMarks 1 ⟨"a b", false⟩ matcher ∧
      ¬ (shroudedPage.setValues [(4, "act now")]).LeavesMarks 1 ⟨"a b", false⟩ matcher := by
  constructor
  · have hvalues : ∀ n ∈ shroudedPage.markable 1 ⟨"a b", false⟩,
        n.value = "act now!" ∨ n.value = "" := by decide +kernel
    have hlengths : "act now".toList.length = 7 ∧ "act now!".toList.length = 8 ∧
        "".toList.length = 0 ∧ ¬ Text.OccursAt "act now".toList "act now!".toList 1 := by
      decide
    refine .inr (fun n hn => ?_)
    rintro ⟨s, hs, hstop⟩
    obtain ⟨hoccurs, hlength⟩ := hfinds.occurs_of_mem_chosen (List.mem_of_getLast? hs)
    rcases hvalues n hn with hvalue | hvalue
    · rw [hvalue] at hoccurs hstop
      have hstart : s.start = 1 := by omega
      rw [hstart] at hoccurs
      exact hlengths.2.2.2 hoccurs
    · rw [hvalue] at hstop
      omega
  · have hmarkable : ∃ n ∈ (shroudedPage.setValues [(4, "act now")]).markable 1 ⟨"a b", false⟩,
        n.value = "act now" := by decide +kernel
    obtain ⟨n, hn, hvalue⟩ := hmarkable
    rintro (htoken | hleaves)
    · exact absurd htoken (by decide)
    · refine hleaves n hn ⟨⟨0, n.value.toList.length⟩, ?_, rfl⟩
      rw [hfinds.chosen_self _ (congrArg String.toList hvalue)]
      rfl

/-- With a class of two tokens, hidden text keeps a scan from its end that has one without it. -/
theorem unfinished_shroudedPage :
    (shroudedPage.scan "" (Source.ofList ["act now"])
        { markerClass := "a b" }).outcome.map Report.matched = .ok ["act now"] ∧
      ((shroudedPage.setValues [(4, "act now")]).scan "" (Source.ofList ["act now"])
        { markerClass := "a b" }).outcome = .unfinished := by
  have hks : (Source.ofList ["act now"]).keywords = .ok ["act now"] := rfl
  obtain ⟨htakes, hoccurs⟩ := occurs_shroudedPage
  have htakes : ({ markerClass := "a b" } : ScanConfig).Takes "act now" := htakes
  have h := wellFormed_shroudedPage
  have hchildless : shroudedPage.TextsChildless := textsChildless_iff.2 (by decide +kernel)
  have hredrawn := redrawn_setValues shroudedPage [(4, "act now")]
  have hbody := (hredrawn.body?_eq h).trans body?_shroudedPage
  obtain ⟨-, -, -, -, -, htext⟩ := shroudedPage_texts
  obtain ⟨matcher, hfinds, hended⟩ := @WellFormed.scan_unfinished_iff_leavesMarks shroudedPage 1 h
    hchildless { markerClass := "a b" } "act now!" "act now" rfl (Nat.le_refl 500)
    body?_shroudedPage visibleText_shroudedPage htakes hoccurs ""
  obtain ⟨matcher', hfinds', hended'⟩ := @WellFormed.scan_unfinished_iff_leavesMarks
    (shroudedPage.setValues [(4, "act now")]) 1 (hredrawn.wellFormed h)
    (hredrawn.textsChildless hchildless) { markerClass := "a b" } "act now!" "act now" rfl
    (Nat.le_refl 500) hbody htext htakes hoccurs ""
  refine ⟨?_, hended'.2 (leavesMarks_shroudedPage hfinds').2⟩
  rw [map_matched_scan body?_shroudedPage visibleText_shroudedPage hks ""
    (fun hunfinished => hended.1 hunfinished (leavesMarks_shroudedPage hfinds).1)]
  simp [foundKeywords, verdict_literal, htakes, hoccurs]

/-- Text right under a hidden body has the resolved visibility false, and a scan finds keywords in
it. With a class of two tokens, a scan that ends does not end when other hidden text gets another
value. -/
theorem shroudedPage_read :
    (∃ loaded, empty.load 3 shroudedSnapshot = (loaded, .ok 0) ∧
      loaded.resolveVisibility = .ok shroudedPage) ∧
    shroudedPage.body? = some 1 ∧
    ((shroudedPage.node 2).isText = true ∧ (shroudedPage.node 2).visible = some false ∧
      shroudedPage.visibleText 1 = .ok "act now!" ∧
      (shroudedPage.setValues [(2, "")]).visibleText 1 = .ok "" ∧
      (shroudedPage.scan "" (Source.ofList ["act now"]) {}).outcome.map Report.matched =
        .ok ["act now"] ∧
      ((shroudedPage.setValues [(2, "")]).scan "" (Source.ofList ["act now"])
        {}).outcome.map Report.matched = .ok []) ∧
    (shroudedPage.node 4).isText = true ∧ (shroudedPage.node 4).visible = some false ∧
      (shroudedPage.scan "" (Source.ofList ["act now"])
        { markerClass := "a b" }).outcome.map Report.matched = .ok ["act now"] ∧
      ((shroudedPage.setValues [(4, "act now")]).scan "" (Source.ofList ["act now"])
        { markerClass := "a b" }).outcome = .unfinished := by
  have hks : (Source.ofList ["act now"]).keywords = .ok ["act now"] := rfl
  have hredrawn := redrawn_setValues shroudedPage [(2, "")]
  have hwf := hredrawn.wellFormed wellFormed_shroudedPage
  have hbody := (hredrawn.body?_eq wellFormed_shroudedPage).trans body?_shroudedPage
  have hmissed : ({} : ScanConfig).Takes "act now" ∧
      ¬ Text.Occurs "act now" (Text.lowercase "") := by decide
  obtain ⟨-, -, htexts, -, htext, -⟩ := shroudedPage_texts
  obtain ⟨hread, hhidden⟩ := htexts 2 (by simp)
  obtain ⟨hcovered, hhidden'⟩ := htexts 4 (by simp)
  refine ⟨⟨_, load_shroudedSnapshot, resolveVisibility_shroudedSnapshot⟩, body?_shroudedPage,
    ⟨hread, hhidden, visibleText_shroudedPage, htext, matched_shroudedPage, ?_⟩, hcovered, hhidden',
    unfinished_shroudedPage⟩
  rw [map_matched_scan hbody htext hks "" (hwf.scan_ne_unfinished "" _ isClassToken_default)]
  simp [foundKeywords, verdict_literal, hmissed]

end Page

end PhraseMark
