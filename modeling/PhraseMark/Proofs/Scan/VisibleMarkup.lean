import PhraseMark.Command.Run
import PhraseMark.Proofs.Page.Pruning
import PhraseMark.Proofs.Scan.Cuts
import PhraseMark.Proofs.Scan.Origins

/-!
# Markup of what is visible

The written page without invisible elements holds no text that is not visible. This is so after
passes too, although the nodes that they add have no visibility of their own.
-/

namespace PhraseMark

namespace Page

variable {p q : Page} {origin : NodeId → NodeId} {body x y c : NodeId}
  {edits : List (NodeId × String)} {skipComments : Bool}

/-! ## Passes of a scan -/

theorem passedOver_markKeyword (style : MarkStyle) (body : NodeId) (m : MarkedPage)
    (k : KeywordMatch) : m.page.PassedOver (markKeyword style body m k).page := by
  rw [markKeyword]
  split
  · dsimp only
    split <;> exact .single ⟨body, style, k.pattern.spans, rfl⟩
  · exact .refl

theorem passedOver_foldl_markKeyword (style : MarkStyle) (body : NodeId) (m : MarkedPage)
    (found : List KeywordMatch) :
    m.page.PassedOver (found.foldl (markKeyword style body) m).page := by
  induction found generalizing m with
  | nil => exact .refl
  | cons k ks ih => exact (passedOver_markKeyword style body m k).trans (ih _)

/-- A scan does nothing to a page but send passes over it. -/
theorem passedOver_scan (p : Page) (scanId : String) (source : Source) (config : ScanConfig) :
    p.PassedOver (p.scan scanId source config).page := by
  cases hks : source.keywords with
  | error e =>
      rw [(scan_of_failure hks p scanId config).1]
  | ok ks =>
      rw [(scan_of_keywords hks p scanId config).1, scanFor]
      split
      · exact .refl
      · split
        · exact .refl
        · dsimp only
          split
          · exact .refl
          · split <;> exact passedOver_foldl_markKeyword config.markStyle _ { page := p } _

/-! ## Text under invisible elements -/

theorem mem_lineage_of_load {maxDepth : Nat} {snapshot : Json} {top : NodeId} {loaded : Page}
    (hload : p.load maxDepth snapshot = (loaded, .ok top)) (hy : y < loaded.size) :
    0 ∈ loaded.lineage y := by
  obtain ⟨json, -, -, hholds⟩ := holds_of_load hload
  have h := hholds.consistent.toWellFormed
  have hzero := hholds.consistent.root_lt 0 hholds.root
  have hids := (h.traverse_ids hzero).symm.trans hholds.traverse
  rw [Except.ok.injEq] at hids
  rw [← h.mem_ids_tree hzero, hids]
  exact List.mem_range.2 hy

/-- Nodes that are no elements have the visibility of their parents. -/
def Inherits (p : Page) : Prop :=
  ∀ x c, (p.node c).parent = some x → (p.node c).isElement = false →
    (p.node c).visible = (p.node x).visible

theorem inherits_of_load {maxDepth : Nat} {snapshot : Json} {top : NodeId} {loaded resolved : Page}
    (hload : p.load maxDepth snapshot = (loaded, .ok top))
    (hpainted : Painted (loaded.shownUpTo 0) (fun y => 0 ∈ loaded.lineage y) loaded resolved) :
    resolved.Inherits := by
  obtain ⟨h, -⟩ := resolved_of_load hload
  have hredrawn := hpainted.redrawn
  intro x c hparent helement
  have hx : x < loaded.size := hpainted.size ▸ (hredrawn.wellFormed h).parent_lt hparent
  have htop : 0 ∈ resolved.lineage x := hredrawn.lineage h x ▸ mem_lineage_of_load hload hx
  exact (hpainted.resolved h).inherited x c hparent htop helement

/-- Text of an invisible node stands under an invisible element wherever it stands under the
body. -/
theorem Descends.exists_invisible (hq : Descends p origin q) (h : q.WellFormed)
    (hinherits : p.Inherits) (hbody : body < p.size) (helement : (p.node body).isElement = true)
    (hvisible : (p.node (origin y)).visible = some false) (hy : body ∈ q.lineage y) :
    ∃ e ∈ q.lineage y, body ∈ q.lineage e ∧ (q.node e).isInvisible = true := by
  -- an old element is invisible itself, and the origin of all else inherits from above
  have hself : ∀ {z}, z < p.size → (p.node z).isElement = true →
      (p.node (origin z)).visible = some false → (q.node z).isInvisible = true := by
    intro z hz hzelement hv
    have hsame := congrArg Node.isInvisible (hq.unlinked z hz)
    refine hsame.trans ?_
    rw [hq.origin_old z hz] at hv
    exact Bool.and_eq_true_iff.2 ⟨hzelement, beq_iff_eq.2 hv⟩
  induction y using h.up_induction with
  | top y hp =>
      rw [h.lineage_of_top hp, List.mem_singleton] at hy
      subst hy
      exact ⟨body, h.mem_lineage_self body, h.mem_lineage_self body,
        hself hbody helement hvisible⟩
  | step y x hparent ih =>
      by_cases hown : y < p.size ∧ (p.node y).isElement = true
      · exact ⟨y, h.mem_lineage_self y, hy, hself hown.1 hown.2 hvisible⟩
      have hnot : (p.node (origin y)).isElement = false := by
        by_cases hlt : y < p.size
        · rw [hq.origin_old y hlt]
          exact Bool.eq_false_iff.2 (fun helem => hown ⟨hlt, helem⟩)
        · exact Node.isElement_eq_false_of_isText
            (hq.isText y (Nat.not_lt.1 hlt) (lt_of_parent hparent))
      have habove : body ∈ q.lineage x := by
        rw [h.lineage_of_parent hparent] at hy
        refine (List.mem_cons.1 hy).resolve_left ?_
        rintro rfl
        exact hown ⟨hbody, helement⟩
      have hx : (p.node (origin x)).visible = some false := by
        rcases hq.parent x y hparent with ⟨hlt, hold⟩ | ⟨-, hsame⟩
        · rw [hq.origin_old x hlt, ← hinherits x (origin y) hold hnot, hvisible]
        · rw [hsame, hvisible]
      obtain ⟨e, he, hunder, hinvisible⟩ := ih hx habove
      refine ⟨e, ?_, hunder, hinvisible⟩
      rw [h.lineage_of_parent hparent]
      exact List.mem_cons_of_mem y he

/-! ## What is written -/

/-- No invisible element stands above the node, from the body down. -/
def IsWritten (p : Page) (body y : NodeId) : Prop :=
  ∀ e ∈ p.lineage y, body ∈ p.lineage e → e ≠ y → (p.node e).isInvisible = false

/-- Text with an invisible origin is not written under a body of the page. -/
theorem Descends.not_isWritten (hq : Descends p origin q) (h : q.WellFormed)
    (hinherits : p.Inherits) (hbody : q.body? = some body) (htext : (q.node y).isText = true)
    (hvisible : (p.node (origin y)).visible = some false) :
    ¬ (body ∈ q.lineage y ∧ q.IsWritten body y) := by
  rintro ⟨hunder, hwritten⟩
  obtain ⟨hlt, htag, -⟩ := h.body?_some hbody
  -- no node that was added is a body
  have hold : body < p.size := by
    by_contra hle
    rw [hq.untagged body (Nat.not_lt.1 hle) hlt] at htag
    cases htag
  have helement : (p.node body).isElement = true :=
    (congrArg Node.isElement (hq.unlinked body hold)).symm.trans (Node.isElement_of_hasTag htag)
  obtain ⟨e, he, hbe, hinvisible⟩ :=
    hq.exists_invisible h hinherits hold helement hvisible hunder
  have hne : e ≠ y := by
    rintro rfl
    rw [Node.isInvisible, Node.isElement_eq_false_of_isText htext] at hinvisible
    cases hinvisible
  rw [hwritten e he hbe hne] at hinvisible
  cases hinvisible

theorem WellFormed.outerMarkup_setValues (h : q.WellFormed) (hbody : body < q.size)
    (hedits : ∀ edit ∈ edits, ¬ (body ∈ q.lineage edit.1 ∧ q.IsWritten body edit.1)) :
    (q.setValues edits).outerMarkup ⟨true, skipComments⟩ body =
      q.outerMarkup ⟨true, skipComments⟩ body := by
  have hredrawn := redrawn_setValues q edits
  rw [(hredrawn.wellFormed h).outerMarkup_eq (hredrawn.size ▸ hbody), h.outerMarkup_eq hbody]
  have hread := h.read_setValues (Markup.turn_ne_stop ⟨true, skipComments⟩)
    (P := fun y => body ∈ q.lineage y ∧ q.IsWritten body y) hedits ?step
    ⟨h.mem_lineage_self body, fun e he hunder hne => absurd (h.lineage_antisymm he hunder) hne⟩ {}
  case step =>
    rintro x c m m' leave hparent ⟨hunder, hwritten⟩ hturn
    have hshown : (q.node x).isInvisible = false := by
      apply Bool.eq_false_iff.2
      intro hinvisible
      have hpass := @Markup.turn_of_invisible ⟨true, skipComments⟩ (q.node x).unlinked hinvisible
        rfl m
      cases hpass.symm.trans hturn
    refine ⟨h.mem_lineage_trans hunder (h.mem_lineage_of_parent hparent), ?_⟩
    intro e he hbe hne
    rw [h.lineage_of_parent hparent] at he
    have hex := (List.mem_cons.1 he).resolve_left hne
    by_cases heq : e = x
    · rw [heq, hshown]
    · exact hwritten e hex hbe heq
  rw [hread]

theorem WellFormed.pageText_setValues (h : q.WellFormed)
    (hedits : ∀ body, q.body? = some body → ∀ edit ∈ edits,
      ¬ (body ∈ q.lineage edit.1 ∧ q.IsWritten body edit.1)) (config : ScanConfig) :
    Command.pageText (q.setValues edits) config true = Command.pageText q config true := by
  rw [Command.pageText, Command.pageText, (redrawn_setValues q edits).body?_eq h]
  cases hbody : q.body? with
  | none => rfl
  | some body =>
      have hmarkup := @WellFormed.outerMarkup_setValues q body edits true h (h.body?_some hbody).1
        (hedits body hbody)
      simp only [Option.bind_eq_bind, Option.bind_some, hmarkup]

theorem WellFormed.isSome_pageText (h : q.WellFormed) (hbody : q.body?.isSome = true)
    (config : ScanConfig) (visibleOnly : Bool) :
    (Command.pageText q config visibleOnly).isSome = true := by
  obtain ⟨body, hbody⟩ := Option.isSome_iff_exists.1 hbody
  rw [Command.pageText, hbody]
  simp only [Option.bind_eq_bind, Option.bind_some, h.outerMarkup_eq (h.body?_some hbody).1]
  rfl

/-- Writing the markup of a node without invisible elements is writing it from the page from which
the invisible elements below the node have been detached, in whatever order; the markup of an
invisible element is empty. So let a snapshot be loaded, its visibility be resolved, and passes go
over the page, as they do in a scan: every text node of the page has a text node of the resolved
page as its origin, and what text stands in nodes with an invisible origin does not matter to the
page that is written of what is visible. -/
theorem markup_by_pruning :
    (∀ (p : Page) (id : NodeId) (skipComments : Bool) (hidden : List NodeId), p.WellFormed →
      p.ListsInvisible id hidden →
        ∃ q, hidden.foldlM detach p = .ok q ∧
          p.outerMarkup ⟨true, skipComments⟩ id =
            if (p.node id).isInvisible then .ok "" else q.outerMarkup ⟨false, skipComments⟩ id) ∧
    ∀ (p : Page) (maxDepth : Nat) (snapshot : Json) (top : NodeId) (loaded : Page),
      p.load maxDepth snapshot = (loaded, .ok top) →
        ∃ resolved, loaded.resolveVisibility = .ok resolved ∧
          (∀ scanId source config,
            resolved.PassedOver (resolved.scan scanId source config).page) ∧
          ∀ q, resolved.PassedOver q → ∃ origin, Descends resolved origin q ∧
            ∀ config, (q.body?.isSome = true → (Command.pageText q config true).isSome = true) ∧
              ∀ edits : List (NodeId × String),
                (∀ edit ∈ edits, (q.node edit.1).isText = true ∧
                  (resolved.node (origin edit.1)).visible = some false) →
                Command.pageText (q.setValues edits) config true =
                  Command.pageText q config true := by
  constructor
  · intro p id skipComments hidden h hlists
    have hlt : ∀ r ∈ hidden, r < p.size :=
      fun r hr => lt_of_isInvisible ((hlists r).1 hr).2.2
    obtain ⟨q, hq, hcleared⟩ := h.exists_foldlM_detach hlt
    refine ⟨q, hq, ?_⟩
    cases hid : (p.node id).isInvisible with
    | true => exact h.outerMarkup_of_invisible hid skipComments
    | false => exact hlists.outerMarkup_eq h hcleared hid skipComments
  · intro p maxDepth snapshot top loaded hload
    obtain ⟨h, -, resolved, hresolved, hpainted⟩ := resolved_of_load hload
    have hwf := hpainted.redrawn.wellFormed h
    have hinherits := inherits_of_load hload hpainted
    refine ⟨resolved, hresolved, resolved.passedOver_scan, ?_⟩
    intro q hq
    have hcuts := hq.cutsUp hwf
    have hqwf := hcuts.wellFormed hwf
    obtain ⟨origin, hdescends⟩ := hcuts.exists_origin hwf
    refine ⟨origin, hdescends, fun config => ⟨fun hbody => hqwf.isSome_pageText hbody config true,
      fun edits hedits => ?_⟩⟩
    apply hqwf.pageText_setValues
    intro body hbody edit hedit
    obtain ⟨htext, hvisible⟩ := hedits edit hedit
    exact hdescends.not_isWritten hqwf hinherits hbody htext hvisible

theorem listsInvisible_echoPage : (resolvedPage echoSnapshot).ListsInvisible 1 [3] := by
  intro y
  by_cases hy : y < 5
  · have hall : ∀ y < 5, (y ∈ [3] ↔ 1 ∈ (resolvedPage echoSnapshot).lineage y ∧ y ≠ 1 ∧
        ((resolvedPage echoSnapshot).node y).isInvisible = true) := by decide +kernel
    exact hall y hy
  · have hsize : (resolvedPage echoSnapshot).size = 5 := by decide +kernel
    have hnone : ((resolvedPage echoSnapshot).node y).isInvisible = false := by
      rw [node_of_le (hsize ▸ Nat.not_lt.1 hy)]
      rfl
    simp only [List.mem_singleton, hnone, Bool.false_eq_true, and_false, iff_false]
    rintro rfl
    exact hy (by decide)

/-- The text of the marker in the hidden division comes from the text that was there before. -/
theorem markup_by_pruning_echoPage :
    (∃ q, [3].foldlM detach (resolvedPage echoSnapshot) = .ok q ∧
      (resolvedPage echoSnapshot).outerMarkup ⟨true, true⟩ 1 = q.outerMarkup ⟨false, true⟩ 1) ∧
    ∃ scanned, (resolvedPage echoSnapshot).PassedOver scanned ∧
      ((scanned.node 8).isText = true ∧ (scanned.node 8).value = "act now") ∧
      Command.pageText (scanned.setValues [(8, "too late")]) {} true =
        Command.pageText scanned {} true := by
  obtain ⟨hpruned, hloads⟩ := markup_by_pruning
  constructor
  · obtain ⟨q, hq, hmarkup⟩ := hpruned (resolvedPage echoSnapshot) 1 true [3]
      (resolvedPage_of_load load_echoSnapshot).2 listsInvisible_echoPage
    have hshown : ((resolvedPage echoSnapshot).node 1).isInvisible = false := by decide +kernel
    rw [hshown, if_neg Bool.false_ne_true] at hmarkup
    exact ⟨q, hq, hmarkup⟩
  · obtain ⟨resolved, hresolved, hscans, hpasses⟩ :=
      hloads empty 4 echoSnapshot 0 _ (Prod.ext rfl load_echoSnapshot)
    cases (resolvedPage_of_load load_echoSnapshot).1.symm.trans hresolved
    obtain ⟨-, -, -, hpage, -⟩ := scan_echoPage
    have hscanned := hscans "" (Source.ofList ["act now"]) {}
    rw [hpage] at hscanned
    obtain ⟨origin, hdescends, hall⟩ := hpasses _ hscanned
    have hsize : (resolvedPage echoSnapshot).size = 5 := by decide +kernel
    have hmarker : origin 7 = 4 := by
      rcases hdescends.parent 3 7 (by decide +kernel) with ⟨-, hparent⟩ | ⟨hle, -⟩
      · have hmem := ((resolvedPage_of_load load_echoSnapshot).2.mem_children_iff 3 _).2 hparent
        have hchildren : ((resolvedPage echoSnapshot).node 3).children = [4] := by decide +kernel
        rwa [hchildren, List.mem_singleton] at hmem
      · rw [hsize] at hle
        exact absurd hle (by decide)
    have htext : origin 8 = 4 := by
      rcases hdescends.parent 7 8 (by decide +kernel) with ⟨hlt, -⟩ | ⟨-, hsame⟩
      · rw [hsize] at hlt
        exact absurd hlt (by decide)
      · rw [← hsame, hmarker]
    refine ⟨_, hscanned, by decide +kernel, (hall {}).2 [(8, "too late")] ?_⟩
    intro edit hedit
    rw [List.mem_singleton.1 hedit, htext]
    decide +kernel

end Page

end PhraseMark
