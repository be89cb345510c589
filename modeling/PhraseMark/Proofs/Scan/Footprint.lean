import PhraseMark.Proofs.Scan.Nesting
import PhraseMark.Proofs.Scan.Shapes

/-!
# The footprint of a pass

A pass takes the text nodes in which it marks a hit out of their places, and puts new nodes there.
Everything else it leaves alone: what the old nodes carry, the links of those that are neither taken
out nor parents of such, and all that is not under its root. Everything it adds stands under its
root.
-/

namespace PhraseMark

open Marking

namespace Page

variable {p : Page} {root t y : NodeId} {style : MarkStyle} {matcher : Matcher} {cuts : List Cut}

/-- A text node that a pass comes to and that has a hit to mark. -/
def IsReplaced (p : Page) (root : NodeId) (style : MarkStyle) (matcher : Matcher) (t : NodeId) :
    Prop :=
  t ∈ p.stops root style matcher ∧ chosen style matcher (p.node t).value ≠ []

/-- What a pass keeps of a page, what it takes out, and what it adds. -/
structure Footprint (p : Page) (root : NodeId) (style : MarkStyle) (matcher : Matcher)
    (q : Page) : Prop where
  wellFormed : q.WellFormed
  size_le : p.size ≤ q.size
  top : q.root = p.root
  backendIndex : q.backendIndex = p.backendIndex
  /-- An old node keeps all it carries besides its links. -/
  unlinked : ∀ y < p.size, (q.node y).unlinked = (p.node y).unlinked
  outside : ∀ y, root ∉ p.lineage y → y < p.size → q.node y = p.node y
  /-- What is taken out can still be read, and has what it had below it. -/
  replaced : ∀ y, p.IsReplaced root style matcher y →
    (p.node y).isText = true ∧ root ∈ p.lineage y ∧ y ≠ root ∧ (∃ x, (p.node y).parent = some x) ∧
      q.get y = .ok { p.node y with parent := none }
  parent : ∀ y < p.size, ¬ p.IsReplaced root style matcher y →
    (q.node y).parent = (p.node y).parent
  children : ∀ y < p.size, (q.node y).children ≠ (p.node y).children ↔
    ∃ c ∈ (p.node y).children, p.IsReplaced root style matcher c
  /-- What is added is a marker or a text, and has a parent under the root. -/
  added : ∀ y, p.size ≤ y → y < q.size → y ≠ root ∧ root ∈ q.lineage y ∧ ∃ x,
    q.node y = { marker style.markerClass y with parent := some x, children := [y + 1] } ∨
      ∃ text, q.node y = { Node.ofText text with id := y, parent := some x }

theorem Footprint.refl (h : p.WellFormed)
    (hnone : ∀ t, ¬ p.IsReplaced root style matcher t) : p.Footprint root style matcher p where
  wellFormed := h
  size_le := Nat.le_refl _
  top := rfl
  backendIndex := rfl
  unlinked := fun _ _ => rfl
  outside := fun _ _ _ => rfl
  replaced := fun y hy => absurd hy (hnone y)
  parent := fun _ _ _ => rfl
  children := fun _ _ => ⟨fun hne => absurd rfl hne, fun ⟨c, _, hc⟩ => absurd hc (hnone c)⟩
  added := fun _ hle hlt => absurd hlt (Nat.not_lt.2 hle)

/-! ## The text nodes that are taken out -/

theorem WellFormed.mem_target_plan_iff (h : p.WellFormed) (hroot : root < p.size)
    (htoken : IsClassToken style.markerClass) :
    t ∈ (plan (cutUp style matcher) p.size
        ((p.tree root).textsBelow (goesOn style matcher))).map (·.target) ↔
      p.IsReplaced root style matcher t := by
  constructor
  · intro ht
    have hcuts := h.cutsAt_plan hroot htoken matcher
    have hstop := hcuts.mem_stops t ht
    refine ⟨hstop, fun hnil => ?_⟩
    have htext := ((h.mem_stops_iff hroot htoken).1 hstop).1
    have hgoes : goesOn style matcher (p.node t).unlinked =
        (cutUp style matcher (p.node t).unlinked).isNone := goesOn_of_isText htext
    have hcut : cutUp style matcher (p.node t).unlinked = none := cutUp_of_nil hnil
    rw [hcuts.not_goesOn t ht, hcut] at hgoes
    cases hgoes
  · rintro ⟨hstop, hchosen⟩
    rw [h.stops_mark hroot htoken, List.mem_map] at hstop
    obtain ⟨n, hn, rfl⟩ := hstop
    obtain ⟨y, rfl, htext, -⟩ := h.mem_textsBelow_tree.1 hn
    have hid : (p.node y).unlinked.id = y := h.id_node y (lt_of_isText htext)
    rw [hid] at hchosen ⊢
    have hcut : cutUp style matcher (p.node y).unlinked =
        some (piecesFrom (p.node y).value.toList 0 (chosen style matcher (p.node y).value)) :=
      cutUp_of_ne_nil hchosen
    obtain ⟨cut, hmem, htarget⟩ := exists_mem_plan hn hcut p.size
    exact List.mem_map.2 ⟨cut, hmem, htarget.trans hid⟩

namespace CutsAt

variable (hc : p.CutsAt root style matcher cuts) (h : p.WellFormed) (hroot : root < p.size)
  (htoken : IsClassToken style.markerClass)

include hc h hroot htoken

theorem under_root (ht : t ∈ cuts.map (·.target)) :
    (p.node t).isText = true ∧ root ∈ p.lineage t ∧ t ≠ root := by
  obtain ⟨htext, hunder, hne, -⟩ := (h.mem_stops_iff hroot htoken).1 (hc.mem_stops t ht)
  exact ⟨htext, hunder, hne⟩

/-- Where a text node is taken out, the way up to the root stays. -/
theorem exists_parent_under (ht : t ∈ cuts.map (·.target)) :
    ∃ x, (p.node t).parent = some x ∧ root ∈ (p.batch style.markerClass cuts).lineage x := by
  obtain ⟨-, hunder, hne⟩ := hc.under_root h hroot htoken ht
  obtain ⟨x, hparent, hx⟩ := h.exists_parent_of_mem_lineage hunder hne
  refine ⟨x, hparent, ?_⟩
  rwa [h.lineage_batch hc.wellFormed (h.parent_lt hparent)
    (fun y hy => hc.notMem_of_parent h hroot htoken ht hparent hy)]

/-- Nothing under a text node that is taken out is taken out itself. -/
theorem notMem_of_mem_children {c : NodeId} (ht : t ∈ cuts.map (·.target))
    (hct : c ∈ (p.node t).children) : c ∉ cuts.map (·.target) := by
  intro hcut
  have hparent := (h.mem_children_iff t c).1 hct
  exact hc.notMem_of_parent h hroot htoken hcut hparent (h.mem_lineage_self t) ht

theorem node_target (ht : t ∈ cuts.map (·.target)) :
    (p.batch style.markerClass cuts).node t = { p.node t with parent := none } := by
  have htlt := lt_of_isText (hc.under_root h hroot htoken ht).1
  refine Node.ext_unlinked (unlinked_batch _ _ htlt) ?_ ?_
  · rw [parent_batch h _ _ htlt, if_pos ht]
  · rw [children_batch _ _ htlt]
    exact flatMap_place_of_forall (fun c hct => hc.notMem_of_mem_children h hroot htoken ht hct)

theorem node_outside (hy : y < p.size) (hnot : root ∉ p.lineage y) :
    (p.batch style.markerClass cuts).node y = p.node y := by
  rw [node_batch_of_lt _ _ hy, relink_of_notMem]
  · rw [h.id_node y hy]
    exact fun hmem => hnot (hc.under_root h hroot htoken hmem).2.1
  · intro c hcy hmem
    obtain ⟨-, hunder, hne⟩ := hc.under_root h hroot htoken hmem
    rw [h.lineage_of_parent ((h.mem_children_iff y c).1 hcy)] at hunder
    rcases List.mem_cons.1 hunder with heq | hunder
    · exact hne heq.symm
    · exact hnot hunder

/-- The list of children of a node changes just where one of them is taken out. -/
theorem children_ne_iff (hy : y < p.size) :
    ((p.batch style.markerClass cuts).node y).children ≠ (p.node y).children ↔
      ∃ c ∈ (p.node y).children, c ∈ cuts.map (·.target) := by
  constructor
  · intro hne
    by_contra hnone
    apply hne
    rw [children_batch _ _ hy]
    exact flatMap_place_of_forall (fun c hcy hmem => hnone ⟨c, hcy, hmem⟩)
  · rintro ⟨c, hcy, hmem⟩ heq
    have hparent := (hc.wellFormed.mem_children_iff y c).1 (heq ▸ hcy)
    rw [hc.node_target h hroot htoken hmem] at hparent
    cases hparent

theorem node_added (hle : p.size ≤ y) (hlt : y < (p.batch style.markerClass cuts).size) :
    root ∈ (p.batch style.markerClass cuts).lineage y ∧ ∃ x,
      (p.batch style.markerClass cuts).node y =
          { marker style.markerClass y with parent := some x, children := [y + 1] } ∨
        ∃ text, (p.batch style.markerClass cuts).node y =
          { Node.ofText text with id := y, parent := some x } := by
  have hq := hc.wellFormed
  obtain ⟨cut, hcut, ⟨i, a⟩, hb, n, hn, hid, hnode⟩ := exists_piece_of_le hc.numbered hle hlt
  have htarget := List.mem_map_of_mem (f := Cut.target) hcut
  obtain ⟨x, hparent, hx⟩ := hc.exists_parent_under h hroot htoken htarget
  have hbelow : ∀ {z w}, ((p.batch style.markerClass cuts).node z).parent = some w →
      root ∈ (p.batch style.markerClass cuts).lineage w →
        root ∈ (p.batch style.markerClass cuts).lineage z := by
    intro z w hz hw
    exact hq.mem_lineage_trans hw (hq.mem_lineage_of_parent hz)
  cases a with
  | plain text =>
      rw [Piece.nodes, List.mem_singleton] at hn
      subst hn
      subst hid
      rw [hparent] at hnode
      exact ⟨hbelow (by rw [hnode]) hx, x, .inr ⟨text, hnode⟩⟩
  | hit text =>
      -- the marker stands in the old place, and its text in the marker
      have hspan := @node_batch_of_mem p style.markerClass cuts _ hc.numbered
        (List.mem_flatMap.2 ⟨cut, hcut, mem_nodesOf.2 ⟨_, hb, List.mem_cons_self⟩⟩)
      rw [hparent] at hspan
      have hspan_under := hbelow (by rw [hspan]) hx
      simp only [Piece.nodes, List.mem_cons, List.not_mem_nil, or_false] at hn
      rcases hn with rfl | rfl
      · subst hid
        exact ⟨hspan_under, x, .inl hspan⟩
      · subst hid
        exact ⟨hbelow (by rw [hnode]) hspan_under, i, .inr ⟨text, hnode⟩⟩

end CutsAt

theorem CutsAt.footprint (hc : p.CutsAt root style matcher cuts) (h : p.WellFormed)
    (hroot : root < p.size) (htoken : IsClassToken style.markerClass)
    (htargets : ∀ t, t ∈ cuts.map (·.target) ↔ p.IsReplaced root style matcher t) :
    p.Footprint root style matcher (p.batch style.markerClass cuts) where
  wellFormed := hc.wellFormed
  size_le := by
    rw [size_batch]
    exact Nat.le_add_right _ _
  top := rfl
  backendIndex := rfl
  unlinked := fun _ hy => unlinked_batch _ _ hy
  outside := fun _ hnot hy => hc.node_outside h hroot htoken hy hnot
  replaced := by
    intro y hy
    have hmem := (htargets y).2 hy
    obtain ⟨htext, hunder, hne⟩ := hc.under_root h hroot htoken hmem
    obtain ⟨x, hparent, -⟩ := hc.exists_parent_under h hroot htoken hmem
    have hlt : y < (p.batch style.markerClass cuts).size := by
      rw [size_batch]
      exact Nat.lt_add_right _ (lt_of_isText htext)
    refine ⟨htext, hunder, hne, ⟨x, hparent⟩, ?_⟩
    rw [get_of_lt hlt, hc.node_target h hroot htoken hmem]
  parent := by
    intro y hy hnot
    rw [parent_batch h _ _ hy, if_neg (mt (htargets y).1 hnot)]
  children := by
    intro y hy
    rw [hc.children_ne_iff h hroot htoken hy]
    simp only [htargets]
  added := by
    intro y hle hlt
    refine ⟨?_, hc.node_added h hroot htoken hle hlt⟩
    rintro rfl
    exact Nat.not_lt.2 hle hroot

/-! ## Passes -/

/-- A pass touches only what it must. Over any well-formed page, under any root and with any
matcher, it comes to its end if the root exists, and else fails without a change. Old nodes keep
what they carry, and those that are not under the root keep everything. Under the root just the
text nodes with a hit that the pass comes to are taken out of their places; they can be read as
before. Just their parents get other children. Every new node is a marker or a text, and stands
under the root. -/
theorem mark_footprint (h : p.WellFormed) (htoken : IsClassToken style.markerClass) (root : NodeId)
    (matcher : Matcher) :
    p.Footprint root style matcher (p.mark root style matcher).page ∧
      (p.mark root style matcher).ending =
        if root < p.size then .finished else .failed (.nodeNotFound root) := by
  by_cases hroot : root < p.size
  · have hdone := h.mark_completes hroot htoken matcher
    rw [hdone.page, hdone.ending, if_pos hroot]
    exact ⟨(h.cutsAt_plan hroot htoken matcher).footprint h hroot htoken
      (fun _ => h.mem_target_plan_iff hroot htoken), rfl⟩
  · have hmark := mark_of_le (Nat.not_lt.1 hroot) style matcher
    rw [hmark, if_neg hroot]
    refine ⟨.refl h (fun t ht => ?_), rfl⟩
    have hstop := ht.1
    rw [stops_of_le (Nat.not_lt.1 hroot)] at hstop
    cases hstop

/-- A page with one text below another one, and with a text that is not in its body. -/
def foldedPage : Page :=
  [.addElement "html", .addElement "body", .addText "1!", .addText "1!", .addText "1!",
    .append 0 1, .append 1 2, .append 2 3, .append 0 4, .setRoot 0].foldl perform empty

theorem mark_footprint_foldedPage :
    let pass := foldedPage.mark 1 ⟨"hit", false⟩ sampleMatcher
    pass.ending = .finished ∧ foldedPage.IsReplaced 1 ⟨"hit", false⟩ sampleMatcher 2 ∧
      pass.page.get 2 = .ok { foldedPage.node 2 with parent := none } ∧
      pass.page.node 4 = foldedPage.node 4 ∧ pass.page.size = 8 ∧ 1 ∈ pass.page.lineage 6 := by
  have hpage : foldedPage.WellFormed := wellFormed_edits _
  obtain ⟨hfootprint, hending⟩ :=
    @mark_footprint foldedPage ⟨"hit", false⟩ hpage (by decide) 1 sampleMatcher
  have hreplaced : foldedPage.IsReplaced 1 ⟨"hit", false⟩ sampleMatcher 2 :=
    ⟨by decide, by decide⟩
  have hsize : (foldedPage.mark 1 ⟨"hit", false⟩ sampleMatcher).page.size = 8 := by decide
  obtain ⟨-, -, -, -, hget⟩ := hfootprint.replaced 2 hreplaced
  have houtside := hfootprint.outside 4 (by decide) (by decide)
  obtain ⟨-, hunder, -⟩ := hfootprint.added 6 (by decide) (by rw [hsize]; decide)
  exact ⟨hending, hreplaced, hget, houtside, hsize, hunder⟩

end Page

end PhraseMark
