import PhraseMark.Proofs.History

/-!
# Passes as rewriting of trees

The tree of a node after a pass is the tree before it with fragments in the places of the text
nodes with hits. Where a matcher keeps to the rules of matching, the fragments hold the text
they replace, and none of their texts is empty.
-/

namespace PhraseMark

open Pattern

namespace Marking

def Piece.tree (markerClass : String) (i : NodeId) : Piece → Tree
  | .plain text => .node { Node.ofText text with id := i } []
  | .hit text =>
    .node { (Node.ofTag "span").setAttr "class" markerClass with id := i }
      [.node { Node.ofText text with id := i + 1 } []]

/-- The trees that cuts put in the places of their text nodes. -/
def fragments (markerClass : String) (cuts : List Cut) (t : NodeId) : Option (List Tree) :=
  (cuts.find? (fun cut => cut.target == t)).map
    (fun cut => cut.pieces.map (fun b => b.2.tree markerClass b.1))

end Marking

namespace Page

open Marking

variable {p : Page} {markerClass : String} {cuts : List Cut} {cut : Cut} {x : NodeId}

/-! ## Trees after cuts -/

theorem WellFormed.tree_piece (hq : (p.batch markerClass cuts).WellFormed)
    (hids : p.Numbered markerClass cuts)
    (hcut : cut ∈ cuts) {b : NodeId × Piece} (hb : b ∈ cut.pieces) :
    (p.batch markerClass cuts).tree b.1 = b.2.tree markerClass b.1 := by
  have hmem : ∀ n ∈ b.2.nodes markerClass (p.node cut.target).parent b.1,
      (p.batch markerClass cuts).node n.id = n := by
    intro n hn
    refine node_batch_of_mem hids (List.mem_flatMap.2 ⟨cut, hcut, ?_⟩)
    exact mem_nodesOf.2 ⟨b, hb, hn⟩
  obtain ⟨i, a⟩ := b
  cases a with
  | plain text =>
      have hnode := hmem _ List.mem_cons_self
      simp only at hnode
      rw [hq.tree_eq, hnode]
      rfl
  | hit text =>
      have hspan := hmem _ List.mem_cons_self
      have htext := hmem _ (List.mem_cons_of_mem _ List.mem_cons_self)
      simp only at hspan htext
      rw [hq.tree_eq, hspan, List.map_singleton, hq.tree_eq, htext]
      rfl

theorem WellFormed.graft_tree (h : p.WellFormed) (f : NodeId → Option (List Tree))
    (hx : x < p.size) :
    (p.tree x).graft f = (f x).getD [(p.tree x).rewriteBelow f] := by
  have hid : (p.node x).unlinked.id = x := h.id_node x hx
  rw [h.tree_eq, Tree.graft_node, Tree.rewriteBelow, hid]

/-- Cutting up a page puts the fragments in the places of the text nodes. -/
theorem WellFormed.tree_batch_eq (h : p.WellFormed)
    (hq : (p.batch markerClass cuts).WellFormed)
    (hids : p.Numbered markerClass cuts)
    (hx : x < p.size) :
    (p.batch markerClass cuts).tree x =
      (p.tree x).rewriteBelow (fragments markerClass cuts) := by
  induction x using h.down_induction with
  | step x ih =>
      rw [hq.tree_eq, unlinked_batch _ _ hx, children_batch _ _ hx, h.tree_eq,
        Tree.rewriteBelow, List.map_flatMap, List.flatMap_map]
      congr 1
      apply List.flatMap_congr
      intro c hc
      have hclt := h.lt_of_mem_children hc
      rw [h.graft_tree _ hclt, fragments, place]
      cases hfind : cuts.find? (fun cut => cut.target == c) with
      | none => rw [Option.map_none, Option.getD_none, List.map_singleton, ih c hc hclt]
      | some cut =>
          have hcut := List.mem_of_find?_eq_some hfind
          simp only [Option.map_some, Option.getD_some, Cut.ids, List.map_map]
          exact List.map_congr_left (fun b hb => hq.tree_piece hids hcut hb)

end Page

namespace Marking

variable {style : MarkStyle} {matcher : Matcher} {cs : List Char} {hits : List Span}

/-! ## Fragments -/

/-- A matcher that keeps to the rules of matching: its hits lie in the text, in order and apart. -/
structure Lawful (matcher : Matcher) : Prop where
  bounds : ∀ text, ∀ s ∈ matcher text, s.start ≤ s.stop ∧ s.stop ≤ text.toList.length
  apart : ∀ text, (matcher text).Pairwise (fun s t => s.stop ≤ t.start)

/-- The hits that are marked: those that are not empty, or the first of them. -/
def selected (style : MarkStyle) (matcher : Matcher) (text : String) : List Span :=
  let found := (matcher text).filter (fun s => s.start < s.stop)
  if style.all then found else found.take 1

def plainPiece (cs : List Char) : List Piece := if cs = [] then [] else [.plain (.ofList cs)]

/-- The text from `cursor` on with every hit in a marker. -/
def fragmentFrom (cs : List Char) : Nat → List Span → List Piece
  | cursor, [] => plainPiece (cs.drop cursor)
  | cursor, s :: rest =>
    plainPiece (Span.slice ⟨cursor, s.start⟩ cs) ++
      .hit (.ofList (s.slice cs)) :: fragmentFrom cs s.stop rest

/-- The fragment that takes the place of a text node, if it has a hit to mark. -/
def fragment (style : MarkStyle) (matcher : Matcher) (n : Node) : Option (List Piece) :=
  match selected style matcher n.value with
  | [] => none
  | hits => some (fragmentFrom n.value.toList 0 hits)

theorem mem_selected {s : Span} {text : String} (h : s ∈ selected style matcher text) :
    s ∈ matcher text ∧ s.start < s.stop := by
  have hfound : s ∈ (matcher text).filter (fun s => s.start < s.stop) := by
    simp only [selected] at h
    split at h
    · exact h
    · exact List.mem_of_mem_take h
  simpa using hfound

theorem pairwise_selected (hlawful : Lawful matcher) (style : MarkStyle) (text : String) :
    (selected style matcher text).Pairwise (fun s t => s.stop ≤ t.start) := by
  have hfound := (hlawful.apart text).filter (fun s => s.start < s.stop)
  simp only [selected]
  split
  · exact hfound
  · exact hfound.sublist (List.take_sublist _ _)

theorem chosen_eq_selected (hlawful : Lawful matcher) (style : MarkStyle) (text : String) :
    chosen style matcher text = selected style matcher text := by
  have hfilter : (matcher text).filter (! ·.isEmpty) =
      (matcher text).filter (fun s => s.start < s.stop) := by
    apply List.filter_congr
    intro s hs
    have hle := (hlawful.bounds text s hs).1
    rcases Nat.eq_or_lt_of_le hle with heq | hlt
    · simp [Span.isEmpty, heq]
    · simp [Span.isEmpty, hlt, Nat.ne_of_lt hlt]
  simp only [chosen, selected, hfilter]

theorem slice_eq_nil_iff {a b : Nat} (hb : b ≤ cs.length) :
    Span.slice ⟨a, b⟩ cs = [] ↔ b ≤ a := by
  rw [Span.slice, ← List.length_eq_zero_iff, List.length_take, List.length_drop]
  simp only
  omega

theorem piecesFrom_eq_fragmentFrom (cursor : Nat) (hhits : ∀ s ∈ hits, s.start ≤ cs.length) :
    piecesFrom cs cursor hits = fragmentFrom cs cursor hits := by
  induction hits generalizing cursor with
  | nil =>
      rw [piecesFrom, fragmentFrom, plainPiece]
      by_cases h : cursor < cs.length
      · rw [if_pos h, if_neg (by simpa using h)]
      · rw [if_neg h, if_pos (by simpa using h)]
  | cons s rest ih =>
      have hs := slice_eq_nil_iff (a := cursor) (hhits s List.mem_cons_self)
      rw [piecesFrom, fragmentFrom, plainPiece,
        ih s.stop (fun t ht => hhits t (List.mem_cons_of_mem s ht))]
      by_cases h : cursor < s.start
      · rw [if_pos h, if_neg (fun heq => Nat.not_lt.2 (hs.1 heq) h)]
      · rw [if_neg h, if_pos (hs.2 (Nat.not_lt.1 h))]

theorem cutUp_eq_fragment (hlawful : Lawful matcher) (style : MarkStyle) :
    cutUp style matcher = fragment style matcher := by
  funext n
  have hbounds : ∀ s ∈ selected style matcher n.value, s.start ≤ n.value.toList.length := by
    intro s hs
    obtain ⟨hmem, hlt⟩ := mem_selected hs
    have hle := (hlawful.bounds n.value s hmem).2
    omega
  rw [cutUp, fragment, chosen_eq_selected hlawful]
  cases hhits : selected style matcher n.value with
  | nil => rfl
  | cons s rest =>
      rw [hhits] at hbounds
      simp only [piecesFrom_eq_fragmentFrom 0 hbounds]

theorem flatMap_fragmentFrom {cursor : Nat} (hcursor : cursor ≤ cs.length)
    (hfirst : ∀ s ∈ hits, cursor ≤ s.start)
    (hbounds : ∀ s ∈ hits, s.start ≤ s.stop ∧ s.stop ≤ cs.length)
    (hapart : hits.Pairwise (fun s t => s.stop ≤ t.start)) :
    (fragmentFrom cs cursor hits).flatMap (·.text.toList) = cs.drop cursor := by
  have hplain : ∀ ds, (plainPiece ds).flatMap (·.text.toList) = ds := by
    intro ds
    unfold plainPiece
    split
    · rename_i h
      exact h.symm
    · simp [Piece.text]
  induction hits generalizing cursor with
  | nil => exact hplain _
  | cons s rest ih =>
      obtain ⟨hle, hstop⟩ := hbounds s List.mem_cons_self
      have hstart := hfirst s List.mem_cons_self
      obtain ⟨hnext, hapart⟩ := List.pairwise_cons.1 hapart
      have hrest := ih hstop hnext (fun t ht => hbounds t (List.mem_cons_of_mem s ht)) hapart
      rw [fragmentFrom, List.flatMap_append, List.flatMap_cons, hplain, hrest]
      have hcut : ∀ a b, a ≤ b → Span.slice ⟨a, b⟩ cs ++ cs.drop b = cs.drop a := by
        intro a b hab
        have hdrop : cs.drop b = (cs.drop a).drop (b - a) := by
          rw [List.drop_drop, Nat.add_sub_cancel' hab]
        rw [Span.slice, hdrop, List.take_append_drop]
      calc Span.slice ⟨cursor, s.start⟩ cs ++ ((Piece.hit (.ofList (s.slice cs))).text.toList ++
            cs.drop s.stop)
          = Span.slice ⟨cursor, s.start⟩ cs ++ (s.slice cs ++ cs.drop s.stop) := by
            simp [Piece.text]
        _ = Span.slice ⟨cursor, s.start⟩ cs ++ cs.drop s.start := by
            rw [hcut s.start s.stop hle]
        _ = cs.drop cursor := hcut cursor s.start hstart

theorem text_ne_empty_of_mem {cursor : Nat} (hbounds : ∀ s ∈ hits, s.start < s.stop ∧
    s.stop ≤ cs.length) {a : Piece} (ha : a ∈ fragmentFrom cs cursor hits) : a.text ≠ "" := by
  have hplain : ∀ ds, a ∈ plainPiece ds → a.text ≠ "" := by
    intro ds ha
    unfold plainPiece at ha
    split at ha
    · cases ha
    · rename_i hne
      rw [List.mem_singleton] at ha
      subst ha
      simpa [Piece.text] using hne
  induction hits generalizing cursor with
  | nil => exact hplain _ ha
  | cons s rest ih =>
      rw [fragmentFrom] at ha
      rcases List.mem_append.1 ha with ha | ha
      · exact hplain _ ha
      · rcases List.mem_cons.1 ha with rfl | ha
        · obtain ⟨hlt, hle⟩ := hbounds s List.mem_cons_self
          have hne := mt (slice_eq_nil_iff (a := s.start) hle).1 (Nat.not_le.2 hlt)
          simpa [Piece.text] using hne
        · exact ih (fun t ht => hbounds t (List.mem_cons_of_mem s ht)) ha

/-- A fragment holds the text of its text node, and each of its pieces some of it. -/
theorem fragment_eq_some (hlawful : Lawful matcher) {n : Node} {as : List Piece}
    (h : fragment style matcher n = some as) :
    (∀ a ∈ as, a.text ≠ "") ∧ as.flatMap (·.text.toList) = n.value.toList := by
  have hbounds : ∀ s ∈ selected style matcher n.value,
      s.start < s.stop ∧ s.stop ≤ n.value.toList.length := by
    intro s hs
    obtain ⟨hmem, hlt⟩ := mem_selected hs
    exact ⟨hlt, (hlawful.bounds n.value s hmem).2⟩
  unfold fragment at h
  split at h
  · cases h
  · cases h
    refine ⟨fun a ha => text_ne_empty_of_mem hbounds ha, ?_⟩
    refine flatMap_fragmentFrom (Nat.zero_le _) (fun s _ => Nat.zero_le _) (fun s hs => ?_)
      (pairwise_selected hlawful style n.value)
    exact ⟨Nat.le_of_lt (hbounds s hs).1, (hbounds s hs).2⟩

end Marking

namespace Page

open Marking

variable {p : Page} {root x : NodeId} {style : MarkStyle} {matcher : Matcher}

/-! ## Passes -/

/-- The cuts of a pass, read off the page before it. -/
def cutsBelow (p : Page) (root : NodeId) (style : MarkStyle) (matcher : Matcher) : List Cut :=
  plan (fragment style matcher) p.size (p.markable root style)

theorem WellFormed.node_batch_cutsBelow (h : p.WellFormed) (hx : x < p.size)
    (hnot : root ∉ p.lineage x) :
    (p.batch style.markerClass (p.cutsBelow root style matcher)).node x = p.node x := by
  rw [node_batch_of_lt _ _ hx, relink_of_notMem]
  · rw [h.id_node x hx]
    exact fun hmem => hnot (h.markable_of_target hmem).2.1
  · intro c hc hmem
    obtain ⟨-, hroot, hne, -⟩ := h.markable_of_target hmem
    rw [h.lineage_of_parent ((h.mem_children_iff x c).1 hc)] at hroot
    rcases List.mem_cons.1 hroot with heq | hroot
    · exact hne heq.symm
    · exact hnot hroot

def sampleMatcher : Matcher := fun text => if text = "1!" then [⟨0, 1⟩] else []

theorem lawful_sampleMatcher : Lawful sampleMatcher where
  bounds := by
    intro text s hs
    unfold sampleMatcher at hs
    split at hs
    · rename_i htext
      rw [List.mem_singleton] at hs
      subst hs htext
      decide
    · cases hs
  apart := by
    intro text
    unfold sampleMatcher
    split <;> simp

/-- Walking and rewriting in turns is rewriting the tree as it was before: a pass comes to its
end; under its root it leaves the old tree with every markable text node with a hit replaced by
its fragment, and it leaves everything else as it was. It tells of the hits in document order, and
of the number of markable text nodes. -/
theorem mark_rewrites (h : p.WellFormed) (hchildless : p.TextsChildless) (hroot : root < p.size)
    (htoken : IsClassToken style.markerClass) (hlawful : Lawful matcher) :
    (p.mark root style matcher).ending = .finished ∧
      (p.mark root style matcher).page.tree root =
        (p.tree root).rewriteBelow
          (fragments style.markerClass (p.cutsBelow root style matcher)) ∧
      (∀ n as, fragment style matcher n = some as →
        (∀ a ∈ as, a.text ≠ "") ∧ as.flatMap (·.text.toList) = n.value.toList) ∧
      (∀ y < p.size, root ∉ p.lineage y →
        (p.mark root style matcher).page.node y = p.node y) ∧
      (p.mark root style matcher).page.root = p.root ∧
      (p.mark root style matcher).page.backendIndex = p.backendIndex ∧
      (p.mark root style matcher).highlights =
        highlightsOfCuts (p.cutsBelow root style matcher) ∧
      (p.mark root style matcher).visited = (p.markable root style).length := by
  have hdone := h.mark_completes_markable hchildless hroot htoken matcher
  rw [cutUp_eq_fragment hlawful] at hdone
  have hwf := hdone.wellFormed
  have hids := p.numbered_plan style.markerClass (fragment style matcher) (p.markable root style)
  rw [hdone.page] at hwf ⊢
  refine ⟨hdone.ending, ?_, fun n as hn => fragment_eq_some hlawful hn, ?_, rfl,
    rfl, hdone.highlights, hdone.visited⟩
  · exact h.tree_batch_eq hwf hids hroot
  · intro y hy hnot
    exact h.node_batch_cutsBelow hy hnot

theorem mark_rewrites_samplePage :
    (samplePage.mark 0 ⟨"hit", false⟩ sampleMatcher).ending = .finished ∧
      (samplePage.mark 0 ⟨"hit", false⟩ sampleMatcher).highlights = [⟨2, "1"⟩] ∧
      (samplePage.mark 0 ⟨"hit", false⟩ sampleMatcher).visited = 1 := by
  have hrewrites := @mark_rewrites samplePage 0 ⟨"hit", false⟩ sampleMatcher
    consistent_samplePage.toWellFormed textsChildless_samplePage (by decide)
    (by decide) lawful_sampleMatcher
  obtain ⟨hending, -, -, -, -, -, hhighlights, hvisited⟩ := hrewrites
  exact ⟨hending, hhighlights.trans (by decide), hvisited.trans (by decide)⟩

end Page

end PhraseMark
