import PhraseMark.Proofs.Page.Walking
import PhraseMark.Proofs.Scan.Batch

/-!
# Passes

A pass over a well-formed page reads and rewrites the page in turns. It comes to the text nodes
that can be reached in the page as it was before, in document order, and it leaves that page with
all hits cut out at once.
-/

namespace PhraseMark

namespace Marking

variable {style : MarkStyle} {matcher : Matcher}

/-- The pieces of a text node, if it has a hit. -/
def cutUp (style : MarkStyle) (matcher : Matcher) (n : Node) : Option (List Piece) :=
  match chosen style matcher n.value with
  | [] => none
  | hits => some (piecesFrom n.value.toList 0 hits)

/-- The cuts at the text nodes of a list, with their pieces numbered from `next` on. -/
def plan (pieces : Node → Option (List Piece)) : NodeId → List Node → List Cut
  | _, [] => []
  | next, n :: ns =>
    match pieces n with
    | none => plan pieces next ns
    | some as =>
      ⟨n.id, number next as⟩ :: plan pieces (next + (as.map Piece.width).sum) ns

theorem cutUp_of_nil {n : Node} (h : chosen style matcher n.value = []) :
    cutUp style matcher n = none := by
  rw [cutUp, h]

theorem cutUp_of_ne_nil {n : Node} (h : chosen style matcher n.value ≠ []) :
    cutUp style matcher n =
      some (piecesFrom n.value.toList 0 (chosen style matcher n.value)) := by
  unfold cutUp
  split
  · rename_i hnil
    exact absurd hnil h
  · rfl

theorem plan_cons_none {pieces : Node → Option (List Piece)} {n : Node} (h : pieces n = none)
    (next : NodeId) (ns : List Node) : plan pieces next (n :: ns) = plan pieces next ns := by
  rw [plan, h]

theorem plan_cons_some {pieces : Node → Option (List Piece)} {n : Node} {as : List Piece}
    (h : pieces n = some as) (next : NodeId) (ns : List Node) :
    plan pieces next (n :: ns) =
      ⟨n.id, number next as⟩ :: plan pieces (next + (as.map Piece.width).sum) ns := by
  rw [plan, h]

theorem plan_congr {pieces pieces' : Node → Option (List Piece)} {next : NodeId} {ns : List Node}
    (h : ∀ n ∈ ns, pieces n = pieces' n) : plan pieces next ns = plan pieces' next ns := by
  induction ns generalizing next with
  | nil => rfl
  | cons n ns ih =>
      have hrest : ∀ next, plan pieces next ns = plan pieces' next ns := fun next =>
        ih (fun m hm => h m (List.mem_cons_of_mem n hm))
      cases hn : pieces' n with
      | none => rw [plan_cons_none hn, plan_cons_none ((h n List.mem_cons_self).trans hn), hrest]
      | some as => rw [plan_cons_some hn, plan_cons_some ((h n List.mem_cons_self).trans hn), hrest]

def highlightsOfCuts (cuts : List Cut) : List Highlight :=
  cuts.flatMap (fun cut => highlightsOf cut.pieces)

/-- Whether a pass goes on below a node: not below an element that it avoids, and not below a text
node with a hit, which it takes out. -/
def goesOn (style : MarkStyle) (matcher : Matcher) (n : Node) : Bool :=
  if n.isText then (cutUp style matcher n).isNone else !avoids style n

theorem goesOn_of_isText {n : Node} (h : n.isText = true) :
    goesOn style matcher n = (cutUp style matcher n).isNone := by
  rw [goesOn, if_pos h]

theorem goesOn_of_not_isText {n : Node} (h : n.isText = false) :
    goesOn style matcher n = !avoids style n := by
  rw [goesOn, if_neg]
  exact Bool.eq_false_iff.1 h

theorem isElement_of_avoids {n : Node} (h : avoids style n = true) : n.isElement = true := by
  simp only [avoids, Bool.or_eq_true] at h
  rcases h with h | h
  · obtain ⟨tag, -, htag⟩ := List.any_eq_true.1 h
    exact Node.isElement_of_hasTag htag
  · exact Node.isElement_of_hasClass h

theorem enters_goesOn (p : Page) {w : Walker} (hw : w.rejects = avoids style) :
    w.Enters p (goesOn style matcher) := by
  intro y _ htext
  have hgoes : goesOn style matcher (p.node y).unlinked = !avoids style (p.node y) :=
    goesOn_of_not_isText htext
  rw [hgoes, hw]
  cases ha : avoids style (p.node y) with
  | false => rw [Bool.and_false]
  | true => rw [isElement_of_avoids ha, Bool.and_true]

theorem exists_of_mem_plan {pieces : Node → Option (List Piece)} {next : NodeId}
    {ns : List Node} {cut : Cut} (h : cut ∈ plan pieces next ns) :
    ∃ n ∈ ns, ∃ as i, pieces n = some as ∧ next ≤ i ∧ cut = ⟨n.id, number i as⟩ := by
  induction ns generalizing next with
  | nil => cases h
  | cons n ns ih =>
      cases hn : pieces n with
      | none =>
          rw [plan_cons_none hn] at h
          obtain ⟨m, hm, hrest⟩ := ih h
          exact ⟨m, List.mem_cons_of_mem n hm, hrest⟩
      | some as =>
          rw [plan_cons_some hn] at h
          rcases List.mem_cons.1 h with rfl | h
          · exact ⟨n, List.mem_cons_self, as, next, hn, Nat.le_refl _, rfl⟩
          · obtain ⟨m, hm, bs, i, hbs, hle, hcut⟩ := ih h
            exact ⟨m, List.mem_cons_of_mem n hm, bs, i, hbs,
              Nat.le_trans (Nat.le_add_right _ _) hle, hcut⟩

theorem target_mem_of_mem_plan {pieces : Node → Option (List Piece)} {next : NodeId}
    {ns : List Node} {cut : Cut} (h : cut ∈ plan pieces next ns) :
    cut.target ∈ ns.map (·.id) := by
  obtain ⟨n, hn, as, i, -, -, rfl⟩ := exists_of_mem_plan h
  exact List.mem_map_of_mem hn

theorem piecesFrom_ne_nil (text : List Char) (cursor : Nat) {hits : List Pattern.Span}
    (h : hits ≠ []) : piecesFrom text cursor hits ≠ [] := by
  cases hits with
  | nil => exact absurd rfl h
  | cons s rest => simp [piecesFrom]

/-- A pass leaves pieces behind if it knows the last of them: a text is not gone below, and neither
is a marker whose class is one token. -/
def LeftBehind (style : MarkStyle) (as : List Piece) : Prop :=
  ∀ text, as.getLast? = some (.hit text) → IsClassToken style.markerClass

theorem exists_last_addPieces (style : MarkStyle) (text : List Char) (p : Page) (cursor : Nat)
    {hits : List Pattern.Span} (h : hits ≠ []) :
    ∃ last, (addPieces style text p cursor hits).ids.getLast? = some last := by
  rw [addPieces_eq, ← Option.isSome_iff_exists, List.getLast?_isSome]
  have has := piecesFrom_ne_nil text cursor h
  cases hpieces : piecesFrom text cursor hits with
  | nil => exact absurd hpieces has
  | cons a as => exact List.cons_ne_nil _ _

end Marking

namespace Page

open Marking

variable {p : Page} {root t : NodeId} {markerClass : String} {as : List Piece} {cs : List NodeId}

theorem map_id_piecesOf_plan (p : Page) (markerClass : String)
    (pieces : Node → Option (List Piece)) (next : NodeId) (ns : List Node) :
    (p.piecesOf markerClass (plan pieces next ns)).map (·.id) =
      List.range' next (p.piecesOf markerClass (plan pieces next ns)).length := by
  induction ns generalizing next with
  | nil => rfl
  | cons n ns ih =>
      cases hn : pieces n with
      | none =>
          rw [plan_cons_none hn]
          exact ih next
      | some as =>
          have hrest := ih (next + (as.map Piece.width).sum)
          rw [piecesOf] at hrest
          rw [plan_cons_some hn, piecesOf, List.flatMap_cons, List.map_append,
            map_id_nodesOf_number, hrest, List.length_append, length_nodesOf_number,
            List.range'_append_1]

theorem numbered_plan (p : Page) (markerClass : String) (pieces : Node → Option (List Piece))
    (ns : List Node) : p.Numbered markerClass (plan pieces p.size ns) :=
  p.map_id_piecesOf_plan markerClass pieces p.size ns

theorem numbered_single (p : Page) (markerClass : String) (t : NodeId) (as : List Piece) :
    p.Numbered markerClass [⟨t, number p.size as⟩] := by
  have hpieces : p.piecesOf markerClass [⟨t, number p.size as⟩] =
      nodesOf markerClass (p.node t).parent (number p.size as) := by
    simp [piecesOf]
  rw [Numbered, hpieces, map_id_nodesOf_number, length_nodesOf_number]

/-! ## The page after one cut -/

/-- After a cut the last piece has ahead of it what the text node had. -/
theorem AheadBelow.batch (hb : p.AheadBelow root t cs) (h : p.WellFormed) {last : NodeId}
    (hlast : ((number p.size as).map (·.1)).getLast? = some last) (hroot : root < p.size) :
    (p.batch markerClass [⟨t, number p.size as⟩]).AheadBelow root last cs := by
  obtain ⟨x, l, r, above, hx, hc, rfl⟩ := hb
  have hparent := (h.mem_children_iff x t).1 (by simp [hc])
  have hxlt := hx.lt_size h hroot
  have hnodup := h.nodup_children x
  rw [hc] at hnodup
  have hl : ∀ c ∈ l, c ∉ [(⟨t, number p.size as⟩ : Cut)].map (·.target) := by
    intro c hcl
    have hne := (List.nodup_append.1 hnodup).2.2 c hcl t List.mem_cons_self
    simpa using hne
  have hr : ∀ c ∈ r, c ∉ [(⟨t, number p.size as⟩ : Cut)].map (·.target) := by
    intro c hcr
    have hne : c ≠ t := by
      rintro rfl
      exact (List.nodup_cons.1 (List.nodup_append.1 hnodup).2.1).1 hcr
    simpa using hne
  refine ⟨x, l ++ ((number p.size as).map (·.1)).dropLast, r, above, ?_, ?_, rfl⟩
  · -- no node above the parent has the text node as its child
    apply hx.congr h
    intro y hy hne
    rw [children_batch _ _ (h.lineage_lt hxlt hy), flatMap_place_of_forall]
    intro c hcy
    have hne' : c ≠ t := by
      rintro rfl
      have hy' := (h.mem_children_iff y c).1 hcy
      rw [hparent] at hy'
      exact hne (Option.some.inj hy').symm
    simpa using hne'
  · rw [children_batch _ _ hxlt, hc, List.flatMap_append, List.flatMap_cons,
      flatMap_place_of_forall hl, flatMap_place_of_forall hr, place_cons, if_pos rfl, Cut.ids]
    have hsplit := List.dropLast_append_getLast? last hlast
    rw [← hsplit]
    simp

theorem WellFormed.tree_batch (h : p.WellFormed)
    (hq : (p.batch markerClass [⟨t, number p.size as⟩]).WellFormed)
    (hroot : root < p.size) (ht : p.Ahead root t cs) {c : NodeId} (hc : c ∈ cs) :
    (p.batch markerClass [⟨t, number p.size as⟩]).tree c = p.tree c := by
  have hct := ht.not_mem_lineage h hroot hc
  have hclt := ht.lt_of_mem h hc
  apply h.tree_congr hq
  intro y hy
  have hylt : y < p.size := h.lt_of_mem_ids_tree hclt ((h.mem_ids_tree hclt).2 hy)
  rw [node_batch_of_lt _ _ hylt, relink_of_notMem]
  · rw [h.id_node y hylt]
    have hne : y ≠ t := by
      rintro rfl
      exact hct hy
    simpa using hne
  · intro d hd
    have hne : d ≠ t := by
      rintro rfl
      have hdy := h.mem_lineage_of_parent ((h.mem_children_iff y d).1 hd)
      exact hct (h.mem_lineage_trans hy hdy)
    simpa using hne

/-- The walk does not go below a piece: a text has no children, and a marker is avoided if its
class is one token. -/
theorem entered_piece (style : MarkStyle) {w : Walker} (hw : w.rejects = avoids style)
    {b : NodeId × Piece} (hb : b ∈ number p.size as)
    (htoken : ∀ text, b.2 = .hit text → IsClassToken style.markerClass) (hne : b.1 ≠ w.root) :
    w.entered (p.batch style.markerClass [⟨t, number p.size as⟩]) b.1 = [] := by
  have hpieces : p.piecesOf style.markerClass [⟨t, number p.size as⟩] =
      nodesOf style.markerClass (p.node t).parent (number p.size as) := by
    simp [piecesOf]
  have hids := p.numbered_single style.markerClass t as
  obtain ⟨i, a⟩ := b
  cases a with
  | plain text =>
      have hmem : { Node.ofText text with id := i, parent := (p.node t).parent } ∈
          p.piecesOf style.markerClass [⟨t, number p.size as⟩] := by
        rw [hpieces]
        exact mem_nodesOf.2 ⟨_, hb, List.mem_cons_self⟩
      have hnode := node_batch_of_mem hids hmem
      simp only at hnode
      rw [Walker.entered, hnode]
      exact ite_self _
  | hit text =>
      have hmem : { (Node.ofTag "span").setAttr "class" style.markerClass with
          id := i, parent := (p.node t).parent, children := [i + 1] } ∈
          p.piecesOf style.markerClass [⟨t, number p.size as⟩] := by
        rw [hpieces]
        exact mem_nodesOf.2 ⟨_, hb, List.mem_cons_self⟩
      have hnode := node_batch_of_mem hids hmem
      have hclass := hasClass_marker (htoken text rfl)
      simp only at hnode
      rw [Walker.entered, hnode, if_neg]
      have havoids : avoids style { (Node.ofTag "span").setAttr "class" style.markerClass with
          id := i, parent := (p.node t).parent, children := [i + 1] } = true := by
        rw [avoids, Bool.or_eq_true]
        exact .inr hclass
      rw [Walker.goesBelow, hw, havoids, isElement_of_avoids havoids, beq_eq_false_iff_ne.2 hne]
      decide

/-- A text node that was cut up has a last piece, below which the walk does not go. -/
theorem AheadBelow.exists_last (hb : p.AheadBelow root t cs) (h : p.WellFormed)
    (style : MarkStyle) (hleft : LeftBehind style as) {w : Walker}
    (hw : w.rejects = avoids style) (hroot : root < p.size) (hwroot : w.root = root)
    (has : as ≠ []) :
    ∃ last, ((number p.size as).map (·.1)).getLast? = some last ∧
      (p.batch style.markerClass [⟨t, number p.size as⟩]).AheadBelow root last cs ∧
        w.entered (p.batch style.markerClass [⟨t, number p.size as⟩]) last = [] := by
  have hne : number p.size as ≠ [] := by
    cases as with
    | nil => exact absurd rfl has
    | cons a as => exact List.cons_ne_nil _ _
  have hlast : ((number p.size as).map (·.1)).getLast? =
      some ((number p.size as).getLast hne).1 := by
    rw [List.getLast?_map, List.getLast?_eq_some_getLast hne, Option.map_some]
  have hpiece : as.getLast? = some ((number p.size as).getLast hne).2 := by
    have hmap := List.getLast?_map (l := number p.size as) (f := (·.2))
    rwa [map_snd_number, List.getLast?_eq_some_getLast hne, Option.map_some] at hmap
  have hmem := List.getLast_mem hne
  have hroot' : ((number p.size as).getLast hne).1 ≠ w.root := by
    have hle := (le_of_mem_number hmem).1
    rw [hwroot]
    exact fun heq => Nat.not_lt.2 (heq ▸ hle) hroot
  exact ⟨_, hlast, hb.batch h hlast hroot, entered_piece style hw hmem
    (fun text htext => hleft text (htext ▸ hpiece)) hroot'⟩

theorem size_batch_single (p : Page) (markerClass : String) (t : NodeId) (as : List Piece) :
    (p.batch markerClass [⟨t, number p.size as⟩]).size =
      p.size + (as.map Piece.width).sum := by
  simp [size_batch, piecesOf, length_nodesOf_number]

/-- Cutting up a text node, and then those ahead of it, is cutting them up at once. -/
theorem AheadBelow.batch_plan (hb : p.AheadBelow root t cs) (h : p.WellFormed)
    (hroot : root < p.size) (enters : Node → Bool) (pieces : Node → Option (List Piece)) :
    (p.batch markerClass [⟨t, number p.size as⟩]).batch markerClass
        (plan pieces (p.size + (as.map Piece.width).sum) (p.textsOf enters cs)) =
      p.batch markerClass (⟨t, number p.size as⟩ ::
        plan pieces (p.size + (as.map Piece.width).sum) (p.textsOf enters cs)) := by
  have ht := hb.ahead.lt_size h hroot
  have hnodup := hb.ahead.nodup h hroot
  apply h.batch_batch markerClass
  intro cut hcut
  obtain ⟨n, hn, htarget⟩ := List.mem_map.1 (target_mem_of_mem_plan hcut)
  have hid := id_mem_of_mem_textsOf hn
  rw [htarget] at hid
  constructor
  · obtain ⟨c, hc, hmem⟩ := List.mem_flatMap.1 hid
    exact h.lt_of_mem_ids_tree (hb.ahead.lt_of_mem h hc) hmem
  · intro heq
    have hself : t ∈ (p.tree t).ids := (h.mem_ids_tree ht).2 (h.mem_lineage_self t)
    exact (List.nodup_append.1 hnodup).2.2 t hself t (heq ▸ hid) rfl

theorem AheadBelow.textsOf_batch (hb : p.AheadBelow root t cs) (h : p.WellFormed)
    (hq : (p.batch markerClass [⟨t, number p.size as⟩]).WellFormed) (hroot : root < p.size)
    (enters : Node → Bool) :
    (p.batch markerClass [⟨t, number p.size as⟩]).textsOf enters cs = p.textsOf enters cs := by
  apply List.flatMap_congr
  intro c hc
  rw [h.tree_batch hq hroot hb.ahead hc]

end Page

namespace Marking

variable {style : MarkStyle} {matcher : Matcher} {p q : Page} {w w' : Walker} {y : NodeId}
  {n : Node} {steps : Nat}

/-! ## One step of a pass -/

theorem run_of_end (h : (w.next p).2 = .ok none) :
    run style matcher (steps + 1) w p = { page := p, ending := .finished } := by
  have hnext : w.next p = ((w.next p).1, .ok none) := Prod.ext rfl h
  rw [run, hnext]

theorem run_of_skip (hnext : w.next p = (w', .ok (some y))) (hn : p.get y = .ok n)
    (hchosen : chosen style matcher n.value = []) :
    run style matcher (steps + 1) w p =
      { run style matcher steps w' p with
        visited := (run style matcher steps w' p).visited + 1 } := by
  simp only [run, hnext, hn, hchosen]

theorem run_of_hit (hnext : w.next p = (w', .ok (some y))) (hn : p.get y = .ok n)
    (hchosen : chosen style matcher n.value ≠ []) {pieces : Pieces} {last : NodeId}
    (hpieces : addPieces style n.value.toList p 0 (chosen style matcher n.value) = pieces)
    (hreplace : pieces.page.replace y pieces.ids = (q, .ok ()))
    (hlast : pieces.ids.getLast? = some last) :
    run style matcher (steps + 1) w p =
      { run style matcher steps (w'.moveTo last) q with
        highlights := pieces.highlights ++ (run style matcher steps (w'.moveTo last) q).highlights
        visited := (run style matcher steps (w'.moveTo last) q).visited + 1
        events := event (chosen style matcher n.value).length n.value ::
          (run style matcher steps (w'.moveTo last) q).events } := by
  simp only [run, hnext, hn]
  split
  · rename_i heq
    rw [hpieces, hreplace] at heq
    cases heq
  · rename_i heq
    rw [hpieces, hreplace] at heq
    cases heq
    simp only [hpieces, hlast]

/-! ## Whole passes -/

/-- A pass that has cut up a page and come to its end. -/
structure Completes (p : Page) (style : MarkStyle) (cuts : List Cut) (visited : Nat)
    (pass : Pass) : Prop where
  page : pass.page = p.batch style.markerClass cuts
  ending : pass.ending = .finished
  highlights : pass.highlights = highlightsOfCuts cuts
  visited : pass.visited = visited
  wellFormed : pass.page.WellFormed

namespace Completes

variable {cuts : List Cut} {visited : Nat}

theorem of_end (h : p.WellFormed) (hend : (w.next p).2 = .ok none) :
    Completes p style [] 0 (run style matcher (steps + 1) w p) := by
  rw [run_of_end hend]
  exact ⟨(p.batch_nil _).symm, rfl, rfl, rfl, h⟩

theorem of_skip (hnext : w.next p = (w', .ok (some y))) (hn : p.get y = .ok n)
    (hchosen : chosen style matcher n.value = [])
    (hdone : Completes p style cuts visited (run style matcher steps w' p)) :
    Completes p style cuts (visited + 1) (run style matcher (steps + 1) w p) := by
  rw [run_of_skip hnext hn hchosen]
  exact ⟨hdone.page, hdone.ending, hdone.highlights, congrArg (· + 1) hdone.visited,
    hdone.wellFormed⟩

/-- A text node with hits is cut up, and what is cut up after it is cut up at once with it. -/
theorem of_hit {cut : Cut} {pieces : Pieces} {last : NodeId}
    (hnext : w.next p = (w', .ok (some y))) (hn : p.get y = .ok n)
    (hchosen : chosen style matcher n.value ≠ [])
    (hpieces : addPieces style n.value.toList p 0 (chosen style matcher n.value) = pieces)
    (hreplace : pieces.page.replace y pieces.ids = (q, .ok ()))
    (hlast : pieces.ids.getLast? = some last)
    (hhighlights : pieces.highlights = highlightsOf cut.pieces)
    (hbatch : q.batch style.markerClass cuts = p.batch style.markerClass (cut :: cuts))
    (hdone : Completes q style cuts visited (run style matcher steps (w'.moveTo last) q)) :
    Completes p style (cut :: cuts) (visited + 1) (run style matcher (steps + 1) w p) := by
  rw [run_of_hit hnext hn hchosen hpieces hreplace hlast]
  refine ⟨?_, hdone.ending, ?_, congrArg (· + 1) hdone.visited, hdone.wellFormed⟩
  · rw [← hbatch]
    exact hdone.page
  · rw [highlightsOfCuts, List.flatMap_cons, hhighlights]
    exact congrArg _ hdone.highlights

end Completes

theorem entered_of_isText (w : Walker) (htext : (p.node y).isText = true) :
    w.entered p y = (p.node y).children := by
  rw [Walker.entered, Walker.goesBelow, Node.isElement_eq_false_of_isText htext, Bool.false_and,
    Bool.not_false, Bool.or_true, if_pos rfl]

/-- The page in which a text node has been cut up at its hits. -/
def cutPage (style : MarkStyle) (matcher : Matcher) (p : Page) (y : NodeId) : Page :=
  p.batch style.markerClass
    [⟨y, number p.size
      (piecesFrom (p.node y).value.toList 0 (chosen style matcher (p.node y).value))⟩]

/-- Cutting up a text node that has something ahead of it succeeds, and after the last piece, if it
is left behind, the same is ahead. -/
theorem exists_last_of_hit (h : p.WellFormed) (hw : w.rejects = avoids style)
    (hroot : w.root < p.size) {cs : List NodeId} (hb : p.AheadBelow w.root y cs)
    (hchosen : chosen style matcher (p.node y).value ≠ [])
    (hleft : LeftBehind style
      (piecesFrom (p.node y).value.toList 0 (chosen style matcher (p.node y).value)))
    {pieces : Pieces}
    (hpieces : addPieces style (p.node y).value.toList p 0 (chosen style matcher (p.node y).value) =
      pieces) :
    pieces.page.replace y pieces.ids = (cutPage style matcher p y, .ok ()) ∧
      (cutPage style matcher p y).WellFormed ∧ w.root < (cutPage style matcher p y).size ∧
      ∃ last, pieces.ids.getLast? = some last ∧
        (cutPage style matcher p y).Ahead w.root last cs ∧
        (cutPage style matcher p y).textsOf (goesOn style matcher)
          (w.entered (cutPage style matcher p y) last ++ cs) =
            p.textsOf (goesOn style matcher) cs := by
  have has := piecesFrom_ne_nil (p.node y).value.toList 0 hchosen
  obtain ⟨x, hparent⟩ := hb.exists_parent h
  obtain ⟨hreplace, hq⟩ := h.replace_addPieces style (p.node y).value.toList
    (chosen style matcher (p.node y).value) hparent
  rw [hpieces] at hreplace
  obtain ⟨last, hlast, hbq, hentered⟩ := hb.exists_last h style hleft hw hroot rfl has
  have hsize := p.size_batch_single style.markerClass y
    (piecesFrom (p.node y).value.toList 0 (chosen style matcher (p.node y).value))
  refine ⟨hreplace, hq, ?_, last, ?_, hbq.ahead, ?_⟩
  · rw [cutPage, hsize]
    exact Nat.lt_add_right _ hroot
  · rw [← hpieces, addPieces_eq]
    exact hlast
  · rw [cutPage, hentered, List.nil_append]
    exact hb.textsOf_batch h hq hroot _

/-- Where the next text node has hits, it is cut up, and the walk goes on after its last piece
over the subtrees that were ahead of it. -/
theorem completes_of_hit (h : p.WellFormed) (hw : w.rejects = avoids style)
    (hroot : w.root < p.size) {cs : List NodeId}
    (hnext : w.next p = (w.moveTo y, .ok (some y))) (hb : p.AheadBelow w.root y cs)
    (hchosen : chosen style matcher (p.node y).value ≠ [])
    (hleft : LeftBehind style
      (piecesFrom (p.node y).value.toList 0 (chosen style matcher (p.node y).value)))
    {ns : List Node}
    (hns : p.textsOf (goesOn style matcher) cs = ns)
    (hdone : ∀ {q : Page} {last : NodeId}, q.WellFormed → w.root < q.size →
      q.Ahead w.root last cs →
      q.textsOf (goesOn style matcher) (w.entered q last ++ cs) = ns →
      Completes q style (plan (cutUp style matcher) q.size ns) ns.length
        (run style matcher steps ((w.moveTo y).moveTo last) q)) :
    Completes p style (plan (cutUp style matcher) p.size ((p.node y).unlinked :: ns))
      (ns.length + 1) (run style matcher (steps + 1) w p) := by
  have hcut : cutUp style matcher (p.node y).unlinked =
      some (piecesFrom (p.node y).value.toList 0 (chosen style matcher (p.node y).value)) :=
    cutUp_of_ne_nil hchosen
  have hy := hb.ahead.lt_size h hroot
  have hid : (p.node y).unlinked.id = y := h.id_node y hy
  have hpieces := addPieces_eq style (p.node y).value.toList p 0
    (chosen style matcher (p.node y).value)
  obtain ⟨hreplace, hq, hqroot, last, hlast, hahead, hrest⟩ :=
    exists_last_of_hit h hw hroot hb hchosen hleft hpieces
  have hbatch := @Page.AheadBelow.batch_plan p w.root y style.markerClass
    (piecesFrom (p.node y).value.toList 0 (chosen style matcher (p.node y).value)) cs hb h hroot
    (goesOn style matcher) (cutUp style matcher)
  have hcompletes := hdone hq hqroot hahead (hrest.trans hns)
  rw [hns] at hbatch
  rw [cutPage, Page.size_batch_single] at hcompletes
  rw [plan_cons_some hcut, hid]
  exact hcompletes.of_hit hnext (Page.get_of_lt hy) hchosen hpieces hreplace hlast rfl hbatch

/-- What a pass comes to next, with the text nodes `ns` ahead of it: to none if there is none, and
else to the first of them. The others are then ahead below it if it has no hit, and after it if it
has hits. -/
theorem ahead_cases (matcher : Matcher) (h : p.WellFormed) (hw : w.rejects = avoids style)
    (hroot : w.root < p.size) {rest : List NodeId} (ha : p.Ahead w.root w.current rest)
    {ns : List Node}
    (hns : p.textsOf (goesOn style matcher) (w.entered p w.current ++ rest) = ns) :
    (ns = [] ∧ (w.next p).2 = .ok none) ∨
      ∃ y cs ms, ns = (p.node y).unlinked :: ms ∧ w.next p = (w.moveTo y, .ok (some y)) ∧
        p.get y = .ok (p.node y) ∧ p.AheadBelow w.root y cs ∧
        ((chosen style matcher (p.node y).value = [] ∧ p.textsOf (goesOn style matcher)
            ((w.moveTo y).entered p (w.moveTo y).current ++ cs) = ms) ∨
          (chosen style matcher (p.node y).value ≠ [] ∧
            p.textsOf (goesOn style matcher) cs = ms)) := by
  rcases w.next_cases h hroot (enters_goesOn p hw) ha with
    ⟨hnil, hend⟩ | ⟨y, cs, hnext, htext, hb, htexts⟩
  · exact .inl ⟨hns ▸ hnil, hend⟩
  · have hget := Page.get_of_lt (hb.ahead.lt_size h hroot)
    have hgoes : goesOn style matcher (p.node y).unlinked =
        (cutUp style matcher (p.node y).unlinked).isNone := goesOn_of_isText htext
    rw [hns, Page.textsOf_cons, h.texts_tree, if_pos htext, hgoes] at htexts
    by_cases hchosen : chosen style matcher (p.node y).value = []
    · -- a text node without hits stays, and the walk goes on below it
      have hcut : cutUp style matcher (p.node y).unlinked = none := cutUp_of_nil hchosen
      rw [hcut, Option.isNone_none, if_pos rfl, List.append_assoc,
        List.singleton_append] at htexts
      refine .inr ⟨y, cs, _, htexts, hnext, hget, hb, .inl ⟨hchosen, ?_⟩⟩
      rw [Walker.current_moveTo, entered_of_isText _ htext, Page.textsOf_append]
      rfl
    · have hcut : cutUp style matcher (p.node y).unlinked =
          some (piecesFrom (p.node y).value.toList 0 (chosen style matcher (p.node y).value)) :=
        cutUp_of_ne_nil hchosen
      rw [hcut, Option.isNone_some, if_neg Bool.false_ne_true, List.append_nil,
        List.singleton_append] at htexts
      exact .inr ⟨y, cs, _, htexts, hnext, hget, hb, .inr ⟨hchosen, rfl⟩⟩

/-- A pass that has the text nodes `ns` ahead of it cuts up those with hits, if their pieces are
left behind. -/
theorem run_completes (h : p.WellFormed) (hw : w.rejects = avoids style) (hroot : w.root < p.size)
    {rest : List NodeId} (ha : p.Ahead w.root w.current rest) {ns : List Node}
    (hns : p.textsOf (goesOn style matcher) (w.entered p w.current ++ rest) = ns)
    (hleft : ∀ n ∈ ns, ∀ as, cutUp style matcher n = some as → LeftBehind style as)
    (hsteps : ns.length < steps) :
    Completes p style (plan (cutUp style matcher) p.size ns) ns.length
      (run style matcher steps w p) := by
  induction steps generalizing p w rest ns with
  | zero => exact absurd hsteps (Nat.not_lt_zero _)
  | succ steps ih =>
      rcases ahead_cases matcher h hw hroot ha hns with
        ⟨rfl, hend⟩ | ⟨y, cs, ms, rfl, hnext, hget, hb, hy⟩
      · exact .of_end h hend
      · have hleft' := fun n hn => hleft n (List.mem_cons_of_mem _ hn)
        have hsteps' := Nat.lt_of_succ_lt_succ hsteps
        rcases hy with ⟨hchosen, hrest⟩ | ⟨hchosen, hrest⟩
        · have hcut : cutUp style matcher (p.node y).unlinked = none := cutUp_of_nil hchosen
          have hdone := ih (w := w.moveTo y) h hw hroot hb.ahead hrest hleft' hsteps'
          rw [plan_cons_none hcut]
          exact hdone.of_skip hnext hget hchosen
        · have hcut : cutUp style matcher (p.node y).unlinked = some (piecesFrom
              (p.node y).value.toList 0 (chosen style matcher (p.node y).value)) :=
            cutUp_of_ne_nil hchosen
          apply completes_of_hit h hw hroot hnext hb hchosen
            (hleft _ List.mem_cons_self _ hcut) hrest
          intro q last hq hqroot haq hqrest
          exact ih (w := (w.moveTo y).moveTo last) hq hw hqroot haq hqrest hleft' hsteps'

/-- What adding pieces and replacing nodes preserve, a pass preserves, wherever it begins and
however it ends. -/
theorem run_preserves {P : Page → Prop}
    (hpieces : ∀ {p : Page} (text : List Char) (hits : List Pattern.Span), P p →
      P (addPieces style text p 0 hits).page)
    (hreplace : ∀ {p : Page} (id : NodeId) {rs : List NodeId}, rs.Nodup → P p →
      P (p.replace id rs).1)
    (matcher : Matcher) (steps : Nat) (w : Walker) (h : P p) :
    P (run style matcher steps w p).page := by
  induction steps generalizing w p with
  | zero => exact h
  | succ steps ih =>
      unfold run
      split
      · exact h
      · exact h
      · rename_i w' id hnext
        split
        · exact h
        · rename_i n hn
          split
          · exact ih w' h
          · have hids : (addPieces style n.value.toList p 0
                (chosen style matcher n.value)).ids.Nodup := by
              rw [addPieces_eq]
              exact nodup_map_number _ _
            have hq := hreplace id hids (hpieces n.value.toList (chosen style matcher n.value) h)
            dsimp only
            split
            · rename_i q e heq
              rwa [heq] at hq
            · rename_i q heq
              rw [heq] at hq
              exact ih _ hq

end Marking

namespace Page

open Marking

variable {p : Page} {root : NodeId} {style : MarkStyle} {matcher : Matcher}

theorem WellFormed.length_textsBelow_le (h : p.WellFormed) (hroot : root < p.size)
    (enters : Node → Bool) : ((p.tree root).textsBelow enters).length ≤ p.size := by
  have hle := ((p.tree root).textsBelow_sublist enters).length_le
  have hids := h.length_ids_tree_le hroot
  rw [Tree.ids, List.length_map] at hids
  exact Nat.le_trans hle hids

theorem size_lt_stepLimit (p : Page) : p.size < stepLimit p :=
  Nat.lt_of_lt_of_le (Nat.lt_succ_self p.size) (Nat.le_mul_of_pos_right _ (Nat.succ_pos _))

/-- A walk that begins at the root has all text nodes below it ahead. -/
theorem WellFormed.textsOf_start (h : p.WellFormed) (root : NodeId) (rejects enters : Node → Bool) :
    p.textsOf enters ((Walker.start root rejects).entered p root ++ []) =
      (p.tree root).textsBelow enters := by
  have hentered : (Walker.start root rejects).entered p root = (p.node root).children := by
    rw [Walker.entered, Walker.goesBelow, if_pos]
    simp [Walker.start]
  rw [hentered, List.append_nil, h.textsBelow_tree]
  rfl

/-- A pass over a well-formed page comes to its end, and has then cut up the text nodes with hits
below the root that it can reach. -/
theorem WellFormed.mark_completes (h : p.WellFormed) (hroot : root < p.size)
    (htoken : IsClassToken style.markerClass) (matcher : Matcher) :
    Completes p style
      (plan (cutUp style matcher) p.size ((p.tree root).textsBelow (goesOn style matcher)))
      ((p.tree root).textsBelow (goesOn style matcher)).length (p.mark root style matcher) := by
  have hlen := h.length_textsBelow_le hroot (goesOn style matcher)
  exact run_completes (w := .start root (avoids style)) h rfl hroot .root
    (h.textsOf_start root _ _) (fun _ _ _ _ _ _ => htoken)
    (Nat.lt_of_le_of_lt hlen p.size_lt_stepLimit)

/-- A pass under a node that does not exist fails at once. -/
theorem mark_of_le (hroot : p.size ≤ root) (style : MarkStyle) (matcher : Matcher) :
    p.mark root style matcher = { page := p, ending := .failed (.nodeNotFound root) } := by
  have hsteps : stepLimit p ≠ 0 := Nat.ne_of_gt (Nat.zero_lt_of_lt p.size_lt_stepLimit)
  obtain ⟨steps, hsteps⟩ := Nat.exists_eq_succ_of_ne_zero hsteps
  have hnext := Walker.next_of_le (.start root (avoids style)) hroot
  rw [mark, hsteps, run, hnext]
  rfl

/-! ## Text nodes without children -/

def TextsChildless (p : Page) : Prop :=
  ∀ x, (p.node x).isText = true → (p.node x).children = []

theorem textsChildless_iff : p.TextsChildless ↔
    ∀ x < p.size, (p.node x).isText = true → (p.node x).children = [] :=
  ⟨fun h x _ htext => h x htext, fun h x htext => h x (lt_of_isText htext) htext⟩

/-- Where text nodes have no children, it does not matter whether a pass goes on below them. -/
theorem WellFormed.texts_goesOn (h : p.WellFormed) (hchildless : p.TextsChildless)
    (style : MarkStyle) (matcher : Matcher) (x : NodeId) :
    (p.tree x).texts (goesOn style matcher) = (p.tree x).texts (fun n => !avoids style n) := by
  induction x using h.down_induction with
  | step x ih =>
      rw [h.texts_tree, h.texts_tree]
      cases htext : (p.node x).isText with
      | true => simp [hchildless x htext]
      | false =>
          have hgoes : goesOn style matcher (p.node x).unlinked =
              !avoids style (p.node x).unlinked := goesOn_of_not_isText htext
          rw [hgoes, List.flatMap_congr ih]

/-- The text nodes below `root` that no element a pass avoids stands above. -/
def markable (p : Page) (root : NodeId) (style : MarkStyle) : List Node :=
  (p.tree root).textsBelow (fun n => !avoids style n)

theorem WellFormed.mem_markable (h : p.WellFormed) {n : Node} :
    n ∈ p.markable root style ↔
      ∃ y, n = (p.node y).unlinked ∧ (p.node y).isText = true ∧ root ∈ p.lineage y ∧ y ≠ root ∧
        ∀ z, root ∈ p.lineage z → z ≠ root → z ∈ p.lineage y → z ≠ y →
          avoids style (p.node z) = false := by
  have havoids : ∀ z, (!avoids style (p.node z).unlinked) = true ↔
      avoids style (p.node z) = false := by
    intro z
    rw [Bool.not_eq_true']
    rfl
  rw [markable, h.mem_textsBelow_tree]
  simp only [havoids]

theorem WellFormed.markable_of_target (h : p.WellFormed) {pieces : Node → Option (List Piece)}
    {next t : NodeId} (ht : t ∈ (plan pieces next (p.markable root style)).map (·.target)) :
    (p.node t).isText = true ∧ root ∈ p.lineage t ∧ t ≠ root ∧
      ∀ z, root ∈ p.lineage z → z ≠ root → z ∈ p.lineage t → z ≠ t →
        avoids style (p.node z) = false := by
  obtain ⟨cut, hcut, rfl⟩ := List.mem_map.1 ht
  obtain ⟨n, hn, htn⟩ := List.mem_map.1 (target_mem_of_mem_plan hcut)
  obtain ⟨y, rfl, htext, hy⟩ := h.mem_markable.1 hn
  have hid : (p.node y).unlinked.id = y := h.id_node y (lt_of_isText htext)
  rw [← htn, hid]
  exact ⟨htext, hy⟩

/-- Over a page without children of text nodes, a pass cuts up the markable text nodes. -/
theorem WellFormed.mark_completes_markable (h : p.WellFormed) (hchildless : p.TextsChildless)
    (hroot : root < p.size) (htoken : IsClassToken style.markerClass) (matcher : Matcher) :
    Completes p style (plan (cutUp style matcher) p.size (p.markable root style))
      (p.markable root style).length (p.mark root style matcher) := by
  have hdone := h.mark_completes hroot htoken matcher
  have htexts : (p.tree root).textsBelow (goesOn style matcher) = p.markable root style := by
    rw [markable, h.textsBelow_tree, h.textsBelow_tree]
    exact List.flatMap_congr (fun c _ => h.texts_goesOn hchildless style matcher c)
  rwa [htexts] at hdone

end Page

end PhraseMark
