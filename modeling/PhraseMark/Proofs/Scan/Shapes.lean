import PhraseMark.Proofs.Page.Revising
import PhraseMark.Proofs.Scan.Gaps

/-!
# Trees up to the numbers of new nodes

When the new nodes all get one number, the tree after a pass is the tree before it with marks in
its texts, and several passes are one pass with the marks of all of them. What becomes of a tree
can then be read off the marks of each text alone.
-/

namespace PhraseMark

open Pattern

theorem IsClassToken.withAll {markerClass : String} (h : IsClassToken markerClass) (all : Bool) :
    IsClassToken (MarkStyle.mk markerClass all).markerClass := h

namespace Marking

variable {style : MarkStyle} {matcher marks marks' : Matcher} {markerClass : String} {old : NodeId}

/-! ## Trees with marks -/

/-- Nodes below which markers of a class are put. -/
def isOpen (markerClass : String) (n : Node) : Bool :=
  !(n.isUnrendered || n.hasClass markerClass)

theorem isOpen_of_isText {n : Node} (h : n.isText = true) : isOpen markerClass n = true := by
  cases havoids : avoids ⟨markerClass, false⟩ n with
  | false =>
      rw [isOpen, Bool.not_eq_true']
      exact havoids
  | true =>
      have helement := isElement_of_avoids havoids
      rw [Node.isElement_eq_false_of_isText h] at helement
      cases helement

/-- The tree of a piece without a number of its own. -/
def Piece.shape (markerClass : String) (old : NodeId) (a : Piece) : Tree :=
  (a.tree markerClass old).unnumber old

theorem Piece.shape_plain (text : String) : (Piece.plain text).shape markerClass old =
    .node { Node.ofText text with id := old } [] := by
  simp [shape, tree, Node.unnumber]

theorem Piece.shape_hit (text : String) : (Piece.hit text).shape markerClass old =
    .node (marker markerClass old) [.node { Node.ofText text with id := old } []] := by
  simp [shape, tree, marker, Node.unnumber]

theorem isOpen_marker (htoken : IsClassToken markerClass) (i : NodeId) :
    isOpen markerClass (marker markerClass i) = false := by
  have hclass : (marker markerClass i).hasClass markerClass = true := hasClass_marker htoken
  rw [isOpen, hclass, Bool.or_true, Bool.not_true]

theorem Piece.unnumber_tree {i : NodeId} (h : old ≤ i) (a : Piece) :
    (a.tree markerClass i).unnumber old = a.shape markerClass old := by
  have hi : min i old = old := Nat.min_eq_right h
  have hsucc : min (i + 1) old = old := Nat.min_eq_right (Nat.le_succ_of_le h)
  cases a with
  | plain text => simp [shape, tree, Node.unnumber, hi]
  | hit text => simp [shape, tree, Node.unnumber, hi, hsucc]

theorem map_unnumber_number {i : NodeId} (h : old ≤ i) (as : List Piece) :
    ((number i as).map (fun b => b.2.tree markerClass b.1)).map (Tree.unnumber old) =
      as.map (Piece.shape markerClass old) := by
  induction as generalizing i with
  | nil => rfl
  | cons a as ih =>
      rw [number, List.map_cons, List.map_cons, List.map_cons, a.unnumber_tree h,
        ih (Nat.le_add_right_of_le h)]

/-- What marks put in the place of a text node. -/
def marked (markerClass : String) (old : NodeId) (marks : Matcher) (n : Node) :
    Option (List Tree) :=
  if n.isText then
    (cutAt n.value.toList (marks n.value)).map (List.map (Piece.shape markerClass old))
  else none

theorem marked_of_isText {n : Node} (h : n.isText = true) : marked markerClass old marks n =
    (cutAt n.value.toList (marks n.value)).map (List.map (Piece.shape markerClass old)) :=
  if_pos h

theorem marked_of_not_isText (marks : Matcher) {n : Node} (h : n.isText = false) :
    marked markerClass old marks n = none :=
  if_neg (Bool.eq_false_iff.1 h)

/-- The pieces that a pass puts in the place of a node, if it has a hit to mark. -/
def pieces? (style : MarkStyle) (matcher : Matcher) (n : Node) : Option (List Piece) :=
  if n.isText then fragment style matcher n else none

theorem marked_unnumber (style : MarkStyle) (matcher : Matcher) (old : NodeId) (n : Node) :
    marked style.markerClass old (selected style matcher) (n.unnumber old) =
      (pieces? style matcher n).map (List.map (Piece.shape style.markerClass old)) := by
  have htext : (n.unnumber old).isText = n.isText := rfl
  rw [marked, htext, pieces?]
  split
  · rw [fragment_eq_cutAt]
    rfl
  · rfl

/-- A pass goes on below the open nodes that it does not replace. -/
theorem goesOn_of_none (hlawful : Lawful matcher) {n : Node}
    (h : pieces? style matcher n = none) :
    goesOn style matcher n = isOpen style.markerClass n := by
  cases htext : n.isText with
  | true =>
      rw [pieces?, if_pos htext] at h
      rw [goesOn_of_isText htext, cutUp_eq_fragment hlawful, h, isOpen_of_isText htext]
      rfl
  | false => exact goesOn_of_not_isText htext

/-- The tree with its open texts marked. -/
def withMarks (markerClass : String) (old : NodeId) (marks : Matcher) (t : Tree) : Tree :=
  t.reviseBelow (marked markerClass old marks) (isOpen markerClass)

theorem withMarks_congr (t : Tree)
    (h : ∀ n ∈ t.textsBelow (isOpen markerClass), marks n.value = marks' n.value) :
    withMarks markerClass old marks t = withMarks markerClass old marks' t := by
  apply Tree.reviseBelow_congr (fun _ => marked_of_not_isText marks)
    (fun _ => marked_of_not_isText marks')
  intro n hn
  rw [marked, marked, h n hn]

theorem revise_shape (htoken : IsClassToken style.markerClass) (matcher : Matcher) (a : Piece) :
    (a.shape style.markerClass old).revise
        (marked style.markerClass old (selected style matcher)) (isOpen style.markerClass) =
      (recut style matcher a).map (Piece.shape style.markerClass old) := by
  cases a with
  | plain text =>
      have htext : ({ Node.ofText text with id := old } : Node).isText = true := rfl
      rw [Piece.shape_plain, Tree.revise_node, marked_of_isText htext, recut, List.flatMap_nil,
        ite_self, Node.ofText]
      cases cutAt text.toList (selected style matcher text) with
      | some as => rfl
      | none =>
          rw [Option.map_none, Option.getD_none, Option.getD_none, List.map_singleton,
            Piece.shape_plain]
          rfl
  | hit text =>
      rw [Piece.shape_hit, Tree.revise_node, marked_of_not_isText _ rfl, isOpen_marker htoken,
        recut, List.map_singleton, Piece.shape_hit]
      rfl

/-- Marking a text and then the gaps that are left is marking it once. -/
theorem withMarks_withMarks (htoken : IsClassToken style.markerClass)
    (hlawful : Lawful matcher) (hmarks : ∀ text, Between 0 text.toList.length (marks text))
    (t : Tree) :
    withMarks style.markerClass old (selected style matcher)
        (withMarks style.markerClass old marks t) =
      withMarks style.markerClass old
        (fun text => addMarks style matcher text.toList (marks text)) t := by
  rw [withMarks, withMarks, withMarks, Tree.reviseBelow_reviseBelow]
  congr 1
  funext n
  cases htext : n.isText with
  | false =>
      rw [Tree.andThen, marked_of_not_isText _ htext, marked_of_not_isText _ htext,
        marked_of_not_isText _ htext]
  | true =>
      have hflat := @flatMap_recut style matcher n.value.toList (marks n.value) hlawful 0
        (hmarks n.value)
      rw [Tree.andThen, marked_of_isText htext, marked_of_isText htext, marked_of_isText htext]
      cases hnil : marks n.value with
      | nil => rw [cutAt, Option.map_none, addMarks_nil]
      | cons s rest =>
          rw [hnil] at hflat
          have hsub := sublist_fill (hitsIn style matcher n.value.toList) n.value.toList.length 0
            (s :: rest)
          have hne : addMarks style matcher n.value.toList (s :: rest) ≠ [] := by
            rintro heq
            rw [addMarks] at heq
            rw [heq] at hsub
            cases hsub
          rw [cutAt_of_ne_nil _ (List.cons_ne_nil s rest), cutAt_of_ne_nil _ hne, Option.map_some,
            Option.map_some, addMarks, ← hflat, List.map_flatMap]
          dsimp only
          rw [List.flatMap_map]
          exact congrArg some (List.flatMap_congr (fun a _ => revise_shape htoken matcher a))

theorem withMarks_nil (t : Tree) : withMarks markerClass old (fun _ => []) t = t := by
  apply Tree.reviseBelow_eq_self
  intro n
  rw [marked, cutAt]
  exact ite_self _

/-- The marks of a text after passes for several keywords. -/
def marksAfter (style : MarkStyle) (found : List KeywordMatch) (text : String) : List Span :=
  found.foldl (fun marks k => addMarks style k.pattern.spans text.toList marks) []

theorem marksAfter_concat (style : MarkStyle) (found : List KeywordMatch) (k : KeywordMatch)
    (text : String) : marksAfter style (found ++ [k]) text =
      addMarks style k.pattern.spans text.toList (marksAfter style found text) := by
  rw [marksAfter, List.foldl_concat]
  rfl

theorem between_marksAfter (style : MarkStyle) (found : List KeywordMatch) (text : String) :
    Between 0 text.toList.length (marksAfter style found text) := by
  induction found using List.reverseRecOn with
  | nil => exact Nat.zero_le _
  | append_singleton found k ih =>
      rw [marksAfter_concat]
      exact between_addMarks (lawful_spans _) style ih

end Marking

namespace Page

open Marking

variable {p : Page} {root x y : NodeId} {style : MarkStyle} {matcher : Matcher} {old : NodeId}

/-! ## Passes as marks -/

/-- A pass gets to a node: it goes on below all nodes between the node and the root. -/
def GetsTo (p : Page) (root : NodeId) (style : MarkStyle) (matcher : Matcher) (x : NodeId) :
    Prop :=
  ∀ z, root ∈ p.lineage z → z ≠ root → z ∈ p.lineage x → z ≠ x →
    goesOn style matcher (p.node z).unlinked = true

theorem exists_mem_plan {pieces : Node → Option (List Piece)} {ns : List Node} {n : Node}
    (hn : n ∈ ns) {as : List Piece} (has : pieces n = some as) (next : NodeId) :
    ∃ cut ∈ plan pieces next ns, cut.target = n.id := by
  induction ns generalizing next with
  | nil => cases hn
  | cons m ms ih =>
      rcases List.mem_cons.1 hn with rfl | hn
      · rw [plan_cons_some has]
        exact ⟨_, List.mem_cons_self, rfl⟩
      · cases hm : pieces m with
        | none =>
            rw [plan_cons_none hm]
            exact ih hn next
        | some bs =>
            rw [plan_cons_some hm]
            obtain ⟨cut, hcut, htarget⟩ := ih hn (next + (bs.map Piece.width).sum)
            exact ⟨cut, List.mem_cons_of_mem _ hcut, htarget⟩

namespace WellFormed

variable (h : p.WellFormed)

include h

theorem getsTo_child_root (hx : (p.node x).parent = some root) :
    p.GetsTo root style matcher x := by
  intro z hz hzr hzx hne
  rw [h.lineage_of_parent hx] at hzx
  rcases List.mem_cons.1 hzx with rfl | hzx
  · exact absurd rfl hne
  · exact absurd (h.lineage_antisymm hzx hz) hzr

theorem getsTo_child (hto : p.GetsTo root style matcher x) (hy : (p.node y).parent = some x)
    (hgoes : goesOn style matcher (p.node x).unlinked = true) : p.GetsTo root style matcher y := by
  intro z hz hzr hzy hne
  rw [h.lineage_of_parent hy] at hzy
  rcases List.mem_cons.1 hzy with rfl | hzx
  · exact absurd rfl hne
  · by_cases hzx' : z = x
    · rw [hzx']
      exact hgoes
    · exact hto z hz hzr hzx hzx'

/-- A text node with a hit to mark that a pass gets to is replaced by the pieces of its text. -/
theorem fragments_reached (hroot : root ∈ p.lineage x) (hne : x ≠ root)
    (hto : p.GetsTo root style matcher x) {as : List Piece}
    (has : pieces? style matcher (p.node x).unlinked = some as) :
    ∃ i, p.size ≤ i ∧ fragments style.markerClass (p.reachedCuts root style matcher) x =
      some ((number i as).map (fun b => b.2.tree style.markerClass b.1)) := by
  rw [pieces?, Option.ite_none_right_eq_some] at has
  obtain ⟨htext, has⟩ := has
  have hmem := h.mem_textsBelow_tree.2 ⟨x, rfl, htext, hroot, hne, hto⟩
  obtain ⟨cut, hcut, htarget⟩ := exists_mem_plan hmem has p.size
  have hid : (p.node x).unlinked.id = x := h.id_node x (lt_of_isText htext)
  rw [hid] at htarget
  cases hfind : (p.reachedCuts root style matcher).find? (fun cut => cut.target == x) with
  | none =>
      have hnot := List.find?_eq_none.1 hfind cut hcut
      rw [htarget, beq_self_eq_true] at hnot
      exact absurd rfl hnot
  | some cut' =>
      have htarget' : cut'.target = x := by simpa using List.find?_some hfind
      obtain ⟨y, bs, i, -, hbs, hi, hpieces⟩ :=
        h.exists_of_mem_reachedCuts (List.mem_of_find?_eq_some hfind)
      rw [htarget', has] at hbs
      cases hbs
      refine ⟨i, hi, ?_⟩
      rw [fragments, hfind, Option.map_some, hpieces]

theorem fragments_eq_none (hnone : pieces? style matcher (p.node x).unlinked = none) :
    fragments style.markerClass (p.reachedCuts root style matcher) x = none := by
  rw [fragments, Option.map_eq_none_iff, List.find?_eq_none]
  intro cut hcut htarget
  obtain ⟨y, as, i, hreached, has, -⟩ := h.exists_of_mem_reachedCuts hcut
  have htext : (p.node cut.target).unlinked.isText = true := hreached.isText
  rw [← beq_iff_eq.1 htarget, pieces?, if_pos htext, has] at hnone
  cases hnone

theorem getsTo_of_mem_reachedCuts {cut : Cut} (hcut : cut ∈ p.reachedCuts root style matcher) :
    p.GetsTo root style matcher cut.target := by
  obtain ⟨n, hn, as, i, -, -, rfl⟩ := exists_of_mem_plan hcut
  obtain ⟨y, rfl, htext, -, -, hgoes⟩ := h.mem_textsBelow_tree.1 hn
  have hid : (p.node y).unlinked.id = y := h.id_node y (lt_of_isText htext)
  rw [hid]
  exact hgoes

/-- Under a node below which a pass does not go on, nothing is replaced. -/
theorem graft_of_not_goesOn (hx : root ∈ p.lineage x) (hne : x ≠ root)
    (hgoes : goesOn style matcher (p.node x).unlinked = false) {c : NodeId}
    (hc : c ∈ (p.node x).children) :
    (p.tree c).graft (fragments style.markerClass (p.reachedCuts root style matcher)) =
      [p.tree c] := by
  apply Tree.graft_eq_self
  intro i hi
  rw [fragments, Option.map_eq_none_iff, List.find?_eq_none]
  intro cut hcut htarget
  obtain rfl : cut.target = i := beq_iff_eq.1 htarget
  have hparent := (h.mem_children_iff x c).1 hc
  have hci := (h.mem_ids_tree (h.lt_of_mem_children hc)).1 hi
  have hxi := h.mem_lineage_trans (h.mem_lineage_of_parent hparent) hci
  have hxne : x ≠ cut.target := by
    rintro rfl
    exact h.not_mem_lineage_of_parent hparent hci
  have hon := h.getsTo_of_mem_reachedCuts hcut x hx hne hxi hxne
  rw [hgoes] at hon
  cases hon

/-- Below the root a pass puts marks in the texts that it gets to. -/
theorem unnumber_graft (hlawful : Lawful matcher)
    (hold : old ≤ p.size) (hx : root ∈ p.lineage x) (hne : x ≠ root) (hlt : x < p.size)
    (hto : p.GetsTo root style matcher x) :
    ((p.tree x).graft (fragments style.markerClass (p.reachedCuts root style matcher))).map
        (Tree.unnumber old) =
      ((p.tree x).unnumber old).revise (marked style.markerClass old (selected style matcher))
        (isOpen style.markerClass) := by
  induction x using h.down_induction with
  | step x ih =>
      rw [h.graft_tree _ hlt, h.tree_eq, Tree.unnumber_node, Tree.revise_node, marked_unnumber]
      cases hpieces : pieces? style matcher (p.node x).unlinked with
      | some as =>
          -- new nodes are numbered from `i` on, which the one number `old` hides
          obtain ⟨i, hi, hfragments⟩ := h.fragments_reached hx hne hto hpieces
          rw [hfragments, Option.getD_some, Option.map_some, Option.getD_some,
            map_unnumber_number (Nat.le_trans hold hi)]
      | none =>
          have hopen : isOpen style.markerClass ((p.node x).unlinked.unnumber old) =
              goesOn style matcher (p.node x).unlinked := (goesOn_of_none hlawful hpieces).symm
          rw [h.fragments_eq_none hpieces, Option.map_none, Option.getD_none, Option.getD_none,
            List.map_singleton, Tree.rewriteBelow, Tree.unnumber_node, hopen, List.flatMap_map,
            List.map_flatMap, List.map_map]
          congr 2
          -- a node that stays is entered by the pass just if it is open
          split
          · rename_i hgoes
            rw [List.flatMap_map]
            apply List.flatMap_congr
            intro c hc
            have hparent := (h.mem_children_iff x c).1 hc
            apply ih c hc (h.mem_lineage_trans hx (h.mem_lineage_of_parent hparent)) ?_
              (h.lt_of_mem_children hc) (h.getsTo_child hto hparent hgoes)
            rintro rfl
            exact h.not_mem_lineage_of_parent hparent hx
          · rename_i hgoes
            rw [List.map_eq_flatMap]
            apply List.flatMap_congr
            intro c hc
            rw [h.graft_of_not_goesOn hx hne (Bool.eq_false_iff.2 hgoes) hc]
            rfl

/-- When new nodes have one number, a pass leaves the tree of its root with marks at the hits. -/
theorem unnumber_mark (hroot : root < p.size) (htoken : IsClassToken style.markerClass)
    (hlawful : Lawful matcher) (hold : old ≤ p.size) :
    ((p.mark root style matcher).page.tree root).unnumber old =
      withMarks style.markerClass old (selected style matcher) ((p.tree root).unnumber old) := by
  obtain ⟨hpage, hq, hids⟩ := h.mark_reached hroot htoken hlawful
  rw [hpage, h.tree_batch_eq hq hids hroot, h.tree_eq, Tree.rewriteBelow, Tree.unnumber_node,
    Tree.unnumber_node, withMarks, Tree.reviseBelow, List.map_flatMap, List.flatMap_map,
    List.map_map, List.flatMap_map]
  congr 1
  apply List.flatMap_congr
  intro c hc
  have hparent := (h.mem_children_iff root c).1 hc
  exact h.unnumber_graft hlawful hold (h.mem_lineage_of_parent hparent) (h.ne_of_parent hparent)
    (h.lt_of_mem_children hc) (h.getsTo_child_root hparent)

/-- Passes for several keywords leave the tree of their root with the marks of all of them. -/
theorem unnumber_pageAfter (hroot : root < p.size) (htoken : IsClassToken style.markerClass)
    (hold : old ≤ p.size) (found : List KeywordMatch) :
    ((pageAfter root style p found).tree root).unnumber old =
      withMarks style.markerClass old (marksAfter style found) ((p.tree root).unnumber old) := by
  induction found using List.reverseRecOn with
  | nil => exact (withMarks_nil _).symm
  | append_singleton found k ih =>
      have hpage : pageAfter root style p (found ++ [k]) =
          ((pageAfter root style p found).mark root style k.pattern.spans).page :=
        List.foldl_concat ..
      obtain ⟨hwf, hsize, -⟩ := h.after_passes hroot htoken found
      rw [hpage, hwf.unnumber_mark (Nat.lt_of_lt_of_le hroot hsize) htoken (lawful_spans _)
        (Nat.le_trans hold hsize), ih, withMarks_withMarks htoken (lawful_spans _)
        (between_marksAfter style found)]
      exact withMarks_congr _ (fun n _ => (marksAfter_concat style found k n.value).symm)

end WellFormed

end Page

end PhraseMark
