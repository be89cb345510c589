import PhraseMark.Proofs.Scan.Pieces

/-!
# Cutting up text nodes all at once

The page in which several text nodes have been put in pieces is described in one go from the page
before: every child list with the pieces in the places of the text nodes, and the nodes of all
pieces behind the last node. Putting the pieces of one text node in its place is such a step, and
two such steps are one.
-/

namespace PhraseMark

namespace Marking

/-- A text node with the numbered pieces that take its place. -/
structure Cut where
  target : NodeId
  pieces : List (NodeId × Piece)
  deriving DecidableEq

namespace Cut

def ids (cut : Cut) : List NodeId := cut.pieces.map (·.1)

end Cut

/-- What stands in the place of a child. -/
def place (cuts : List Cut) (c : NodeId) : List NodeId :=
  match cuts.find? (fun cut => cut.target == c) with
  | some cut => cut.ids
  | none => [c]

/-- A node whose children may have been cut up, and which may itself have been. -/
def relink (cuts : List Cut) (n : Node) : Node :=
  { n with
    parent := if n.id ∈ cuts.map (·.target) then none else n.parent
    children := n.children.flatMap (place cuts) }

variable {cut : Cut} {cuts : List Cut} {c : NodeId}

@[simp] theorem place_nil (c : NodeId) : place [] c = [c] := rfl

theorem place_cons (cut : Cut) (cuts : List Cut) (c : NodeId) :
    place (cut :: cuts) c = if cut.target = c then cut.ids else place cuts c := by
  unfold place
  by_cases h : cut.target = c
  · simp [h]
  · simp [h]

theorem place_of_notMem (h : c ∉ cuts.map (·.target)) : place cuts c = [c] := by
  induction cuts with
  | nil => rfl
  | cons cut cuts ih =>
      obtain ⟨hne, hrest⟩ := not_or.1 (fun hmem => h (List.mem_cons.2 hmem))
      rw [place_cons, if_neg (Ne.symm hne), ih hrest]

theorem mem_place {s : NodeId} (hs : s ∈ place cuts c) :
    c ∉ cuts.map (·.target) ∧ s = c ∨ ∃ cut ∈ cuts, cut.target = c ∧ s ∈ cut.ids := by
  induction cuts with
  | nil => exact .inl ⟨List.not_mem_nil, List.mem_singleton.1 hs⟩
  | cons cut cuts ih =>
      rw [place_cons] at hs
      split at hs
      · rename_i heq
        exact .inr ⟨cut, List.mem_cons_self, heq, hs⟩
      · rename_i hne
        rcases ih hs with ⟨hnot, rfl⟩ | ⟨cut', hcut, htarget, hids⟩
        · refine .inl ⟨?_, rfl⟩
          rw [List.map_cons, List.mem_cons, not_or]
          exact ⟨Ne.symm hne, hnot⟩
        · exact .inr ⟨cut', List.mem_cons_of_mem cut hcut, htarget, hids⟩

theorem flatMap_place_of_forall {cs : List NodeId} (h : ∀ c ∈ cs, c ∉ cuts.map (·.target)) :
    cs.flatMap (place cuts) = cs := by
  induction cs with
  | nil => rfl
  | cons c cs ih =>
      rw [List.flatMap_cons, place_of_notMem (h c List.mem_cons_self),
        ih (fun d hd => h d (List.mem_cons_of_mem c hd)), List.singleton_append]

theorem relink_of_notMem {n : Node} (hid : n.id ∉ cuts.map (·.target))
    (hchildren : ∀ c ∈ n.children, c ∉ cuts.map (·.target)) : relink cuts n = n := by
  rw [relink, if_neg hid, flatMap_place_of_forall hchildren]

theorem relink_relink (hpieces : ∀ i ∈ cut.ids, i ∉ cuts.map (·.target)) (n : Node) :
    relink cuts (relink [cut] n) = relink (cut :: cuts) n := by
  have hplace : ∀ c, (place [cut] c).flatMap (place cuts) = place (cut :: cuts) c := by
    intro c
    rw [place_cons, place_cons, place_nil]
    split
    · exact flatMap_place_of_forall hpieces
    · rw [List.flatMap_singleton]
  have hparent : (if n.id ∈ cuts.map (·.target) then none
      else if n.id ∈ [cut].map (·.target) then none else n.parent) =
        if n.id ∈ (cut :: cuts).map (·.target) then none else n.parent := by
    by_cases hcut : n.id = cut.target <;> by_cases hcuts : n.id ∈ cuts.map (·.target) <;>
      simp [hcut, hcuts]
  refine Node.ext_unlinked rfl hparent ?_
  simp only [relink, List.flatMap_assoc, hplace]

end Marking

namespace Page

open Marking

variable {p : Page} {markerClass : String} {cut : Cut} {cuts : List Cut} {x : NodeId}

def piecesOf (p : Page) (markerClass : String) (cuts : List Cut) : List Node :=
  cuts.flatMap (fun cut => nodesOf markerClass (p.node cut.target).parent cut.pieces)

/-- The page with several text nodes put in pieces. -/
def batch (p : Page) (markerClass : String) (cuts : List Cut) : Page :=
  { p with nodes := p.nodes.map (relink cuts) ++ (p.piecesOf markerClass cuts).toArray }

theorem size_batch (p : Page) (markerClass : String) (cuts : List Cut) :
    (p.batch markerClass cuts).size = p.size + (p.piecesOf markerClass cuts).length := by
  simp [batch, size]

theorem batch_nil (p : Page) (markerClass : String) : p.batch markerClass [] = p := by
  have hrelink : relink [] = (fun n => n) := by
    funext n
    exact relink_of_notMem (by simp) (by simp)
  simp [batch, piecesOf, hrelink]

theorem node_batch_of_lt (markerClass : String) (cuts : List Cut) (hx : x < p.size) :
    (p.batch markerClass cuts).node x = relink cuts (p.node x) := by
  have hget : p.nodes[x]? = some p.nodes[x] := Array.getElem?_eq_getElem hx
  simp only [node, batch]
  rw [Array.getElem?_append_left (by rwa [Array.size_map]), Array.getElem?_map, hget]
  rfl

theorem node_batch_of_le (p : Page) (markerClass : String) (cuts : List Cut) (k : Nat) :
    (p.batch markerClass cuts).node (p.size + k) =
      (p.piecesOf markerClass cuts)[k]?.getD default := by
  simp only [node, batch, size]
  rw [Array.getElem?_append_right (by simp)]
  simp

/-- The nodes of the pieces are numbered on from the old nodes. -/
def Numbered (p : Page) (markerClass : String) (cuts : List Cut) : Prop :=
  (p.piecesOf markerClass cuts).map (·.id) =
    List.range' p.size (p.piecesOf markerClass cuts).length

theorem node_batch_of_mem {n : Node} (hids : p.Numbered markerClass cuts)
    (hn : n ∈ p.piecesOf markerClass cuts) : (p.batch markerClass cuts).node n.id = n := by
  obtain ⟨k, hk, rfl⟩ := List.getElem_of_mem hn
  have hid : (p.piecesOf markerClass cuts)[k].id = p.size + k := by
    have hget := congrArg (·[k]?) hids
    simpa [hk] using hget
  rw [hid, node_batch_of_le, List.getElem?_eq_getElem hk, Option.getD_some]

theorem unlinked_batch (markerClass : String) (cuts : List Cut) (hx : x < p.size) :
    ((p.batch markerClass cuts).node x).unlinked = (p.node x).unlinked := by
  rw [node_batch_of_lt _ _ hx]
  rfl

/-- What does not look at links tells the same of an old node. -/
theorem label_batch {α : Type} {g : Node → α} (hg : ∀ n, g n.unlinked = g n) (markerClass : String)
    (cuts : List Cut) (hx : x < p.size) : g ((p.batch markerClass cuts).node x) = g (p.node x) := by
  rw [← hg, unlinked_batch markerClass cuts hx, hg]

theorem parent_batch (h : p.WellFormed) (markerClass : String) (cuts : List Cut)
    (hx : x < p.size) :
    ((p.batch markerClass cuts).node x).parent =
      if x ∈ cuts.map (·.target) then none else (p.node x).parent := by
  rw [node_batch_of_lt _ _ hx, relink, h.id_node x hx]

theorem children_batch (markerClass : String) (cuts : List Cut) (hx : x < p.size) :
    ((p.batch markerClass cuts).node x).children = (p.node x).children.flatMap (place cuts) := by
  rw [node_batch_of_lt _ _ hx]
  rfl

theorem exists_piece_of_le (hids : p.Numbered markerClass cuts) (hle : p.size ≤ x)
    (hx : x < (p.batch markerClass cuts).size) :
    ∃ cut ∈ cuts, ∃ b ∈ cut.pieces,
      ∃ n ∈ b.2.nodes markerClass (p.node cut.target).parent b.1,
        n.id = x ∧ (p.batch markerClass cuts).node x = n := by
  obtain ⟨k, rfl⟩ := Nat.exists_eq_add_of_le hle
  have hk : k < (p.piecesOf markerClass cuts).length := by
    rw [size_batch] at hx
    exact Nat.lt_of_add_lt_add_left hx
  have hmem := List.getElem_mem hk
  have hid : (p.piecesOf markerClass cuts)[k].id = p.size + k := by
    have hget := congrArg (·[k]?) hids
    simpa [hk] using hget
  have hnode := node_batch_of_mem hids hmem
  rw [hid] at hnode
  obtain ⟨cut, hcut, hn⟩ := List.mem_flatMap.1 hmem
  obtain ⟨b, hb, hn⟩ := mem_nodesOf.1 hn
  exact ⟨cut, hcut, b, hb, _, hn, hid, hnode⟩

theorem WellFormed.lineage_batch (h : p.WellFormed)
    (hq : (p.batch markerClass cuts).WellFormed) (hx : x < p.size)
    (hkept : ∀ y ∈ p.lineage x, y ∉ cuts.map (·.target)) :
    (p.batch markerClass cuts).lineage x = p.lineage x := by
  apply lineage_congr h hq
  intro y hy
  rw [parent_batch h _ _ (h.lineage_lt hx hy), if_neg (hkept y hy)]

/-! ## One cut -/

theorem le_of_mem_ids {as : List Piece} {i : NodeId}
    (hi : i ∈ (number p.size as).map (·.1)) : p.size ≤ i := by
  obtain ⟨b, hb, rfl⟩ := List.mem_map.1 hi
  exact (le_of_mem_number hb).1

theorem substitute_eq_place (cut : Cut) : substitute cut.target cut.ids = place [cut] := by
  funext c
  rw [place_cons, substitute]
  simp only [eq_comm, place_nil]

/-- In a list without pieces, putting them in the place of their text node is cutting it up. -/
theorem filter_flatMap_substitute {cut : Cut} {cs : List NodeId} (hcs : ∀ c ∈ cs, c ∉ cut.ids) :
    (cs.filter (· ∉ cut.ids)).flatMap (substitute cut.target cut.ids) =
      cs.flatMap (place [cut]) := by
  rw [List.filter_eq_self.2 (fun c hc => decide_eq_true (hcs c hc)), substitute_eq_place]

theorem piecesOf_single {t y : NodeId} (hp : (p.node t).parent = some y)
    (bs : List (NodeId × Piece)) :
    p.piecesOf markerClass [⟨t, bs⟩] = nodesOf markerClass (some y) bs := by
  simp [piecesOf, hp]

namespace Replaced

variable {t y : NodeId} {as : List Piece} {q : Page}

/-- An old node has other children, or is out of its place. -/
theorem node_of_lt (h : p.WellFormed)
    (hr : Replaced (p.extend (nodesOf markerClass none (number p.size as))) t y
      ((number p.size as).map (·.1)) q) (hx : x < p.size) :
    q.node x = (p.batch markerClass [⟨t, number p.size as⟩]).node x := by
  have hnode : (p.extend (nodesOf markerClass none (number p.size as))).node x = p.node x :=
    node_extend_of_lt hx
  have hold : ∀ {c}, c < p.size → c ∉ (number p.size as).map (·.1) :=
    fun hc hmem => Nat.not_lt.2 (le_of_mem_ids hmem) hc
  refine Node.ext_unlinked ?_ ?_ ?_
  · rw [hr.unlinked, hnode, unlinked_batch _ _ hx]
  · rw [hr.parent, if_neg (hold hx), hnode, parent_batch h _ _ hx]
    simp
  · rw [hr.children, hnode, children_batch _ _ hx]
    exact @filter_flatMap_substitute ⟨t, number p.size as⟩ _
      (fun c hc => hold (h.lt_of_mem_children hc))

/-- A new node is a piece and gets its parent, or stands in a piece. -/
theorem node_of_le (hp : (p.node t).parent = some y)
    (hr : Replaced (p.extend (nodesOf markerClass none (number p.size as))) t y
      ((number p.size as).map (·.1)) q) {k : Nat}
    (hk : k < (nodesOf markerClass none (number p.size as)).length) :
    q.node (p.size + k) = (p.batch markerClass [⟨t, number p.size as⟩]).node (p.size + k) := by
  have ht := lt_of_parent hp
  have hlen := length_nodesOf_number markerClass none p.size as
  have hid : (nodesOf markerClass none (number p.size as))[k].id = p.size + k := by
    have hids := congrArg (·[k]?) (map_id_nodesOf_number markerClass none p.size as)
    simpa [hk, hlen ▸ hk] using hids
  have hmap := nodesOf_eq_map markerClass (some y) ((number p.size as).map (·.1))
    (fun b hb => List.mem_map_of_mem hb) (fun b hb hwidth => succ_notMem_number hb hwidth)
  have hmem := List.getElem_mem hk
  have hnode := node_extend_of_le p (nodesOf markerClass none (number p.size as)) k
  rw [List.getElem?_eq_getElem hk, Option.getD_some] at hnode
  rw [node_batch_of_le, piecesOf_single hp, hmap, List.getElem?_map, List.getElem?_eq_getElem hk,
    Option.map_some, Option.getD_some]
  refine Node.ext_unlinked ?_ ?_ ?_
  · rw [hr.unlinked, hnode]
    rfl
  · rw [hr.parent, hnode, hid, if_neg]
    intro heq
    exact Nat.not_lt.2 (Nat.le_add_right p.size k) (heq ▸ ht)
  · have hkept := @filter_flatMap_substitute ⟨t, number p.size as⟩ _
      (fun c hc => (notMem_of_mem_children hmem hc).2)
    rw [hr.children, hnode]
    apply hkept.trans
    apply flatMap_place_of_forall
    intro c hc
    have hle := (notMem_of_mem_children hmem hc).1
    simp only [List.map_cons, List.map_nil, List.mem_singleton]
    rintro rfl
    exact Nat.not_lt.2 hle ht

/-- A page with the nodes of pieces, in which they take the place of `t`, is cut up at `t`. -/
theorem eq_batch (h : p.WellFormed) (hp : (p.node t).parent = some y)
    (hr : Replaced (p.extend (nodesOf markerClass none (number p.size as))) t y
      ((number p.size as).map (·.1)) q) :
    q = p.batch markerClass [⟨t, number p.size as⟩] := by
  have hsize : (p.extend (nodesOf markerClass none (number p.size as))).size =
      (p.batch markerClass [⟨t, number p.size as⟩]).size := by
    rw [size_extend, size_batch, piecesOf_single hp, length_nodesOf_number, length_nodesOf_number]
  refine ext_node (hr.size.trans hsize) ?_ hr.backendIndex hr.root
  intro x hx
  by_cases hold : x < p.size
  · exact node_of_lt h hr hold
  · obtain ⟨k, rfl⟩ := Nat.exists_eq_add_of_le (Nat.not_lt.1 hold)
    apply node_of_le hp hr
    rw [hr.size, size_extend] at hx
    exact Nat.lt_of_add_lt_add_left hx

end Replaced

/-- The pieces of a text node that has a parent take its place, and the page stays well formed. -/
theorem WellFormed.replace_addPieces {t y : NodeId} (h : p.WellFormed) (style : MarkStyle)
    (text : List Char) (hits : List Pattern.Span) (hp : (p.node t).parent = some y) :
    (Marking.addPieces style text p 0 hits).page.replace t
        (Marking.addPieces style text p 0 hits).ids =
        (p.batch style.markerClass [⟨t, number p.size (piecesFrom text 0 hits)⟩], .ok ()) ∧
      (p.batch style.markerClass [⟨t, number p.size (piecesFrom text 0 hits)⟩]).WellFormed := by
  have hwf := h.addPieces style text 0 hits
  rw [addPieces_eq] at hwf ⊢
  simp only at hwf ⊢
  set as := piecesFrom text 0 hits
  set e := p.extend (nodesOf style.markerClass none (number p.size as)) with he
  have hy := h.parent_lt hp
  have hnode : ∀ {x}, x < p.size → e.node x = p.node x := fun hx => node_extend_of_lt hx
  have hparent : (e.node t).parent = some y := by rw [hnode (lt_of_parent hp), hp]
  have hlineage : e.lineage y = p.lineage y :=
    lineage_congr h hwf (fun z hz => by rw [hnode (h.lineage_lt hy hz)])
  have hfits : e.Fits t y ((number p.size as).map (·.1)) := by
    intro r hr
    have hle := le_of_mem_ids hr
    refine ⟨?_, fun hrt => Nat.not_lt.2 hle (hrt ▸ lt_of_parent hp), ?_⟩
    · obtain ⟨b, hb, rfl⟩ := List.mem_map.1 hr
      have hlt := (le_of_mem_number hb).2
      have hpos := b.2.width_pos
      rw [he, size_extend, length_nodesOf_number]
      grind
    · intro hmem
      rw [hlineage] at hmem
      exact Nat.not_lt.2 hle (h.lineage_lt hy hmem)
  obtain ⟨q, hq, hr⟩ := hwf.exists_replace hparent hfits
  have hbatch := hr.eq_batch h hp
  rw [hq, hbatch]
  exact ⟨rfl, hbatch ▸ hr.wellFormed hwf hparent hfits (nodup_map_number _ _)⟩

/-! ## One cut after another -/

/-- Cutting up one text node and then others is cutting them all up. -/
theorem WellFormed.batch_batch (h : p.WellFormed) (markerClass : String) {t : NodeId}
    {as : List Piece} (htargets : ∀ cut ∈ cuts, cut.target < p.size ∧ cut.target ≠ t) :
    (p.batch markerClass [⟨t, number p.size as⟩]).batch markerClass cuts =
      p.batch markerClass (⟨t, number p.size as⟩ :: cuts) := by
  have hold : ∀ {i}, p.size ≤ i → i ∉ cuts.map (·.target) := by
    intro i hle hmem
    obtain ⟨cut, hcut, rfl⟩ := List.mem_map.1 hmem
    exact Nat.not_lt.2 hle (htargets cut hcut).1
  have hnodes : ∀ n, relink cuts (relink [⟨t, number p.size as⟩] n) =
      relink (⟨t, number p.size as⟩ :: cuts) n :=
    relink_relink (fun i hi => hold (le_of_mem_ids hi))
  -- the nodes of the first pieces are not touched again
  have hfirst : ∀ n ∈ p.piecesOf markerClass [⟨t, number p.size as⟩], relink cuts n = n := by
    intro n hn
    rw [piecesOf, List.flatMap_singleton] at hn
    refine relink_of_notMem (hold ?_) (fun c hc => hold (notMem_of_mem_children hn hc).1)
    have hid := List.mem_map_of_mem (f := (·.id)) hn
    rw [map_id_nodesOf_number, List.mem_range'_1] at hid
    exact hid.1
  -- the others have the parents they had
  have hrest : (p.batch markerClass [⟨t, number p.size as⟩]).piecesOf markerClass cuts =
      p.piecesOf markerClass cuts := by
    apply List.flatMap_congr
    intro cut hcut
    obtain ⟨hlt, hne⟩ := htargets cut hcut
    rw [parent_batch h _ _ hlt, if_neg]
    simpa using hne
  have hsplit : p.piecesOf markerClass (⟨t, number p.size as⟩ :: cuts) =
      p.piecesOf markerClass [⟨t, number p.size as⟩] ++ p.piecesOf markerClass cuts := by
    simp [piecesOf]
  have hnew : (p.piecesOf markerClass [⟨t, number p.size as⟩]).toArray.map (relink cuts) =
      (p.piecesOf markerClass [⟨t, number p.size as⟩]).toArray := by
    rw [List.map_toArray, List.map_congr_left hfirst, List.map_id']
  have hboth : relink cuts ∘ relink [⟨t, number p.size as⟩] =
      relink (⟨t, number p.size as⟩ :: cuts) := funext hnodes
  rw [batch, hrest, batch, batch, hsplit]
  congr 1
  rw [Array.map_append, Array.map_map, hboth, hnew, Array.append_assoc]
  exact congrArg _ (List.append_toArray _ _)

end Page

end PhraseMark
