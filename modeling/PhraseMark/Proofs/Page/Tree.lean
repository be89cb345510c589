import Mathlib.Data.List.Flatten
import Mathlib.Data.List.Nodup
import PhraseMark.Proofs.Page.WellFormed

/-!
# The tree of a node

What stands at and under a node of a page, as a tree of nodes without their links. In a
well-formed page the ids in the tree of a node are those of the nodes that have it in their
lineage, each once.
-/

namespace PhraseMark

/-- A node without links, and the trees under it in order. -/
inductive Tree where
  | node (label : Node) (children : List Tree)

namespace Tree

variable {α : Type}

mutual

/-- Combines the labels of a tree from below. -/
def fold (f : Node → List α → α) : Tree → α
  | .node n ts => f n (foldAll f ts)

def foldAll (f : Node → List α → α) : List Tree → List α
  | [] => []
  | t :: ts => t.fold f :: foldAll f ts

end

theorem foldAll_eq_map (f : Node → List α → α) (ts : List Tree) :
    foldAll f ts = ts.map (fold f) := by
  induction ts with
  | nil => rfl
  | cons t ts ih => rw [foldAll, ih, List.map_cons]

theorem fold_node (f : Node → List α → α) (n : Node) (ts : List Tree) :
    (node n ts).fold f = f n (ts.map (fold f)) := by
  rw [fold, foldAll_eq_map]

mutual

/-- What holds of a tree when it holds of the trees under its top holds of every tree. -/
theorem induct {P : Tree → Prop} (step : ∀ n ts, (∀ t ∈ ts, P t) → P (node n ts)) :
    ∀ t, P t
  | .node n ts => step n ts (inductAll step ts)

theorem inductAll {P : Tree → Prop} (step : ∀ n ts, (∀ t ∈ ts, P t) → P (node n ts)) :
    ∀ ts : List Tree, ∀ t ∈ ts, P t
  | [], _, h => absurd h List.not_mem_nil
  | u :: us, t, h => (List.mem_cons.1 h).elim (fun htu => htu ▸ induct step u)
      (fun hmem => inductAll step us t hmem)

end

def labels (t : Tree) : List Node := t.fold (fun n inner => n :: inner.flatten)

def ids (t : Tree) : List NodeId := t.labels.map (·.id)

/-- The text nodes of a tree in document order, without what stands under a node that is not
entered. -/
def texts (enters : Node → Bool) (t : Tree) : List Node :=
  t.fold (fun n inner =>
    (if n.isText then [n] else []) ++ if enters n then inner.flatten else [])

/-- The text nodes below the top of a tree, which is entered in any case. -/
def textsBelow (enters : Node → Bool) : Tree → List Node
  | .node _ ts => ts.flatMap (texts enters)

/-- A tree in which `f` puts trees in the place of some nodes and of all that stands under them. -/
def graft (f : NodeId → Option (List Tree)) (t : Tree) : List Tree :=
  t.fold (fun n inner => (f n.id).getD [node n inner.flatten])

/-- The tree with `f` applied everywhere below its top. -/
def rewriteBelow (f : NodeId → Option (List Tree)) : Tree → Tree
  | .node n ts => .node n (ts.flatMap (graft f))

@[simp] theorem labels_node (n : Node) (ts : List Tree) :
    (node n ts).labels = n :: ts.flatMap labels := by
  rw [labels, fold_node]
  rfl

@[simp] theorem ids_node (n : Node) (ts : List Tree) :
    (node n ts).ids = n.id :: ts.flatMap ids := by
  simp only [ids, labels_node, List.map_cons, List.map_flatMap]
  rfl

@[simp] theorem texts_node (enters : Node → Bool) (n : Node) (ts : List Tree) :
    (node n ts).texts enters =
      (if n.isText then [n] else []) ++ if enters n then ts.flatMap (texts enters) else [] := by
  rw [texts, fold_node]
  rfl

@[simp] theorem graft_node (f : NodeId → Option (List Tree)) (n : Node) (ts : List Tree) :
    (node n ts).graft f = (f n.id).getD [node n (ts.flatMap (graft f))] := by
  rw [graft, fold_node]
  rfl

theorem texts_sublist (enters : Node → Bool) (t : Tree) : (t.texts enters).Sublist t.labels := by
  induction t using induct with
  | step n ts ih =>
      have hinner : (if enters n then ts.flatMap (texts enters) else []).Sublist
          (ts.flatMap labels) := by
        split
        · exact List.Sublist.flatMap_right ts ih
        · exact List.nil_sublist _
      have hown : (if n.isText then [n] else []).Sublist [n] := by
        split
        · exact List.Sublist.refl _
        · exact List.nil_sublist _
      rw [texts_node, labels_node]
      exact hown.append hinner

theorem textsBelow_sublist (enters : Node → Bool) (t : Tree) :
    (t.textsBelow enters).Sublist t.labels := by
  cases t with
  | node n ts =>
      rw [labels_node]
      exact (List.Sublist.flatMap_right ts (fun t _ => texts_sublist enters t)).cons n

end Tree

namespace Page

variable {p q : Page} {id x y z : NodeId}

/-- What stands at and under a node, down to `levels` levels. -/
def treeUpTo (p : Page) : Nat → NodeId → Tree
  | 0, id => .node (p.node id).unlinked []
  | levels + 1, id =>
    .node (p.node id).unlinked ((p.node id).children.map (p.treeUpTo levels))

def tree (p : Page) (id : NodeId) : Tree := p.treeUpTo p.size id

theorem WellFormed.length_lineage_lt (h : p.WellFormed) {c : NodeId}
    (hc : c ∈ (p.node id).children) : (p.lineage id).length < p.size := by
  have hlen := h.length_lineage_child ((h.mem_children_iff id c).1 hc)
  have hle := h.length_lineage_le (h.lt_of_mem_children hc)
  omega

theorem WellFormed.treeUpTo_eq (h : p.WellFormed) (id : NodeId) {m n : Nat}
    (hm : p.size ≤ m + (p.lineage id).length) (hn : p.size ≤ n + (p.lineage id).length) :
    p.treeUpTo m id = p.treeUpTo n id := by
  induction id using h.down_induction generalizing m n with
  | step id ih =>
      by_cases hnil : (p.node id).children = []
      · cases m <;> cases n <;> simp [treeUpTo, hnil]
      · obtain ⟨c, hc⟩ := List.exists_mem_of_ne_nil _ hnil
        have hlt := h.length_lineage_lt hc
        obtain ⟨m, rfl⟩ := Nat.exists_eq_succ_of_ne_zero (n := m) (by omega)
        obtain ⟨n, rfl⟩ := Nat.exists_eq_succ_of_ne_zero (n := n) (by omega)
        rw [treeUpTo, treeUpTo]
        congr 1
        refine List.map_congr_left (fun c hc => ih c hc ?_ ?_)
        · have hlen := h.length_lineage_child ((h.mem_children_iff id c).1 hc)
          omega
        · have hlen := h.length_lineage_child ((h.mem_children_iff id c).1 hc)
          omega

namespace WellFormed

theorem tree_eq (h : p.WellFormed) (id : NodeId) :
    p.tree id = .node (p.node id).unlinked ((p.node id).children.map p.tree) := by
  rw [tree, h.treeUpTo_eq id (n := p.size + 1) (Nat.le_add_right _ _) (by omega), treeUpTo]
  rfl

theorem ids_tree (h : p.WellFormed) (hid : id < p.size) :
    (p.tree id).ids = id :: (p.node id).children.flatMap (fun c => (p.tree c).ids) := by
  rw [h.tree_eq, Tree.ids_node, List.flatMap_map]
  exact congrArg (· :: _) (h.id_node id hid)

theorem texts_tree (h : p.WellFormed) (enters : Node → Bool) (id : NodeId) :
    (p.tree id).texts enters =
      (if (p.node id).isText then [(p.node id).unlinked] else []) ++
        if enters (p.node id).unlinked then
          (p.node id).children.flatMap (fun c => (p.tree c).texts enters)
        else [] := by
  rw [h.tree_eq, Tree.texts_node, List.flatMap_map]
  rfl

theorem textsBelow_tree (h : p.WellFormed) (enters : Node → Bool) (id : NodeId) :
    (p.tree id).textsBelow enters =
      (p.node id).children.flatMap (fun c => (p.tree c).texts enters) := by
  rw [h.tree_eq, Tree.textsBelow, List.flatMap_map]

theorem tree_congr (h : p.WellFormed) (hq : q.WellFormed)
    (hsame : ∀ y, id ∈ p.lineage y → q.node y = p.node y) : q.tree id = p.tree id := by
  induction id using h.down_induction with
  | step id ih =>
      rw [hq.tree_eq, h.tree_eq, hsame id (h.mem_lineage_self id)]
      congr 1
      refine List.map_congr_left (fun c hc => ih c hc (fun y hy => hsame y ?_))
      exact h.mem_lineage_trans (h.mem_lineage_of_parent ((h.mem_children_iff id c).1 hc)) hy

theorem mem_lineage_iff (h : p.WellFormed) :
    x ∈ p.lineage y ↔ y = x ∨ ∃ c ∈ (p.node x).children, c ∈ p.lineage y := by
  constructor
  · intro hx
    induction y using h.up_induction with
    | top y hp =>
        rw [h.lineage_of_top hp, List.mem_singleton] at hx
        exact .inl hx.symm
    | step y z hp ih =>
        rw [h.lineage_of_parent hp] at hx
        rcases List.mem_cons.1 hx with rfl | hx
        · exact .inl rfl
        · rcases ih hx with rfl | ⟨c, hc, hcz⟩
          · exact .inr ⟨y, (h.mem_children_iff z y).2 hp, h.mem_lineage_self y⟩
          · exact .inr ⟨c, hc, h.mem_lineage_trans hcz (h.mem_lineage_of_parent hp)⟩
  · rintro (rfl | ⟨c, hc, hcy⟩)
    · exact h.mem_lineage_self y
    · exact h.mem_lineage_trans (h.mem_lineage_of_parent ((h.mem_children_iff x c).1 hc)) hcy

theorem eq_of_mem_lineage_of_nil (h : p.WellFormed) (hnil : (p.node x).children = [])
    (hy : x ∈ p.lineage y) : y = x := by
  rcases h.mem_lineage_iff.1 hy with hyx | ⟨c, hc, -⟩
  · exact hyx
  · rw [hnil] at hc
    cases hc

/-- Two children of one node have nothing under both of them. -/
theorem eq_of_mem_lineage (h : p.WellFormed) {c d : NodeId} (hc : (p.node c).parent = some x)
    (hd : (p.node d).parent = some x) (hcy : c ∈ p.lineage y) (hdy : d ∈ p.lineage y) :
    c = d := by
  -- one of them would stand above their parent
  rcases h.lineage_total hcy hdy with hcd | hdc
  · rw [h.lineage_of_parent hd] at hcd
    rcases List.mem_cons.1 hcd with rfl | hcx
    · rfl
    · exact absurd hcx (h.not_mem_lineage_of_parent hc)
  · rw [h.lineage_of_parent hc] at hdc
    rcases List.mem_cons.1 hdc with rfl | hdx
    · rfl
    · exact absurd hdx (h.not_mem_lineage_of_parent hd)

theorem mem_ids_tree (h : p.WellFormed) (hx : x < p.size) :
    y ∈ (p.tree x).ids ↔ x ∈ p.lineage y := by
  induction x using h.down_induction with
  | step x ih =>
      rw [h.ids_tree hx, List.mem_cons, List.mem_flatMap, h.mem_lineage_iff]
      refine or_congr_right (exists_congr (fun c => and_congr_right (fun hc => ?_)))
      exact ih c hc (h.lt_of_mem_children hc)

theorem nodup_ids_tree (h : p.WellFormed) (hx : x < p.size) : (p.tree x).ids.Nodup := by
  induction x using h.down_induction with
  | step x ih =>
      have hparent := fun c hc => (h.mem_children_iff x c).1 hc
      have hmem : ∀ {c y}, c ∈ (p.node x).children → (y ∈ (p.tree c).ids ↔ c ∈ p.lineage y) :=
        fun hc => h.mem_ids_tree (h.lt_of_mem_children hc)
      rw [h.ids_tree hx, List.nodup_cons, List.nodup_flatMap]
      refine ⟨?_, fun c hc => ih c hc (h.lt_of_mem_children hc), ?_⟩
      · intro hself
        obtain ⟨c, hc, hcx⟩ := List.mem_flatMap.1 hself
        exact h.not_mem_lineage_of_parent (hparent c hc) ((hmem hc).1 hcx)
      · refine (h.nodup_children x).imp_of_mem ?_
        intro c d hc hd hne
        simp only [Function.onFun, List.disjoint_left]
        intro y hcy hdy
        exact hne (h.eq_of_mem_lineage (hparent c hc) (hparent d hd) ((hmem hc).1 hcy)
          ((hmem hd).1 hdy))

theorem lt_of_mem_ids_tree (h : p.WellFormed) (hx : x < p.size) (hy : y ∈ (p.tree x).ids) :
    y < p.size := by
  rw [h.mem_ids_tree hx] at hy
  exact h.lt_of_mem_lineage hy hx

theorem length_ids_tree_le (h : p.WellFormed) (hx : x < p.size) :
    (p.tree x).ids.length ≤ p.size := by
  have hsub : (p.tree x).ids ⊆ List.range p.size :=
    fun y hy => List.mem_range.2 (h.lt_of_mem_ids_tree hx hy)
  have hlen := (h.nodup_ids_tree hx).length_le_of_subset hsub
  rwa [List.length_range] at hlen

/-! ## Text nodes that are reached -/

/-- The nodes above `y` up to `x` that are not `y`. -/
theorem forall_above_iff (h : p.WellFormed) {c : NodeId} (hc : c ∈ (p.node x).children)
    (hcy : c ∈ p.lineage y) {P : NodeId → Prop} :
    (∀ z, x ∈ p.lineage z → z ∈ p.lineage y → z ≠ y → P z) ↔
      P x ∧ ∀ z, c ∈ p.lineage z → z ∈ p.lineage y → z ≠ y → P z := by
  have hparent := (h.mem_children_iff x c).1 hc
  have hxc := h.mem_lineage_of_parent hparent
  constructor
  · intro hall
    refine ⟨hall x (h.mem_lineage_self x) (h.mem_lineage_trans hxc hcy) ?_, ?_⟩
    · rintro rfl
      exact h.not_mem_lineage_of_parent hparent hcy
    · intro z hz
      exact hall z (h.mem_lineage_trans hxc hz)
  · rintro ⟨htop, hrest⟩ z hz hzy hne
    rcases h.lineage_total hcy hzy with hcz | hzc
    · exact hrest z hcz hzy hne
    · rw [h.lineage_of_parent hparent] at hzc
      rcases List.mem_cons.1 hzc with rfl | hzx
      · exact hrest z (h.mem_lineage_self z) hzy hne
      · rwa [h.lineage_antisymm hzx hz]

theorem mem_texts_tree (h : p.WellFormed) {enters : Node → Bool} {n : Node} :
    n ∈ (p.tree x).texts enters ↔
      ∃ y, n = (p.node y).unlinked ∧ (p.node y).isText = true ∧ x ∈ p.lineage y ∧
        ∀ z, x ∈ p.lineage z → z ∈ p.lineage y → z ≠ y → enters (p.node z).unlinked = true := by
  induction x using h.down_induction with
  | step x ih =>
      rw [h.texts_tree, List.mem_append]
      constructor
      · rintro (hn | hn)
        · split at hn
          · rename_i htext
            refine ⟨x, List.mem_singleton.1 hn, htext, h.mem_lineage_self x, ?_⟩
            intro z hz hzx hne
            exact absurd (h.lineage_antisymm hzx hz) hne
          · cases hn
        · split at hn
          · rename_i henter
            obtain ⟨c, hc, hn⟩ := List.mem_flatMap.1 hn
            obtain ⟨y, rfl, htext, hcy, hall⟩ := (ih c hc).1 hn
            have hxc := h.mem_lineage_of_parent ((h.mem_children_iff x c).1 hc)
            exact ⟨y, rfl, htext, h.mem_lineage_trans hxc hcy,
              (h.forall_above_iff hc hcy).2 ⟨henter, hall⟩⟩
          · cases hn
      · rintro ⟨y, rfl, htext, hxy, hall⟩
        rcases h.mem_lineage_iff.1 hxy with rfl | ⟨c, hc, hcy⟩
        · exact .inl (by simp [htext])
        · obtain ⟨henter, hall⟩ := (h.forall_above_iff hc hcy).1 hall
          rw [if_pos henter]
          exact .inr (List.mem_flatMap.2 ⟨c, hc, (ih c hc).2 ⟨y, rfl, htext, hcy, hall⟩⟩)

/-- A text node below `x` is reached if every node strictly between is entered. -/
theorem mem_textsBelow_tree (h : p.WellFormed) {enters : Node → Bool} {n : Node} :
    n ∈ (p.tree x).textsBelow enters ↔
      ∃ y, n = (p.node y).unlinked ∧ (p.node y).isText = true ∧ x ∈ p.lineage y ∧ y ≠ x ∧
        ∀ z, x ∈ p.lineage z → z ≠ x → z ∈ p.lineage y → z ≠ y →
          enters (p.node z).unlinked = true := by
  rw [h.textsBelow_tree, List.mem_flatMap]
  constructor
  · rintro ⟨c, hc, hn⟩
    obtain ⟨y, rfl, htext, hcy, hall⟩ := h.mem_texts_tree.1 hn
    have hparent := (h.mem_children_iff x c).1 hc
    refine ⟨y, rfl, htext, h.mem_lineage_iff.2 (.inr ⟨c, hc, hcy⟩), ?_, ?_⟩
    · rintro rfl
      exact h.not_mem_lineage_of_parent hparent hcy
    · intro z hz hzx hzy hne
      have hP := (h.forall_above_iff hc hcy (P := fun z => z ≠ x →
        enters (p.node z).unlinked = true)).2
          ⟨fun hne => absurd rfl hne, fun z hcz hzy hne _ => hall z hcz hzy hne⟩
      exact hP z hz hzy hne hzx
  · rintro ⟨y, rfl, htext, hxy, hyx, hall⟩
    rcases h.mem_lineage_iff.1 hxy with rfl | ⟨c, hc, hcy⟩
    · exact absurd rfl hyx
    · refine ⟨c, hc, h.mem_texts_tree.2 ⟨y, rfl, htext, hcy, ?_⟩⟩
      intro z hcz hzy hne
      have hparent := (h.mem_children_iff x c).1 hc
      refine hall z (h.mem_lineage_trans (h.mem_lineage_of_parent hparent) hcz) ?_ hzy hne
      rintro rfl
      exact h.not_mem_lineage_of_parent hparent hcz

end WellFormed

end Page

end PhraseMark
