import PhraseMark.Page.Visibility
import PhraseMark.Proofs.Page.Reading
import PhraseMark.Proofs.Page.Relinking

/-!
# Resolved visibility

Resolving the visibility of a page writes into every node under the root whether the node and all
nodes above it, up to the root, pass the style check. Nothing else is written, and the writing
does not fail.
-/

namespace PhraseMark.Page

variable {p q r : Page} {root x y c : NodeId} {V : NodeId → Bool} {S T : NodeId → Prop}

/-- The nodes of two pages differ in their values and in their visibility only. -/
structure Redrawn (p q : Page) : Prop where
  size : q.size = p.size
  root : q.root = p.root
  node : ∀ y, ∃ value visible, q.node y = { p.node y with value, visible }

namespace Redrawn

/-- What looks neither at the value nor at the visibility of a node tells the same of both. -/
theorem kept (h : Redrawn p q) {α : Type} {g : Node → α}
    (hg : ∀ n value visible, g { n with value, visible } = g n) (y : NodeId) :
    g (q.node y) = g (p.node y) := by
  obtain ⟨value, visible, hy⟩ := h.node y
  rw [hy, hg]

theorem wellFormed (h : Redrawn p q) (hwf : p.WellFormed) : q.WellFormed := by
  have hid := h.kept (g := Node.id) (fun _ _ _ => rfl)
  have hparent := h.kept (g := Node.parent) (fun _ _ _ => rfl)
  have hchildren := h.kept (g := Node.children) (fun _ _ _ => rfl)
  refine ⟨?_, ?_, ?_, ?_⟩
  · intro y hy
    rw [hid]
    exact hwf.id_node y (h.size ▸ hy)
  · intro y c
    rw [hchildren, hparent]
    exact hwf.mem_children_iff y c
  · intro y
    rw [hchildren]
    exact hwf.nodup_children y
  · simp only [hparent]
    exact hwf.wellFounded

theorem lineage (h : Redrawn p q) (hwf : p.WellFormed) (y : NodeId) :
    q.lineage y = p.lineage y := by
  apply lineage_congr hwf (h.wellFormed hwf)
  intro z _
  exact h.kept (fun _ _ _ => rfl) z

theorem ids_tree (h : Redrawn p q) (hwf : p.WellFormed) (hx : x < p.size) :
    (q.tree x).ids = (p.tree x).ids := by
  induction x using hwf.down_induction with
  | step x ih =>
      rw [(h.wellFormed hwf).ids_tree (h.size ▸ hx), hwf.ids_tree hx,
        h.kept (g := Node.children) (fun _ _ _ => rfl)]
      congr 1
      exact List.flatMap_congr (fun c hc => ih c hc (hwf.lt_of_mem_children hc))

theorem body?_eq (h : Redrawn p q) (hwf : p.WellFormed) : q.body? = p.body? := by
  cases hroot : p.root with
  | none => simp only [body?, h.root, hroot]
  | some root =>
      have hroot' := h.root.trans hroot
      by_cases hlt : root < p.size
      · have hlt' : root < q.size := h.size ▸ hlt
        have htag := h.kept (g := fun n => n.hasTag "BODY") (fun _ _ _ => rfl)
        rw [(h.wellFormed hwf).body?_eq hroot' hlt', hwf.body?_eq hroot hlt,
          h.ids_tree hwf hlt]
        simp only [htag]
      · have hle := Nat.not_lt.1 hlt
        rw [body?_of_le hroot' (h.size ▸ hle), body?_of_le hroot hle]

end Redrawn

/-! ## Resolving -/

/-- The visibility of some nodes has been written, with values that `V` tells, and nothing else. -/
structure Painted (V : NodeId → Bool) (S : NodeId → Prop) (p q : Page) : Prop where
  size : q.size = p.size
  root : q.root = p.root
  backendIndex : q.backendIndex = p.backendIndex
  inside : ∀ y < p.size, S y → q.node y = { p.node y with visible := some (V y) }
  outside : ∀ y, ¬ S y → q.node y = p.node y

namespace Painted

theorem refl (V : NodeId → Bool) (p : Page) : Painted V (fun _ => False) p p where
  size := rfl
  root := rfl
  backendIndex := rfl
  inside := fun _ _ h => absurd h not_false
  outside := fun _ _ => rfl

theorem trans (h : Painted V S p q) (h' : Painted V T q r) :
    Painted V (fun y => S y ∨ T y) p r where
  size := h'.size.trans h.size
  root := h'.root.trans h.root
  backendIndex := h'.backendIndex.trans h.backendIndex
  inside := by
    intro y hy hmem
    by_cases hT : T y
    · rw [h'.inside y (h.size ▸ hy) hT]
      by_cases hS : S y
      · rw [h.inside y hy hS]
      · rw [h.outside y hS]
    · rw [h'.outside y hT, h.inside y hy (hmem.resolve_right hT)]
  outside := by
    intro y hnot
    rw [h'.outside y (fun hT => hnot (.inr hT)), h.outside y (fun hS => hnot (.inl hS))]

theorem congr (h : Painted V S p q) (hST : ∀ y, T y ↔ S y) : Painted V T p q where
  size := h.size
  root := h.root
  backendIndex := h.backendIndex
  inside := fun y hy hT => h.inside y hy ((hST y).1 hT)
  outside := fun y hT => h.outside y (mt (hST y).2 hT)

theorem modify (V : NodeId → Bool) (p : Page) (x : NodeId) :
    Painted V (fun y => y = x) p (p.modify x (fun n => { n with visible := some (V x) })) where
  size := size_modify p x _
  root := rfl
  backendIndex := rfl
  inside := by
    intro y hy hyx
    rw [node_modify, if_pos ⟨hyx, hy⟩, hyx]
  outside := by
    intro y hne
    rw [node_modify, if_neg (fun h => hne h.1)]

theorem redrawn (h : Painted V S p q) : Redrawn p q := by
  refine ⟨h.size, h.root, fun y => ?_⟩
  by_cases hS : S y
  · by_cases hy : y < p.size
    · exact ⟨_, _, h.inside y hy hS⟩
    · have hle := Nat.not_lt.1 hy
      refine ⟨(p.node y).value, (p.node y).visible, ?_⟩
      rw [node_of_le (h.size ▸ hle), node_of_le hle]
  · exact ⟨(p.node y).value, (p.node y).visible, h.outside y hS⟩

end Painted

/-- The node and every node above it, up to the root, pass the style check. -/
def shownUpTo (p : Page) (root y : NodeId) : Bool :=
  decide (∀ z ∈ p.lineage y, root ∈ p.lineage z → (p.node z).isShownByStyle = true)

/-- The turn of the resolution, told by the node alone. -/
def resolveRead (n : Node) (s : Resolving) : Turn Resolving := resolveTurn n.id n s

namespace WellFormed

variable (h : p.WellFormed)

include h

theorem shownUpTo_root (root : NodeId) :
    p.shownUpTo root root = (p.node root).isShownByStyle := by
  rw [shownUpTo, Bool.eq_iff_iff, decide_eq_true_iff]
  constructor
  · intro hall
    exact hall root (h.mem_lineage_self root) (h.mem_lineage_self root)
  · intro hshown z hz hroot
    rwa [h.lineage_antisymm hz hroot]

theorem shownUpTo_child (hc : (p.node c).parent = some x) (hx : root ∈ p.lineage x) :
    p.shownUpTo root c = (p.shownUpTo root x && (p.node c).isShownByStyle) := by
  rw [shownUpTo, shownUpTo, Bool.eq_iff_iff, Bool.and_eq_true, decide_eq_true_iff,
    decide_eq_true_iff, h.lineage_of_parent hc]
  constructor
  · intro hall
    refine ⟨fun z hz hroot => hall z (List.mem_cons_of_mem c hz) hroot, ?_⟩
    exact hall c List.mem_cons_self (h.mem_lineage_trans hx (h.mem_lineage_of_parent hc))
  · rintro ⟨hall, hshown⟩ z hz hroot
    rcases List.mem_cons.1 hz with rfl | hz
    · exact hshown
    · exact hall z hz hroot

/-- Over the subtree of a node under the root, the visibility of what stands in it is written. -/
theorem read_resolveTurn (hx : root ∈ p.lineage x) (hlt : x < p.size) {s : Resolving}
    (hsize : s.page.size = p.size)
    (hs : (s.visible && (p.node x).isShownByStyle) = p.shownUpTo root x) :
    ((p.tree x).read resolveRead s).visible = s.visible ∧
      Painted (p.shownUpTo root) (fun y => x ∈ p.lineage y) s.page
        ((p.tree x).read resolveRead s).page := by
  induction x using h.down_induction generalizing s with
  | step x ih =>
      have hid : (p.node x).unlinked.id = x := h.id_node x hlt
      have hshown : (p.node x).unlinked.isShownByStyle = (p.node x).isShownByStyle := rfl
      -- the children are visited with the visibility of their parent
      have hchildren : ∀ cs : List NodeId, (∀ c ∈ cs, c ∈ (p.node x).children) →
          ∀ t : Resolving, t.page.size = p.size → t.visible = p.shownUpTo root x →
            (Tree.readAll resolveRead (cs.map p.tree) t).visible = t.visible ∧
              Painted (p.shownUpTo root) (fun y => ∃ c ∈ cs, c ∈ p.lineage y) t.page
                (Tree.readAll resolveRead (cs.map p.tree) t).page := by
        intro cs hcs
        induction cs with
        | nil =>
            intro t _ _
            exact ⟨rfl, (Painted.refl _ t.page).congr (fun y => by simp)⟩
        | cons c cs ihcs =>
            intro t htsize ht
            have hc := hcs c List.mem_cons_self
            have hparent := (h.mem_children_iff x c).1 hc
            obtain ⟨hvisible, hpainted⟩ := ih c hc
              (h.mem_lineage_trans hx (h.mem_lineage_of_parent hparent))
              (h.lt_of_mem_children hc) htsize (by rw [ht, h.shownUpTo_child hparent hx])
            obtain ⟨hvisible', hpainted'⟩ := ihcs
              (fun d hd => hcs d (List.mem_cons_of_mem c hd)) _ (hpainted.size.trans htsize)
              (hvisible.trans ht)
            rw [List.map_cons, Tree.readAll_cons]
            refine ⟨hvisible'.trans hvisible, (hpainted.trans hpainted').congr (fun y => ?_)⟩
            simp only [List.exists_mem_cons_iff]
      have hturn : resolveRead (p.node x).unlinked s =
          .enter
            { page := s.page.modify x (fun n => { n with visible := some (p.shownUpTo root x) })
              visible := p.shownUpTo root x }
            (fun t => { t with visible := s.visible }) := by
        rw [resolveRead, resolveTurn, hid, hshown, hs]
      rw [h.tree_eq, Tree.read_of_enter hturn]
      have hfirst := Painted.modify (p.shownUpTo root) s.page x
      obtain ⟨-, hrest⟩ := hchildren (p.node x).children (fun c hc => hc)
        ⟨s.page.modify x (fun n => { n with visible := some (p.shownUpTo root x) }),
          p.shownUpTo root x⟩ (hfirst.size.trans hsize) rfl
      exact ⟨rfl, (hfirst.trans hrest).congr (fun y => h.mem_lineage_iff)⟩

/-- Resolving the visibility does not fail. It writes the visibility of the nodes under the root,
and it changes nothing else. -/
theorem resolveVisibility_eq (hroot : p.root = some root) (hlt : root < p.size) :
    ∃ q, p.resolveVisibility = .ok q ∧
      Painted (p.shownUpTo root) (fun y => root ∈ p.lineage y) p q := by
  have hreads : p.Reads (fun id n s => .ok (resolveTurn id n s)) resolveRead := by
    refine ⟨?_, ?_⟩
    · intro y hy s
      have hid : (p.node y).unlinked.id = y := h.id_node y hy
      rw [resolveRead, hid]
      rfl
    · intro n s s' heq
      cases heq
  obtain ⟨-, hpainted⟩ := h.read_resolveTurn (h.mem_lineage_self root) hlt
    (s := { page := p, visible := true }) rfl (by rw [Bool.true_and, h.shownUpTo_root])
  refine ⟨_, ?_, hpainted⟩
  simp only [resolveVisibility, hroot, h.tour_eq hreads hlt]

end WellFormed

/-- The visibility under the root is known, and what is no element has that of its parent. -/
structure Resolved (q : Page) (root : NodeId) : Prop where
  known : ∀ y < q.size, root ∈ q.lineage y → (q.node y).visible ≠ none
  inherited : ∀ x c, (q.node c).parent = some x → root ∈ q.lineage x →
    (q.node c).isElement = false → (q.node c).visible = (q.node x).visible

theorem Painted.resolved (h : p.WellFormed)
    (hpainted : Painted (p.shownUpTo root) (fun y => root ∈ p.lineage y) p q) :
    q.Resolved root := by
  have hredrawn := hpainted.redrawn
  have hvisible : ∀ y < p.size, root ∈ p.lineage y →
      (q.node y).visible = some (p.shownUpTo root y) := by
    intro y hy hroot
    rw [hpainted.inside y hy hroot]
  refine ⟨?_, ?_⟩
  · intro y hy hroot
    rw [hredrawn.lineage h] at hroot
    rw [hvisible y (hpainted.size ▸ hy) hroot]
    exact Option.some_ne_none _
  · intro x c hparent hroot helement
    rw [hredrawn.kept (g := Node.parent) (fun _ _ _ => rfl)] at hparent
    rw [hredrawn.lineage h] at hroot
    rw [hredrawn.kept (g := Node.isElement) (fun _ _ _ => rfl)] at helement
    have hc := h.mem_lineage_trans hroot (h.mem_lineage_of_parent hparent)
    rw [hvisible x (h.parent_lt hparent) hroot, hvisible c (lt_of_parent hparent) hc,
      h.shownUpTo_child hparent hroot, Node.isShownByStyle_of_not_isElement helement,
      Bool.and_true]

end PhraseMark.Page
