import PhraseMark.Proofs.Page.Nodes

/-!
# Well-formed pages

In a well-formed page the two copies of every link agree, no child is listed twice, and the way up
from any node ends. The way up is kept as a list, the lineage of the node; its length bounds every
loop that climbs.
-/

namespace PhraseMark.Page

variable {p q : Page} {a b c id x y : NodeId} {l : List NodeId}

/-- Every node lies at its id, child lists and parent links are two copies of one relation, child
lists have no repeats, and parent links lead to an end. -/
structure WellFormed (p : Page) : Prop where
  id_node : ∀ id < p.size, (p.node id).id = id
  mem_children_iff : ∀ x c, c ∈ (p.node x).children ↔ (p.node c).parent = some x
  nodup_children : ∀ x, (p.node x).children.Nodup
  wellFounded : WellFounded (fun x c => (p.node c).parent = some x)

theorem WellFormed.lt_of_mem_children (h : p.WellFormed) (hc : c ∈ (p.node x).children) :
    c < p.size :=
  lt_of_parent ((h.mem_children_iff x c).1 hc)

theorem WellFormed.parent_lt (h : p.WellFormed) (hc : (p.node c).parent = some x) : x < p.size :=
  Page.lt_of_mem_children ((h.mem_children_iff x c).2 hc)

theorem wellFormed_empty : empty.WellFormed where
  id_node := fun _ h => absurd h (Nat.not_lt_zero _)
  mem_children_iff := by
    intro x c
    rw [children_of_le (Nat.zero_le x), parent_of_le (Nat.zero_le c)]
    simp
  nodup_children := by
    intro x
    rw [children_of_le (Nat.zero_le x)]
    exact List.nodup_nil
  wellFounded := ⟨fun c => ⟨c, fun x hx => by
    rw [parent_of_le (Nat.zero_le c)] at hx
    cases hx⟩⟩

/-! ## The way up -/

/-- `l` lists a node and everything above it, from below. -/
inductive Upward (p : Page) : NodeId → List NodeId → Prop
  | top {id : NodeId} : (p.node id).parent = none → Upward p id [id]
  | step {id x : NodeId} {l : List NodeId} :
      (p.node id).parent = some x → Upward p x l → Upward p id (id :: l)

namespace Upward

theorem unique {l m : List NodeId} (h : p.Upward id l) (h' : p.Upward id m) : l = m := by
  induction h generalizing m with
  | top hp =>
      cases h' with
      | top _ => rfl
      | step hp' _ => rw [hp] at hp'; cases hp'
  | step hp _ ih =>
      cases h' with
      | top hp' => rw [hp] at hp'; cases hp'
      | step hp' h' =>
          rw [hp] at hp'
          cases hp'
          rw [ih h']

theorem mem_self (h : p.Upward id l) : id ∈ l := by
  cases h <;> exact List.mem_cons_self

theorem exists_suffix (h : p.Upward id l) (hy : y ∈ l) :
    ∃ s, s <:+ l ∧ p.Upward y s := by
  induction h with
  | top hp =>
      rw [List.mem_singleton] at hy
      subst hy
      exact ⟨_, List.suffix_rfl, .top hp⟩
  | step hp h ih =>
      rcases List.mem_cons.1 hy with rfl | hy
      · exact ⟨_, List.suffix_rfl, .step hp h⟩
      · obtain ⟨s, hs, hup⟩ := ih hy
        exact ⟨s, hs.trans (List.suffix_cons _ _), hup⟩

theorem nodup (h : p.Upward id l) : l.Nodup := by
  induction h with
  | top _ => simp
  | @step id x l hp h ih =>
      refine List.nodup_cons.2 ⟨fun hmem => ?_, ih⟩
      obtain ⟨s, hs, hup⟩ := h.exists_suffix hmem
      have hlen := hs.length_le
      rw [hup.unique (.step hp h), List.length_cons] at hlen
      omega

theorem lt_size (hwf : p.WellFormed) (h : p.Upward id l) (hid : id < p.size) (hy : y ∈ l) :
    y < p.size := by
  induction h with
  | top _ => rwa [List.mem_singleton.1 hy]
  | step hp _ ih =>
      rcases List.mem_cons.1 hy with rfl | hy
      · exact hid
      · exact ih (hwf.parent_lt hp) hy

theorem length_le (hwf : p.WellFormed) (h : p.Upward id l) (hid : id < p.size) :
    l.length ≤ p.size := by
  have hsub : l ⊆ List.range p.size := fun y hy => List.mem_range.2 (h.lt_size hwf hid hy)
  have hlen := h.nodup.length_le_of_subset hsub
  rwa [List.length_range] at hlen

end Upward

theorem WellFormed.exists_upward (h : p.WellFormed) (id : NodeId) : ∃ l, p.Upward id l := by
  induction id using h.wellFounded.induction with
  | _ id ih =>
      cases hp : (p.node id).parent with
      | none => exact ⟨_, .top hp⟩
      | some x =>
          obtain ⟨l, hl⟩ := ih x hp
          exact ⟨_, .step hp hl⟩

def lineageUpTo (p : Page) : Nat → NodeId → List NodeId
  | 0, id => [id]
  | links + 1, id =>
    match (p.node id).parent with
    | none => [id]
    | some x => id :: p.lineageUpTo links x

/-- A node and everything above it, from below. -/
def lineage (p : Page) (id : NodeId) : List NodeId := p.lineageUpTo p.size id

theorem Upward.lineageUpTo_eq (h : p.Upward id l) {links : Nat} (hlen : l.length ≤ links + 1) :
    p.lineageUpTo links id = l := by
  induction h generalizing links with
  | top hp =>
      cases links with
      | zero => rfl
      | succ links => simp only [lineageUpTo, hp]
  | step hp h ih =>
      rw [List.length_cons] at hlen
      have hpos := List.length_pos_of_mem h.mem_self
      cases links with
      | zero => omega
      | succ links => simp only [lineageUpTo, hp, ih (Nat.le_of_succ_le_succ hlen)]

theorem WellFormed.upward_lineage (h : p.WellFormed) (id : NodeId) :
    p.Upward id (p.lineage id) := by
  obtain ⟨l, hl⟩ := h.exists_upward id
  have hlen : l.length ≤ p.size + 1 := by
    by_cases hid : id < p.size
    · exact Nat.le_succ_of_le (hl.length_le h hid)
    · cases hl with
      | top _ => exact Nat.le_add_left 1 p.size
      | step hp _ => exact absurd (lt_of_parent hp) hid
  rwa [lineage, hl.lineageUpTo_eq hlen]

namespace WellFormed

theorem lineage_of_top (h : p.WellFormed) (hp : (p.node id).parent = none) :
    p.lineage id = [id] :=
  (h.upward_lineage id).unique (.top hp)

theorem lineage_of_parent (h : p.WellFormed) (hp : (p.node id).parent = some x) :
    p.lineage id = id :: p.lineage x :=
  (h.upward_lineage id).unique (.step hp (h.upward_lineage x))

theorem mem_lineage_self (h : p.WellFormed) (id : NodeId) : id ∈ p.lineage id :=
  (h.upward_lineage id).mem_self

theorem mem_lineage_of_parent (h : p.WellFormed) (hp : (p.node id).parent = some x) :
    x ∈ p.lineage id := by
  rw [h.lineage_of_parent hp]
  exact List.mem_cons_of_mem _ (h.mem_lineage_self x)

theorem lineage_suffix (h : p.WellFormed) (ha : a ∈ p.lineage b) :
    p.lineage a <:+ p.lineage b := by
  obtain ⟨s, hs, hup⟩ := (h.upward_lineage b).exists_suffix ha
  rwa [(h.upward_lineage a).unique hup]

theorem mem_lineage_trans (h : p.WellFormed) (hab : a ∈ p.lineage b) (hbc : b ∈ p.lineage c) :
    a ∈ p.lineage c :=
  (h.lineage_suffix hbc).subset hab

theorem lineage_lt (h : p.WellFormed) (hid : id < p.size) (hy : y ∈ p.lineage id) :
    y < p.size :=
  (h.upward_lineage id).lt_size h hid hy

theorem length_lineage_le (h : p.WellFormed) (hid : id < p.size) :
    (p.lineage id).length ≤ p.size :=
  (h.upward_lineage id).length_le h hid

theorem length_lineage_pos (h : p.WellFormed) (id : NodeId) : 0 < (p.lineage id).length :=
  List.length_pos_of_mem (h.mem_lineage_self id)

theorem length_lineage_child (h : p.WellFormed) (hp : (p.node id).parent = some x) :
    (p.lineage id).length = (p.lineage x).length + 1 := by
  rw [h.lineage_of_parent hp, List.length_cons]

theorem not_mem_lineage_of_parent (h : p.WellFormed) (hp : (p.node id).parent = some x) :
    id ∉ p.lineage x := by
  have hnodup := (h.upward_lineage id).nodup
  rw [h.lineage_of_parent hp] at hnodup
  exact (List.nodup_cons.1 hnodup).1

theorem ne_of_parent (h : p.WellFormed) (hp : (p.node id).parent = some x) : id ≠ x := by
  rintro rfl
  exact h.not_mem_lineage_of_parent hp (h.mem_lineage_self id)

/-- A node under another one has its parent there too. -/
theorem exists_parent_of_mem_lineage (h : p.WellFormed) (ha : a ∈ p.lineage b) (hne : b ≠ a) :
    ∃ x, (p.node b).parent = some x ∧ a ∈ p.lineage x := by
  cases hp : (p.node b).parent with
  | none =>
      rw [h.lineage_of_top hp, List.mem_singleton] at ha
      exact absurd ha.symm hne
  | some x =>
      rw [h.lineage_of_parent hp] at ha
      exact ⟨x, rfl, (List.mem_cons.1 ha).resolve_left hne.symm⟩

theorem lt_of_mem_lineage (h : p.WellFormed) (ha : a ∈ p.lineage b) (hlt : a < p.size) :
    b < p.size := by
  by_cases hb : b = a
  · exact hb ▸ hlt
  · obtain ⟨x, hp, -⟩ := h.exists_parent_of_mem_lineage ha hb
    exact lt_of_parent hp

theorem head?_lineage (h : p.WellFormed) (id : NodeId) : (p.lineage id).head? = some id := by
  cases hp : (p.node id).parent with
  | none => rw [h.lineage_of_top hp, List.head?_cons]
  | some x => rw [h.lineage_of_parent hp, List.head?_cons]

theorem lineage_antisymm (h : p.WellFormed) (hab : a ∈ p.lineage b) (hba : b ∈ p.lineage a) :
    a = b := by
  have hlen := (h.lineage_suffix hab).length_le
  have heq := (h.lineage_suffix hba).eq_of_length_le hlen
  have hhead := h.head?_lineage a
  rw [← heq, h.head?_lineage b, Option.some.injEq] at hhead
  exact hhead.symm

theorem lineage_total (h : p.WellFormed) (ha : a ∈ p.lineage c) (hb : b ∈ p.lineage c) :
    a ∈ p.lineage b ∨ b ∈ p.lineage a := by
  rcases List.suffix_or_suffix_of_suffix (h.lineage_suffix ha) (h.lineage_suffix hb) with hs | hs
  · exact .inl (hs.subset (h.mem_lineage_self a))
  · exact .inr (hs.subset (h.mem_lineage_self b))

/-- What holds of a node when it holds of its children holds of every node. -/
theorem down_induction (h : p.WellFormed) {P : NodeId → Prop}
    (step : ∀ id, (∀ c ∈ (p.node id).children, P c) → P id) (id : NodeId) : P id := by
  induction hn : p.size - (p.lineage id).length using Nat.strongRecOn generalizing id with
  | _ n ih =>
      apply step id
      intro c hc
      have hlen := h.length_lineage_child ((h.mem_children_iff id c).1 hc)
      have hle := h.length_lineage_le (h.lt_of_mem_children hc)
      exact ih _ (by omega) c rfl

theorem up_induction (h : p.WellFormed) {P : NodeId → Prop}
    (top : ∀ id, (p.node id).parent = none → P id)
    (step : ∀ id x, (p.node id).parent = some x → P x → P id) (id : NodeId) : P id := by
  induction id using h.wellFounded.induction with
  | _ id ih =>
      cases hp : (p.node id).parent with
      | none => exact top id hp
      | some x => exact step id x hp (ih x hp)

/-- Links stay without circles when some nodes, none of them above `x`, get the parent `x`. -/
theorem wellFounded_relink (h : p.WellFormed) {parent : NodeId → Option NodeId} {rs : List NodeId}
    (hx : ∀ r ∈ rs, r ∉ p.lineage x)
    (hlinks : ∀ y z, parent y = some z → (p.node y).parent = some z ∨ (y ∈ rs ∧ z = x)) :
    WellFounded (fun z y => parent y = some z) := by
  -- above a node that has none of `rs` in its lineage nothing has changed
  have hkept : ∀ y, (∀ r ∈ rs, r ∉ p.lineage y) → Acc (fun z y => parent y = some z) y := by
    intro y
    induction y using h.wellFounded.induction with
    | _ y ih =>
        intro hy
        refine ⟨y, ?_⟩
        intro z hz
        rcases hlinks y z hz with hz | ⟨hmem, -⟩
        · refine ih z hz (fun r hr hmem => hy r hr ?_)
          exact h.mem_lineage_trans hmem (h.mem_lineage_of_parent hz)
        · exact absurd (h.mem_lineage_self y) (hy y hmem)
  refine ⟨?_⟩
  intro y
  induction y using h.wellFounded.induction with
  | _ y ih =>
      refine ⟨y, ?_⟩
      intro z hz
      rcases hlinks y z hz with hz | ⟨-, rfl⟩
      · exact ih z hz
      · exact hkept z hx

end WellFormed

/-! ## Growing -/

theorem parent_add {n : Node} (hn : n.parent = none) (y : NodeId) :
    ((p.add n).2.node y).parent = (p.node y).parent := by
  rw [node_add]
  split
  · rename_i hy
    rw [hy, parent_of_le (Nat.le_refl _), hn]
  · rfl

theorem children_add {n : Node} (hn : n.children = []) (y : NodeId) :
    ((p.add n).2.node y).children = (p.node y).children := by
  rw [node_add]
  split
  · rename_i hy
    rw [hy, children_of_le (Nat.le_refl _), hn]
  · rfl

theorem WellFormed.add (h : p.WellFormed) {n : Node} (hparent : n.parent = none)
    (hchildren : n.children = []) : (p.add n).2.WellFormed where
  id_node := by
    intro y hy
    rw [node_add]
    split
    · rename_i hy'
      exact hy'.symm
    · rename_i hne
      rw [size_add] at hy
      exact h.id_node y (Nat.lt_of_le_of_ne (Nat.lt_succ_iff.1 hy) hne)
  mem_children_iff := by
    intro y c
    rw [children_add hchildren, parent_add hparent, h.mem_children_iff]
  nodup_children := by
    intro y
    rw [children_add hchildren]
    exact h.nodup_children y
  wellFounded := by
    refine Subrelation.wf ?_ h.wellFounded
    intro z y hz
    rwa [parent_add hparent] at hz

/-! ## Climbing -/

theorem Upward.climb_eq (hup : p.Upward id l) (h : p.WellFormed) (hid : id < p.size)
    {links : Nat} (hlen : l.length ≤ links) : p.climb a links id = .ok (decide (a ∈ l)) := by
  induction hup generalizing links with
  | @top id hp =>
      cases links with
      | zero => simp at hlen
      | succ links =>
          by_cases ha : id = a
          · simp [climb, ha]
          · simp [climb, ha, Ne.symm ha, get_of_lt hid, hp]
  | @step id x l hp _ ih =>
      cases links with
      | zero => simp at hlen
      | succ links =>
          by_cases ha : id = a
          · simp [climb, ha]
          · simp [climb, ha, Ne.symm ha, get_of_lt hid, hp,
              ih (h.parent_lt hp) (Nat.le_of_succ_le_succ hlen)]

theorem WellFormed.isInclusiveAncestor_eq (h : p.WellFormed) (a : NodeId) (hid : id < p.size) :
    p.isInclusiveAncestor a id = .ok (decide (a ∈ p.lineage id)) :=
  (h.upward_lineage id).climb_eq h hid (Nat.le_succ_of_le (h.length_lineage_le hid))

end PhraseMark.Page
