import PhraseMark.Proofs.History
import PhraseMark.Proofs.Page.Reading
import PhraseMark.Proofs.Page.Snapshots

/-!
# Loading a snapshot

A snapshot whose nodes are all sound becomes a page in which the node numbered `i` was read from
the `i`-th node of the snapshot in document order. Otherwise the first node that is not sound gives
the fault.

While a node is read, its children hang on it by their parent links only; its own list of children
is written last. `Grown` says what has been added to a page at such a moment.
-/

namespace PhraseMark.Page

open Snapshot

variable {p q r : Page} {parent : Option NodeId} {i depth maxDepth : Nat} {j : Json}
  {part : List (Nat × Json)} {parts : List (List (Nat × Json))}

section SetChildren

variable {id x : NodeId} {ids : List NodeId}

def setChildren (p : Page) (id : NodeId) (ids : List NodeId) : Page :=
  p.modify id (fun m => { m with children := ids })

theorem relinked_setChildren (p : Page) (id : NodeId) (ids : List NodeId) :
    Relinked p (p.setChildren id ids) :=
  relinked_modify p id _ (fun _ => rfl)

theorem node_setChildren_self (h : id < p.size) :
    (p.setChildren id ids).node id = { p.node id with children := ids } := by
  rw [setChildren, node_modify, if_pos ⟨rfl, h⟩]

theorem node_setChildren_of_ne (h : x ≠ id) : (p.setChildren id ids).node x = p.node x := by
  rw [setChildren, node_modify, if_neg (fun hx => h hx.1)]

theorem parent_setChildren (p : Page) (id : NodeId) (ids : List NodeId) (x : NodeId) :
    ((p.setChildren id ids).node x).parent = (p.node x).parent :=
  parent_modify_children p id x (fun _ => ids)

end SetChildren

/-- The node at a place was read from `j`, and its children follow it in document order. -/
structure Planted (q : Page) (i : NodeId) (depth : Nat) (j : Json) : Prop where
  id : (q.node i).id = i
  carries : (q.node i).Carries j
  children : (q.node i).children = starts (i + 1) (branches (depth + 1) (childrenOf j))
  linked : ∀ c ∈ (q.node i).children, c < q.size ∧ (q.node c).parent = some i

theorem Planted.congr (h : q.Planted i depth j) (hnode : r.node i = q.node i)
    (hlinked : ∀ c < q.size, c < r.size ∧ (r.node c).parent = (q.node c).parent) :
    r.Planted i depth j := by
  refine ⟨hnode ▸ h.id, hnode ▸ h.carries, hnode ▸ h.children, fun c hc => ?_⟩
  rw [hnode] at hc
  obtain ⟨hlt, hparent⟩ := h.linked c hc
  obtain ⟨hlt', hparent'⟩ := hlinked c hlt
  exact ⟨hlt', hparent'.trans hparent⟩

theorem planted_of_node {n : Node} (hn : n.Carries j)
    (hnode : q.node i = { n with
      id := i, children := starts (i + 1) (branches (depth + 1) (childrenOf j)) })
    (hlinked : ∀ c ∈ starts (i + 1) (branches (depth + 1) (childrenOf j)),
      c < q.size ∧ (q.node c).parent = some i) : q.Planted i depth j := by
  refine ⟨?_, ?_, ?_, ?_⟩
  · rw [hnode]
  · rw [hnode]
    exact ⟨hn.kind, hn.backendId, hn.name, hn.value, hn.attributes, hn.visible⟩
  · rw [hnode]
  · rw [hnode]
    exact hlinked

/-- The second page has, besides the nodes of the first, nodes read from some parts of a walk. The
first node of each part hangs on `parent`, all others on nodes that list them. -/
structure Grown (p q : Page) (parent : Option NodeId) (parts : List (List (Nat × Json))) :
    Prop where
  size : q.size = p.size + parts.flatten.length
  root : q.root = p.root
  kept : ∀ x < p.size, q.node x = p.node x
  tops : ∀ c ∈ starts p.size parts, (q.node c).parent = parent
  planted : ∀ (i d : Nat) (j : Json), parts.flatten[i]? = some (d, j) →
    q.Planted (p.size + i) d j
  reached : ∀ c, p.size ≤ c → c < q.size →
    c ∈ starts p.size parts ∨ ∃ x, p.size ≤ x ∧ c ∈ (q.node x).children
  anchored : p.Anchored → q.Anchored

namespace Grown

theorem refl (p : Page) (parent : Option NodeId) : p.Grown p parent [] where
  size := rfl
  root := rfl
  kept := fun _ _ => rfl
  tops := fun c hc => absurd hc List.not_mem_nil
  planted := fun i d j h => absurd h (by simp)
  reached := fun c hle hlt => absurd hlt (Nat.not_lt.2 hle)
  anchored := fun h => h

theorem cons (h : p.Grown q parent [part]) (hpart : part ≠ []) (h' : q.Grown r parent parts) :
    p.Grown r parent (part :: parts) := by
  have hq : q.size = p.size + part.length := by
    rw [h.size, List.flatten_singleton]
  have hpos := List.length_pos_of_ne_nil hpart
  have hstarts : starts p.size (part :: parts) = p.size :: starts q.size parts := by
    rw [starts, hq]
  have hle : q.size ≤ r.size := h'.size ▸ Nat.le_add_right _ _
  refine
    { size := ?size
      root := h'.root.trans h.root
      kept := ?kept
      tops := ?tops
      planted := ?planted
      reached := ?reached
      anchored := fun ha => h'.anchored (h.anchored ha) }
  case size =>
    rw [h'.size, hq, List.flatten_cons, List.length_append, Nat.add_assoc]
  case kept =>
    intro x hx
    rw [h'.kept x (by omega), h.kept x hx]
  case tops =>
    intro c hc
    rw [hstarts] at hc
    rcases List.mem_cons.1 hc with rfl | hc
    · rw [h'.kept p.size (by omega)]
      exact h.tops p.size List.mem_cons_self
    · exact h'.tops c hc
  case planted =>
    intro i d j hi
    rw [List.flatten_cons] at hi
    by_cases hlt : i < part.length
    · rw [List.getElem?_append_left hlt] at hi
      have hplanted := h.planted i d j (by rwa [List.flatten_singleton])
      refine hplanted.congr (h'.kept _ (by omega)) (fun c hc => ?_)
      exact ⟨Nat.lt_of_lt_of_le hc hle, by rw [h'.kept c hc]⟩
    · rw [List.getElem?_append_right (Nat.not_lt.1 hlt)] at hi
      have hplanted := h'.planted (i - part.length) d j hi
      rwa [show q.size + (i - part.length) = p.size + i by omega] at hplanted
  case reached =>
    intro c hcle hclt
    rw [hstarts]
    by_cases hcq : c < q.size
    · rcases h.reached c hcle hcq with hc | ⟨x, hx, hc⟩
      · rw [List.mem_singleton.1 hc]
        exact .inl List.mem_cons_self
      · refine .inr ⟨x, hx, ?_⟩
        rwa [h'.kept x (lt_of_mem_children hc)]
    · rcases h'.reached c (Nat.not_lt.1 hcq) hclt with hc | ⟨x, hx, hc⟩
      · exact .inl (List.mem_cons_of_mem _ hc)
      · exact .inr ⟨x, Nat.le_trans (by omega) hx, hc⟩

/-- A node whose children have been read gets its list of children. -/
theorem plant {n : Node} (hn : n.Carries j) (hparent : n.parent = parent)
    (h : (p.add n).2.Grown q (some p.size) (branches (depth + 1) (childrenOf j))) :
    p.Grown (q.setChildren p.size (starts (p.size + 1) (branches (depth + 1) (childrenOf j))))
      parent [walk depth j] := by
  have hsize := h.size
  have htops := h.tops
  have hreached := h.reached
  have hplanted := h.planted
  simp only [size_add] at hsize htops hreached hplanted
  have hlt : p.size < q.size := by omega
  have hself : q.node p.size = { n with id := p.size } := by
    rw [h.kept p.size (by rw [size_add]; omega), node_add, if_pos rfl]
  generalize hids : starts (p.size + 1) _ = ids at htops hreached ⊢
  have hrelinked := relinked_setChildren q p.size ids
  have hrparent := parent_setChildren q p.size ids
  have hrother : ∀ x, x ≠ p.size → (q.setChildren p.size ids).node x = q.node x :=
    fun x hx => node_setChildren_of_ne hx
  have hrself : (q.setChildren p.size ids).node p.size =
      { n with id := p.size, children := ids } := by
    rw [node_setChildren_self hlt, hself]
  refine
    { size := ?size
      root := hrelinked.root.trans h.root
      kept := ?kept
      tops := ?tops
      planted := ?planted
      reached := ?reached
      anchored := fun ha => (h.anchored (ha.add n)).relinked hrelinked }
  case size =>
    rw [hrelinked.size, hsize, List.flatten_singleton, walk_eq_cons_flatten, List.length_cons]
    omega
  case kept =>
    intro x hx
    rw [hrother x (Nat.ne_of_lt hx), h.kept x (by rw [size_add]; omega), node_add,
      if_neg (Nat.ne_of_lt hx)]
  case tops =>
    intro c hc
    rw [List.mem_singleton.1 hc, hrparent, hself]
    exact hparent
  case planted =>
    intro i d k hi
    rw [List.flatten_singleton, walk_eq_cons_flatten] at hi
    cases i with
    | zero =>
        rw [List.getElem?_cons_zero, Option.some.injEq, Prod.mk.injEq] at hi
        obtain ⟨rfl, rfl⟩ := hi
        subst hids
        refine planted_of_node hn hrself (fun c hc => ?_)
        have hclt := lt_of_mem_starts (fun _ hpart => ne_nil_of_mem_branches hpart) hc
        exact ⟨by rwa [hrelinked.size, hsize], (hrparent c).trans (htops c hc)⟩
    | succ i =>
        rw [List.getElem?_cons_succ] at hi
        have hbelow := hplanted i d k hi
        rw [Nat.add_assoc, Nat.add_comm 1 i] at hbelow
        refine hbelow.congr (hrother _ (by omega)) (fun c hc => ⟨?_, hrparent c⟩)
        rwa [hrelinked.size]
  case reached =>
    intro c hle hclt
    rw [hrelinked.size] at hclt
    rcases Nat.eq_or_lt_of_le hle with rfl | hgt
    · exact .inl List.mem_cons_self
    · rcases hreached c hgt hclt with hc | ⟨x, hx, hc⟩
      · refine .inr ⟨p.size, Nat.le_refl _, ?_⟩
        rwa [hrself]
      · refine .inr ⟨x, Nat.le_of_succ_le hx, ?_⟩
        rwa [hrother x (by omega)]

end Grown

/-! ## Reading -/

/-- A reading that starts with the page `p` fails with the first defect of some parts of a walk,
and gives `value` if there is none. -/
structure Settled (maxDepth : Nat) (p : Page) (parent : Option NodeId)
    (parts : List (List (Nat × Json))) {α : Type} (value : α) (outcome : Page × Except Fault α) :
    Prop where
  failed : ∀ e, firstDefect? maxDepth parts.flatten = some e → outcome.2 = .error e
  done : firstDefect? maxDepth parts.flatten = none →
    ∃ q, outcome = (q, .ok value) ∧ p.Grown q parent parts

theorem Settled.of_defect {α : Type} {value : α} {e : Fault}
    (h : firstDefect? maxDepth parts.flatten = some e) (q : Page) :
    Settled maxDepth p parent parts value (q, .error e) := by
  refine ⟨fun e' he => ?_, fun hnone => ?_⟩
  · rw [h, Option.some.injEq] at he
    rw [he]
  · rw [h] at hnone
    cases hnone

theorem eq_of_snd_error {α : Type} {outcome : Page × Except Fault α} {e : Fault}
    (h : outcome.2 = .error e) : outcome = (outcome.1, .error e) :=
  Prod.ext rfl h

theorem settled_readAll {read : Page → Json → Page × Except Fault NodeId} {js : List Json}
    (hread : ∀ j ∈ js, ∀ p, Settled maxDepth p parent [walk depth j] p.size (read p j))
    (p : Page) :
    Settled maxDepth p parent (branches depth js) (starts p.size (branches depth js))
      (readAll read js p) := by
  induction js generalizing p with
  | nil =>
      refine ⟨fun e he => ?_, fun _ => ⟨p, rfl, .refl p parent⟩⟩
      cases he
  | cons j js ih =>
      have hfirst : firstDefect? maxDepth (branches depth (j :: js)).flatten =
          (firstDefect? maxDepth (walk depth j)).or
            (firstDefect? maxDepth (branches depth js).flatten) := by
        rw [← firstDefect?_append]
        rfl
      obtain ⟨hfailed, hdone⟩ := hread j List.mem_cons_self p
      rw [List.flatten_singleton] at hfailed hdone
      cases hj : firstDefect? maxDepth (walk depth j) with
      | some e =>
          rw [readAll, eq_of_snd_error (hfailed e hj)]
          apply Settled.of_defect
          rw [hfirst, hj, Option.some_or]
      | none =>
          rw [hj, Option.none_or] at hfirst
          obtain ⟨q, hq, hgrown⟩ := hdone hj
          obtain ⟨hfailed', hdone'⟩ := ih (fun k hk => hread k (List.mem_cons_of_mem j hk)) q
          refine ⟨fun e he => ?_, fun hnone => ?_⟩
          · rw [readAll, hq]
            dsimp only
            rw [eq_of_snd_error (hfailed' e (hfirst ▸ he))]
          · obtain ⟨r, hr, hgrown'⟩ := hdone' (hfirst ▸ hnone)
            refine ⟨r, ?_, hgrown.cons (walk_ne_nil depth j) hgrown'⟩
            have hsize : q.size = p.size + (walk depth j).length := by
              rw [hgrown.size, List.flatten_singleton]
            simp only [readAll, hq, hr, branches, List.map_cons, starts, hsize]

theorem settled_readTree {levels : Nat} (hlevels : levels + depth = maxDepth + 1)
    (parent : Option NodeId) (p : Page) (j : Json) :
    Settled maxDepth p parent [walk depth j] p.size (readTree maxDepth levels parent p j) := by
  induction levels generalizing depth parent p j with
  | zero =>
      -- the node lies one level below the last that may be read
      have hdepth : maxDepth + 1 = depth := by omega
      rw [readTree]
      apply Settled.of_defect
      rw [List.flatten_singleton, walk_eq, firstDefect?, List.findSome?_cons, defect?,
        if_pos (by omega), hdepth]
  | succ levels ih =>
      have hdepth : depth ≤ maxDepth := by omega
      have hfirst : firstDefect? maxDepth [walk depth j].flatten =
          (defect? maxDepth depth j).or
            (firstDefect? maxDepth (branches (depth + 1) (childrenOf j)).flatten) := by
        rw [List.flatten_singleton, walk_eq_cons_flatten, firstDefect?, List.findSome?_cons]
        cases defect? maxDepth depth j <;> rfl
      cases hj : defect? maxDepth depth j with
      | some e =>
          rw [readTree, nodeOf_of_defect hdepth hj parent]
          apply Settled.of_defect
          rw [hfirst, hj, Option.some_or]
      | none =>
          rw [hj, Option.none_or] at hfirst
          obtain ⟨n, hn, hcarries, hparent⟩ := nodeOf_of_sound (defect?_eq_none_iff.1 hj) parent
          have hread : ∀ c ∈ childrenOf j, ∀ p', Settled maxDepth p' (some p.size)
              [walk (depth + 1) c] p'.size (readTree maxDepth levels (some p.size) p' c) :=
            fun c _ p' => ih (by omega) (some p.size) p' c
          obtain ⟨hfailed, hdone⟩ := settled_readAll hread (p.add n).2
          rw [readTree, hn]
          dsimp only
          rw [fst_add]
          refine ⟨fun e he => ?_, fun hnone => ?_⟩
          · rw [eq_of_snd_error (hfailed e (hfirst ▸ he))]
          · obtain ⟨q, hq, hgrown⟩ := hdone (hfirst ▸ hnone)
            rw [hq]
            refine ⟨_, rfl, ?_⟩
            have hplant := hgrown.plant hcarries hparent
            rwa [size_add]

/-! ## The whole page -/

namespace Grown

variable {root : Json}

theorem size_eq (h : empty.Grown q none [walk 0 root]) : q.size = (walk 0 root).length := by
  rw [h.size, List.flatten_singleton]
  exact Nat.zero_add _

theorem planted_of_getElem? (h : empty.Grown q none [walk 0 root])
    (hi : (walk 0 root)[i]? = some (depth, j)) : q.Planted i depth j := by
  have hplanted := h.planted i depth j (by rwa [List.flatten_singleton])
  rwa [show empty.size + i = i from Nat.zero_add i] at hplanted

theorem exists_planted (h : empty.Grown q none [walk 0 root]) (hi : i < q.size) :
    ∃ d j, q.Planted i d j := by
  rw [h.size_eq] at hi
  exact ⟨_, _, h.planted_of_getElem? (List.getElem?_eq_getElem hi)⟩

/-- Nodes are numbered from above, so no way up runs in a circle. -/
theorem wellFormed (h : empty.Grown q none [walk 0 root]) : q.WellFormed := by
  have hlist : ∀ x c, c ∈ (q.node x).children ↔ (q.node c).parent = some x := by
    intro x c
    constructor
    · intro hc
      obtain ⟨d, j, hx⟩ := h.exists_planted (lt_of_mem_children hc)
      exact (hx.linked c hc).2
    · intro hc
      rcases h.reached c (Nat.zero_le c) (lt_of_parent hc) with htop | ⟨y, -, hy⟩
      · rw [h.tops c htop] at hc
        cases hc
      · obtain ⟨d, j, hplant⟩ := h.exists_planted (lt_of_mem_children hy)
        rw [(hplant.linked c hy).2, Option.some.injEq] at hc
        exact hc ▸ hy
  refine
    { id_node := ?id_node
      mem_children_iff := hlist
      nodup_children := ?nodup_children
      wellFounded := ?wellFounded }
  case id_node =>
    intro x hx
    obtain ⟨d, j, hxj⟩ := h.exists_planted hx
    exact hxj.id
  case nodup_children =>
    intro x
    by_cases hx : x < q.size
    · obtain ⟨d, j, hxj⟩ := h.exists_planted hx
      rw [hxj.children]
      exact nodup_starts (fun _ hpart => ne_nil_of_mem_branches hpart)
    · rw [children_of_le (Nat.not_lt.1 hx)]
      exact List.nodup_nil
  case wellFounded =>
    refine Subrelation.wf (fun {x c} hc => ?_) Nat.lt_wfRel.wf
    have hmem := (hlist x c).2 hc
    obtain ⟨d, j, hx⟩ := h.exists_planted (lt_of_mem_children hmem)
    rw [hx.children] at hmem
    exact le_of_mem_starts hmem

/-- The tree of a node takes the places of its part of the walk. -/
theorem ids_tree (h : empty.Grown q none [walk 0 root])
    (hi : (walk 0 root)[i]? = some (depth, j)) :
    (q.tree i).ids = List.range' i (walk depth j).length := by
  induction j using induct generalizing i depth with
  | step j ih =>
      have hall : ∀ cs : List Json, (∀ c ∈ cs, c ∈ childrenOf j) → ∀ n,
          List.Forall₂ (fun place c => (walk 0 root)[place]? = some (depth + 1, c))
            (starts n (branches (depth + 1) cs)) cs →
          (starts n (branches (depth + 1) cs)).flatMap (fun c => (q.tree c).ids) =
            List.range' n (branches (depth + 1) cs).flatten.length := by
        intro cs hcs
        induction cs with
        | nil =>
            intro n _
            rfl
        | cons c cs ihcs =>
            intro n hplaces
            obtain ⟨hplace, hrest⟩ := List.forall₂_cons.1 hplaces
            have htail := ihcs (fun b hb => hcs b (List.mem_cons_of_mem c hb)) _ hrest
            simp only [branches, List.map_cons, starts, List.flatMap_cons, List.flatten_cons,
              List.length_append] at htail ⊢
            rw [ih c (hcs c List.mem_cons_self) hplace, htail, List.range'_append_1]
      have hlt : i < q.size := by
        rw [h.size_eq]
        exact (List.getElem?_eq_some_iff.1 hi).1
      have hchildren := (h.planted_of_getElem? hi).children
      rw [h.wellFormed.ids_tree hlt, hchildren, walk_eq_cons_flatten, List.length_cons,
        List.range'_succ, hall _ (fun c hc => hc) (i + 1) (forall₂_starts_walk hi)]

end Grown

/-- The page was read from a snapshot with the root `top`: its nodes are those of the snapshot,
numbered in document order. -/
structure Holds (q : Page) (top : Json) : Prop where
  consistent : q.Consistent
  root : q.root = some 0
  parentless : (q.node 0).parent = none
  size : q.size = (walk 0 top).length
  carries : ∀ (i depth : Nat) (j : Json), (walk 0 top)[i]? = some (depth, j) →
    (q.node i).Carries j
  children : ∀ (i depth : Nat) (j : Json), (walk 0 top)[i]? = some (depth, j) →
    List.Forall₂ (fun c k => (walk 0 top)[c]? = some (depth + 1, k)) (q.node i).children
      (childrenOf j)
  traverse : q.traverse 0 (fun n ids => .ok (ids ++ [n.id])) [] = .ok (List.range q.size)

theorem Grown.holds {top : Json} (h : empty.Grown q none [walk 0 top]) :
    ({ q with root := some 0 } : Page).Holds top := by
  have hpos : 0 < q.size := by
    rw [h.size_eq]
    exact List.length_pos_of_ne_nil (walk_ne_nil 0 top)
  have hwf : ({ q with root := some 0 } : Page).WellFormed :=
    ⟨h.wellFormed.id_node, h.wellFormed.mem_children_iff, h.wellFormed.nodup_children,
      h.wellFormed.wellFounded⟩
  have hindex := (h.anchored anchored_empty).ofBackend?_eq
  refine
    { consistent := ⟨hwf, ⟨?root_lt, hindex⟩⟩
      root := rfl
      parentless := h.tops 0 List.mem_cons_self
      size := h.size_eq
      carries := ?carries
      children := ?children
      traverse := ?traverse }
  case root_lt =>
    intro root hroot
    cases hroot
    exact hpos
  case carries =>
    intro i depth j hi
    exact (h.planted_of_getElem? hi).carries
  case children =>
    intro i depth j hi
    have hplaces := forall₂_starts_walk hi
    rwa [← (h.planted_of_getElem? hi).children] at hplaces
  case traverse =>
    have hfirst : (walk 0 top)[0]? = some (0, top) := by
      rw [walk_eq]
      rfl
    rw [hwf.traverse_ids hpos, h.wellFormed.tree_congr hwf (fun _ _ => rfl), h.ids_tree hfirst,
      ← h.size_eq, List.range_eq_range']
    rfl

section Load

variable {snapshot top : Json}

theorem load_of_get?_eq_none (h : snapshot.get? "root" = none) (maxDepth : Nat) (p : Page) :
    p.load maxDepth snapshot = (p, .error (.malformedSnapshot .missingRoot)) := by
  rw [load, h]

theorem settled_readTree_top (maxDepth : Nat) (top : Json) :
    Settled maxDepth empty none [walk 0 top] 0
      (readTree maxDepth (maxDepth + 1) none empty top) :=
  settled_readTree (Nat.add_zero _) none empty top

theorem load_of_defect {e : Fault} (hroot : snapshot.get? "root" = some top)
    (h : firstDefect? maxDepth (walk 0 top) = some e) (p : Page) :
    (p.load maxDepth snapshot).2 = .error e := by
  have hfailed := (settled_readTree_top maxDepth top).failed e
  rw [List.flatten_singleton] at hfailed
  rw [load, hroot]
  dsimp only
  rw [eq_of_snd_error (hfailed h)]

theorem load_of_sound (hroot : snapshot.get? "root" = some top)
    (h : ∀ entry ∈ walk 0 top, Sound maxDepth entry.1 entry.2) :
    ∃ q : Page, q.Holds top ∧ ∀ p : Page, p.load maxDepth snapshot = (q, .ok 0) := by
  have hdone := (settled_readTree_top maxDepth top).done
  rw [List.flatten_singleton] at hdone
  obtain ⟨q, hq, hgrown⟩ := hdone (firstDefect?_eq_none_iff.2 h)
  refine ⟨_, hgrown.holds, fun p => ?_⟩
  rw [load, hroot]
  dsimp only
  rw [hq]

theorem exists_load_iff (maxDepth : Nat) (snapshot : Json) (p : Page) :
    (∃ id, (p.load maxDepth snapshot).2 = .ok id) ↔
      ∃ top, snapshot.get? "root" = some top ∧
        ∀ entry ∈ walk 0 top, Sound maxDepth entry.1 entry.2 := by
  constructor
  · rintro ⟨id, hid⟩
    cases hroot : snapshot.get? "root" with
    | none =>
        rw [load_of_get?_eq_none hroot] at hid
        cases hid
    | some top =>
        refine ⟨top, rfl, firstDefect?_eq_none_iff.1 ?_⟩
        cases hdefect : firstDefect? maxDepth (walk 0 top) with
        | none => rfl
        | some e =>
            rw [load_of_defect hroot hdefect p] at hid
            cases hid
  · rintro ⟨top, hroot, hsound⟩
    obtain ⟨q, -, hload⟩ := load_of_sound hroot hsound
    exact ⟨0, by rw [hload p]⟩

theorem holds_of_load {p q : Page} {id : NodeId} (hload : p.load maxDepth snapshot = (q, .ok id)) :
    ∃ top, snapshot.get? "root" = some top ∧
      (∀ entry ∈ walk 0 top, Sound maxDepth entry.1 entry.2) ∧ q.Holds top := by
  obtain ⟨top, hroot, hsound⟩ := (exists_load_iff maxDepth snapshot p).1 ⟨id, by rw [hload]⟩
  obtain ⟨page, hholds, hpage⟩ := load_of_sound hroot hsound
  cases (hpage p).symm.trans hload
  exact ⟨top, hroot, hsound, hholds⟩

end Load

end PhraseMark.Page
