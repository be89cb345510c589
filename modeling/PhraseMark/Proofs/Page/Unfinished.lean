import PhraseMark.Proofs.Page.Loading

/-!
# Unfinished pages

A snapshot with a node that is not sound leaves the nodes before the first such node on the page, in
place of what the page held. A node gets its list of children when all that stands under it has been
read, so the nodes above the one that stopped the reading list no children, though these have links
to them, and the page has no root. `Stunted` says what has been added to a page at such a moment.
-/

namespace PhraseMark

namespace Snapshot

variable {j k : Json} {depth d maxDepth i : Nat} {e : Fault} {l m : List (Nat × Json)}

theorem length_walk_le (h : (walk depth j)[i]? = some (d, k)) :
    i + (walk d k).length ≤ (walk depth j).length := by
  have hlt := (List.getElem?_eq_some_iff.1 h).1
  have hlen := (walk_drop h).length_le
  rw [List.length_drop] at hlen
  omega

/-- The `i`-th node is the first with which something is wrong, and `e` is what is wrong. -/
structure StopsAt (maxDepth : Nat) (l : List (Nat × Json)) (i : Nat) (e : Fault) : Prop where
  exists_defect : ∃ d j, l[i]? = some (d, j) ∧ defect? maxDepth d j = some e
  sound : ∀ entry ∈ l.take i, Sound maxDepth entry.1 entry.2

theorem StopsAt.lt_length (h : StopsAt maxDepth l i e) : i < l.length := by
  obtain ⟨d, j, hi, -⟩ := h.exists_defect
  exact (List.getElem?_eq_some_iff.1 hi).1

theorem StopsAt.append (h : StopsAt maxDepth l i e) (m : List (Nat × Json)) :
    StopsAt maxDepth (l ++ m) i e where
  exists_defect := by
    rw [List.getElem?_append_left h.lt_length]
    exact h.exists_defect
  sound := by
    rw [List.take_append_of_le_length (Nat.le_of_lt h.lt_length)]
    exact h.sound

theorem StopsAt.prepend (h : StopsAt maxDepth m i e) (hl : firstDefect? maxDepth l = none) :
    StopsAt maxDepth (l ++ m) (l.length + i) e where
  exists_defect := by
    rw [List.getElem?_append_right (Nat.le_add_right _ _), Nat.add_sub_cancel_left]
    exact h.exists_defect
  sound := by
    intro entry hentry
    rw [List.take_length_add_append] at hentry
    rcases List.mem_append.1 hentry with hentry | hentry
    · exact firstDefect?_eq_none_iff.1 hl entry hentry
    · exact h.sound entry hentry

theorem stopsAt_walk_zero (h : defect? maxDepth depth j = some e) :
    StopsAt maxDepth (walk depth j) 0 e where
  exists_defect := ⟨depth, j, by rw [walk_eq, List.getElem?_cons_zero], h⟩
  sound := fun entry hentry => by cases hentry

theorem StopsAt.walk (h : StopsAt maxDepth (branches (depth + 1) (childrenOf j)).flatten i e)
    (hj : defect? maxDepth depth j = none) : StopsAt maxDepth (walk depth j) (i + 1) e := by
  have hfirst : firstDefect? maxDepth [(depth, j)] = none := by
    rw [firstDefect?, List.findSome?_singleton, hj]
  rw [walk_eq_cons_flatten, Nat.add_comm i 1]
  exact h.prepend hfirst

theorem children_of_nodeOf {parent : Option NodeId} {n : Node} (h : nodeOf parent j = .ok n) :
    n.children = [] := by
  unfold nodeOf at h
  repeat' split at h
  all_goals cases h <;> rfl

end Snapshot

namespace Page

open Snapshot

variable {p q r : Page} {parent : Option NodeId} {i k depth maxDepth : Nat} {j : Json} {e : Fault}
  {part : List (Nat × Json)} {parts : List (List (Nat × Json))}

/-- The node at a place was read from `j`. It lists its children, which follow it in document order,
if all that stands under it is on the page, and none otherwise. Children on the page have links to
it in any case. -/
structure Sprouted (q : Page) (i : NodeId) (depth : Nat) (j : Json) : Prop where
  id : (q.node i).id = i
  carries : (q.node i).Carries j
  children : (q.node i).children =
    if i + (walk depth j).length ≤ q.size then starts (i + 1) (branches (depth + 1) (childrenOf j))
    else []
  linked : ∀ c ∈ starts (i + 1) (branches (depth + 1) (childrenOf j)), c < q.size →
    (q.node c).parent = some i

/-- The second page has, besides the nodes of the first, nodes read from the first `k` nodes of some
parts of a walk. The first node of each part hangs on `parent`. -/
structure Stunted (p q : Page) (parent : Option NodeId) (parts : List (List (Nat × Json)))
    (k : Nat) : Prop where
  size : q.size = p.size + k
  root : q.root = p.root
  kept : ∀ x < p.size, q.node x = p.node x
  tops : ∀ c ∈ starts p.size parts, c < q.size → (q.node c).parent = parent
  sprouted : ∀ (i d : Nat) (j : Json), i < k → parts.flatten[i]? = some (d, j) →
    q.Sprouted (p.size + i) d j
  anchored : p.Anchored → q.Anchored

namespace Stunted

theorem refl (p : Page) (parent : Option NodeId) (parts : List (List (Nat × Json))) :
    p.Stunted p parent parts 0 where
  size := rfl
  root := rfl
  kept := fun _ _ => rfl
  tops := fun _ hc hlt => absurd hlt (Nat.not_lt.2 (le_of_mem_starts hc))
  sprouted := fun i _ _ hi => absurd hi (Nat.not_lt_zero i)
  anchored := fun h => h

/-- Parts that follow the one in which the reading stopped do not matter. -/
theorem append (h : p.Stunted q parent [part] k) (hk : k ≤ part.length)
    (parts : List (List (Nat × Json))) : p.Stunted q parent (part :: parts) k where
  size := h.size
  root := h.root
  kept := h.kept
  tops := by
    intro c hc hlt
    rcases List.mem_cons.1 hc with rfl | hc
    · exact h.tops p.size List.mem_cons_self hlt
    · have hle := le_of_mem_starts hc
      rw [h.size] at hlt
      omega
  sprouted := by
    intro i d j hi hj
    rw [List.flatten_cons, List.getElem?_append_left (Nat.lt_of_lt_of_le hi hk)] at hj
    exact h.sprouted i d j hi (by rwa [List.flatten_singleton])
  anchored := h.anchored

/-- A node of which the children have not all been read lists none of them. -/
theorem plant {n : Node} (hn : n.Carries j) (hparent : n.parent = parent)
    (hchildren : n.children = [])
    (h : (p.add n).2.Stunted q (some p.size) (branches (depth + 1) (childrenOf j)) k)
    (hk : k < (branches (depth + 1) (childrenOf j)).flatten.length) :
    p.Stunted q parent [walk depth j] (k + 1) := by
  have hsize := h.size
  have htops := h.tops
  have hsprouted := h.sprouted
  simp only [size_add] at hsize htops hsprouted
  have hself : q.node p.size = { n with id := p.size } := by
    rw [h.kept p.size (by rw [size_add]; omega), node_add, if_pos rfl]
  refine
    { size := by omega
      root := h.root
      kept := ?kept
      tops := ?tops
      sprouted := ?sprouted
      anchored := fun ha => h.anchored (ha.add n) }
  case kept =>
    intro x hx
    rw [h.kept x (by rw [size_add]; omega), node_add, if_neg (Nat.ne_of_lt hx)]
  case tops =>
    intro c hc _
    rw [List.mem_singleton.1 hc, hself]
    exact hparent
  case sprouted =>
    intro i d c hi hc
    rw [List.flatten_singleton, walk_eq_cons_flatten] at hc
    cases i with
    | zero =>
        rw [List.getElem?_cons_zero, Option.some.injEq, Prod.mk.injEq] at hc
        obtain ⟨rfl, rfl⟩ := hc
        have hshort : ¬ p.size + (walk depth j).length ≤ q.size := by
          rw [hsize, walk_eq_cons_flatten, List.length_cons]
          omega
        refine ⟨?_, ?_, ?_, htops⟩
        · rw [Nat.add_zero, hself]
        · rw [Nat.add_zero, hself]
          exact ⟨hn.kind, hn.backendId, hn.name, hn.value, hn.attributes, hn.visible⟩
        · rw [Nat.add_zero, hself, if_neg hshort]
          exact hchildren
    | succ i =>
        rw [List.getElem?_cons_succ] at hc
        have hbelow := hsprouted i d c (Nat.lt_of_succ_lt_succ hi) hc
        rwa [Nat.add_assoc, Nat.add_comm 1 i] at hbelow

end Stunted

theorem Planted.sprouted (h : q.Planted i depth j) (hnode : ∀ x < q.size, r.node x = q.node x)
    (hlen : i + (walk depth j).length ≤ q.size) (hle : q.size ≤ r.size) :
    r.Sprouted i depth j := by
  have hi : r.node i = q.node i := by
    apply hnode
    have hpos := List.length_pos_of_ne_nil (walk_ne_nil depth j)
    omega
  refine ⟨hi ▸ h.id, hi ▸ h.carries, ?_, ?_⟩
  · rw [if_pos (Nat.le_trans hlen hle), hi, h.children]
  · intro c hc _
    rw [← h.children] at hc
    obtain ⟨hlt, hparent⟩ := h.linked c hc
    rw [hnode c hlt, hparent]

/-- A part that has been read to its end comes before the one in which the reading stopped. -/
theorem Grown.stunted (h : p.Grown q parent [walk depth j]) (h' : q.Stunted r parent parts k) :
    p.Stunted r parent (walk depth j :: parts) ((walk depth j).length + k) := by
  have hq : q.size = p.size + (walk depth j).length := by
    rw [h.size, List.flatten_singleton]
  have hpos := List.length_pos_of_ne_nil (walk_ne_nil depth j)
  have hr := h'.size
  have hstarts : starts p.size (walk depth j :: parts) = p.size :: starts q.size parts := by
    rw [starts, hq]
  refine
    { size := by omega
      root := h'.root.trans h.root
      kept := ?kept
      tops := ?tops
      sprouted := ?sprouted
      anchored := fun ha => h'.anchored (h.anchored ha) }
  case kept =>
    intro x hx
    rw [h'.kept x (by omega), h.kept x hx]
  case tops =>
    intro c hc hlt
    rw [hstarts] at hc
    rcases List.mem_cons.1 hc with rfl | hc
    · rw [h'.kept p.size (by omega)]
      exact h.tops p.size List.mem_cons_self
    · exact h'.tops c hc hlt
  case sprouted =>
    intro i d c hi hc
    rw [List.flatten_cons] at hc
    by_cases hlt : i < (walk depth j).length
    · rw [List.getElem?_append_left hlt] at hc
      have hplanted := h.planted i d c (by rwa [List.flatten_singleton])
      have hlen := length_walk_le hc
      exact hplanted.sprouted h'.kept (by omega) (by omega)
    · rw [List.getElem?_append_right (Nat.not_lt.1 hlt)] at hc
      have hsprouted := h'.sprouted (i - (walk depth j).length) d c (by omega) hc
      rwa [show q.size + (i - (walk depth j).length) = p.size + i by omega] at hsprouted

/-! ## Reading -/

theorem stunted_readAll {read : Page → Json → Page × Except Fault NodeId} {js : List Json}
    (hread : ∀ j ∈ js, ∀ p, Settled maxDepth p parent [walk depth j] p.size (read p j))
    (hstop : ∀ j ∈ js, ∀ (p : Page) (e : Fault), firstDefect? maxDepth (walk depth j) = some e →
      ∃ k, StopsAt maxDepth (walk depth j) k e ∧ p.Stunted (read p j).1 parent [walk depth j] k)
    (p : Page) (he : firstDefect? maxDepth (branches depth js).flatten = some e) :
    ∃ k, StopsAt maxDepth (branches depth js).flatten k e ∧
      p.Stunted (readAll read js p).1 parent (branches depth js) k := by
  induction js generalizing p with
  | nil => cases he
  | cons j js ih =>
      obtain ⟨hfailed, hdone⟩ := hread j List.mem_cons_self p
      rw [List.flatten_singleton] at hfailed hdone
      have hflat : (branches depth (j :: js)).flatten =
          walk depth j ++ (branches depth js).flatten := rfl
      rw [hflat, firstDefect?_append] at he
      rw [hflat]
      cases hj : firstDefect? maxDepth (walk depth j) with
      | some f =>
          rw [hj, Option.some_or, Option.some.injEq] at he
          subst he
          obtain ⟨k, hk, hstunted⟩ := hstop j List.mem_cons_self p f hj
          refine ⟨k, hk.append _, ?_⟩
          rw [readAll, eq_of_snd_error (hfailed f hj)]
          exact hstunted.append (Nat.le_of_lt hk.lt_length) (branches depth js)
      | none =>
          rw [hj, Option.none_or] at he
          obtain ⟨q, hq, hgrown⟩ := hdone hj
          obtain ⟨k, hk, hstunted⟩ := ih (fun c hc => hread c (List.mem_cons_of_mem j hc))
            (fun c hc => hstop c (List.mem_cons_of_mem j hc)) q he
          have hpage : (readAll read (j :: js) p).1 = (readAll read js q).1 := by
            rw [readAll, hq]
            dsimp only
            split <;> rename_i hrest <;> rw [hrest]
          refine ⟨_, hk.prepend hj, ?_⟩
          rw [hpage]
          exact hgrown.stunted hstunted

theorem stunted_readTree {levels : Nat} (hlevels : levels + depth = maxDepth + 1)
    (parent : Option NodeId) (p : Page) (j : Json) (e : Fault)
    (he : firstDefect? maxDepth (walk depth j) = some e) :
    ∃ k, StopsAt maxDepth (walk depth j) k e ∧
      p.Stunted (readTree maxDepth levels parent p j).1 parent [walk depth j] k := by
  induction levels generalizing depth parent p j e with
  | zero =>
      -- the node lies one level below the last that may be read
      have hdeep : defect? maxDepth depth j = some (.tooDeep depth maxDepth) := by
        rw [defect?, if_pos (by omega)]
      rw [walk_eq, firstDefect?, List.findSome?_cons, hdeep, Option.some.injEq] at he
      exact ⟨0, stopsAt_walk_zero (he ▸ hdeep), .refl p parent _⟩
  | succ levels ih =>
      have hdepth : depth ≤ maxDepth := by omega
      cases hj : defect? maxDepth depth j with
      | some f =>
          have hf : f = e := by
            rwa [walk_eq, firstDefect?, List.findSome?_cons, hj, Option.some.injEq] at he
          subst hf
          refine ⟨0, stopsAt_walk_zero hj, ?_⟩
          rw [readTree, nodeOf_of_defect hdepth hj parent]
          exact .refl p parent _
      | none =>
          rw [walk_eq_cons_flatten, firstDefect?, List.findSome?_cons, hj] at he
          obtain ⟨n, hn, hcarries, hparent⟩ := nodeOf_of_sound (defect?_eq_none_iff.1 hj) parent
          have hread : ∀ c ∈ childrenOf j, ∀ p', Settled maxDepth p' (some p.size)
              [walk (depth + 1) c] p'.size (readTree maxDepth levels (some p.size) p' c) :=
            fun c _ p' => settled_readTree (by omega) (some p.size) p' c
          obtain ⟨k, hk, hstunted⟩ := stunted_readAll hread
            (fun c _ p' f hf => ih (by omega) (some p.size) p' c f hf) (p.add n).2 he
          have hfailed := (settled_readAll hread (p.add n).2).failed e he
          refine ⟨k + 1, hk.walk hj, ?_⟩
          rw [readTree, hn]
          dsimp only
          rw [fst_add, eq_of_snd_error hfailed]
          exact hstunted.plant hcarries hparent (children_of_nodeOf hn) hk.lt_length

/-! ## The whole page -/

theorem eq_empty_of_size (hsize : q.size = 0) (hroot : q.root = none) (hq : q.Anchored) :
    q = empty := by
  refine ext_node hsize (fun x hx => ?_) ?_ hroot
  · rw [hsize] at hx
    exact absurd hx (Nat.not_lt_zero x)
  · cases hindex : q.backendIndex with
    | nil => rfl
    | cons entry rest =>
        -- an entry of the index would lead to a node
        have hlook := hq.ofBackend?_eq entry.1
        rw [lastWithBackend, hsize, ofBackend?, hindex, List.lookup_cons_self] at hlook
        cases hlook

/-- The page holds the first `k` nodes of a snapshot with the root `top`, as far as they were done
when the next one stopped the reading. -/
structure HoldsBefore (q : Page) (top : Json) (k : Nat) : Prop where
  size : q.size = k
  root : q.root = none
  parentless : (q.node 0).parent = none
  sprouted : ∀ (i depth : Nat) (j : Json), i < k → (walk 0 top)[i]? = some (depth, j) →
    q.Sprouted i depth j
  anchored : q.Anchored

theorem Stunted.holdsBefore {top : Json} (h : empty.Stunted q none [walk 0 top] k) :
    q.HoldsBefore top k := by
  have hsize : q.size = k := h.size.trans (Nat.zero_add k)
  refine
    { size := hsize
      root := h.root
      parentless := ?parentless
      sprouted := ?sprouted
      anchored := h.anchored anchored_empty }
  case parentless =>
    by_cases hpos : 0 < q.size
    · exact h.tops 0 List.mem_cons_self hpos
    · exact parent_of_le (Nat.le_of_not_lt hpos)
  case sprouted =>
    intro i depth j hi hj
    have hsprouted := h.sprouted i depth j hi (by rwa [List.flatten_singleton])
    rwa [show empty.size + i = i from Nat.zero_add i] at hsprouted

namespace HoldsBefore

variable {top : Json} (h : q.HoldsBefore top k)

include h

theorem eq_empty_iff : q = empty ↔ k = 0 := by
  constructor
  · rintro rfl
    exact h.size.symm
  · rintro rfl
    exact eq_empty_of_size h.size h.root h.anchored

theorem sprouted_top (hpos : 0 < k) : q.Sprouted 0 0 top :=
  h.sprouted 0 0 top hpos (by rw [walk_eq, List.getElem?_cons_zero])

/-- The topmost node lists no children, since it has not been read to its end. -/
theorem children_top (hk : k < (walk 0 top).length) : (q.node 0).children = [] := by
  by_cases hpos : 0 < k
  · have hshort : ¬ 0 + (walk 0 top).length ≤ q.size := by
      rw [h.size]
      omega
    rw [(h.sprouted_top hpos).children, if_neg hshort]
  · apply children_of_le
    rw [h.size]
    exact Nat.le_of_not_lt hpos

theorem parent_one (hone : 1 < k) (hk : k < (walk 0 top).length) :
    (q.node 1).parent = some 0 := by
  apply (h.sprouted_top (Nat.lt_trans Nat.zero_lt_one hone)).linked
  · cases hchildren : childrenOf top with
    | nil =>
        rw [walk_eq, hchildren, List.flatMap_nil, List.length_singleton] at hk
        omega
    | cons c cs => exact List.mem_cons_self
  · rw [h.size]
    exact hone

/-- With a second node on it the page is torn: the first node does not list the second one, which
has a link to it. -/
theorem wellFormed_iff (hk : k < (walk 0 top).length) : q.WellFormed ↔ k ≤ 1 := by
  constructor
  · intro hwf
    by_contra hlt
    have hmem := (hwf.mem_children_iff 0 1).2 (h.parent_one (Nat.not_le.1 hlt) hk)
    rw [h.children_top hk] at hmem
    cases hmem
  · intro hle
    have honly : ∀ y, y = 0 ∨ q.size ≤ y := by
      intro y
      rw [h.size]
      omega
    have hparent : ∀ y, (q.node y).parent = none := by
      intro y
      rcases honly y with rfl | hy
      · exact h.parentless
      · exact parent_of_le hy
    have hchildren : ∀ y, (q.node y).children = [] := by
      intro y
      rcases honly y with rfl | hy
      · exact h.children_top hk
      · exact children_of_le hy
    refine
      { id_node := ?id_node
        mem_children_iff := fun x c => by simp [hparent, hchildren]
        nodup_children := fun x => by rw [hchildren]; exact List.nodup_nil
        wellFounded := ⟨fun c => ⟨c, fun x hx => by rw [hparent] at hx; cases hx⟩⟩ }
    intro y hy
    rcases honly y with rfl | hle
    · exact (h.sprouted_top (h.size ▸ hy)).id
    · exact absurd hy (Nat.not_lt.2 hle)

end HoldsBefore

/-- A snapshot that cannot be read leaves the page as it was if it has no root. Otherwise it leaves
the nodes before the first one that is not sound, whatever stood on the page before. This page is
empty just when the topmost node is not sound, and well formed just when at most one node comes
before the one that is not sound. -/
theorem load_failed (maxDepth : Nat) (snapshot : Json) (p : Page)
    (h : (p.load maxDepth snapshot).2 = .error e) :
    (snapshot.get? "root" = none ∧ (p.load maxDepth snapshot).1 = p) ∨
      ∃ top k, snapshot.get? "root" = some top ∧ StopsAt maxDepth (walk 0 top) k e ∧
        (p.load maxDepth snapshot).1.HoldsBefore top k ∧
          ((p.load maxDepth snapshot).1 = empty ↔ k = 0) ∧
            ((p.load maxDepth snapshot).1.WellFormed ↔ k ≤ 1) := by
  cases hroot : snapshot.get? "root" with
  | none => exact .inl ⟨rfl, by rw [load_of_get?_eq_none hroot]⟩
  | some top =>
      cases hdefect : firstDefect? maxDepth (walk 0 top) with
      | none =>
          obtain ⟨q, -, hload⟩ := load_of_sound hroot (firstDefect?_eq_none_iff.1 hdefect)
          rw [hload p] at h
          cases h
      | some f =>
          have hf := load_of_defect hroot hdefect p
          rw [h, Except.error.injEq] at hf
          subst hf
          obtain ⟨k, hk, hstunted⟩ := stunted_readTree (Nat.add_zero _) none empty top e hdefect
          have hfailed := (settled_readTree_top maxDepth top).failed e
          rw [List.flatten_singleton] at hfailed
          have hpage : (p.load maxDepth snapshot).1 =
              (readTree maxDepth (maxDepth + 1) none empty top).1 := by
            rw [load, hroot]
            dsimp only
            rw [eq_of_snd_error (hfailed hdefect)]
          have hheld := hstunted.holdsBefore
          rw [hpage]
          exact .inr ⟨top, k, rfl, hk, hheld, hheld.eq_empty_iff, hheld.wellFormed_iff hk.lt_length⟩

/-- A document with a paragraph, in which stands a node of no kind. -/
def tornTop : Json :=
  .object [("backendNodeId", .natural 1), ("nodeType", .natural 9), ("children", .array
    [.object [("backendNodeId", .natural 2), ("nodeType", .natural 1), ("nodeName", .string "p"),
      ("children", .array [.object [("backendNodeId", .natural 3)]])]])]

theorem load_failed_tornTop :
    (samplePage.load 512 (.object [("root", tornTop)])).2 =
      .error (.malformedSnapshot .missingKind) ∧
      (samplePage.load 512 (.object [("root", tornTop)])).1.HoldsBefore tornTop 2 ∧
        ¬ (samplePage.load 512 (.object [("root", tornTop)])).1.WellFormed := by
  have herror : (samplePage.load 512 (.object [("root", tornTop)])).2 =
      .error (.malformedSnapshot .missingKind) := by
    decide
  have hsize : (samplePage.load 512 (.object [("root", tornTop)])).1.size = 2 := by
    decide
  have hroot : (Json.object [("root", tornTop)]).get? "root" = some tornTop := by
    simp [Json.get?]
  rcases load_failed 512 _ samplePage herror with ⟨hnone, -⟩ | ⟨top, k, htop, -, hheld, -, hiff⟩
  · rw [hroot] at hnone
    cases hnone
  · rw [hroot, Option.some.injEq] at htop
    have hk : k = 2 := hheld.size.symm.trans hsize
    subst htop hk
    exact ⟨herror, hheld, fun hwf => absurd (hiff.1 hwf) (by decide)⟩

/-- The document and the paragraph stay on a page that was empty. -/
theorem tornTop_half_read :
    (empty.load 512 (.object [("root", tornTop)])).2 = .error (.malformedSnapshot .missingKind) ∧
      (empty.load 512 (.object [("root", tornTop)])).1.size = 2 ∧
        (empty.load 512 (.object [("root", tornTop)])).1 ≠ empty := by
  decide

end Page

end PhraseMark
