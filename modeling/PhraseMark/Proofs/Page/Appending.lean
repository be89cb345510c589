import PhraseMark.Proofs.Page.Refusals
import PhraseMark.Proofs.Page.Tree

/-!
# Appending in place

Appending makes its edits one after another, and each of them could fail. All that can go wrong is
found before the first edit, on any page, so a node is moved as a whole or nothing happens. On a
well-formed page the move is refused just when a node is missing or would come to stand under
itself, and it changes the moved node, its old parent and its new one, and no other node.
-/

namespace PhraseMark.Page

variable {p q : Page} {id x y c : NodeId}

/-! ## Where it is refused -/

theorem append_of_mem_lineage (h : p.WellFormed) (hc : c ∈ p.lineage x) :
    p.append x c = .error (.hierarchyRequest c) := by
  by_cases hx : x < p.size
  · rw [append, h.isInclusiveAncestor_eq c hx, decide_eq_true hc]
  · have htop := h.lineage_of_top (parent_of_le (Nat.not_lt.1 hx))
    rw [htop, List.mem_singleton] at hc
    simp only [append, isInclusiveAncestor, climb, hc, if_true]

theorem append_of_le_parent (hne : x ≠ c) (hx : p.size ≤ x) :
    p.append x c = .error (.nodeNotFound x) := by
  simp only [append, isInclusiveAncestor, climb, if_neg hne, get_of_le hx]

theorem append_of_le_child (h : p.WellFormed) (hx : x < p.size) (hc : p.size ≤ c) :
    p.append x c = .error (.nodeNotFound c) := by
  have hnot : c ∉ p.lineage x := fun hmem => absurd (h.lineage_lt hx hmem) (Nat.not_lt.2 hc)
  simp only [append, h.isInclusiveAncestor_eq c hx, decide_eq_false hnot, detach, get_of_le hc]

theorem WellFormed.exists_append_error (h : p.WellFormed)
    (hfits : ¬ (x < p.size ∧ c < p.size ∧ c ∉ p.lineage x)) : ∃ e, p.append x c = .error e := by
  by_cases habove : c ∈ p.lineage x
  · exact ⟨_, append_of_mem_lineage h habove⟩
  · by_cases hx : x < p.size
    · have hc : p.size ≤ c := Nat.not_lt.1 (fun hc => hfits ⟨hx, hc, habove⟩)
      exact ⟨_, append_of_le_child h hx hc⟩
    · have hne : x ≠ c := fun hxc => habove (hxc ▸ h.mem_lineage_self x)
      exact ⟨_, append_of_le_parent hne (Nat.not_lt.1 hx)⟩

/-! ## What it changes -/

/-- `q` is `p` after `c` has become the last child of `x`, with all that stands under it. Only `c`,
its old parent and `x` differ, and these in their links only. -/
structure MovedLast (p : Page) (x c : NodeId) (q : Page) : Prop where
  size : q.size = p.size
  root : q.root = p.root
  backendIndex : q.backendIndex = p.backendIndex
  moved : q.node c = { p.node c with parent := some x }
  holder : q.node x =
    { p.node x with children := (p.node x).children.filter (· ≠ c) ++ [c] }
  left : ∀ o, (p.node c).parent = some o → o ≠ x → q.node o =
    { p.node o with children := (p.node o).children.filter (· ≠ c) }
  kept : ∀ y, y ≠ c → y ≠ x → (p.node c).parent ≠ some y → q.node y = p.node y
  tree : q.tree c = p.tree c

theorem Appended.movedLast (ha : Appended p x c q) (h : p.WellFormed) (hnot : c ∉ p.lineage x) :
    MovedLast p x c q := by
  have hne : c ≠ x := fun hcx => hnot (hcx ▸ h.mem_lineage_self x)
  have hparent : ∀ y, y ≠ c → (q.node y).parent = (p.node y).parent := by
    intro y hy
    rw [ha.parent, if_neg hy]
  have hchildren : ∀ y, y ≠ x →
      (q.node y).children = (p.node y).children.filter (· ≠ c) := by
    intro y hy
    rw [ha.children, if_neg hy, List.append_nil]
  have hkept : ∀ y, y ≠ c → y ≠ x → (p.node c).parent ≠ some y → q.node y = p.node y := by
    intro y hyc hyx hold
    have hsame := hchildren y hyx
    rw [h.filter_children hold] at hsame
    exact ha.node_eq (hparent y hyc) hsame
  have hmoved : q.node c = { p.node c with parent := some x } := by
    have hself : (p.node c).parent ≠ some c := fun hp => h.ne_of_parent hp rfl
    apply ha.node_eq
    · rw [ha.parent, if_pos rfl]
    · rw [hchildren c hne, h.filter_children hself]
  refine
    { size := ha.size
      root := ha.root
      backendIndex := ha.backendIndex
      moved := hmoved
      holder := ?holder
      left := ?left
      kept := hkept
      tree := ?tree }
  case holder =>
    apply ha.node_eq (hparent x hne.symm)
    rw [ha.children, if_pos rfl]
  case left =>
    intro o ho hox
    have hoc : o ≠ c := (h.ne_of_parent ho).symm
    exact ha.node_eq (hparent o hoc) (hchildren o hox)
  case tree =>
    have hq := ha.wellFormed h hnot
    rw [hq.tree_eq, h.tree_eq, hmoved]
    congr 1
    refine List.map_congr_left (fun d hd => h.tree_congr hq (fun y hy => ?_))
    -- neither the new parent nor the old one stands under `c`
    have hdc := (h.mem_children_iff c d).1 hd
    have hcy := h.mem_lineage_trans (h.mem_lineage_of_parent hdc) hy
    apply hkept y
    · rintro rfl
      exact h.not_mem_lineage_of_parent hdc hy
    · rintro rfl
      exact hnot hcy
    · intro hold
      exact h.not_mem_lineage_of_parent hold hcy

/-- A move is refused just when one of the two nodes is missing or the child is the new parent or
stands above it, and then the page is as it was. Otherwise the node is moved. -/
theorem append_exact (h : p.WellFormed) (x c : NodeId) :
    ((∃ e, (p.appendInPlace x c).2 = .error e) ↔
      p.size ≤ x ∨ p.size ≤ c ∨ c ∈ p.lineage x) ∧
      (∀ e, (p.appendInPlace x c).2 = .error e → (p.appendInPlace x c).1 = p) ∧
        (x < p.size → c < p.size → c ∉ p.lineage x →
          (p.appendInPlace x c).2 = .ok () ∧ MovedLast p x c (p.appendInPlace x c).1) := by
  rw [appendInPlace_eq]
  by_cases hfits : x < p.size ∧ c < p.size ∧ c ∉ p.lineage x
  · obtain ⟨hx, hc, hnot⟩ := hfits
    obtain ⟨q, hq, happended⟩ := h.exists_append hx hc hnot
    rw [hq, allOrNothing]
    refine ⟨?_, ?_, fun _ _ _ => ⟨rfl, happended.movedLast h hnot⟩⟩
    · simp [hnot, hx, hc]
    · intro e he
      cases he
  · obtain ⟨e, he⟩ := h.exists_append_error hfits
    rw [he, allOrNothing]
    refine ⟨⟨fun _ => ?_, fun _ => ⟨e, rfl⟩⟩, fun _ _ => rfl, ?_⟩
    · by_contra hall
      simp only [not_or, Nat.not_le] at hall
      exact hfits hall
    · intro hx hc hnot
      exact absurd ⟨hx, hc, hnot⟩ hfits

/-- A paragraph takes in no division that holds it. The text in it becomes the last child of the
division, and so does a text that has been its first child. -/
theorem append_exact_forkedPage :
    forkedPage.WellFormed ∧ (forkedPage.appendInPlace 2 0).1 = forkedPage ∧
      MovedLast forkedPage 0 3 (forkedPage.appendInPlace 0 3).1 ∧
        MovedLast forkedPage 0 1 (forkedPage.appendInPlace 0 1).1 := by
  obtain ⟨hiff, hkept, -⟩ := append_exact wellFormed_forkedPage 2 0
  obtain ⟨e, he⟩ := hiff.2 (.inr (.inr (by decide)))
  have hdeep := (append_exact wellFormed_forkedPage 0 3).2.2 (by decide) (by decide) (by decide)
  have hfirst := (append_exact wellFormed_forkedPage 0 1).2.2 (by decide) (by decide) (by decide)
  exact ⟨wellFormed_forkedPage, hkept e he, hdeep.2, hfirst.2⟩

end PhraseMark.Page
