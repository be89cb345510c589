import PhraseMark.Proofs.Page.Reading
import PhraseMark.Proofs.Page.Relinking

/-!
# Markup without invisible elements

To leave out invisible elements while a page is written is to write the page from which they have
been detached.
-/

namespace PhraseMark

/-- An element whose resolved visibility is false. -/
def Node.isInvisible (n : Node) : Bool := n.isElement && n.visible == some false

namespace Markup

variable {options : MarkupOptions} {n : Node}

theorem turn_of_invisible (h : n.isInvisible = true) (hskip : options.skipInvisible = true)
    (m : Manuscript) : turn options n m = .pass m := by
  rw [Node.isInvisible, Node.isElement, Bool.and_eq_true, beq_iff_eq] at h
  simp only [turn, h.1, hskip, h.2, Bool.true_and, if_true]

theorem turn_of_not_invisible (h : n.isInvisible = false) (skip skip' : Bool) (m : Manuscript) :
    turn { options with skipInvisible := skip } n m =
      turn { options with skipInvisible := skip' } n m := by
  unfold turn
  rw [Node.isInvisible, Node.isElement] at h
  cases hkind : n.kind <;> try rfl
  rw [hkind, beq_self_eq_true, Bool.true_and] at h
  simp only [h, Bool.and_false]

end Markup

/-- A reading that makes nothing of some trees reads the others. -/
theorem Tree.readAll_filter {σ : Type} {turn turn' : Node → σ → Turn σ} {f g : NodeId → Tree}
    {keeps : NodeId → Bool} {ids : List NodeId}
    (hkept : ∀ c ∈ ids, keeps c = true → ∀ s, (f c).read turn s = (g c).read turn' s)
    (hleft : ∀ c ∈ ids, keeps c = false → ∀ s, (g c).read turn' s = s) (s : σ) :
    readAll turn ((ids.filter keeps).map f) s = readAll turn' (ids.map g) s := by
  induction ids generalizing s with
  | nil => rfl
  | cons c ids ih =>
      have hrest := ih (fun d hd => hkept d (List.mem_cons_of_mem c hd))
        (fun d hd => hleft d (List.mem_cons_of_mem c hd))
      rw [List.map_cons, readAll_cons]
      cases hc : keeps c with
      | true =>
          rw [List.filter_cons_of_pos hc, List.map_cons, readAll_cons,
            hkept c List.mem_cons_self hc]
          exact hrest _
      | false =>
          rw [List.filter_cons_of_neg (by rw [hc]; exact Bool.false_ne_true),
            hleft c List.mem_cons_self hc]
          exact hrest s

namespace Page

variable {p q : Page} {id x : NodeId} {rs : List NodeId} {skipComments : Bool}

theorem WellFormed.exists_foldlM_detach (h : p.WellFormed) (hrs : ∀ r ∈ rs, r < p.size) :
    ∃ q, rs.foldlM Page.detach p = .ok q ∧ Cleared p rs q := by
  induction rs generalizing p with
  | nil => exact ⟨p, rfl, .nil p⟩
  | cons r rs ih =>
      obtain ⟨q, hq, hcleared⟩ := h.exists_detach (hrs r List.mem_cons_self)
      obtain ⟨q', hq', hcleared'⟩ := ih (hcleared.wellFormed h)
        (fun s hs => hcleared.size ▸ hrs s (List.mem_cons_of_mem r hs))
      refine ⟨q', ?_, hcleared.cons hcleared'⟩
      rw [List.foldlM_cons, hq]
      exact hq'

/-- When the invisible elements below a node, and no others there, have been taken out, what is left
is written as it was with such elements skipped. -/
theorem Cleared.read_turn (hc : Cleared p rs q) (h : p.WellFormed)
    (hrs : ∀ y, id ∈ p.lineage y → y ≠ id → (y ∈ rs ↔ (p.node y).isInvisible = true))
    (hx : id ∈ p.lineage x) (hshown : (p.node x).isInvisible = false) (m : Manuscript) :
    (q.tree x).read (Markup.turn ⟨false, skipComments⟩) m =
      (p.tree x).read (Markup.turn ⟨true, skipComments⟩) m := by
  induction x using h.down_induction generalizing m with
  | step x ih =>
      have hbelow : ∀ c ∈ (p.node x).children, id ∈ p.lineage c ∧
          (c ∈ rs ↔ (p.node c).isInvisible = true) := by
        intro c hc
        have hparent := (h.mem_children_iff x c).1 hc
        have hidc := h.mem_lineage_trans hx (h.mem_lineage_of_parent hparent)
        refine ⟨hidc, hrs c hidc ?_⟩
        rintro rfl
        exact h.not_mem_lineage_of_parent hparent hx
      have hchildren : ∀ m, Tree.readAll (Markup.turn ⟨false, skipComments⟩)
          (((p.node x).children.filter (· ∉ rs)).map q.tree) m =
            Tree.readAll (Markup.turn ⟨true, skipComments⟩) ((p.node x).children.map p.tree) m := by
        intro m
        apply Tree.readAll_filter
        · intro c hc hkept
          apply ih c hc (hbelow c hc).1
          apply Bool.eq_false_iff.2
          intro hinvisible
          exact of_decide_eq_true hkept ((hbelow c hc).2.2 hinvisible)
        · intro c hc hleft m
          have hinvisible := (hbelow c hc).2.1 (by simpa using hleft)
          rw [h.tree_eq]
          apply Tree.read_of_pass
          exact Markup.turn_of_invisible hinvisible rfl m
      have hturn : Markup.turn ⟨false, skipComments⟩ (p.node x).unlinked m =
          Markup.turn ⟨true, skipComments⟩ (p.node x).unlinked m :=
        @Markup.turn_of_not_invisible ⟨true, skipComments⟩ (p.node x).unlinked hshown false true m
      rw [(hc.wellFormed h).tree_eq, h.tree_eq, hc.unlinked, hc.children, Tree.read_node,
        Tree.read_node, hturn]
      cases Markup.turn ⟨true, skipComments⟩ (p.node x).unlinked m with
      | stop m' => rfl
      | pass m' => rfl
      | enter m' leave => exact congrArg leave (hchildren m')

/-- `hidden` has all invisible elements below a node, in some order. -/
def ListsInvisible (p : Page) (id : NodeId) (hidden : List NodeId) : Prop :=
  ∀ y, y ∈ hidden ↔ id ∈ p.lineage y ∧ y ≠ id ∧ (p.node y).isInvisible = true

theorem lt_of_isInvisible (h : (p.node x).isInvisible = true) : x < p.size := by
  by_contra hle
  rw [node_of_le (Nat.not_lt.1 hle)] at h
  cases h

theorem WellFormed.outerMarkup_of_invisible (h : p.WellFormed)
    (hid : (p.node id).isInvisible = true) (skipComments : Bool) :
    p.outerMarkup ⟨true, skipComments⟩ id = .ok "" := by
  have hpass : Markup.turn ⟨true, skipComments⟩ (p.node id).unlinked {} = .pass {} :=
    Markup.turn_of_invisible hid rfl {}
  rw [h.outerMarkup_eq (lt_of_isInvisible hid), h.tree_eq, Tree.read_of_pass hpass]

theorem ListsInvisible.outerMarkup_eq (hlists : p.ListsInvisible id rs) (h : p.WellFormed)
    (hc : Cleared p rs q) (hid : (p.node id).isInvisible = false) (skipComments : Bool) :
    p.outerMarkup ⟨true, skipComments⟩ id = q.outerMarkup ⟨false, skipComments⟩ id := by
  by_cases hlt : id < p.size
  · have hread := @Cleared.read_turn p q id id rs skipComments hc h
      (fun y hy hne => ⟨fun hmem => ((hlists y).1 hmem).2.2, fun hv => (hlists y).2 ⟨hy, hne, hv⟩⟩)
      (h.mem_lineage_self id) hid {}
    rw [h.outerMarkup_eq hlt, (hc.wellFormed h).outerMarkup_eq (hc.size ▸ hlt), hread]
  · have hle := Nat.not_lt.1 hlt
    rw [outerMarkup, outerMarkup, tour_of_le hle, tour_of_le (hc.size ▸ hle)]

end Page

end PhraseMark
