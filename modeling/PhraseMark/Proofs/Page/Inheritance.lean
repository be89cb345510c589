import PhraseMark.Proofs.History
import PhraseMark.Proofs.Page.Resolution

/-!
# Inherited visibility

A node is visible when all elements on the way up from it to the root pass the style check.
Resolving writes this under the root, whatever was written there before, and does nothing more when
it is done again.
-/

namespace PhraseMark.Page

variable {p q r : Page} {root : NodeId} {V : NodeId → Bool} {S : NodeId → Prop}

namespace Painted

theorem unique (h : Painted V S p q) (h' : Painted V S p r) : q = r := by
  apply ext_node
  · exact h.size.trans h'.size.symm
  · intro y hy
    by_cases hS : S y
    · rw [h.inside y (h.size ▸ hy) hS, h'.inside y (h.size ▸ hy) hS]
    · rw [h.outside y hS, h'.outside y hS]
  · exact h.backendIndex.trans h'.backendIndex.symm
  · exact h.root.trans h'.root.symm

/-- Where the visibility has been written, writing it once more changes nothing. -/
theorem again (h : Painted V S p q) : Painted V S q q where
  size := rfl
  root := rfl
  backendIndex := rfl
  inside := by
    intro y hy hS
    rw [h.inside y (h.size ▸ hy) hS]
  outside := fun _ _ => rfl

end Painted

theorem shownUpTo_eq_true_iff {y : NodeId} :
    p.shownUpTo root y = true ↔ ∀ z ∈ p.lineage y, root ∈ p.lineage z →
      (p.node z).isElement = true → (p.node z).isShownByStyle = true := by
  rw [shownUpTo, decide_eq_true_iff]
  constructor
  · intro hall z hz hroot _
    exact hall z hz hroot
  · intro hall z hz hroot
    cases helement : (p.node z).isElement with
    | true => exact hall z hz hroot helement
    | false => exact Node.isShownByStyle_of_not_isElement helement

theorem Redrawn.shownUpTo_eq (h : Redrawn p q) (hwf : p.WellFormed) (root : NodeId) :
    q.shownUpTo root = p.shownUpTo root := by
  funext y
  have hshown := h.kept (g := Node.isShownByStyle) (fun _ _ _ => rfl)
  simp only [shownUpTo, h.lineage hwf, hshown]

/-- A page whose visibility has been resolved stays as it is when it is resolved again. -/
theorem Painted.resolveVisibility_eq (h : p.WellFormed) (hroot : p.root = some root)
    (hlt : root < p.size)
    (hq : Painted (p.shownUpTo root) (fun y => root ∈ p.lineage y) p q) :
    q.resolveVisibility = .ok q := by
  have hredrawn := hq.redrawn
  obtain ⟨r, hr, hpainted⟩ := (hredrawn.wellFormed h).resolveVisibility_eq
    (hq.root.trans hroot) (hq.size ▸ hlt)
  rw [hredrawn.shownUpTo_eq h] at hpainted
  have hsame := hpainted.congr (T := fun y => root ∈ p.lineage y)
    (fun y => by rw [hredrawn.lineage h])
  rw [hr, hsame.unique hq.again]

/-- Resolving the visibility gives every node under the root, whatever it had before, the value
that tells whether all elements on the way from the root down to it pass the style check. It changes
nothing else, and a second time it changes nothing. -/
theorem visible_of_way_up (h : p.WellFormed) (hroot : p.root = some root) (hlt : root < p.size) :
    ∃ q, p.resolveVisibility = .ok q ∧
      (∀ y, root ∈ p.lineage y → ∃ shown, q.node y = { p.node y with visible := some shown } ∧
        (shown = true ↔ ∀ z ∈ p.lineage y, root ∈ p.lineage z →
          (p.node z).isElement = true → (p.node z).isShownByStyle = true)) ∧
      (∀ y, root ∉ p.lineage y → q.node y = p.node y) ∧
      q.size = p.size ∧ q.root = p.root ∧ q.backendIndex = p.backendIndex ∧
      q.resolveVisibility = .ok q := by
  obtain ⟨q, hq, hpainted⟩ := h.resolveVisibility_eq hroot hlt
  refine ⟨q, hq, ?_, hpainted.outside, hpainted.size, hpainted.root, hpainted.backendIndex,
    hpainted.resolveVisibility_eq h hroot hlt⟩
  intro y hy
  have hylt := h.lt_of_mem_lineage hy hlt
  exact ⟨p.shownUpTo root y, hpainted.inside y hylt hy, shownUpTo_eq_true_iff⟩

/-- A page whose root stands below a hidden element. Visibility that does not hold is written for
the text in its hidden division and for an element outside. -/
def screenPage : Page :=
  [.addElement "html", .addElement "body", .addElement "div", .addText "act now", .addElement "p",
    .append 0 1, .append 1 2, .append 2 3, .setRoot 1,
    .write 0 (·.attributes.insert "style" "display: none") (·.value) (·.visible),
    .write 2 (·.attributes.insert "style" "color: red; DISPLAY : None") (·.value) (·.visible),
    .write 3 (·.attributes) (·.value) (fun _ => some true),
    .write 4 (·.attributes.insert "hidden" "") (·.value) (fun _ => some true)].foldl perform empty

theorem visible_of_way_up_screenPage :
    ∃ q, screenPage.resolveVisibility = .ok q ∧ (q.node 1).visible = some true ∧
      (q.node 3).visible = some false ∧ (q.node 0).visible = none ∧
      (q.node 4).visible = some true ∧ q.resolveVisibility = .ok q := by
  obtain ⟨q, hq, hinside, houtside, -, -, -, hagain⟩ :=
    @visible_of_way_up screenPage 1 (wellFormed_edits _) (by decide) (by decide)
  obtain ⟨shown, hbody, hiff⟩ := hinside 1 (by decide)
  obtain ⟨shown', htext, hiff'⟩ := hinside 3 (by decide)
  have hshown : shown = true := hiff.2 (by decide)
  have hhidden : shown' = false := Bool.eq_false_iff.2 (mt hiff'.1 (by decide +kernel))
  refine ⟨q, hq, ?_, ?_, ?_, ?_, hagain⟩
  · rw [hbody, hshown]
  · rw [htext, hhidden]
  · rw [houtside 0 (by decide)]
    decide
  · rw [houtside 4 (by decide)]
    decide

end PhraseMark.Page
