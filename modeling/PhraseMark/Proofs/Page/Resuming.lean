import Mathlib.Data.List.Pairwise
import PhraseMark.Proofs.Page.Traversals
import PhraseMark.Proofs.Page.WalkOrder

/-!
# Walks that go on from any node

A walker may be set on a node that it has never come to. From there it answers the first text node
behind that node in document order, without the subtrees of rejected elements from the node on;
that the node stands under a rejected element itself does not count.
-/

namespace PhraseMark

namespace Page

variable {p : Page} {root c t u y : NodeId} {rest : List NodeId} {rejects : Node → Bool}

theorem WellFormed.exists_ahead (h : p.WellFormed) (hc : root ∈ p.lineage c) :
    ∃ rest, p.Ahead root c rest := by
  induction c using h.up_induction with
  | top c hp =>
      rw [h.lineage_of_top hp, List.mem_singleton] at hc
      subst hc
      exact ⟨[], .root⟩
  | step c x hp ih =>
      rw [h.lineage_of_parent hp] at hc
      rcases List.mem_cons.1 hc with rfl | hx
      · exact ⟨[], .root⟩
      · obtain ⟨rest, hahead⟩ := ih hx
        obtain ⟨l, r, hchildren⟩ := List.append_of_mem ((h.mem_children_iff x c).2 hp)
        exact ⟨r ++ rest, .child hahead hchildren⟩

/-! ## What lies behind a node -/

/-- The nodes behind a node under `root` in document order, from the tops of the subtrees that
follow its own. -/
def behind (p : Page) (c : NodeId) (rest : List NodeId) : List NodeId :=
  ((p.node c).children ++ rest).flatMap (fun t => (p.tree t).ids)

namespace Ahead

theorem exists_before (h : p.Ahead root c rest) (hwf : p.WellFormed) (hroot : root < p.size) :
    ∃ before, (p.tree root).ids = before ++ c :: p.behind c rest := by
  obtain ⟨before, hbefore⟩ := h.suffix hwf hroot
  refine ⟨before, ?_⟩
  rw [← hbefore, hwf.ids_tree (h.lt_size hwf hroot), behind, List.flatMap_append, List.cons_append]

theorem nodup_behind (h : p.Ahead root c rest) (hwf : p.WellFormed) (hroot : root < p.size) :
    (p.behind c rest).Nodup := by
  obtain ⟨before, hbefore⟩ := h.exists_before hwf hroot
  have hnodup := hwf.nodup_ids_tree hroot
  rw [hbefore, List.nodup_append, List.nodup_cons] at hnodup
  exact hnodup.2.1.2

theorem lt_top (h : p.Ahead root c rest) (hwf : p.WellFormed)
    (ht : t ∈ (p.node c).children ++ rest) : t < p.size := by
  rcases List.mem_append.1 ht with ht | ht
  · exact hwf.lt_of_mem_children ht
  · exact h.lt_of_mem hwf ht

theorem mem_behind_iff (h : p.Ahead root c rest) (hwf : p.WellFormed) :
    y ∈ p.behind c rest ↔ ∃ t ∈ (p.node c).children ++ rest, t ∈ p.lineage y := by
  rw [behind, List.mem_flatMap]
  exact exists_congr (fun t => and_congr_right (fun ht => hwf.mem_ids_tree (h.lt_top hwf ht)))

/-- A node lies in one of the subtrees behind `c` at most. -/
theorem eq_of_mem_lineage (h : p.Ahead root c rest) (hwf : p.WellFormed) (hroot : root < p.size)
    (ht : t ∈ (p.node c).children ++ rest) (hu : u ∈ (p.node c).children ++ rest)
    (hty : t ∈ p.lineage y) (huy : u ∈ p.lineage y) : t = u := by
  by_contra hne
  have hsymm : Std.Symm (Function.onFun List.Disjoint (fun t => (p.tree t).ids)) :=
    ⟨fun _ _ hd => List.disjoint_symm hd⟩
  have hapart := (List.nodup_flatMap.1 (h.nodup_behind hwf hroot)).2
  exact hapart.forall ht hu hne ((hwf.mem_ids_tree (h.lt_top hwf ht)).2 hty)
    ((hwf.mem_ids_tree (h.lt_top hwf hu)).2 huy)

/-- What lies in a subtree that follows that of `c` is not under `c`. -/
theorem not_mem_lineage_of_rest (h : p.Ahead root c rest) (hwf : p.WellFormed)
    (hroot : root < p.size) (ht : t ∈ rest) (hty : t ∈ p.lineage y) : c ∉ p.lineage y := by
  intro hcy
  have hnodup := h.nodup hwf hroot
  rw [List.nodup_append] at hnodup
  have hown : y ∈ (p.tree c).ids := (hwf.mem_ids_tree (h.lt_size hwf hroot)).2 hcy
  have hother : y ∈ (p.tree t).ids := (hwf.mem_ids_tree (h.lt_of_mem hwf ht)).2 hty
  exact hnodup.2.2 y hown y (List.mem_flatMap.2 ⟨t, ht, hother⟩) rfl

end Ahead

/-! ## Text nodes that are reached -/

theorem ids_textsOf_sublist (enters : Node → Bool) (ts : List NodeId) :
    ((p.textsOf enters ts).map (·.id)).Sublist (ts.flatMap (fun t => (p.tree t).ids)) := by
  rw [textsOf, List.map_flatMap]
  exact List.Sublist.flatMap_right ts
    (fun t _ => (Tree.texts_sublist enters (p.tree t)).map (·.id))

theorem WellFormed.mem_ids_textsOf (h : p.WellFormed) {ts : List NodeId} :
    y ∈ (p.textsOf (p.admits rejects) ts).map (·.id) ↔
      (p.node y).isText = true ∧ ∃ t ∈ ts, t ∈ p.lineage y ∧
        ∀ z, t ∈ p.lineage z → z ∈ p.lineage y →
          ¬ ((p.node z).isElement = true ∧ rejects (p.node z) = true) := by
  have hid : ∀ {x}, (p.node x).isText = true → (p.node x).unlinked.id = x :=
    fun htext => h.id_node _ (lt_of_isText htext)
  have hlt : ∀ {x z}, (p.node x).isText = true → z ∈ p.lineage x → z < p.size :=
    fun htext hz => h.lineage_lt (lt_of_isText htext) hz
  rw [List.mem_map]
  constructor
  · rintro ⟨n, hn, rfl⟩
    obtain ⟨t, ht, hn⟩ := List.mem_flatMap.1 hn
    obtain ⟨x, rfl, htext, htx, hall⟩ := h.mem_texts_tree.1 hn
    rw [hid htext]
    refine ⟨htext, t, ht, htx, ?_⟩
    intro z htz hz
    by_cases hzx : z = x
    · rintro ⟨helement, -⟩
      rw [hzx, Node.isElement_eq_false_of_isText htext] at helement
      cases helement
    · exact (h.admits_eq_true_iff (hlt htext hz)).1 (hall z htz hz hzx)
  · rintro ⟨htext, t, ht, hty, hall⟩
    refine ⟨(p.node y).unlinked, List.mem_flatMap.2 ⟨t, ht, ?_⟩, hid htext⟩
    exact h.mem_texts_tree.2 ⟨y, rfl, htext, hty,
      fun z htz hz _ => (h.admits_eq_true_iff (hlt htext hz)).2 (hall z htz hz)⟩

end Page

namespace Walker

open Page

variable {p : Page} {w : Walker} {y : NodeId} {rest behind : List NodeId}

/-- The node lies in the subtree of a rejected element that is the current node, unless that is the
root, or one of the nodes behind it. -/
def Bars (w : Walker) (p : Page) (behind : List NodeId) (y : NodeId) : Prop :=
  ∃ z ∈ p.lineage y, ((z = w.current ∧ z ≠ w.root) ∨ z ∈ behind) ∧
    (p.node z).isElement = true ∧ w.rejects (p.node z) = true

instance : DecidablePred (w.Bars p behind) := fun y =>
  inferInstanceAs (Decidable (∃ z ∈ p.lineage y, ((z = w.current ∧ z ≠ w.root) ∨ z ∈ behind) ∧
    (p.node z).isElement = true ∧ w.rejects (p.node z) = true))

theorem mem_entered_iff (w : Walker) :
    y ∈ w.entered p w.current ↔ y ∈ (p.node w.current).children ∧
      (w.current ≠ w.root → ¬ ((p.node w.current).isElement = true ∧
        w.rejects (p.node w.current) = true)) := by
  have hbelow : w.goesBelow w.current (p.node w.current) = true ↔
      (w.current ≠ w.root → ¬ ((p.node w.current).isElement = true ∧
        w.rejects (p.node w.current) = true)) := by
    rw [goesBelow, Bool.or_eq_true, beq_iff_eq, Bool.not_eq_true', Bool.eq_false_iff, Ne,
      Bool.and_eq_true, or_iff_not_imp_left]
  rw [← hbelow, entered]
  split
  · rename_i hgo
    exact (and_iff_left hgo).symm
  · rename_i hgo
    exact iff_of_false List.not_mem_nil (fun h => hgo h.2)

/-- The text nodes that the subtrees before the walker hold for it are those behind the current node
that no rejected element bars. -/
theorem ids_textsOf_entered (h : p.Ahead w.root w.current rest) (hwf : p.WellFormed)
    (hroot : w.root < p.size) :
    (p.textsOf (p.admits w.rejects) (w.entered p w.current ++ rest)).map (·.id) =
      (p.behind w.current rest).filter
        (fun y => (p.node y).isText ∧ ¬ w.Bars p (p.behind w.current rest) y) := by
  have hsub : ((p.textsOf (p.admits w.rejects) (w.entered p w.current ++ rest)).map
      (·.id)).Sublist (p.behind w.current rest) := by
    have hentered : (w.entered p w.current).Sublist (p.node w.current).children := by
      unfold entered
      split
      · exact List.Sublist.refl _
      · exact List.nil_sublist _
    exact (ids_textsOf_sublist _ _).trans ((hentered.append_right rest).flatMap _)
  apply eq_filter_of_sublist hsub (h.nodup_behind hwf hroot)
  intro y
  rw [hwf.mem_ids_textsOf, h.mem_behind_iff hwf, decide_eq_true_iff]
  constructor
  · rintro ⟨htext, t, ht, hty, hall⟩
    have hbehind : t ∈ (p.node w.current).children ++ rest := by
      rcases List.mem_append.1 ht with ht | ht
      · exact List.mem_append_left _ (w.mem_entered_iff.1 ht).1
      · exact List.mem_append_right _ ht
    refine ⟨⟨t, hbehind, hty⟩, htext, ?_⟩
    rintro ⟨z, hz, ⟨rfl, hne⟩ | hzbehind, hrejected⟩
    · -- the current node is not gone below, so `t` follows it and is not under it
      rcases List.mem_append.1 ht with ht | ht
      · exact (w.mem_entered_iff.1 ht).2 hne hrejected
      · exact h.not_mem_lineage_of_rest hwf hroot ht hty hz
    · obtain ⟨u, hu, huz⟩ := (h.mem_behind_iff hwf).1 hzbehind
      have htu := h.eq_of_mem_lineage hwf hroot hbehind hu hty (hwf.mem_lineage_trans huz hz)
      exact hall z (htu ▸ huz) hz hrejected
  · rintro ⟨⟨t, ht, hty⟩, htext, hfree⟩
    refine ⟨htext, t, ?_, hty, ?_⟩
    · rcases List.mem_append.1 ht with ht | ht
      · refine List.mem_append_left _ (w.mem_entered_iff.2 ⟨ht, ?_⟩)
        intro hne hrejected
        have hcy := hwf.mem_lineage_trans
          (hwf.mem_lineage_of_parent ((hwf.mem_children_iff _ _).1 ht)) hty
        exact hfree ⟨w.current, hcy, .inl ⟨rfl, hne⟩, hrejected⟩
      · exact List.mem_append_right _ ht
    · intro z htz hz hrejected
      exact hfree ⟨z, hz, .inr ((h.mem_behind_iff hwf).2 ⟨t, ht, htz⟩), hrejected⟩

/-! ## Calls from any node -/

/-- From a node under the root, a call answers the first text node behind it. -/
theorem next_of_ahead (h : p.Ahead w.root w.current rest) (hwf : p.WellFormed)
    (hroot : w.root < p.size) :
    (w.next p).2 = .ok ((p.behind w.current rest).find?
      (fun y => (p.node y).isText ∧ ¬ w.Bars p (p.behind w.current rest) y)) := by
  have hfaces : w.Faces p (p.admits w.rejects) _ := ⟨rest, h, rfl⟩
  have henters : w.Enters p (p.admits w.rejects) := fun y hy _ => hwf.admits_label hy
  have hanswer := hfaces.answer_eq hwf hroot henters (fun _ htext => admits_of_isText htext) 0
  rw [ids_textsOf_entered h hwf hroot, ← List.head?_eq_getElem?, List.head?_filter] at hanswer
  exact hanswer

/-- A node that stands alone has nothing before it, whether or not a root of a walk exists. -/
theorem next_of_alone (hcurrent : w.current < p.size) (hne : w.current ≠ w.root)
    (hparent : (p.node w.current).parent = none) (hchildren : (p.node w.current).children = []) :
    (w.next p).2 = .ok none := by
  have hafter : after p w.root (p.size + 1) w.current = .ok none := by
    simp only [after, if_neg hne, nextSibling, get_of_lt hcurrent, hparent]
  have hfollowing : ∀ down, following p w.root w.current down = .ok none := by
    intro down
    cases down with
    | false => exact hafter
    | true =>
        simp only [following, firstChild, get_of_lt hcurrent, hchildren, List.head?_nil, hafter,
          if_true]
  have hseek : w.seek p (p.size + 1) w.current = (w.current, .ok none) := by
    simp only [seek, get_of_lt hcurrent, hfollowing]
  rw [next, hseek]

/-- A walker that is set on a node at or under its root answers the first text node that stands
behind that node in preorder and that no rejected element bars: neither the node itself, unless it
is the root, nor an element behind it. Where there is none it answers none, and so it does when it
is set on a node that stands alone and is not the root. -/
theorem next_moveTo (h : p.WellFormed) (w : Walker) (c : NodeId) :
    (∀ order, p.IsPreorder order → w.root < p.size →
      ∀ before behind, order w.root = before ++ c :: behind →
        ((w.moveTo c).next p).2 = .ok (behind.find?
          (fun y => (p.node y).isText ∧ ¬ (w.moveTo c).Bars p behind y))) ∧
      (c < p.size → c ≠ w.root → (p.node c).parent = none → (p.node c).children = [] →
        ((w.moveTo c).next p).2 = .ok none) := by
  refine ⟨?_, fun hc hne hparent hchildren => next_of_alone hc hne hparent hchildren⟩
  intro order horder hroot before behind hcut
  rw [h.eq_ids_of_isPreorder horder hroot] at hcut
  have hc : w.root ∈ p.lineage c := (h.mem_ids_tree hroot).1 (by simp [hcut])
  obtain ⟨rest, hahead⟩ := h.exists_ahead hc
  obtain ⟨before', hcut'⟩ := hahead.exists_before h hroot
  -- the node stands in the preorder once, so there is one way to cut it there
  have hnodup := h.nodup_ids_tree hroot
  rw [hcut, List.nodup_append, List.nodup_cons] at hnodup
  have hbefore : c ∉ before :=
    fun hmem => hnodup.2.2 c hmem c List.mem_cons_self rfl
  rw [hcut, List.append_cons_inj_of_notMem hbefore hnodup.2.1.1] at hcut'
  rw [hcut'.2.2]
  exact next_of_ahead (w := w.moveTo c) hahead h hroot

/-- A page with two texts in a script, one behind it, and one outside of the tree. -/
def quotedPage : Page :=
  [.addElement "div", .addElement "script", .append 0 1, .addText "a", .append 1 2, .addText "b",
    .append 1 3, .addText "c", .append 0 4, .addText "d"].foldl perform empty

/-- The script bars its texts to a walker that is set on it or on the root, but not to one that is
set on the first of them. -/
theorem next_moveTo_quotedPage :
    let w := Walker.start 0 (·.hasTag "SCRIPT")
    ((w.moveTo 0).next quotedPage).2 = .ok (some 4) ∧
      ((w.moveTo 1).next quotedPage).2 = .ok (some 4) ∧
        ((w.moveTo 2).next quotedPage).2 = .ok (some 3) ∧
          ((w.moveTo 3).next quotedPage).2 = .ok (some 4) ∧
            ((w.moveTo 4).next quotedPage).2 = .ok none ∧
              ((w.moveTo 5).next quotedPage).2 = .ok none := by
  intro w
  have hwf : quotedPage.WellFormed := wellFormed_edits _
  have hroot : w.root < quotedPage.size := by decide
  have hids : (quotedPage.tree 0).ids = [0, 1, 2, 3, 4] := by decide
  have hnext := fun c => (next_moveTo hwf w c).1 _ hwf.isPreorder_ids hroot
  refine ⟨?_, ?_, ?_, ?_, ?_, ?_⟩
  · rw [hnext 0 [] [1, 2, 3, 4] hids]
    decide +kernel
  · rw [hnext 1 [0] [2, 3, 4] hids]
    decide +kernel
  · rw [hnext 2 [0, 1] [3, 4] hids]
    decide
  · rw [hnext 3 [0, 1, 2] [4] hids]
    decide
  · rw [hnext 4 [0, 1, 2, 3] [] hids]
    decide
  · obtain ⟨hlt, hne, hparent, hchildren⟩ : 5 < quotedPage.size ∧ 5 ≠ w.root ∧
        (quotedPage.node 5).parent = none ∧ (quotedPage.node 5).children = [] := by
      decide
    exact (next_moveTo hwf w 5).2 hlt hne hparent hchildren

end Walker

end PhraseMark
