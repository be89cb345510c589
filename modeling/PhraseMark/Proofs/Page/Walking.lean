import PhraseMark.Page.Walker
import PhraseMark.Proofs.Page.Tree

/-!
# Walks over well-formed pages

What a walker still has before it at a node: the subtrees to the right of the way down from the
root, nearest first. A step of the walk takes the first of them, and a search for the next text
node runs through the text nodes of the tree in document order.
-/

namespace PhraseMark

namespace Page

variable {p q : Page} {root x c : NodeId} {l r rest : List NodeId}

/-- `rest` are the tops of the subtrees that follow the subtree of a node under `root`. -/
inductive Ahead (p : Page) (root : NodeId) : NodeId → List NodeId → Prop
  | root : Ahead p root root []
  | child {x c : NodeId} {l r rest : List NodeId} :
      Ahead p root x rest → (p.node x).children = l ++ c :: r → Ahead p root c (r ++ rest)

/-- `c` is below `root`, and `rest` are the tops of the subtrees that follow its subtree. -/
def AheadBelow (p : Page) (root c : NodeId) (rest : List NodeId) : Prop :=
  ∃ x l r above, Ahead p root x above ∧ (p.node x).children = l ++ c :: r ∧ rest = r ++ above

theorem AheadBelow.ahead (h : p.AheadBelow root c rest) : p.Ahead root c rest := by
  obtain ⟨x, l, r, above, hx, hc, rfl⟩ := h
  exact .child hx hc

namespace Ahead

theorem mem_lineage (h : p.Ahead root x rest) (hwf : p.WellFormed) : root ∈ p.lineage x := by
  induction h with
  | root => exact hwf.mem_lineage_self root
  | @child x c l r rest _ hc ih =>
      have hmem : c ∈ (p.node x).children := by simp [hc]
      have hparent := (hwf.mem_children_iff x c).1 hmem
      exact hwf.mem_lineage_trans ih (hwf.mem_lineage_of_parent hparent)

theorem lt_size (h : p.Ahead root x rest) (hwf : p.WellFormed) (hroot : root < p.size) :
    x < p.size := by
  cases h with
  | root => exact hroot
  | child _ hc => exact hwf.lt_of_mem_children (by rw [hc]; simp)

theorem lt_of_mem (h : p.Ahead root x rest) (hwf : p.WellFormed) (hc : c ∈ rest) :
    c < p.size := by
  induction h with
  | root => cases hc
  | @child x d l r rest _ hd ih =>
      rcases List.mem_append.1 hc with hc | hc
      · exact hwf.lt_of_mem_children (by rw [hd]; simp [hc])
      · exact ih hc

theorem skip (h : p.Ahead root x (c :: rest)) : p.AheadBelow root c rest := by
  generalize hcs : c :: rest = cs at h
  induction h with
  | root => cases hcs
  | @child x d l r above hx hd ih =>
      cases r with
      | nil => exact ih hcs
      | cons e r =>
          cases hcs
          exact ⟨x, l ++ [d], r, above, hx, by simp [hd], rfl⟩

/-- The nodes at and under a node and the subtrees ahead of it end the tree of the root. -/
theorem suffix (h : p.Ahead root x rest) (hwf : p.WellFormed) (hroot : root < p.size) :
    ((p.tree x).ids ++ rest.flatMap (fun c => (p.tree c).ids)) <:+ (p.tree root).ids := by
  induction h with
  | root => simp
  | @child x c l r rest hx hc ih =>
      refine List.IsSuffix.trans ?_ ih
      rw [hwf.ids_tree (hx.lt_size hwf hroot), hc]
      refine ⟨x :: l.flatMap (fun c => (p.tree c).ids), ?_⟩
      simp

theorem nodup (h : p.Ahead root x rest) (hwf : p.WellFormed) (hroot : root < p.size) :
    ((p.tree x).ids ++ rest.flatMap (fun c => (p.tree c).ids)).Nodup :=
  (h.suffix hwf hroot).sublist.nodup (hwf.nodup_ids_tree hroot)

theorem length_le (h : p.Ahead root x rest) (hwf : p.WellFormed) (hroot : root < p.size) :
    ((p.tree x).ids ++ rest.flatMap (fun c => (p.tree c).ids)).length ≤ p.size :=
  Nat.le_trans (h.suffix hwf hroot).length_le (hwf.length_ids_tree_le hroot)

theorem not_mem_lineage (h : p.Ahead root x rest) (hwf : p.WellFormed) (hroot : root < p.size)
    (hc : c ∈ rest) : c ∉ p.lineage x := by
  have hx := h.lt_size hwf hroot
  have hnodup := h.nodup hwf hroot
  rw [List.nodup_append] at hnodup
  intro hmem
  have hself : x ∈ (p.tree x).ids := (hwf.mem_ids_tree hx).2 (hwf.mem_lineage_self x)
  have hunder : x ∈ (p.tree c).ids := (hwf.mem_ids_tree (hwf.lineage_lt hx hmem)).2 hmem
  exact hnodup.2.2 x hself x (List.mem_flatMap.2 ⟨c, hc, hunder⟩) rfl

theorem congr (h : p.Ahead root x rest) (hwf : p.WellFormed)
    (hsame : ∀ y ∈ p.lineage x, y ≠ x → (q.node y).children = (p.node y).children) :
    q.Ahead root x rest := by
  induction h with
  | root => exact .root
  | @child x c l r rest _ hc ih =>
      have hparent := (hwf.mem_children_iff x c).1 (by simp [hc])
      have hxc := hwf.mem_lineage_of_parent hparent
      have habove := hwf.not_mem_lineage_of_parent hparent
      have hx : q.Ahead root x rest := by
        refine ih (fun y hy _ => hsame y (hwf.mem_lineage_trans hy hxc) ?_)
        rintro rfl
        exact habove hy
      exact .child hx ((hsame x hxc (hwf.ne_of_parent hparent).symm).trans hc)

end Ahead

theorem AheadBelow.ne_root (h : p.AheadBelow root c rest) (hwf : p.WellFormed) : c ≠ root := by
  obtain ⟨x, l, r, above, hx, hc, -⟩ := h
  have hparent := (hwf.mem_children_iff x c).1 (by simp [hc])
  rintro rfl
  exact hwf.not_mem_lineage_of_parent hparent (hx.mem_lineage hwf)

theorem AheadBelow.exists_parent (h : p.AheadBelow root c rest) (hwf : p.WellFormed) :
    ∃ x, (p.node c).parent = some x := by
  obtain ⟨x, l, r, above, -, hc, -⟩ := h
  exact ⟨x, (hwf.mem_children_iff x c).1 (by simp [hc])⟩

def textsOf (p : Page) (enters : Node → Bool) (ids : List NodeId) : List Node :=
  ids.flatMap (fun c => (p.tree c).texts enters)

theorem textsOf_cons (p : Page) (enters : Node → Bool) (c : NodeId) (cs : List NodeId) :
    p.textsOf enters (c :: cs) = (p.tree c).texts enters ++ p.textsOf enters cs :=
  List.flatMap_cons

theorem textsOf_append (p : Page) (enters : Node → Bool) (cs ds : List NodeId) :
    p.textsOf enters (cs ++ ds) = p.textsOf enters cs ++ p.textsOf enters ds :=
  List.flatMap_append

theorem id_mem_of_mem_textsOf {enters : Node → Bool} {cs : List NodeId} {n : Node}
    (hn : n ∈ p.textsOf enters cs) : n.id ∈ cs.flatMap (fun c => (p.tree c).ids) := by
  obtain ⟨c, hc, hn⟩ := List.mem_flatMap.1 hn
  have hlabel := (Tree.texts_sublist enters (p.tree c)).subset hn
  exact List.mem_flatMap.2 ⟨c, hc, List.mem_map_of_mem hlabel⟩

/-! ## Steps of a walk -/

theorem WellFormed.nextSibling_eq (h : p.WellFormed) (hc : (p.node x).children = l ++ c :: r) :
    p.nextSibling c = .ok r.head? := by
  have hmem : c ∈ (p.node x).children := by simp [hc]
  have hparent := (h.mem_children_iff x c).1 hmem
  have hnot : c ∉ l := by
    have hnodup := h.nodup_children x
    rw [hc, List.nodup_append] at hnodup
    intro hl
    exact hnodup.2.2 c hl c List.mem_cons_self rfl
  have hidx : (p.node x).children.idxOf? c = some l.length := by
    rw [hc, List.idxOf?_eq_some_iff]
    refine ⟨by simp, by simp, fun j hj heq => hnot ?_⟩
    rw [List.getElem_append_left hj] at heq
    exact heq ▸ List.getElem_mem hj
  have hget : (p.node x).children[l.length + 1]? = r.head? := by
    rw [hc, List.getElem?_append_right (Nat.le_add_right _ _), Nat.add_sub_cancel_left]
    cases r <;> rfl
  simp only [nextSibling, get_of_lt (h.lt_of_mem_children hmem), hparent,
    get_of_lt (h.parent_lt hparent), hidx, hget]

end Page

namespace Walker

variable {p : Page} {root x c : NodeId} {rest : List NodeId}

open Page

theorem after_eq (h : p.Ahead root x rest) (hwf : p.WellFormed) {steps : Nat}
    (hsteps : (p.lineage x).length ≤ steps) : after p root steps x = .ok rest.head? := by
  induction h generalizing steps with
  | root =>
      cases steps with
      | zero => exact absurd (hwf.length_lineage_pos root) (by omega)
      | succ steps => simp [after]
  | @child x c l r rest hx hc ih =>
      have hparent := (hwf.mem_children_iff x c).1 (by simp [hc])
      have hlen := hwf.length_lineage_child hparent
      have hne : c ≠ root := AheadBelow.ne_root ⟨x, l, r, rest, hx, hc, rfl⟩ hwf
      cases steps with
      | zero => omega
      | succ steps =>
          simp only [after, if_neg hne, hwf.nextSibling_eq hc]
          cases r with
          | nil =>
              simp only [List.head?_nil, get_of_lt (lt_of_parent hparent), hparent]
              exact ih (by omega)
          | cons d r => rfl

/-- The children of a node if the walk goes below it. -/
def entered (w : Walker) (p : Page) (x : NodeId) : List NodeId :=
  if w.goesBelow x (p.node x) then (p.node x).children else []

/-- What follows a node is the top of the first subtree of those under the node, if the walk goes
there, and those ahead. -/
theorem following_eq (w : Walker) (h : p.Ahead w.root x rest) (hwf : p.WellFormed)
    (hroot : w.root < p.size) :
    following p w.root x (w.goesBelow x (p.node x)) = .ok (w.entered p x ++ rest).head? := by
  have hx := h.lt_size hwf hroot
  have hafter := after_eq h hwf (Nat.le_succ_of_le (hwf.length_lineage_le hx))
  unfold following entered
  split
  · simp only [firstChild, get_of_lt hx]
    cases (p.node x).children with
    | nil => exact hafter
    | cons d ds => rfl
  · exact hafter

/-- A step of the walk takes the first of the subtrees before it. -/
theorem aheadBelow_step (w : Walker) (h : p.Ahead w.root x rest) {cs : List NodeId}
    (hcs : w.entered p x ++ rest = c :: cs) : p.AheadBelow w.root c cs := by
  unfold entered at hcs
  split at hcs
  · cases hchildren : (p.node x).children with
    | nil =>
        rw [hchildren, List.nil_append] at hcs
        exact (hcs ▸ h).skip
    | cons d ds =>
        rw [hchildren, List.cons_append] at hcs
        cases hcs
        exact ⟨x, [], ds, rest, h, hchildren, rfl⟩
  · exact (hcs ▸ h : p.Ahead w.root x (c :: cs)).skip

/-! ## Searching for the next text node -/

/-- A test of labels that agrees with where the walk goes, text nodes apart. -/
def Enters (w : Walker) (p : Page) (enters : Node → Bool) : Prop :=
  ∀ y < p.size, (p.node y).isText = false →
    enters (p.node y).unlinked = !((p.node y).isElement && w.rejects (p.node y))

theorem length_entered_lt (w : Walker) (hwf : p.WellFormed) (hx : x < p.size) :
    ((w.entered p x).flatMap (fun c => (p.tree c).ids)).length < (p.tree x).ids.length := by
  rw [hwf.ids_tree hx, List.length_cons, entered]
  split
  · exact Nat.lt_succ_self _
  · exact Nat.succ_pos _

/-- Where the walk goes below a node with no text of its own, its text nodes are those of the
subtrees that are entered. -/
theorem texts_eq_entered (w : Walker) (hwf : p.WellFormed) {enters : Node → Bool}
    (henters : w.Enters p enters) (hc : c < p.size) (hne : c ≠ w.root)
    (htext : (p.node c).isText = false) :
    (p.tree c).texts enters = p.textsOf enters (w.entered p c) := by
  have hgo : w.goesBelow c (p.node c) = enters (p.node c).unlinked := by
    rw [henters c hc htext, goesBelow, beq_eq_false_iff_ne.2 hne, Bool.false_or]
  rw [hwf.texts_tree, entered, hgo, htext]
  cases enters (p.node c).unlinked <;> simp [textsOf]

theorem seek_of_nil (w : Walker) (hwf : p.WellFormed) (hroot : w.root < p.size)
    (h : p.Ahead w.root x rest) (hcs : w.entered p x ++ rest = []) (steps : Nat) :
    w.seek p (steps + 1) x = (x, .ok none) := by
  have hfollowing := w.following_eq h hwf hroot
  rw [hcs] at hfollowing
  simp only [seek, get_of_lt (h.lt_size hwf hroot), hfollowing, List.head?_nil]

theorem seek_of_cons (w : Walker) (hwf : p.WellFormed) (hroot : w.root < p.size)
    (h : p.Ahead w.root x rest) {cs : List NodeId} (hcs : w.entered p x ++ rest = c :: cs)
    (steps : Nat) :
    w.seek p (steps + 1) x =
      if (p.node c).isText then (c, .ok (some c)) else w.seek p steps c := by
  have hfollowing := w.following_eq h hwf hroot
  have hc := (w.aheadBelow_step h hcs).ahead.lt_size hwf hroot
  rw [hcs] at hfollowing
  simp only [seek, get_of_lt (h.lt_size hwf hroot), hfollowing, List.head?_cons, get_of_lt hc]

/-- With steps enough for what lies ahead, a walker at `x` finds the first text node there, with
the other text nodes still ahead of it, or finds that there is none. -/
theorem seek_cases (w : Walker) (hwf : p.WellFormed) (hroot : w.root < p.size)
    {enters : Node → Bool} (henters : w.Enters p enters) {steps : Nat}
    (h : p.Ahead w.root x rest)
    (hsteps : ((w.entered p x ++ rest).flatMap (fun c => (p.tree c).ids)).length < steps) :
    (p.textsOf enters (w.entered p x ++ rest) = [] ∧ (w.seek p steps x).2 = .ok none) ∨
      ∃ y cs, w.seek p steps x = (y, .ok (some y)) ∧ (p.node y).isText = true ∧
        p.AheadBelow w.root y cs ∧
          p.textsOf enters (w.entered p x ++ rest) = p.textsOf enters (y :: cs) := by
  induction steps generalizing x rest with
  | zero => exact absurd hsteps (Nat.not_lt_zero _)
  | succ steps ih =>
      cases hcs : w.entered p x ++ rest with
      | nil => exact .inl ⟨rfl, congrArg Prod.snd (w.seek_of_nil hwf hroot h hcs steps)⟩
      | cons c cs =>
          have hbelow := w.aheadBelow_step h hcs
          have hc := hbelow.ahead.lt_size hwf hroot
          rw [w.seek_of_cons hwf hroot h hcs]
          cases htext : (p.node c).isText with
          | true => exact .inr ⟨c, cs, if_pos rfl, htext, hbelow, rfl⟩
          | false =>
              have htexts : p.textsOf enters (c :: cs) =
                  p.textsOf enters (w.entered p c ++ cs) := by
                rw [textsOf_cons, textsOf_append,
                  w.texts_eq_entered hwf henters hc (hbelow.ne_root hwf) htext]
              rw [if_neg Bool.false_ne_true, htexts]
              refine ih hbelow.ahead ?_
              rw [hcs] at hsteps
              have hlen := w.length_entered_lt hwf hc
              simp only [List.flatMap_append, List.flatMap_cons, List.length_append] at hsteps ⊢
              omega

theorem next_cases (w : Walker) (hwf : p.WellFormed) (hroot : w.root < p.size)
    {enters : Node → Bool} (henters : w.Enters p enters) (h : p.Ahead w.root w.current rest) :
    (p.textsOf enters (w.entered p w.current ++ rest) = [] ∧ (w.next p).2 = .ok none) ∨
      ∃ y cs, w.next p = (w.moveTo y, .ok (some y)) ∧ (p.node y).isText = true ∧
        p.AheadBelow w.root y cs ∧
          p.textsOf enters (w.entered p w.current ++ rest) = p.textsOf enters (y :: cs) := by
  have hsteps : ((w.entered p w.current ++ rest).flatMap (fun c => (p.tree c).ids)).length <
      p.size + 1 := by
    have hle := h.length_le hwf hroot
    have hlen := w.length_entered_lt hwf (h.lt_size hwf hroot)
    simp only [List.flatMap_append, List.length_append] at hle ⊢
    omega
  rcases w.seek_cases hwf hroot henters h hsteps with ⟨hnil, hseek⟩ | ⟨y, cs, hseek, hy⟩
  · exact .inl ⟨hnil, by simp only [next, hseek]⟩
  · exact .inr ⟨y, cs, by simp only [next, hseek], hy⟩

theorem next_of_le (w : Walker) (h : p.size ≤ w.current) :
    w.next p = (w, .error (.nodeNotFound w.current)) := by
  have hseek : w.seek p (p.size + 1) w.current =
      (w.current, .error (.nodeNotFound w.current)) := by
    rw [seek, get_of_le h]
  rw [next, hseek]
  rfl

end Walker

end PhraseMark
