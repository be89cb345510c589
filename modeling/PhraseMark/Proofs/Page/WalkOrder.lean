import PhraseMark.Proofs.History
import PhraseMark.Proofs.Page.Reading

/-!
# Walks and traversals

A walker climbs links, a traversal works off a stack. Call after call, a fresh walker gives the
text nodes of the traversal in its order, without those under rejected elements, and then none.
-/

namespace PhraseMark

namespace Walker

open Page

variable {p : Page} {w : Walker} {enters : Node → Bool} {root : NodeId} {n : Node} {ns : List Node}

/-- The walker after a number of calls, whatever they answered. -/
def advance (w : Walker) (p : Page) : Nat → Walker
  | 0 => w
  | calls + 1 => (w.next p).1.advance p calls

/-- What a call answers; the first call has number nought. -/
def answer (w : Walker) (p : Page) (call : Nat) : Except Fault (Option NodeId) :=
  ((w.advance p call).next p).2

theorem answer_succ (w : Walker) (p : Page) (call : Nat) :
    w.answer p (call + 1) = (w.next p).1.answer p call := rfl

/-- The walker stands in the tree of its root and has the text nodes `ns` before it. -/
def Faces (w : Walker) (p : Page) (enters : Node → Bool) (ns : List Node) : Prop :=
  ∃ rest, p.Ahead w.root w.current rest ∧ p.textsOf enters (w.entered p w.current ++ rest) = ns

/-! ## Single calls -/

/-- Where no text node lies ahead, the search ends at a place that has none ahead either. -/
theorem seek_of_end (w : Walker) (hwf : p.WellFormed) (hroot : w.root < p.size)
    (henters : w.Enters p enters) {x : NodeId} {rest : List NodeId} (h : p.Ahead w.root x rest)
    (hnil : p.textsOf enters (w.entered p x ++ rest) = []) (steps : Nat) :
    ∃ rest', p.Ahead w.root (w.seek p steps x).1 rest' ∧
      p.textsOf enters (w.entered p (w.seek p steps x).1 ++ rest') = [] := by
  induction steps generalizing x rest with
  | zero => exact ⟨rest, h, hnil⟩
  | succ steps ih =>
      cases hcs : w.entered p x ++ rest with
      | nil =>
          rw [w.seek_of_nil hwf hroot h hcs]
          exact ⟨rest, h, hnil⟩
      | cons c cs =>
          have hbelow := w.aheadBelow_step h hcs
          have hc := hbelow.ahead.lt_size hwf hroot
          rw [hcs, textsOf_cons, List.append_eq_nil_iff] at hnil
          obtain ⟨hown, hrest⟩ := hnil
          have htext : (p.node c).isText = false := by
            apply Bool.eq_false_iff.2
            intro htext
            rw [hwf.texts_tree, if_pos htext] at hown
            cases hown
          rw [w.seek_of_cons hwf hroot h hcs, htext, if_neg Bool.false_ne_true]
          apply ih hbelow.ahead
          rw [textsOf_append, ← w.texts_eq_entered hwf henters hc (hbelow.ne_root hwf) htext, hown,
            hrest]
          rfl

theorem Faces.next_nil (h : w.Faces p enters []) (hwf : p.WellFormed) (hroot : w.root < p.size)
    (henters : w.Enters p enters) :
    (w.next p).2 = .ok none ∧ (w.next p).1.Faces p enters [] := by
  obtain ⟨rest, hahead, hnil⟩ := h
  constructor
  · rcases w.next_cases hwf hroot henters hahead with ⟨-, hend⟩ | ⟨y, cs, -, htext, -, htexts⟩
    · exact hend
    · rw [hnil, textsOf_cons, hwf.texts_tree, if_pos htext] at htexts
      cases htexts
  · exact w.seek_of_end hwf hroot henters hahead hnil (p.size + 1)

theorem Faces.next_cons (h : w.Faces p enters (n :: ns)) (hwf : p.WellFormed)
    (hroot : w.root < p.size) (henters : w.Enters p enters)
    (htexts : ∀ m : Node, m.isText = true → enters m = true) :
    (w.next p).2 = .ok (some n.id) ∧ (w.next p).1.Faces p enters ns := by
  obtain ⟨rest, hahead, hns⟩ := h
  rcases w.next_cases hwf hroot henters hahead with ⟨hnil, -⟩ | ⟨y, cs, hnext, htext, hb, heq⟩
  · rw [hns] at hnil
    cases hnil
  · -- the walk goes below a text node, and its text nodes stand in the tree
    have henter : enters (p.node y).unlinked = true := htexts _ htext
    have hgo : w.goesBelow y (p.node y) = true := by
      rw [goesBelow, Node.isElement_eq_false_of_isText htext, Bool.false_and, Bool.not_false,
        Bool.or_true]
    rw [hns, textsOf_cons, hwf.texts_tree, if_pos htext, henter, if_pos rfl] at heq
    obtain ⟨rfl, rfl⟩ := List.cons.inj heq
    have hid : (p.node y).unlinked.id = y := hwf.id_node y (hb.ahead.lt_size hwf hroot)
    rw [hnext, hid]
    refine ⟨rfl, cs, hb.ahead, ?_⟩
    have hentered : (w.moveTo y).entered p (w.moveTo y).current = (p.node y).children :=
      if_pos hgo
    rw [hentered, textsOf_append]
    rfl

/-! ## All calls -/

theorem Faces.answer_eq (h : w.Faces p enters ns) (hwf : p.WellFormed) (hroot : w.root < p.size)
    (henters : w.Enters p enters) (htexts : ∀ m : Node, m.isText = true → enters m = true)
    (call : Nat) : w.answer p call = .ok (ns.map (·.id))[call]? := by
  induction call generalizing w ns with
  | zero =>
      cases ns with
      | nil => exact (h.next_nil hwf hroot henters).1
      | cons n ns => exact (h.next_cons hwf hroot henters htexts).1
  | succ call ih =>
      have hnext : (w.next p).1.Enters p enters := henters
      rw [answer_succ]
      cases ns with
      | nil => exact ih (h.next_nil hwf hroot henters).2 hroot hnext
      | cons n ns => exact ih (h.next_cons hwf hroot henters htexts).2 hroot hnext

/-- Where the root is missing, every call fails and the walker stays. -/
theorem answer_of_le (hroot : p.size ≤ w.root) (hcurrent : w.current = w.root) (call : Nat) :
    w.answer p call = .error (.nodeNotFound w.root) := by
  have hnext := w.next_of_le (hcurrent ▸ hroot)
  rw [hcurrent] at hnext
  induction call with
  | zero => rw [answer, advance, hnext]
  | succ call ih => rw [answer_succ, hnext, ih]

end Walker

namespace Page

variable {p : Page} {root y : NodeId} {rejects : Node → Bool}

/-! ## Rejected subtrees -/

/-- The node lies in the subtree of a rejected element below `root`. -/
def Pruned (p : Page) (root : NodeId) (rejects : Node → Bool) (y : NodeId) : Prop :=
  ∃ z ∈ p.lineage y, root ∈ p.lineage z ∧ z ≠ root ∧ (p.node z).isElement = true ∧
    rejects (p.node z) = true

instance : DecidablePred (p.Pruned root rejects) := fun y =>
  inferInstanceAs (Decidable (∃ z ∈ p.lineage y, root ∈ p.lineage z ∧ z ≠ root ∧
    (p.node z).isElement = true ∧ rejects (p.node z) = true))

/-- The test of a reject predicate on labels: the node is looked up in the page. -/
def admits (p : Page) (rejects : Node → Bool) (n : Node) : Bool :=
  !(n.isElement && rejects (p.node n.id))

theorem WellFormed.admits_label (h : p.WellFormed) (hy : y < p.size) :
    p.admits rejects (p.node y).unlinked = !((p.node y).isElement && rejects (p.node y)) := by
  have hid : (p.node y).unlinked.id = y := h.id_node y hy
  rw [admits, hid]
  rfl

theorem WellFormed.admits_eq_true_iff (h : p.WellFormed) (hy : y < p.size) :
    p.admits rejects (p.node y).unlinked = true ↔
      ¬ ((p.node y).isElement = true ∧ rejects (p.node y) = true) := by
  rw [h.admits_label hy, Bool.not_eq_true', Bool.eq_false_iff, Ne, Bool.and_eq_true]

theorem admits_of_isText {n : Node} (h : n.isText = true) : p.admits rejects n = true := by
  rw [admits, Node.isElement_eq_false_of_isText h, Bool.false_and, Bool.not_false]

theorem WellFormed.faces_start (h : p.WellFormed) (root : NodeId) (rejects : Node → Bool) :
    (Walker.start root rejects).Faces p (p.admits rejects)
      ((p.tree root).textsBelow (p.admits rejects)) := by
  refine ⟨[], .root, ?_⟩
  exact h.textsOf_start root rejects (p.admits rejects)

theorem WellFormed.mem_ids_textsBelow (h : p.WellFormed) (rejects : Node → Bool) :
    y ∈ ((p.tree root).textsBelow (p.admits rejects)).map (·.id) ↔
      root ∈ p.lineage y ∧ (p.node y).isText = true ∧ y ≠ root ∧ ¬ p.Pruned root rejects y := by
  have hid : ∀ {x}, (p.node x).isText = true → (p.node x).unlinked.id = x :=
    fun htext => h.id_node _ (lt_of_isText htext)
  rw [List.mem_map]
  constructor
  · rintro ⟨n, hn, rfl⟩
    obtain ⟨y, rfl, htext, hunder, hne, hall⟩ := h.mem_textsBelow_tree.1 hn
    rw [hid htext]
    refine ⟨hunder, htext, hne, ?_⟩
    rintro ⟨z, hz, hroot, hzroot, hrejected⟩
    have hzy : z ≠ y := by
      rintro rfl
      rw [Node.isElement_eq_false_of_isText htext] at hrejected
      cases hrejected.1
    have hlt := h.lineage_lt (lt_of_isText htext) hz
    exact (h.admits_eq_true_iff hlt).1 (hall z hroot hzroot hz hzy) hrejected
  · rintro ⟨hunder, htext, hne, hkept⟩
    refine ⟨(p.node y).unlinked, h.mem_textsBelow_tree.2 ⟨y, rfl, htext, hunder, hne, ?_⟩,
      hid htext⟩
    intro z hroot hzroot hz _
    exact (h.admits_eq_true_iff (h.lineage_lt (lt_of_isText htext) hz)).2
      (fun hrejected => hkept ⟨z, hz, hroot, hzroot, hrejected⟩)

theorem eq_filter_of_sublist {α : Type} {l m : List α} {test : α → Bool} (hsub : l.Sublist m)
    (hm : m.Nodup) (hmem : ∀ y, y ∈ l ↔ y ∈ m ∧ test y = true) : l = m.filter test := by
  have hkept := hsub.filter test
  rw [List.filter_eq_self.2 (fun y hy => ((hmem y).1 hy).2)] at hkept
  apply hkept.eq_of_length_le
  apply (hm.filter test).length_le_of_subset
  intro y hy
  obtain ⟨hy, htrue⟩ := List.mem_filter.1 hy
  exact (hmem y).2 ⟨hy, htrue⟩

/-- The text nodes that are reached are those of the tree that are not pruned, in its order. -/
theorem WellFormed.ids_textsBelow (h : p.WellFormed) (hroot : root < p.size)
    (rejects : Node → Bool) :
    ((p.tree root).textsBelow (p.admits rejects)).map (·.id) =
      (p.tree root).ids.filter
        (fun y => (p.node y).isText ∧ y ≠ root ∧ ¬ p.Pruned root rejects y) := by
  apply eq_filter_of_sublist
  · exact ((p.tree root).textsBelow_sublist (p.admits rejects)).map (·.id)
  · exact h.nodup_ids_tree hroot
  · intro y
    rw [h.mem_ids_textsBelow, h.mem_ids_tree hroot, decide_eq_true_iff]

/-- The calls of a fresh walker answer, one after the other, the text nodes other than the root
that a traversal of the root visits, without those in the subtrees of rejected elements below the
root, and from then on none. A root that is missing is told by every call, as by the
traversal. -/
theorem walk_order (h : p.WellFormed) (root : NodeId) (rejects : Node → Bool) :
    (root < p.size → ∃ visited,
      p.traverse root (fun n ids => .ok (ids ++ [n.id])) [] = .ok visited ∧ visited.Nodup ∧
        ∀ call, (Walker.start root rejects).answer p call =
          .ok (visited.filter
            (fun y => (p.node y).isText ∧ y ≠ root ∧ ¬ p.Pruned root rejects y))[call]?) ∧
    (p.size ≤ root →
      p.traverse root (fun n ids => .ok (ids ++ [n.id])) [] = .error (.nodeNotFound root) ∧
        ∀ call, (Walker.start root rejects).answer p call = .error (.nodeNotFound root)) := by
  constructor
  · intro hroot
    refine ⟨(p.tree root).ids, h.traverse_ids hroot, h.nodup_ids_tree hroot, ?_⟩
    intro call
    rw [← h.ids_textsBelow hroot]
    apply (h.faces_start root rejects).answer_eq h hroot
    · intro y hy _
      exact h.admits_label hy
    · intro m htext
      exact admits_of_isText htext
  · intro hle
    exact ⟨tour_of_le hle _ _, Walker.answer_of_le hle rfl⟩

/-- A page with three texts, the second of them in a script. -/
def scriptPage : Page :=
  [.addElement "div", .addText "a", .append 0 1, .addElement "script", .append 0 2, .addText "b",
    .append 2 3, .addElement "p", .append 0 4, .addText "c", .append 4 5].foldl perform empty

theorem consistent_scriptPage : scriptPage.Consistent :=
  consistent_edits _

theorem walk_order_scriptPage :
    (Walker.start 0 (·.hasTag "SCRIPT")).answer scriptPage 0 = .ok (some 1) ∧
      (Walker.start 0 (·.hasTag "SCRIPT")).answer scriptPage 1 = .ok (some 5) ∧
      ∀ call, 2 ≤ call →
        (Walker.start 0 (·.hasTag "SCRIPT")).answer scriptPage call = .ok none := by
  have hroot : 0 < scriptPage.size := by decide
  have hids : scriptPage.traverse 0 (fun n ids => .ok (ids ++ [n.id])) [] =
      .ok [0, 1, 2, 3, 4, 5] := by decide +kernel
  have hkept : [0, 1, 2, 3, 4, 5].filter (fun y => (scriptPage.node y).isText ∧ y ≠ 0 ∧
      ¬ scriptPage.Pruned 0 (·.hasTag "SCRIPT") y) = [1, 5] := by decide +kernel
  obtain ⟨visited, hvisited, -, hanswer⟩ :=
    (walk_order consistent_scriptPage.toWellFormed 0 (·.hasTag "SCRIPT")).1 hroot
  rw [hids, Except.ok.injEq] at hvisited
  subst hvisited
  rw [hkept] at hanswer
  refine ⟨hanswer 0, hanswer 1, ?_⟩
  intro call hcall
  rw [hanswer call, List.getElem?_eq_none hcall]

end Page

end PhraseMark
