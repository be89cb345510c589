import Mathlib.Algebra.Ring.Nat
import Mathlib.Tactic.ByContra
import PhraseMark.Page.Links

/-!
# Pages place by place

Every place of a page holds a node; beyond the end of the table stands one without links. Edits
are described by what they do at each place, and by what they leave alone.
-/

namespace PhraseMark

/-- What a node carries besides its links. -/
def Node.unlinked (n : Node) : Node := { n with parent := none, children := [] }

@[simp] theorem Node.value_unlinked (n : Node) : n.unlinked.value = n.value := rfl

theorem Node.ext_unlinked {m n : Node} (h : m.unlinked = n.unlinked) (hparent : m.parent = n.parent)
    (hchildren : m.children = n.children) : m = n := by
  cases m
  cases n
  simp_all [Node.unlinked]

theorem Node.kind_of_isText {n : Node} (h : n.isText = true) : n.kind = .text := by
  simpa [Node.isText] using h

theorem Node.isElement_eq_false_of_isText {n : Node} (h : n.isText = true) :
    n.isElement = false := by
  rw [Node.isElement, Node.kind_of_isText h]
  decide

namespace Page

variable {p q r : Page} {id x : NodeId} {first next : Page → Page × Except Fault Unit}

/-- The node at a place, one without links where there is none. -/
def node (p : Page) (id : NodeId) : Node := p.nodes[id]?.getD default

theorem get_of_lt (h : id < p.size) : p.get id = .ok (p.node id) := by
  have hget : p.nodes[id]? = some p.nodes[id] := Array.getElem?_eq_getElem h
  rw [get_eq_ok_iff, node, hget, Option.getD_some]

theorem get_of_le (h : p.size ≤ id) : p.get id = .error (.nodeNotFound id) :=
  get_eq_error_iff.2 ⟨h, rfl⟩

theorem node_of_get {n : Node} (h : p.get id = .ok n) : p.node id = n := by
  rw [node, get_eq_ok_iff.1 h, Option.getD_some]

theorem node_of_le (h : p.size ≤ id) : p.node id = default := by
  rw [node, Array.getElem?_eq_none h, Option.getD_none]

theorem children_of_le (h : p.size ≤ id) : (p.node id).children = [] := by
  rw [node_of_le h]
  rfl

theorem parent_of_le (h : p.size ≤ id) : (p.node id).parent = none := by
  rw [node_of_le h]
  rfl

theorem lt_of_not_isElement (h : (p.node id).isElement = false) : id < p.size := by
  by_contra hle
  rw [node_of_le (Nat.not_lt.1 hle)] at h
  exact absurd h (by decide)

theorem lt_of_isText (h : (p.node id).isText = true) : id < p.size := by
  apply lt_of_not_isElement
  exact Node.isElement_eq_false_of_isText h

theorem lt_of_mem_children (h : x ∈ (p.node id).children) : id < p.size := by
  by_contra hle
  rw [children_of_le (Nat.not_lt.1 hle)] at h
  exact List.not_mem_nil h

theorem lt_of_parent (h : (p.node id).parent = some x) : id < p.size := by
  by_contra hle
  rw [parent_of_le (Nat.not_lt.1 hle)] at h
  cases h

theorem node_modify (p : Page) (id x : NodeId) (f : Node → Node) :
    (p.modify id f).node x = if x = id ∧ x < p.size then f (p.node x) else p.node x := by
  have hnodes : (p.modify id f).nodes[x]? =
      if id = x then p.nodes[x]?.map f else p.nodes[x]? := by
    simp only [modify, Array.getElem?_modify]
  rw [node, hnodes]
  by_cases hx : x < p.size
  · have hget : p.nodes[x]? = some p.nodes[x] := Array.getElem?_eq_getElem hx
    by_cases h : x = id
    · subst h
      simp [node, hget, hx]
    · simp [node, h, Ne.symm h]
  · have hget : p.nodes[x]? = none := Array.getElem?_eq_none (Nat.not_lt.1 hx)
    simp [node, hget, hx]

theorem parent_modify_parent (p : Page) (id x : NodeId) (parent : Option NodeId) :
    ((p.modify id (fun m => { m with parent })).node x).parent =
      if x = id ∧ x < p.size then parent else (p.node x).parent := by
  rw [node_modify]
  split <;> rfl

theorem children_modify_parent (p : Page) (id x : NodeId) (parent : Option NodeId) :
    ((p.modify id (fun m => { m with parent })).node x).children = (p.node x).children := by
  rw [node_modify]
  split <;> rfl

theorem parent_modify_children (p : Page) (id x : NodeId) (f : List NodeId → List NodeId) :
    ((p.modify id (fun m => { m with children := f m.children })).node x).parent =
      (p.node x).parent := by
  rw [node_modify]
  split <;> rfl

theorem children_modify_children (p : Page) (id x : NodeId) (f : List NodeId → List NodeId) :
    ((p.modify id (fun m => { m with children := f m.children })).node x).children =
      if x = id ∧ x < p.size then f (p.node x).children else (p.node x).children := by
  rw [node_modify]
  split <;> rfl

theorem node_add (p : Page) (n : Node) (x : NodeId) :
    (p.add n).2.node x = if x = p.size then { n with id := p.size } else p.node x := by
  simp only [node, add, Array.getElem?_push, size]
  by_cases h : x = p.nodes.size <;> simp [h]

theorem ext_node (hsize : p.size = q.size) (hnode : ∀ x < p.size, p.node x = q.node x)
    (hindex : p.backendIndex = q.backendIndex) (hroot : p.root = q.root) : p = q := by
  have hnodes : p.nodes = q.nodes := by
    apply Array.ext hsize
    intro i hp hq
    have h := hnode i hp
    rwa [node, node, Array.getElem?_eq_getElem hp, Array.getElem?_eq_getElem hq,
      Option.getD_some, Option.getD_some] at h
  cases p
  cases q
  simp_all

/-! ## Edits that have to find their node -/

theorem edit_of_lt (h : id < p.size) (f : Node → Node) : p.edit id f = .ok (p.modify id f) := by
  rw [edit, get_of_lt h]

theorem edit_eq_ok {f : Node → Node} (h : p.edit id f = .ok q) :
    id < p.size ∧ q = p.modify id f := by
  unfold edit at h
  split at h
  · cases h
  · rename_i n hget
    cases h
    exact ⟨lt_size_of_get hget, rfl⟩

theorem size_edit {f : Node → Node} (h : p.edit id f = .ok q) : q.size = p.size := by
  obtain ⟨-, rfl⟩ := edit_eq_ok h
  exact size_modify p id f

/-! ## Edits as a whole

Detaching and appending make their edits in place, one after another, and each of them could fail.
All that can go wrong is found before the first of them, so they happen as a whole or not at all. -/

/-- What an edit that cannot stop midway leaves of a page. -/
def allOrNothing (p : Page) : Except Fault Page → Page × Except Fault Unit
  | .ok q => (q, .ok ())
  | .error e => (p, .error e)

/-- `detachInPlace` as a whole. -/
def detach (p : Page) (id : NodeId) : Except Fault Page :=
  match p.get id with
  | .error e => .error e
  | .ok n =>
    match n.parent with
    | none => .ok p
    | some parent =>
      match p.edit parent (fun m => { m with children := m.children.filter (· ≠ id) }) with
      | .error e => .error e
      | .ok q => .ok (q.modify id (fun m => { m with parent := none }))

/-- `appendInPlace` as a whole. -/
def append (p : Page) (parent child : NodeId) : Except Fault Page :=
  match p.isInclusiveAncestor child parent with
  | .error e => .error e
  | .ok true => .error (.hierarchyRequest child)
  | .ok false =>
    match p.detach child with
    | .error e => .error e
    | .ok q =>
      match q.edit parent (fun m => { m with children := m.children ++ [child] }) with
      | .error e => .error e
      | .ok q => .ok (q.modify child (fun m => { m with parent := some parent }))

theorem size_detach (h : p.detach id = .ok q) : q.size = p.size := by
  unfold detach at h
  repeat' split at h
  · cases h
  · cases h
    rfl
  · cases h
  · rename_i hedit
    cases h
    exact (size_modify _ _ _).trans (size_edit hedit)

theorem inTurn_of_ok (h : first p = (q, .ok ())) : p.inTurn first next = next q := by
  rw [inTurn, h]

theorem inTurn_of_error {e : Fault} (h : first p = (q, .error e)) :
    p.inTurn first next = (q, .error e) := by
  rw [inTurn, h]

theorem editInPlace_eq (p : Page) (id : NodeId) (f : Node → Node) :
    p.editInPlace id f = p.allOrNothing (p.edit id f) := by
  unfold editInPlace
  cases p.edit id f <;> rfl

theorem editInPlace_of_lt (h : id < p.size) (f : Node → Node) :
    p.editInPlace id f = (p.modify id f, .ok ()) := by
  rw [editInPlace_eq, edit_of_lt h, allOrNothing]

theorem lt_of_detach (h : p.detach id = .ok q) : id < p.size := by
  by_contra hle
  simp [detach, get_of_le (Nat.not_lt.1 hle)] at h

theorem lt_of_isInclusiveAncestor {c : NodeId} (h : p.isInclusiveAncestor c x = .ok false) :
    x < p.size := by
  by_contra hle
  have hget := get_of_le (Nat.not_lt.1 hle)
  by_cases hxc : x = c <;> simp [isInclusiveAncestor, climb, hxc, hget] at h

/-- Once the node and its parent have been found nothing stops the detaching. -/
theorem detachInPlace_eq (p : Page) (id : NodeId) :
    p.detachInPlace id = p.allOrNothing (p.detach id) := by
  unfold detachInPlace detach
  cases hget : p.get id with
  | error e => rfl
  | ok n =>
      have hid := lt_size_of_get hget
      dsimp only
      cases n.parent with
      | none => rfl
      | some parent =>
          dsimp only
          cases hedit : p.edit parent
              (fun m => { m with children := m.children.filter (· ≠ id) }) with
          | error e =>
              apply inTurn_of_error
              rw [editInPlace_eq, hedit, allOrNothing]
          | ok q =>
              refine (inTurn_of_ok (q := q) ?_).trans (editInPlace_of_lt (size_edit hedit ▸ hid) _)
              rw [editInPlace_eq, hedit, allOrNothing]

/-- Looking above the new parent finds that it exists, and taking the child out finds that the
child does. Nothing is left to fail when the first edit is made. -/
theorem appendInPlace_eq (p : Page) (x c : NodeId) :
    p.appendInPlace x c = p.allOrNothing (p.append x c) := by
  unfold appendInPlace append
  rcases habove : p.isInclusiveAncestor c x with e | _ | _
  · rfl
  · have hx := lt_of_isInclusiveAncestor habove
    dsimp only
    cases hd : p.detach c with
    | error e =>
        apply inTurn_of_error
        rw [detachInPlace_eq, hd, allOrNothing]
    | ok q =>
        have hsize := size_detach hd
        have hxq : x < q.size := hsize ▸ hx
        rw [inTurn_of_ok (q := q) (by rw [detachInPlace_eq, hd, allOrNothing]),
          inTurn_of_ok (editInPlace_of_lt hxq _)]
        dsimp only
        rw [edit_of_lt hxq, editInPlace_of_lt]
        · rfl
        · rw [size_modify, hsize]
          exact lt_of_detach hd
  · rfl

/-- The way is cleared of one node after another, each detached as a whole. -/
theorem clearWay_cons (p : Page) (id parent r : NodeId) (rs : List NodeId) :
    p.clearWay id parent (r :: rs) =
      match p.isInclusiveAncestor r parent with
      | .error e => (p, .error e)
      | .ok above =>
        if above || r == id then (p, .error (.hierarchyRequest r))
        else
          match p.detach r with
          | .error e => (p, .error e)
          | .ok q => q.clearWay id parent rs := by
  rw [clearWay, detachInPlace_eq]
  cases p.detach r <;> rfl

/-! ## Edits that touch links only -/

/-- The second page differs from the first in the links of its nodes only. -/
structure Relinked (p q : Page) : Prop where
  size : q.size = p.size
  root : q.root = p.root
  backendIndex : q.backendIndex = p.backendIndex
  unlinked : ∀ x, (q.node x).unlinked = (p.node x).unlinked

theorem Relinked.refl (p : Page) : Relinked p p := ⟨rfl, rfl, rfl, fun _ => rfl⟩

theorem Relinked.trans (h : Relinked p q) (h' : Relinked q r) : Relinked p r :=
  ⟨h'.size.trans h.size, h'.root.trans h.root, h'.backendIndex.trans h.backendIndex,
    fun x => (h'.unlinked x).trans (h.unlinked x)⟩

/-- A node keeps all but its links. -/
theorem Relinked.node_eq (h : Relinked p q) {parent : Option NodeId} {children : List NodeId}
    (hparent : (q.node x).parent = parent) (hchildren : (q.node x).children = children) :
    q.node x = { p.node x with parent, children } := by
  apply Node.ext_unlinked
  · exact h.unlinked x
  · exact hparent
  · exact hchildren

theorem relinked_modify (p : Page) (id : NodeId) (f : Node → Node)
    (hf : ∀ n, (f n).unlinked = n.unlinked) : Relinked p (p.modify id f) := by
  refine ⟨size_modify p id f, rfl, rfl, ?_⟩
  intro x
  rw [node_modify]
  split
  · exact hf _
  · rfl

theorem relinked_edit {f : Node → Node} (h : p.edit id f = .ok q)
    (hf : ∀ n, (f n).unlinked = n.unlinked) : Relinked p q := by
  obtain ⟨-, rfl⟩ := edit_eq_ok h
  exact relinked_modify p id f hf

theorem relinked_detach (h : p.detach id = .ok q) : Relinked p q := by
  unfold detach at h
  repeat' split at h
  · cases h
  · cases h
    exact .refl p
  · cases h
  · rename_i he
    cases h
    exact (relinked_edit he (fun _ => rfl)).trans (relinked_modify _ id _ (fun _ => rfl))

theorem relinked_append {child : NodeId} (h : p.append id child = .ok q) : Relinked p q := by
  unfold append at h
  repeat' split at h
  all_goals try cases h
  rename_i hd _ _ he
  exact ((relinked_detach hd).trans (relinked_edit he (fun _ => rfl))).trans
    (relinked_modify _ child _ (fun _ => rfl))

theorem relinked_clearWay (p : Page) (id parent : NodeId) (rs : List NodeId) :
    Relinked p (p.clearWay id parent rs).1 := by
  induction rs generalizing p with
  | nil => exact .refl p
  | cons r rs ih =>
      rw [clearWay_cons]
      repeat' split
      · exact .refl p
      · exact .refl p
      · exact .refl p
      · rename_i q hd
        exact (relinked_detach hd).trans (ih q)

def adopt (p : Page) (parent : NodeId) (ids : List NodeId) : Page :=
  ids.foldl (fun q r => q.modify r (fun m => { m with parent := some parent })) p

theorem adopt_cons (p : Page) (parent r : NodeId) (rs : List NodeId) :
    p.adopt parent (r :: rs) =
      (p.modify r (fun m => { m with parent := some parent })).adopt parent rs := rfl

theorem relinked_adopt (p : Page) (parent : NodeId) (ids : List NodeId) :
    Relinked p (p.adopt parent ids) := by
  induction ids generalizing p with
  | nil => exact .refl p
  | cons r rs ih =>
      rw [adopt_cons]
      refine Relinked.trans ?_ (ih _)
      exact relinked_modify p r _ (fun _ => rfl)

theorem children_adopt (p : Page) (parent : NodeId) (ids : List NodeId) (x : NodeId) :
    ((p.adopt parent ids).node x).children = (p.node x).children := by
  induction ids generalizing p with
  | nil => rfl
  | cons r rs ih =>
      rw [adopt_cons, ih, children_modify_parent]

theorem parent_adopt (p : Page) (parent : NodeId) (ids : List NodeId) (x : NodeId) :
    ((p.adopt parent ids).node x).parent =
      if x ∈ ids ∧ x < p.size then some parent else (p.node x).parent := by
  induction ids generalizing p with
  | nil => simp [adopt]
  | cons r rs ih =>
      rw [adopt_cons, ih, size_modify, parent_modify_parent]
      by_cases hx : x < p.size
      · by_cases hr : x = r
        · simp [hr ▸ hx, hr]
        · simp [hx, hr]
      · simp [hx]

/-- Puts `rs` in the place of the entry at `i` among the children of `parent`, and takes `id` off
that parent. -/
def putInPlace (p : Page) (parent id : NodeId) (i : Nat) (rs : List NodeId) : Page :=
  ((p.modify parent (fun m => { m with children := splice m.children i rs })).adopt parent
    rs).modify id (fun m => { m with parent := none })

theorem relinked_putInPlace (p : Page) (parent id : NodeId) (i : Nat) (rs : List NodeId) :
    Relinked p (p.putInPlace parent id i rs) := by
  have hsplice := relinked_modify p parent
    (fun m => { m with children := splice m.children i rs }) (fun _ => rfl)
  have horphan := fun q : Page =>
    relinked_modify q id (fun m => { m with parent := none }) (fun _ => rfl)
  exact (hsplice.trans (relinked_adopt _ parent rs)).trans (horphan _)

/-- A replacement stops before anything is changed, stops while the way is cleared, or puts the
replacements in place. -/
theorem replace_cases (p : Page) (id : NodeId) (rs : List NodeId) :
    (∃ e, p.replace id rs = (p, .error e)) ∨
      ∃ parent, (p.node id).parent = some parent ∧
        ((∃ e, p.replace id rs = ((p.clearWay id parent rs).1, .error e)) ∨
          ∃ i, (p.clearWay id parent rs).2 = .ok () ∧
            ((p.clearWay id parent rs).1.node parent).children.idxOf? id = some i ∧
              p.replace id rs =
                ((p.clearWay id parent rs).1.putInPlace parent id i rs, .ok ())) := by
  unfold replace
  split
  · exact .inl ⟨_, rfl⟩
  · rename_i n hget
    split
    · exact .inl ⟨_, rfl⟩
    · rename_i parent hparent
      refine .inr ⟨parent, by rw [node_of_get hget, hparent], ?_⟩
      split
      · rename_i q e hclear
        exact .inl ⟨e, by rw [hclear]⟩
      · rename_i q hclear
        split
        · exact .inl ⟨_, by rw [hclear]⟩
        · rename_i m hm
          split
          · exact .inl ⟨_, by rw [hclear]⟩
          · rename_i i hi
            refine .inr ⟨i, by rw [hclear], ?_, ?_⟩
            · rw [hclear, node_of_get hm, hi]
            · rw [hclear]
              rfl

theorem relinked_replace (p : Page) (id : NodeId) (rs : List NodeId) :
    Relinked p (p.replace id rs).1 := by
  rcases replace_cases p id rs with ⟨e, h⟩ | ⟨parent, -, ⟨e, h⟩ | ⟨i, -, -, h⟩⟩
  · rw [h]
    exact .refl p
  · rw [h]
    exact relinked_clearWay p id parent rs
  · rw [h]
    exact (relinked_clearWay p id parent rs).trans (relinked_putInPlace _ parent id i rs)

end Page

end PhraseMark
