import Mathlib.Data.List.Dedup
import PhraseMark.Proofs.Page.Refusals

/-!
# Splicing

What a replacement that succeeds does to every node of a well-formed page. The same comes of
gathering the new nodes under a fragment and putting what the fragment holds in the place of the
old node, as long as no new node is named twice: a fragment keeps the last of several mentions, a
replacement puts the node into the list of children as often as it is named.
-/

namespace PhraseMark

/-- A fragment holds nodes until they are put in a place. -/
def Node.ofFragment : Node := { kind := .documentFragment, name := "#document-fragment" }

namespace Page

variable {p q r : Page} {id x y f : NodeId} {rs : List NodeId}

/-! ## The slot of a node -/

theorem WellFormed.exists_slot (h : p.WellFormed) (hp : (p.node id).parent = some x) :
    ∃ before after, (p.node x).children = before ++ id :: after ∧ id ∉ before ∧ id ∉ after := by
  obtain ⟨before, after, hslot⟩ := List.append_of_mem ((h.mem_children_iff x id).2 hp)
  have hnodup := h.nodup_children x
  rw [hslot, List.nodup_middle, List.nodup_cons, List.mem_append, not_or] at hnodup
  exact ⟨before, after, hslot, hnodup.1.1, hnodup.1.2⟩

theorem flatMap_substitute_slot {before after new : List NodeId} (hbefore : id ∉ before)
    (hafter : id ∉ after) (hid : id ∉ rs) :
    ((before ++ id :: after).filter (· ∉ rs)).flatMap (substitute id new) =
      before.filter (· ∉ rs) ++ new ++ after.filter (· ∉ rs) := by
  have hkept : ∀ {l : List NodeId}, id ∉ l →
      (l.filter (· ∉ rs)).flatMap (substitute id new) = l.filter (· ∉ rs) := by
    intro l hl
    apply flatMap_substitute_of_notMem
    intro hmem
    exact hl (List.mem_of_mem_filter hmem)
  rw [List.filter_append, List.filter_cons_of_pos (by simpa using hid), List.flatMap_append,
    List.flatMap_cons, hkept hbefore, hkept hafter, substitute, if_pos rfl, List.append_assoc]

theorem WellFormed.flatMap_substitute_of_ne (h : p.WellFormed) (hp : (p.node id).parent = some x)
    (hy : y ≠ x) (new : List NodeId) :
    ((p.node y).children.filter (· ∉ rs)).flatMap (substitute id new) =
      (p.node y).children.filter (· ∉ rs) := by
  apply flatMap_substitute_of_notMem
  intro hmem
  have hparent := (h.mem_children_iff y id).1 (List.mem_of_mem_filter hmem)
  rw [hp, Option.some.injEq] at hparent
  exact hy hparent.symm

theorem WellFormed.fits_of_replace (h : p.WellFormed) (hp : (p.node id).parent = some x)
    (hok : (p.replace id rs).2 = .ok ()) : p.Fits id x rs := by
  have hx := h.parent_lt hp
  rcases replace_cases p id rs with ⟨e, he⟩ | ⟨x', hp', ⟨e, he⟩ | ⟨i, hway, -, -⟩⟩
  · rw [he] at hok
    cases hok
  · rw [he] at hok
    cases hok
  · rw [hp, Option.some.injEq] at hp'
    subst hp'
    exact (h.clearWay id hx rs).2.1.1 hway

/-! ## What a replacement changes -/

/-- `q` is `p` with `rs`, in order, in the slot of `id` among the children of `x`. Other nodes lose
those of their children that are in `rs`, and nothing else is different. -/
structure Spliced (p : Page) (id x : NodeId) (rs : List NodeId) (q : Page) : Prop where
  size : q.size = p.size
  root : q.root = p.root
  backendIndex : q.backendIndex = p.backendIndex
  slot : ∃ before after, (p.node x).children = before ++ id :: after ∧
    q.node x =
      { p.node x with children := before.filter (· ∉ rs) ++ rs ++ after.filter (· ∉ rs) }
  placed : ∀ r ∈ rs, q.node r =
    { p.node r with parent := some x, children := (p.node r).children.filter (· ∉ rs) }
  replaced : q.node id =
    { p.node id with parent := none, children := (p.node id).children.filter (· ∉ rs) }
  left : ∀ y, y ≠ x → y ≠ id → y ∉ rs → q.node y =
    { p.node y with children := (p.node y).children.filter (· ∉ rs) }
  kept : ∀ y, y ≠ x → y ≠ id → y ∉ rs → (∀ r ∈ rs, (p.node r).parent ≠ some y) →
    q.node y = p.node y

namespace Replaced

theorem children_of_ne (hr : Replaced p id x rs q) (h : p.WellFormed)
    (hp : (p.node id).parent = some x) (hy : y ≠ x) :
    (q.node y).children = (p.node y).children.filter (· ∉ rs) := by
  rw [hr.children, h.flatMap_substitute_of_ne hp hy]

theorem spliced (hr : Replaced p id x rs q) (h : p.WellFormed)
    (hp : (p.node id).parent = some x) (hf : p.Fits id x rs) : Spliced p id x rs q := by
  have hxid : x ≠ id := (h.ne_of_parent hp).symm
  have hxrs : x ∉ rs := fun hmem => (hf x hmem).2.2 (h.mem_lineage_self x)
  have hparent : ∀ y, y ≠ id → y ∉ rs → (q.node y).parent = (p.node y).parent := by
    intro y hy hyrs
    rw [hr.parent, if_neg hy, if_neg hyrs]
  have hleft : ∀ y, y ≠ x → y ≠ id → y ∉ rs → q.node y =
      { p.node y with children := (p.node y).children.filter (· ∉ rs) } := by
    intro y hyx hyid hyrs
    exact hr.node_eq (hparent y hyid hyrs) (hr.children_of_ne h hp hyx)
  refine
    { size := hr.size
      root := hr.root
      backendIndex := hr.backendIndex
      slot := ?slot
      placed := ?placed
      replaced := ?replaced
      left := hleft
      kept := ?kept }
  case slot =>
    obtain ⟨before, after, hslot, hbefore, hafter⟩ := h.exists_slot hp
    refine ⟨before, after, hslot, hr.node_eq (hparent x hxid hxrs) ?_⟩
    rw [hr.children, hslot, flatMap_substitute_slot hbefore hafter hf.not_mem]
  case placed =>
    intro r hmem
    have hrx : r ≠ x := fun hrx => hxrs (hrx ▸ hmem)
    refine hr.node_eq ?_ (hr.children_of_ne h hp hrx)
    rw [hr.parent, if_neg (hf r hmem).2.1, if_pos hmem]
  case replaced =>
    refine hr.node_eq ?_ (hr.children_of_ne h hp hxid.symm)
    rw [hr.parent, if_pos rfl]
  case kept =>
    intro y hyx hyid hyrs hold
    have hall : (p.node y).children.filter (· ∉ rs) = (p.node y).children := by
      apply List.filter_eq_self.2
      intro c hc
      have hcy := (h.mem_children_iff y c).1 hc
      simpa using fun hmem : c ∈ rs => hold c hmem hcy
    rw [hleft y hyx hyid hyrs, hall]

end Replaced

/-- Nodes that fit into the slot of a node are put there, and this is all that happens. Without
repeats among them the page stays well formed. -/
theorem replace_exact (h : p.WellFormed) (hp : (p.node id).parent = some x)
    (hf : p.Fits id x rs) :
    ∃ q, p.replace id rs = (q, .ok ()) ∧ Spliced p id x rs q ∧ (rs.Nodup → q.WellFormed) := by
  obtain ⟨q, hq, hr⟩ := h.exists_replace hp hf
  exact ⟨q, hq, hr.spliced h hp hf, hr.wellFormed h hp hf⟩

/-- The paragraph with a text in it gives way to this text and to the text before it. -/
theorem replace_exact_forkedPage :
    forkedPage.WellFormed ∧ (forkedPage.node 2).parent = some 0 ∧ forkedPage.Fits 2 0 [3, 1] ∧
      ∃ q, forkedPage.replace 2 [3, 1] = (q, .ok ()) ∧ Spliced forkedPage 2 0 [3, 1] q := by
  have hparent : (forkedPage.node 2).parent = some 0 := by decide
  have hfits : forkedPage.Fits 2 0 [3, 1] := by decide
  obtain ⟨q, hq, hspliced, -⟩ := replace_exact wellFormed_forkedPage hparent hfits
  exact ⟨wellFormed_forkedPage, hparent, hfits, q, hq, hspliced⟩

/-! ## By way of a fragment -/

/-- Appends nodes, one after another, to a new fragment. -/
def gather (p : Page) (rs : List NodeId) : Except Fault Page :=
  rs.foldlM (fun q r => q.append p.size r) (p.add .ofFragment).2

/-- Moves what a fragment holds, in order, to the place before `id` among the children of `x`. -/
def pour (p : Page) (f x id : NodeId) : Page :=
  ((p.modify x (fun m => { m with
    children := m.children.flatMap
      (fun c => if c = id then (p.node f).children ++ [c] else [c]) })).modify f (fun m =>
        { m with children := [] })).adopt x (p.node f).children

/-- Puts what a fragment of the replacements holds in the place of `id`, which becomes detached. -/
def replaceByFragment (p : Page) (id : NodeId) (rs : List NodeId) : Except Fault Page :=
  match (p.node id).parent with
  | none => .error (.detached id)
  | some x =>
    match p.gather rs with
    | .error e => .error e
    | .ok q => (q.pour p.size x id).detach id

/-- `q` is `p` with the nodes of `rs` at the end of the children of `f`, in the order of their last
mentions. -/
structure Gathered (p : Page) (f : NodeId) (rs : List NodeId) (q : Page) : Prop
    extends Relinked p q where
  parent : ∀ y, (q.node y).parent = if y ∈ rs then some f else (p.node y).parent
  children : ∀ y, (q.node y).children =
    (p.node y).children.filter (· ∉ rs) ++ if y = f then rs.dedup else []

theorem Gathered.nil (p : Page) (f : NodeId) : Gathered p f [] p where
  toRelinked := .refl p
  parent := fun y => by simp
  children := fun y => by simp

theorem Gathered.cons {c : NodeId} (ha : Appended p f c q) (hg : Gathered q f rs r) :
    Gathered p f (c :: rs) r where
  toRelinked := ha.toRelinked.trans hg.toRelinked
  parent := by
    intro y
    rw [hg.parent, ha.parent]
    by_cases hy : y ∈ rs <;> simp [hy]
  children := by
    intro y
    rw [hg.children, ha.children, List.filter_append, List.filter_filter, List.append_assoc]
    congr 1
    · congr 1
      funext z
      by_cases hz : z = c <;> simp [hz]
    · by_cases hy : y = f
      · by_cases hc : c ∈ rs
        · simp [hy, hc]
        · simp [hy, hc]
      · simp [hy]

theorem WellFormed.exists_foldlM_append (h : p.WellFormed) (hf : f < p.size)
    (htop : (p.node f).parent = none) (hrs : ∀ r ∈ rs, r < p.size ∧ r ≠ f) :
    ∃ q, rs.foldlM (fun q r => q.append f r) p = .ok q ∧ Gathered p f rs q := by
  induction rs generalizing p with
  | nil => exact ⟨p, rfl, .nil p f⟩
  | cons c rs ih =>
      obtain ⟨hc, hcf⟩ := hrs c List.mem_cons_self
      have hnot : c ∉ p.lineage f := by
        rw [h.lineage_of_top htop, List.mem_singleton]
        exact hcf
      obtain ⟨q, hq, ha⟩ := h.exists_append hf hc hnot
      -- the fragment stays at the top, since it is not appended to itself
      have htop' : (q.node f).parent = none := by rw [ha.parent, if_neg hcf.symm, htop]
      obtain ⟨r, hr, hg⟩ := ih (ha.wellFormed h hnot) (ha.size ▸ hf) htop' (fun s hs => by
        rw [ha.size]
        exact hrs s (List.mem_cons_of_mem c hs))
      refine ⟨r, ?_, .cons ha hg⟩
      rw [List.foldlM_cons, hq]
      exact hr

theorem WellFormed.exists_gather (h : p.WellFormed) (hrs : ∀ r ∈ rs, r < p.size) :
    ∃ q, p.gather rs = .ok q ∧ Gathered (p.add .ofFragment).2 p.size rs q := by
  have hsize : (p.add .ofFragment).2.size = p.size + 1 := size_add p _
  apply (h.add (n := .ofFragment) rfl rfl).exists_foldlM_append
  · rw [hsize]
    exact Nat.lt_succ_self _
  · rw [parent_add rfl]
    exact parent_of_le (Nat.le_refl _)
  · intro r hmem
    rw [hsize]
    exact ⟨Nat.lt_succ_of_lt (hrs r hmem), Nat.ne_of_lt (hrs r hmem)⟩

theorem size_pour (p : Page) (f x id : NodeId) : (p.pour f x id).size = p.size := by
  rw [pour, (relinked_adopt _ x _).size, size_modify, size_modify]

theorem parent_pour (p : Page) (f x id y : NodeId) :
    ((p.pour f x id).node y).parent =
      if y ∈ (p.node f).children ∧ y < p.size then some x else (p.node y).parent := by
  rw [pour, parent_adopt, size_modify, size_modify, parent_modify_children _ f y (fun _ => []),
    parent_modify_children p x y (List.flatMap _)]

theorem children_pour (p : Page) {f : NodeId} (x id : NodeId) (hy : y ≠ f) :
    ((p.pour f x id).node y).children =
      if y = x ∧ y < p.size then
        (p.node y).children.flatMap (fun c => if c = id then (p.node f).children ++ [c] else [c])
      else (p.node y).children := by
  rw [pour, children_adopt, children_modify_children _ f y (fun _ => []), if_neg (fun h => hy h.1),
    children_modify_children p x y (List.flatMap _)]

theorem filter_flatMap_before {l new : List NodeId} (hid : id ∉ new) :
    (l.flatMap (fun c => if c = id then new ++ [c] else [c])).filter (· ≠ id) =
      l.flatMap (substitute id new) := by
  rw [List.filter_flatMap]
  apply List.flatMap_congr
  intro c _
  by_cases hc : c = id
  · have hnew : ∀ d ∈ new, d ≠ id := fun d hd hdid => hid (hdid ▸ hd)
    simpa [substitute, hc] using hnew
  · simp [substitute, hc]

/-- What a fragment of the nodes of `rs` holds stands before `id` after it has been poured out. -/
theorem WellFormed.exists_gather_pour (h : p.WellFormed) (hrs : ∀ r ∈ rs, r < p.size)
    (x id : NodeId) :
    ∃ q, p.gather rs = .ok q ∧ q.size = p.size + 1 ∧
      (∀ y, ((q.pour p.size x id).node y).parent =
        if y ∈ rs then some x else (p.node y).parent) ∧
      ∀ y < p.size, ((q.pour p.size x id).node y).children =
        if y = x then ((p.node y).children.filter (· ∉ rs)).flatMap
          (fun c => if c = id then rs.dedup ++ [c] else [c])
        else (p.node y).children.filter (· ∉ rs) := by
  obtain ⟨q, hq, hgathered⟩ := h.exists_gather hrs
  have hsize : q.size = p.size + 1 := hgathered.size.trans (size_add p _)
  have hheld : (q.node p.size).children = rs.dedup := by
    rw [hgathered.children, children_add rfl, children_of_le (Nat.le_refl _), if_pos rfl,
      List.filter_nil, List.nil_append]
  refine ⟨q, hq, hsize, ?_, ?_⟩
  · intro y
    rw [parent_pour, hheld, hgathered.parent, parent_add rfl]
    by_cases hy : y ∈ rs
    · simp [hy, hsize, Nat.lt_succ_of_lt (hrs y hy)]
    · simp [hy]
  · intro y hy
    have hyf : y ≠ p.size := Nat.ne_of_lt hy
    have hyq : y < q.size := hsize ▸ Nat.lt_succ_of_lt hy
    rw [children_pour q x id hyf, hheld, hgathered.children, children_add rfl, if_neg hyf,
      List.append_nil]
    simp only [hyq, and_true]

/-- The replacements of a node stand in its slot, each once, when they come out of a fragment. -/
theorem WellFormed.exists_replaceByFragment (h : p.WellFormed)
    (hp : (p.node id).parent = some x) (hf : p.Fits id x rs) :
    ∃ q, p.replaceByFragment id rs = .ok q ∧
      (∀ y, (q.node y).parent =
        if y = id then none else if y ∈ rs then some x else (p.node y).parent) ∧
      ∀ y < p.size, (q.node y).children =
        ((p.node y).children.filter (· ∉ rs)).flatMap (substitute id rs.dedup) := by
  have hx := h.parent_lt hp
  have hid : id ∉ rs.dedup := fun hmem => hf.not_mem (List.mem_dedup.1 hmem)
  obtain ⟨q, hq, hsize, hparent, hchildren⟩ := h.exists_gather_pour (fun r hr => (hf r hr).1) x id
  have hplace : ((q.pour p.size x id).node id).parent = some x := by
    rw [hparent, if_neg hf.not_mem, hp]
  have hlt : ∀ y < p.size, y < (q.pour p.size x id).size := by
    intro y hy
    rw [size_pour, hsize]
    exact Nat.lt_succ_of_lt hy
  have hdone : p.replaceByFragment id rs = (q.pour p.size x id).detach id := by
    simp only [replaceByFragment, hp, hq]
  refine ⟨_, hdone.trans (detach_of_parent hplace (hlt x hx)), ?_, ?_⟩
  · intro y
    rw [parent_modify_parent, size_modify,
      parent_modify_children _ x y (fun cs => cs.filter (· ≠ id)), hparent]
    by_cases hy : y = id
    · simp [hy, lt_of_parent hplace]
    · simp [hy]
  · intro y hy
    rw [children_modify_parent, children_modify_children _ x y (fun cs => cs.filter (· ≠ id)),
      hchildren y hy]
    by_cases hyx : y = x
    · rw [if_pos ⟨hyx, hlt y hy⟩, if_pos hyx, filter_flatMap_before hid]
    · rw [if_neg (fun h => hyx h.1), if_neg hyx, h.flatMap_substitute_of_ne hp hyx]

/-- A replacement that succeeds links the nodes as the way by a fragment does, but that a node named
more than once stands among the children as often as it is named, and not once where it is named
last. So the links are the same just when no node is named twice, and only then no child list has
repeats. -/
theorem replace_fragment (h : p.WellFormed) (hp : (p.node id).parent = some x)
    (hq : p.replace id rs = (q, .ok ())) :
    ∃ r, p.replaceByFragment id rs = .ok r ∧
      (∀ y < p.size, (q.node y).parent = (r.node y).parent ∧
        (y ≠ x → (q.node y).children = (r.node y).children)) ∧
      (∃ before after, (q.node x).children = before ++ rs ++ after ∧
        (r.node x).children = before ++ rs.dedup ++ after) ∧
      ((∀ y < p.size, (q.node y).children = (r.node y).children) ↔ rs.Nodup) ∧
      ((∀ y, (q.node y).children.Nodup) ↔ rs.Nodup) := by
  have hf := h.fits_of_replace hp (congrArg Prod.snd hq)
  obtain ⟨q', hq', hreplaced⟩ := h.exists_replace hp hf
  obtain ⟨r, hr, hparent, hchildren⟩ := h.exists_replaceByFragment hp hf
  rw [hq, Prod.mk.injEq] at hq'
  obtain ⟨rfl, -⟩ := hq'
  have hx := h.parent_lt hp
  have hother : ∀ y < p.size, y ≠ x → (q.node y).children = (r.node y).children := by
    intro y hy hyx
    rw [hreplaced.children_of_ne h hp hyx, hchildren y hy, h.flatMap_substitute_of_ne hp hyx]
  have hslot : ∃ before after, (q.node x).children = before ++ rs ++ after ∧
      (r.node x).children = before ++ rs.dedup ++ after := by
    obtain ⟨before, after, hslot, hbefore, hafter⟩ := h.exists_slot hp
    refine ⟨before.filter (· ∉ rs), after.filter (· ∉ rs), ?_, ?_⟩
    · rw [hreplaced.children, hslot, flatMap_substitute_slot hbefore hafter hf.not_mem]
    · rw [hchildren x hx, hslot, flatMap_substitute_slot hbefore hafter hf.not_mem]
  refine ⟨r, hr, ?_, hslot, ?_, ?_⟩
  · intro y hy
    rw [hreplaced.parent, hparent]
    exact ⟨rfl, hother y hy⟩
  · obtain ⟨before, after, hold, hnew⟩ := hslot
    constructor
    · intro hall
      have hsame := hall x hx
      rw [hold, hnew, List.append_left_inj, List.append_right_inj] at hsame
      exact List.dedup_eq_self.1 hsame.symm
    · intro hnodup y hy
      by_cases hyx : y = x
      · rw [hyx, hold, hnew, hnodup.dedup]
      · exact hother y hy hyx
  · obtain ⟨before, after, hold, -⟩ := hslot
    constructor
    · intro hall
      have hnodup := hall x
      rw [hold, List.nodup_append, List.nodup_append] at hnodup
      exact hnodup.1.2.1
    · exact hreplaced.nodup_children h

theorem replace_fragment_forkedPage :
    forkedPage.WellFormed ∧ (forkedPage.node 2).parent = some 0 ∧
      ∃ q r, forkedPage.replace 2 [3, 1] = (q, .ok ()) ∧
        forkedPage.replaceByFragment 2 [3, 1] = .ok r ∧
          ∀ y < forkedPage.size, (q.node y).children = (r.node y).children := by
  have hparent : (forkedPage.node 2).parent = some 0 := by decide
  have hq : forkedPage.replace 2 [3, 1] = ((forkedPage.replace 2 [3, 1]).1, .ok ()) :=
    Prod.ext rfl (by decide)
  obtain ⟨r, hr, -, -, hsame, -⟩ := replace_fragment wellFormed_forkedPage hparent hq
  exact ⟨wellFormed_forkedPage, hparent, _, r, hq, hr, hsame.2 (by decide)⟩

/-- A text that is named twice stands twice in the division, and once if it comes out of a
fragment. -/
theorem forkedPage_doubled :
    forkedPage.WellFormed ∧ (forkedPage.node 1).parent = some 0 ∧
      ∃ q r, forkedPage.replace 1 [3, 3] = (q, .ok ()) ∧
        forkedPage.replaceByFragment 1 [3, 3] = .ok r ∧
          (q.node 0).children = [3, 3, 2] ∧ (r.node 0).children = [3, 2] :=
  ⟨wellFormed_forkedPage, by decide, (forkedPage.replace 1 [3, 3]).1,
    ((forkedPage.replaceByFragment 1 [3, 3]).toOption.getD empty), by decide +kernel,
    by decide +kernel, by decide, by decide⟩

end Page

end PhraseMark
