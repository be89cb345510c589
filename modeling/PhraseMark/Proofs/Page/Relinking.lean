import Mathlib.Data.List.Nodup
import PhraseMark.Proofs.Page.WellFormed

/-!
# Edits of links

What taking a node out, appending one and replacing one do to the links of a well-formed page, and
that the page stays well formed, also when an edit stops midway.
-/

namespace PhraseMark.Page

variable {p q : Page} {id x y c : NodeId} {rs : List NodeId}

theorem lineage_congr (h : p.WellFormed) (hq : q.WellFormed)
    (hkept : ∀ y ∈ p.lineage id, (q.node y).parent = (p.node y).parent) :
    q.lineage id = p.lineage id := by
  induction id using h.up_induction with
  | top id hp =>
      have hparent := hkept id (h.mem_lineage_self id)
      rw [h.lineage_of_top hp, hq.lineage_of_top (hparent.trans hp)]
  | step id x hp ih =>
      have hparent := hkept id (h.mem_lineage_self id)
      rw [h.lineage_of_parent hp, hq.lineage_of_parent (hparent.trans hp), ih]
      intro y hy
      exact hkept y (h.mem_lineage_trans hy (h.mem_lineage_of_parent hp))

/-! ## Taking nodes out -/

/-- `q` is `p` with the nodes of `rs` taken out of their places. -/
structure Cleared (p : Page) (rs : List NodeId) (q : Page) : Prop extends Relinked p q where
  parent : ∀ y, (q.node y).parent = if y ∈ rs then none else (p.node y).parent
  children : ∀ y, (q.node y).children = (p.node y).children.filter (· ∉ rs)

theorem Cleared.nil (p : Page) : Cleared p [] p where
  toRelinked := .refl p
  parent := fun y => by simp
  children := fun y => (List.filter_eq_self.2 (by simp)).symm

theorem Cleared.cons {r : NodeId} {q' : Page} (h : Cleared p [r] q) (h' : Cleared q rs q') :
    Cleared p (r :: rs) q' where
  toRelinked := h.toRelinked.trans h'.toRelinked
  parent := by
    intro y
    rw [h'.parent, h.parent]
    by_cases hy : y ∈ rs <;> simp [hy]
  children := by
    intro y
    rw [h'.children, h.children, List.filter_filter]
    congr 1
    funext z
    by_cases hz : z = r <;> simp [hz]

theorem Cleared.wellFormed (hc : Cleared p rs q) (h : p.WellFormed) : q.WellFormed where
  id_node := by
    intro id hid
    have hdata := congrArg Node.id (hc.unlinked id)
    exact hdata.trans (h.id_node id (hc.size ▸ hid))
  mem_children_iff := by
    intro x c
    rw [hc.children, hc.parent, List.mem_filter, h.mem_children_iff]
    by_cases hmem : c ∈ rs <;> simp [hmem]
  nodup_children := by
    intro x
    rw [hc.children]
    exact (h.nodup_children x).filter _
  wellFounded := by
    refine Subrelation.wf ?_ h.wellFounded
    intro z y hz
    rw [hc.parent] at hz
    split at hz
    · cases hz
    · exact hz

theorem WellFormed.not_mem_children (h : p.WellFormed) (hc : (p.node c).parent ≠ some x) :
    c ∉ (p.node x).children :=
  fun hmem => hc ((h.mem_children_iff x c).1 hmem)

theorem WellFormed.filter_children (h : p.WellFormed) (hid : (p.node id).parent ≠ some y) :
    (p.node y).children.filter (· ≠ id) = (p.node y).children := by
  apply List.filter_eq_self.2
  intro c hc
  have hne : c ≠ id := by
    rintro rfl
    exact h.not_mem_children hid hc
  simpa using hne

theorem detach_of_parent (hp : (p.node id).parent = some x) (hx : x < p.size) :
    p.detach id = .ok ((p.modify x (fun m =>
      { m with children := m.children.filter (· ≠ id) })).modify id (fun m =>
        { m with parent := none })) := by
  simp only [detach, get_of_lt (lt_of_parent hp), hp, edit_of_lt hx]

theorem WellFormed.exists_detach (h : p.WellFormed) (hid : id < p.size) :
    ∃ q, p.detach id = .ok q ∧ Cleared p [id] q := by
  cases hp : (p.node id).parent with
  | none =>
      refine ⟨p, by simp only [detach, get_of_lt hid, hp], .refl p, ?_, ?_⟩
      · intro y
        by_cases hy : y = id <;> simp [hy, hp]
      · intro y
        have hother : (p.node id).parent ≠ some y := by simp [hp]
        simpa using (h.filter_children hother).symm
  | some x =>
      have hx := h.parent_lt hp
      have hdetach := detach_of_parent hp hx
      refine ⟨_, hdetach, relinked_detach hdetach, ?_, ?_⟩
      · intro y
        rw [parent_modify_parent, size_modify,
          parent_modify_children p x y (fun cs => cs.filter (· ≠ id))]
        by_cases hy : y = id <;> simp [hy, hid]
      · intro y
        rw [children_modify_parent,
          children_modify_children p x y (fun cs => cs.filter (· ≠ id))]
        by_cases hy : y = x
        · simp [hy, hx]
        · have hother : (p.node id).parent ≠ some y := by simp [hp, Ne.symm hy]
          simpa [hy] using (h.filter_children hother).symm

theorem WellFormed.detach (h : p.WellFormed) (hd : p.detach id = .ok q) : Cleared p [id] q := by
  have hid : id < p.size := by
    by_contra hle
    simp [Page.detach, get_of_le (Nat.not_lt.1 hle)] at hd
  obtain ⟨q', hq', hc⟩ := h.exists_detach hid
  rw [hq'] at hd
  cases hd
  exact hc

/-! ## Clearing the way for replacements -/

/-- The nodes of `rs` may take the place of `id` under `x`: they exist, and none of them is `id`
or stands above the place. -/
def Fits (p : Page) (id x : NodeId) (rs : List NodeId) : Prop :=
  ∀ r ∈ rs, r < p.size ∧ r ≠ id ∧ r ∉ p.lineage x

theorem Cleared.lineage_eq (hc : Cleared p rs q) (h : p.WellFormed)
    (hx : ∀ r ∈ rs, r ∉ p.lineage x) : q.lineage x = p.lineage x := by
  apply lineage_congr h (hc.wellFormed h)
  intro y hy
  rw [hc.parent, if_neg (fun hr => hx y hr hy)]

theorem Cleared.fits_iff {r : NodeId} (hc : Cleared p [r] q) (h : p.WellFormed)
    (hr : r ∉ p.lineage x) : q.Fits id x rs ↔ p.Fits id x rs := by
  have hlineage : q.lineage x = p.lineage x := hc.lineage_eq h (by simpa using hr)
  simp only [Fits, hc.size, hlineage]

theorem fits_singleton {r : NodeId} :
    p.Fits id x [r] ↔ r < p.size ∧ r ≠ id ∧ r ∉ p.lineage x := by
  simp [Fits]

theorem fits_cons {r : NodeId} : p.Fits id x (r :: rs) ↔ p.Fits id x [r] ∧ p.Fits id x rs := by
  simp [Fits]

/-- Why a node may not take the place of `id` under `x`. -/
def refusal (p : Page) (id x r : NodeId) : Fault :=
  if r ∈ p.lineage x ∨ r = id then .hierarchyRequest r else .nodeNotFound r

/-- A replacement that fits is taken out of its place. -/
theorem WellFormed.clearWay_cons_of_fits (h : p.WellFormed) (hx : x < p.size) {r : NodeId}
    (hr : p.Fits id x [r]) (rs : List NodeId) :
    ∃ q, Cleared p [r] q ∧ p.clearWay id x (r :: rs) = q.clearWay id x rs := by
  obtain ⟨hlt, hne, habove⟩ := fits_singleton.1 hr
  obtain ⟨q, hq, hc⟩ := h.exists_detach hlt
  have hanc := h.isInclusiveAncestor_eq r hx
  have hguard : (decide (r ∈ p.lineage x) || r == id) = false := by simp [habove, hne]
  refine ⟨q, hc, ?_⟩
  simp only [clearWay_cons, hanc, hguard, hq]
  rfl

/-- A replacement that does not fit stops the clearing. -/
theorem WellFormed.clearWay_cons_of_not_fits (h : p.WellFormed) (hx : x < p.size) {r : NodeId}
    (hr : ¬ p.Fits id x [r]) (rs : List NodeId) :
    p.clearWay id x (r :: rs) = (p, .error (p.refusal id x r)) := by
  have hanc := h.isInclusiveAncestor_eq r hx
  by_cases hplace : r ∈ p.lineage x ∨ r = id
  · have hguard : (decide (r ∈ p.lineage x) || r == id) = true := by simpa using hplace
    rw [refusal, if_pos hplace]
    simp only [clearWay_cons, hanc, hguard]
    rfl
  · obtain ⟨habove, hne⟩ := not_or.1 hplace
    have hguard : (decide (r ∈ p.lineage x) || r == id) = false := by simp [habove, hne]
    have hge : p.size ≤ r := by
      by_contra hlt
      exact hr (fits_singleton.2 ⟨Nat.not_le.1 hlt, hne, habove⟩)
    rw [refusal, if_neg hplace]
    simp only [clearWay_cons, hanc, hguard, Page.detach, get_of_le hge]
    rfl

/-- The way is cleared just when the replacements fit, and what is left is well formed in any
case. -/
theorem WellFormed.clearWay (h : p.WellFormed) (id : NodeId) (hx : x < p.size)
    (rs : List NodeId) :
    (p.clearWay id x rs).1.WellFormed ∧
      ((p.clearWay id x rs).2 = .ok () ↔ p.Fits id x rs) ∧
        (p.Fits id x rs → Cleared p rs (p.clearWay id x rs).1) := by
  induction rs generalizing p with
  | nil => exact ⟨h, by simp [Page.clearWay, Fits], fun _ => .nil p⟩
  | cons r rs ih =>
      by_cases hr : p.Fits id x [r]
      · obtain ⟨q, hc, hway⟩ := h.clearWay_cons_of_fits hx hr rs
        obtain ⟨hwf, hiff, hcleared⟩ := ih (hc.wellFormed h) (by rwa [hc.size])
        have hfits : q.Fits id x rs ↔ p.Fits id x (r :: rs) := by
          rw [hc.fits_iff h (fits_singleton.1 hr).2.2, fits_cons, and_iff_right hr]
        rw [hway, ← hfits]
        exact ⟨hwf, hiff, fun hf => hc.cons (hcleared hf)⟩
      · have hnot : ¬ p.Fits id x (r :: rs) := fun hf => hr (fits_cons.1 hf).1
        rw [h.clearWay_cons_of_not_fits hx hr]
        exact ⟨h, by simpa using hnot, fun hf => absurd hf hnot⟩

/-! ## Putting nodes in the place of one -/

/-- What becomes of an entry of a child list when `rs` take the place of `id`. -/
def substitute (id : NodeId) (rs : List NodeId) (c : NodeId) : List NodeId :=
  if c = id then rs else [c]

theorem flatMap_substitute_of_notMem {l : List NodeId} (h : id ∉ l) :
    l.flatMap (substitute id rs) = l := by
  induction l with
  | nil => rfl
  | cons c l ih =>
      obtain ⟨hne, hrest⟩ := not_or.1 (fun hmem => h (List.mem_cons.2 hmem))
      simp [substitute, Ne.symm hne, ih hrest]

theorem splice_eq_flatMap {l : List NodeId} {i : Nat} (hl : l.Nodup)
    (hi : l.idxOf? id = some i) : splice l i rs = l.flatMap (substitute id rs) := by
  induction l generalizing i with
  | nil => simp at hi
  | cons c l ih =>
      obtain ⟨hc, hl⟩ := List.nodup_cons.1 hl
      rw [List.idxOf?_cons] at hi
      by_cases hcid : c = id
      · subst hcid
        simp only [beq_self_eq_true, if_true, Option.some.injEq] at hi
        subst hi
        simp [splice, substitute, flatMap_substitute_of_notMem hc]
      · simp only [beq_iff_eq, hcid, if_false, Option.map_eq_some_iff] at hi
        obtain ⟨j, hj, rfl⟩ := hi
        have hrest := ih hl hj
        simp only [splice] at hrest
        simp [splice, substitute, hcid, hrest]

/-- `q` is `p` with `rs`, in order, in the place of `id` under `x`. -/
structure Replaced (p : Page) (id x : NodeId) (rs : List NodeId) (q : Page) : Prop
    extends Relinked p q where
  parent : ∀ y, (q.node y).parent =
    if y = id then none else if y ∈ rs then some x else (p.node y).parent
  children : ∀ y, (q.node y).children =
    ((p.node y).children.filter (· ∉ rs)).flatMap (substitute id rs)

theorem Fits.not_mem (hf : p.Fits id x rs) : id ∉ rs :=
  fun hmem => (hf id hmem).2.1 rfl

theorem Replaced.mem_children_iff (hr : Replaced p id x rs q) (h : p.WellFormed)
    (hp : (p.node id).parent = some x) (hf : p.Fits id x rs) (y c : NodeId) :
    c ∈ (q.node y).children ↔ (q.node c).parent = some y := by
  have hold : ∀ d, d ∈ (p.node y).children.filter (· ∉ rs) ↔
      (p.node d).parent = some y ∧ d ∉ rs := by
    intro d
    rw [List.mem_filter, h.mem_children_iff]
    simp
  rw [hr.children, List.mem_flatMap, hr.parent]
  constructor
  · rintro ⟨d, hd, hc⟩
    obtain ⟨hdy, hdrs⟩ := (hold d).1 hd
    unfold substitute at hc
    split at hc
    · rename_i hdid
      subst hdid
      rw [hp] at hdy
      rw [if_neg (fun hcid : c = d => hf.not_mem (hcid ▸ hc)), if_pos hc, hdy]
    · rename_i hdid
      rw [List.mem_singleton] at hc
      subst hc
      rw [if_neg hdid, if_neg hdrs, hdy]
  · intro hc
    split at hc
    · cases hc
    · rename_i hcid
      split at hc
      · rename_i hcrs
        cases hc
        exact ⟨id, (hold id).2 ⟨hp, hf.not_mem⟩, by simpa [substitute] using hcrs⟩
      · rename_i hcrs
        exact ⟨c, (hold c).2 ⟨hc, hcrs⟩, by simp [substitute, hcid]⟩

theorem Replaced.nodup_children (hr : Replaced p id x rs q) (h : p.WellFormed)
    (hrs : rs.Nodup) (y : NodeId) : (q.node y).children.Nodup := by
  rw [hr.children, List.nodup_flatMap]
  refine ⟨?_, ((h.nodup_children y).filter _).imp_of_mem ?_⟩
  · intro c _
    unfold substitute
    split
    · exact hrs
    · exact List.nodup_singleton c
  · intro c d hc hd hcd
    have hc' := (List.mem_filter.1 hc).2
    have hd' := (List.mem_filter.1 hd).2
    simp only [decide_eq_true_eq] at hc' hd'
    simp only [Function.onFun, List.disjoint_left, substitute]
    intro e he he'
    split at he <;> split at he'
    · exact hcd (by simp_all)
    · exact hd' (by simp_all)
    · exact hc' (by simp_all)
    · exact hcd (by simp_all)

theorem Replaced.wellFormed (hr : Replaced p id x rs q) (h : p.WellFormed)
    (hp : (p.node id).parent = some x) (hf : p.Fits id x rs) (hrs : rs.Nodup) :
    q.WellFormed where
  id_node := fun y hy =>
    (congrArg Node.id (hr.unlinked y)).trans (h.id_node y (hr.size ▸ hy))
  mem_children_iff := hr.mem_children_iff h hp hf
  nodup_children := hr.nodup_children h hrs
  wellFounded := by
    refine h.wellFounded_relink (fun r hmem => (hf r hmem).2.2) (fun y z hz => ?_)
    rw [hr.parent] at hz
    split at hz
    · cases hz
    · split at hz
      · rename_i hmem
        cases hz
        exact .inr ⟨hmem, rfl⟩
      · exact .inl hz

theorem Cleared.replaced {i : Nat} (hc : Cleared p rs q) (h : p.WellFormed)
    (hp : (p.node id).parent = some x) (hf : p.Fits id x rs)
    (hi : (q.node x).children.idxOf? id = some i) :
    Replaced p id x rs (q.putInPlace x id i rs) where
  toRelinked := hc.toRelinked.trans (relinked_putInPlace q x id i rs)
  parent := by
    intro y
    have hlt : y ∈ rs → y < q.size := fun hy => hc.size ▸ (hf y hy).1
    have hid : id < q.size := hc.size ▸ lt_of_parent hp
    rw [putInPlace, parent_modify_parent, (relinked_adopt _ x rs).size, parent_adopt, size_modify,
      parent_modify_children q x y (splice · i rs), hc.parent]
    by_cases hy : y = id
    · simp [hy, hid]
    · by_cases hmem : y ∈ rs
      · simp [hy, hmem, hlt hmem]
      · simp [hy, hmem]
  children := by
    intro y
    have hx : x < q.size := hc.size ▸ h.parent_lt hp
    rw [putInPlace, children_modify_parent, children_adopt,
      children_modify_children q x y (splice · i rs), ← hc.children]
    by_cases hy : y = x
    · subst hy
      rw [if_pos ⟨rfl, hx⟩, splice_eq_flatMap ((hc.wellFormed h).nodup_children y) hi]
    · rw [if_neg (fun hyx => hy hyx.1), flatMap_substitute_of_notMem]
      rw [hc.children]
      intro hmem
      have hparent := (h.mem_children_iff y id).1 (List.mem_filter.1 hmem).1
      rw [hp] at hparent
      exact hy (Option.some.inj hparent).symm

theorem WellFormed.exists_replace (h : p.WellFormed) (hp : (p.node id).parent = some x)
    (hf : p.Fits id x rs) :
    ∃ q, p.replace id rs = (q, .ok ()) ∧ Replaced p id x rs q := by
  have hx := h.parent_lt hp
  obtain ⟨-, hiff, hcleared⟩ := h.clearWay id hx rs
  have hc := hcleared hf
  obtain ⟨q, hq⟩ : ∃ q, p.clearWay id x rs = (q, .ok ()) :=
    ⟨_, Prod.ext rfl (hiff.2 hf)⟩
  rw [hq] at hc
  have hparent : (q.node id).parent = some x := by rw [hc.parent, if_neg hf.not_mem, hp]
  have hmem : id ∈ (q.node x).children :=
    ((hc.wellFormed h).mem_children_iff x id).2 hparent
  obtain ⟨i, hi⟩ := Option.isSome_iff_exists.1 (List.isSome_idxOf?.2 hmem)
  refine ⟨q.putInPlace x id i rs, ?_, hc.replaced h hp hf hi⟩
  simp only [Page.replace, get_of_lt (lt_of_parent hp), hp, hq,
    get_of_lt (hc.size ▸ hx : x < q.size), hi]
  rfl

/-- A replacement leaves a well-formed page, also when it fails. -/
theorem WellFormed.replace (h : p.WellFormed) (id : NodeId) (hrs : rs.Nodup) :
    (p.replace id rs).1.WellFormed := by
  rcases replace_cases p id rs with ⟨e, he⟩ | ⟨x, hp, ⟨e, he⟩ | ⟨i, hway, hi, he⟩⟩
  · rwa [he]
  · rw [he]
    exact (h.clearWay id (h.parent_lt hp) rs).1
  · obtain ⟨-, hiff, hcleared⟩ := h.clearWay id (h.parent_lt hp) rs
    have hf := hiff.1 hway
    rw [he]
    exact ((hcleared hf).replaced h hp hf hi).wellFormed h hp hf hrs

/-! ## Appending -/

/-- `q` is `p` with `c` as the last child of `x`. -/
structure Appended (p : Page) (x c : NodeId) (q : Page) : Prop extends Relinked p q where
  parent : ∀ y, (q.node y).parent = if y = c then some x else (p.node y).parent
  children : ∀ y, (q.node y).children =
    (p.node y).children.filter (· ≠ c) ++ if y = x then [c] else []

theorem Appended.wellFormed (ha : Appended p x c q) (h : p.WellFormed)
    (hnot : c ∉ p.lineage x) : q.WellFormed where
  id_node := fun y hy =>
    (congrArg Node.id (ha.unlinked y)).trans (h.id_node y (ha.size ▸ hy))
  mem_children_iff := by
    intro y d
    rw [ha.children, ha.parent, List.mem_append, List.mem_filter, h.mem_children_iff]
    by_cases hd : d = c <;> by_cases hy : y = x <;> simp [hd, hy, Ne.symm]
  nodup_children := by
    intro y
    rw [ha.children, List.nodup_append]
    refine ⟨(h.nodup_children y).filter _, ?_, ?_⟩
    · split <;> simp
    · intro d hd e he
      have hne := (List.mem_filter.1 hd).2
      split at he
      · rw [List.mem_singleton.1 he]
        simpa using hne
      · cases he
  wellFounded := by
    have hrs : ∀ r ∈ [c], r ∉ p.lineage x := by simpa using hnot
    apply h.wellFounded_relink hrs
    intro y z hz
    rw [ha.parent] at hz
    split at hz
    · rename_i hy
      exact .inr ⟨by simpa using hy, (Option.some.inj hz).symm⟩
    · exact .inl hz

theorem WellFormed.exists_append (h : p.WellFormed) (hx : x < p.size) (hc : c < p.size)
    (hnot : c ∉ p.lineage x) : ∃ q, p.append x c = .ok q ∧ Appended p x c q := by
  obtain ⟨q, hq, hcleared⟩ := h.exists_detach hc
  have hxq : x < q.size := hcleared.size ▸ hx
  have happend : p.append x c = .ok ((q.modify x (fun m =>
      { m with children := m.children ++ [c] })).modify c (fun m =>
        { m with parent := some x })) := by
    simp only [Page.append, h.isInclusiveAncestor_eq c hx, hnot, hq, edit_of_lt hxq, decide_false]
  refine ⟨_, happend, relinked_append happend, ?_, ?_⟩
  · intro y
    have hcq : c < q.size := hcleared.size ▸ hc
    rw [parent_modify_parent, size_modify, parent_modify_children q x y (· ++ [c]),
      hcleared.parent]
    by_cases hy : y = c <;> simp [hy, hcq]
  · intro y
    rw [children_modify_parent, children_modify_children q x y (· ++ [c]), hcleared.children]
    by_cases hy : y = x
    · simp [hy, hxq]
    · simp [hy]

theorem WellFormed.append (h : p.WellFormed) (ha : p.append x c = .ok q) :
    q.WellFormed := by
  have hx : x < p.size := by
    by_contra hle
    have hget := get_of_le (Nat.not_lt.1 hle)
    by_cases hxc : x = c <;> simp [Page.append, isInclusiveAncestor, climb, hxc, hget] at ha
  have hnot : c ∉ p.lineage x := by
    intro hmem
    simp [Page.append, h.isInclusiveAncestor_eq c hx, hmem] at ha
  have hc : c < p.size := by
    by_contra hle
    simp [Page.append, h.isInclusiveAncestor_eq c hx, hnot, Page.detach,
      get_of_le (Nat.not_lt.1 hle)] at ha
  obtain ⟨q', hq', happ⟩ := h.exists_append hx hc hnot
  rw [hq'] at ha
  cases ha
  exact happ.wellFormed h hnot

end PhraseMark.Page
