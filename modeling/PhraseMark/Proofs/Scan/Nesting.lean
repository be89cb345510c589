import PhraseMark.Proofs.History
import PhraseMark.Proofs.Scan.Stops

/-!
# Markers do not nest

However many passes run under one root with one class, a marker that one of them adds is never
inside another element with the class, and nothing inside the marker is touched again. A pass only
cuts up text nodes that it reaches, and it reaches none below an element with the class.
-/

namespace PhraseMark

open Marking

/-- A pass under a root and with a class that do not change: which hits of a text node it marks,
and where the hits are. -/
structure Round where
  all : Bool
  matcher : Matcher

def Round.style (r : Round) (markerClass : String) : MarkStyle := { markerClass, all := r.all }

namespace Page

variable {p : Page} {root s t x : NodeId} {style : MarkStyle} {matcher : Matcher}
  {markerClass : String} {cuts : List Cut}

def rounds (p : Page) (root : NodeId) (markerClass : String) (rs : List Round) : Page :=
  rs.foldl (fun q r => (q.mark root (r.style markerClass) r.matcher).page) p

/-! ## What a pass comes to -/

theorem hasClass_of_goesOn {n : Node} (h : goesOn style matcher n = true) :
    n.hasClass style.markerClass = false := by
  cases htext : n.isText with
  | true => rw [Node.hasClass, Node.isElement_eq_false_of_isText htext, Bool.false_and]
  | false =>
      rw [goesOn_of_not_isText htext, Bool.not_eq_true', avoids, Bool.or_eq_false_iff] at h
      exact h.2

/-- A pass comes to the text nodes below the root that have only nodes above them, up to the root,
below which it goes on. -/
theorem WellFormed.mem_stops_iff (h : p.WellFormed) (hroot : root < p.size)
    (htoken : IsClassToken style.markerClass) :
    t ∈ p.stops root style matcher ↔
      (p.node t).isText = true ∧ root ∈ p.lineage t ∧ t ≠ root ∧
        ∀ z, root ∈ p.lineage z → z ≠ root → z ∈ p.lineage t → z ≠ t →
          goesOn style matcher (p.node z).unlinked = true := by
  rw [h.stops_mark hroot htoken, List.mem_map]
  constructor
  · rintro ⟨n, hn, rfl⟩
    obtain ⟨y, rfl, htext, hy⟩ := h.mem_textsBelow_tree.1 hn
    have hid : (p.node y).unlinked.id = y := h.id_node y (lt_of_isText htext)
    rw [hid]
    exact ⟨htext, hy⟩
  · rintro ⟨htext, hy⟩
    exact ⟨(p.node t).unlinked, h.mem_textsBelow_tree.2 ⟨t, rfl, htext, hy⟩,
      h.id_node t (lt_of_isText htext)⟩

/-- What a pass cuts up: text nodes that it comes to and below which it does not go on. -/
structure CutsAt (p : Page) (root : NodeId) (style : MarkStyle) (matcher : Matcher)
    (cuts : List Cut) : Prop where
  numbered : p.Numbered style.markerClass cuts
  wellFormed : (p.batch style.markerClass cuts).WellFormed
  mem_stops : ∀ t ∈ cuts.map (·.target), t ∈ p.stops root style matcher
  not_goesOn : ∀ t ∈ cuts.map (·.target), goesOn style matcher (p.node t).unlinked = false

theorem WellFormed.cutsAt_plan (h : p.WellFormed) (hroot : root < p.size)
    (htoken : IsClassToken style.markerClass) (matcher : Matcher) :
    p.CutsAt root style matcher (plan (cutUp style matcher) p.size
      ((p.tree root).textsBelow (goesOn style matcher))) := by
  have hdone := h.mark_completes hroot htoken matcher
  refine ⟨p.numbered_plan _ _ _, hdone.page ▸ hdone.wellFormed, ?_, ?_⟩
  · intro t ht
    obtain ⟨cut, hcut, rfl⟩ := List.mem_map.1 ht
    rw [h.stops_mark hroot htoken]
    exact target_mem_of_mem_plan hcut
  · intro t ht
    obtain ⟨cut, hcut, rfl⟩ := List.mem_map.1 ht
    obtain ⟨n, hn, as, i, has, -, rfl⟩ := exists_of_mem_plan hcut
    obtain ⟨y, rfl, htext, -⟩ := h.mem_textsBelow_tree.1 hn
    have hid : (p.node y).unlinked.id = y := h.id_node y (lt_of_isText htext)
    have hgoes : goesOn style matcher (p.node y).unlinked =
        (cutUp style matcher (p.node y).unlinked).isNone := goesOn_of_isText htext
    rw [hid, hgoes, has]
    rfl

theorem WellFormed.exists_cutsAt (h : p.WellFormed) (hroot : root < p.size)
    (htoken : IsClassToken style.markerClass) (matcher : Matcher) :
    ∃ cuts, p.CutsAt root style matcher cuts ∧
      (p.mark root style matcher).page = p.batch style.markerClass cuts :=
  ⟨_, h.cutsAt_plan hroot htoken matcher, (h.mark_completes hroot htoken matcher).page⟩

/-- The nodes above a node stay the same or become fewer. -/
theorem WellFormed.lineage_batch_subset (h : p.WellFormed)
    (hq : (p.batch markerClass cuts).WellFormed) (hx : x < p.size) :
    (p.batch markerClass cuts).lineage x ⊆ p.lineage x := by
  induction x using h.up_induction with
  | top x hp =>
      have htop := parent_batch h markerClass cuts hx
      rw [hp, ite_self] at htop
      rw [hq.lineage_of_top htop, h.lineage_of_top hp]
      exact List.Subset.refl _
  | step x y hp ih =>
      have hparent := parent_batch h markerClass cuts hx
      rw [hp] at hparent
      rw [h.lineage_of_parent hp]
      split at hparent
      · rw [hq.lineage_of_top hparent]
        exact List.cons_subset.2 ⟨List.mem_cons_self, List.nil_subset _⟩
      · rw [hq.lineage_of_parent hparent]
        exact List.cons_subset_cons x (ih (h.parent_lt hp))

theorem hasClass_batch (hx : x < p.size) (c : String) :
    ((p.batch markerClass cuts).node x).hasClass c = (p.node x).hasClass c :=
  label_batch (g := (Node.hasClass · c)) (fun _ => rfl) markerClass cuts hx

/-! ## Markers that stand alone -/

/-- An element with the class that is not above the root and between which and the root there is
no other one. -/
structure Alone (p : Page) (root : NodeId) (markerClass : String) (s : NodeId) : Prop where
  lt_size : s < p.size
  hasClass : (p.node s).hasClass markerClass = true
  notAbove : s ∉ p.lineage root
  between : ∀ z, root ∈ p.lineage z → z ≠ root → z ∈ p.lineage s → z ≠ s →
    (p.node z).hasClass markerClass = false

namespace Alone

/-- A pass does not come to what is in such an element. -/
theorem notMem_stops (hs : p.Alone root style.markerClass s) (h : p.WellFormed)
    (hroot : root < p.size) (htoken : IsClassToken style.markerClass) (ht : s ∈ p.lineage t) :
    t ∉ p.stops root style matcher := by
  intro hstop
  obtain ⟨htext, hunder, -, hgoes⟩ := (h.mem_stops_iff hroot htoken).1 hstop
  have helement := Node.isElement_of_hasClass hs.hasClass
  have hst : s ≠ t := by
    rintro rfl
    rw [Node.isElement_eq_false_of_isText htext] at helement
    cases helement
  have hrs : root ∈ p.lineage s := by
    rcases h.lineage_total hunder ht with hrs | hsr
    · exact hrs
    · exact absurd hsr hs.notAbove
  have hne : s ≠ root := fun heq => hs.notAbove (heq ▸ h.mem_lineage_self root)
  have hfree := hasClass_of_goesOn (hgoes s hrs hne ht hst)
  have hclass : (p.node s).unlinked.hasClass style.markerClass = true := hs.hasClass
  rw [hfree] at hclass
  cases hclass

theorem batch (hs : p.Alone root markerClass s) (h : p.WellFormed) (hroot : root < p.size)
    (hq : (p.batch markerClass cuts).WellFormed) :
    (p.batch markerClass cuts).Alone root markerClass s where
  lt_size := by
    rw [size_batch]
    exact Nat.lt_add_right _ hs.lt_size
  hasClass := (hasClass_batch hs.lt_size _).trans hs.hasClass
  notAbove := fun hmem => hs.notAbove (h.lineage_batch_subset hq hroot hmem)
  between := by
    intro z hz hzr hzs hne
    have hzs' := h.lineage_batch_subset hq hs.lt_size hzs
    have hzlt := h.lineage_lt hs.lt_size hzs'
    rw [hasClass_batch hzlt]
    exact hs.between z (h.lineage_batch_subset hq hzlt hz) hzr hzs' hne

end Alone

namespace CutsAt

variable (hc : p.CutsAt root style matcher cuts) (h : p.WellFormed) (hroot : root < p.size)
  (htoken : IsClassToken style.markerClass)

include hc h hroot htoken

/-- No node above a text node that is cut up is cut up itself. -/
theorem notMem_of_parent {y : NodeId} (ht : t ∈ cuts.map (·.target))
    (hp : (p.node t).parent = some x) (hy : y ∈ p.lineage x) : y ∉ cuts.map (·.target) := by
  intro hycut
  obtain ⟨-, -, -, hgoes⟩ := (h.mem_stops_iff hroot htoken).1 (hc.mem_stops t ht)
  obtain ⟨-, hyroot, hne, -⟩ := (h.mem_stops_iff hroot htoken).1 (hc.mem_stops y hycut)
  have hyt : y ≠ t := by
    rintro rfl
    exact h.not_mem_lineage_of_parent hp hy
  have hon := hgoes y hyroot hne (h.mem_lineage_trans hy (h.mem_lineage_of_parent hp)) hyt
  rw [hc.not_goesOn y hycut] at hon
  cases hon

/-- An element that a pass has added stands alone. -/
theorem alone_of_isElement (hle : p.size ≤ s) (hlt : s < (p.batch style.markerClass cuts).size)
    (helement : ((p.batch style.markerClass cuts).node s).isElement = true) :
    (p.batch style.markerClass cuts).Alone root style.markerClass s := by
  have hq := hc.wellFormed
  obtain ⟨cut, hcut, ⟨i, a⟩, -, n, hn, hid, hnode⟩ := exists_piece_of_le hc.numbered hle hlt
  have htarget := List.mem_map_of_mem (f := Cut.target) hcut
  obtain ⟨-, hunder, hne, hgoes⟩ := (h.mem_stops_iff hroot htoken).1 (hc.mem_stops _ htarget)
  obtain ⟨x, hparent, -⟩ := h.exists_parent_of_mem_lineage hunder hne
  have hxlt := h.parent_lt hparent
  rw [hnode] at helement
  cases a with
  | plain text =>
      rw [Piece.nodes, List.mem_singleton] at hn
      subst hn
      cases helement
  | hit text =>
      simp only [Piece.nodes, List.mem_cons, List.not_mem_nil, or_false] at hn
      rcases hn with rfl | rfl
      · have hup : ((p.batch style.markerClass cuts).node s).parent = some x := by
          rw [hnode]
          exact hparent
        have hlineage : (p.batch style.markerClass cuts).lineage s = s :: p.lineage x := by
          rw [hq.lineage_of_parent hup, h.lineage_batch hq hxlt
            (fun y hy => hc.notMem_of_parent h hroot htoken htarget hparent hy)]
        refine ⟨hlt, ?_, ?_, ?_⟩
        · rw [hnode]
          exact hasClass_marker htoken
        · intro habove
          exact Nat.not_lt.2 hle (h.lineage_lt hroot (h.lineage_batch_subset hq hroot habove))
        · intro z hz hzr hzs hzne
          rw [hlineage] at hzs
          rcases List.mem_cons.1 hzs with rfl | hzx
          · exact absurd rfl hzne
          · have hzlt := h.lineage_lt hxlt hzx
            have hzt : z ≠ cut.target := by
              rintro rfl
              exact h.not_mem_lineage_of_parent hparent hzx
            rw [hasClass_batch hzlt]
            exact hasClass_of_goesOn (hgoes z (h.lineage_batch_subset hq hzlt hz) hzr
              (h.mem_lineage_trans hzx (h.mem_lineage_of_parent hparent)) hzt)
      · cases helement

/-- What is in an element that stands alone stays as it is. -/
theorem node_eq (hs : p.Alone root style.markerClass s) (ht : s ∈ p.lineage t) :
    (p.batch style.markerClass cuts).node t = p.node t := by
  have htlt := h.lt_of_mem_lineage ht hs.lt_size
  have hkept : ∀ y, s ∈ p.lineage y → y ∉ cuts.map (·.target) :=
    fun y hy hmem => hs.notMem_stops h hroot htoken hy (hc.mem_stops y hmem)
  rw [node_batch_of_lt _ _ htlt, relink_of_notMem]
  · rw [h.id_node t htlt]
    exact hkept t ht
  · intro c hct
    apply hkept c
    exact h.mem_lineage_trans ht (h.mem_lineage_of_parent ((h.mem_children_iff t c).1 hct))

end CutsAt

/-! ## Sequences of passes -/

/-- A pass keeps a page well formed and all its elements that stand alone. -/
theorem WellFormed.mark_keeps (h : p.WellFormed) (root : NodeId) (style : MarkStyle)
    (htoken : IsClassToken style.markerClass) (matcher : Matcher) :
    (p.mark root style matcher).page.WellFormed ∧
      ∀ s, p.Alone root style.markerClass s →
        (p.mark root style matcher).page.Alone root style.markerClass s := by
  by_cases hroot : root < p.size
  · obtain ⟨cuts, hcuts, hpage⟩ := h.exists_cutsAt hroot htoken matcher
    rw [hpage]
    exact ⟨hcuts.wellFormed, fun s hs => hs.batch h hroot hcuts.wellFormed⟩
  · rw [mark_of_le (Nat.not_lt.1 hroot)]
    exact ⟨h, fun s hs => hs⟩

theorem WellFormed.rounds_keep (h : p.WellFormed) (root : NodeId)
    (htoken : IsClassToken markerClass) (rs : List Round) :
    (p.rounds root markerClass rs).WellFormed ∧
      ∀ s, p.Alone root markerClass s →
        (p.rounds root markerClass rs).Alone root markerClass s := by
  induction rs generalizing p with
  | nil => exact ⟨h, fun s hs => hs⟩
  | cons r rs ih =>
      obtain ⟨hq, hkept⟩ := h.mark_keeps root (r.style markerClass) htoken r.matcher
      obtain ⟨hlast, hrest⟩ := ih hq
      exact ⟨hlast, fun s hs => hrest s (hkept s hs)⟩

/-- What a pass adds stands alone after it. -/
theorem WellFormed.alone_of_mark (h : p.WellFormed) (style : MarkStyle)
    (htoken : IsClassToken style.markerClass) (matcher : Matcher) (hle : p.size ≤ s)
    (hlt : s < (p.mark root style matcher).page.size)
    (helement : ((p.mark root style matcher).page.node s).isElement = true) :
    (p.mark root style matcher).page.Alone root style.markerClass s := by
  by_cases hroot : root < p.size
  · obtain ⟨cuts, hcuts, hpage⟩ := h.exists_cutsAt hroot htoken matcher
    rw [hpage] at hlt helement ⊢
    exact hcuts.alone_of_isElement h hroot htoken hle hlt helement
  · rw [mark_of_le (Nat.not_lt.1 hroot)] at hlt
    exact absurd hlt (Nat.not_lt.2 hle)

/-- A pass does not come to what is in an element that stands alone, and leaves it as it is. -/
theorem WellFormed.untouched (h : p.WellFormed) (style : MarkStyle)
    (htoken : IsClassToken style.markerClass) (matcher : Matcher)
    (hs : p.Alone root style.markerClass s) (ht : s ∈ p.lineage t) :
    t ∉ p.stops root style matcher ∧ (p.mark root style matcher).page.node t = p.node t := by
  by_cases hroot : root < p.size
  · obtain ⟨cuts, hcuts, hpage⟩ := h.exists_cutsAt hroot htoken matcher
    rw [hpage]
    exact ⟨hs.notMem_stops h hroot htoken ht, hcuts.node_eq h hroot htoken hs ht⟩
  · rw [mark_of_le (Nat.not_lt.1 hroot), stops_of_le (Nat.not_lt.1 hroot)]
    exact ⟨List.not_mem_nil, rfl⟩

/-- Markers never nest. Let passes `before` run over a well-formed page, then a pass `r`, then
passes `after`, all under one root and with one class. An element that `r` has added has no element
with the class between it and the root, and whatever pass comes next, it neither comes to anything
in the element nor changes it. -/
theorem markers_never_nest (h : p.WellFormed) (htoken : IsClassToken markerClass) (root : NodeId)
    (before : List Round) (r : Round) (after : List Round) (s : NodeId)
    (hle : (p.rounds root markerClass before).size ≤ s)
    (hlt : s < (p.rounds root markerClass (before ++ [r])).size)
    (helement : ((p.rounds root markerClass (before ++ [r])).node s).isElement = true) :
    (∀ z, root ∈ (p.rounds root markerClass (before ++ r :: after)).lineage z → z ≠ root →
      z ∈ (p.rounds root markerClass (before ++ r :: after)).lineage s → z ≠ s →
        ((p.rounds root markerClass (before ++ r :: after)).node z).hasClass markerClass = false) ∧
      ∀ (next : Round) (t : NodeId),
        s ∈ (p.rounds root markerClass (before ++ r :: after)).lineage t →
          t ∉ (p.rounds root markerClass (before ++ r :: after)).stops root
            (next.style markerClass) next.matcher ∧
          (p.rounds root markerClass (before ++ r :: (after ++ [next]))).node t =
            (p.rounds root markerClass (before ++ r :: after)).node t := by
  have happend : ∀ (q : Page) (rs ts : List Round), q.rounds root markerClass (rs ++ ts) =
      (q.rounds root markerClass rs).rounds root markerClass ts :=
    fun q rs ts => List.foldl_append
  have hbefore := (h.rounds_keep root htoken before).1
  rw [happend] at hlt helement
  have halone := hbefore.alone_of_mark (r.style markerClass) htoken r.matcher hle hlt helement
  have hafter := hbefore.mark_keeps root (r.style markerClass) htoken r.matcher
  obtain ⟨hq, hkept⟩ := hafter.1.rounds_keep root htoken after
  have hs := hkept s halone
  have hpage : p.rounds root markerClass (before ++ r :: after) =
      ((p.rounds root markerClass before).mark root (r.style markerClass) r.matcher).page.rounds
        root markerClass after := happend p before (r :: after)
  have hnext : ∀ next : Round, p.rounds root markerClass (before ++ r :: (after ++ [next])) =
      ((p.rounds root markerClass (before ++ r :: after)).mark root (next.style markerClass)
        next.matcher).page := by
    intro next
    rw [← List.cons_append, ← List.append_assoc, happend]
    rfl
  refine ⟨?_, ?_⟩
  · rw [hpage]
    exact hs.between
  · intro next t ht
    rw [hnext]
    rw [hpage] at ht ⊢
    exact hq.untouched (next.style markerClass) htoken next.matcher hs ht

/-- A round that marks a leading `1`. -/
def sampleRound : Round where
  all := false
  matcher := fun text => if text.toList.head? = some '1' then [⟨0, 1⟩] else []

theorem markers_never_nest_samplePage :
    ((samplePage.rounds 0 "hit" [sampleRound]).node 2).isElement = true ∧
      3 ∉ (samplePage.rounds 0 "hit" [sampleRound, sampleRound]).stops 0 ⟨"hit", false⟩
        sampleRound.matcher := by
  have helement : ((samplePage.rounds 0 "hit" [sampleRound]).node 2).isElement = true := by
    decide
  have hnest := @markers_never_nest samplePage "hit" consistent_samplePage.toWellFormed
    (by decide) 0 [] sampleRound [sampleRound] 2 (by decide) (by decide)
    helement
  exact ⟨helement, (hnest.2 sampleRound 3 (by decide +kernel)).1⟩

end Page

end PhraseMark
