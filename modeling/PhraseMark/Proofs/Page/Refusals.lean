import PhraseMark.Proofs.History

/-!
# Refused replacements

A replacement takes the new nodes out of their places one after another and looks at each only
when its turn comes. When one is refused, those before it have left their places already: the page
that comes back is the old one exactly when none of them had a place.
-/

namespace PhraseMark.Page

variable {p q : Page} {id x : NodeId} {rs : List NodeId}

instance (p : Page) (id x : NodeId) (rs : List NodeId) : Decidable (p.Fits id x rs) :=
  inferInstanceAs (Decidable (∀ r ∈ rs, r < p.size ∧ r ≠ id ∧ r ∉ p.lineage x))

/-- Why `rs` may not take the place of `id`, if they may not. -/
def refusal? (p : Page) (id : NodeId) (rs : List NodeId) : Option Fault :=
  if p.size ≤ id then some (.nodeNotFound id)
  else
    match (p.node id).parent with
    | none => some (.detached id)
    | some x => (rs.find? (fun r => !decide (p.Fits id x [r]))).map (p.refusal id x)

/-- The nodes of `rs` that have left their places when the first one is refused. -/
def withdrawn (p : Page) (id : NodeId) (rs : List NodeId) : List NodeId :=
  match (p.node id).parent with
  | none => []
  | some x => rs.takeWhile (fun r => decide (p.Fits id x [r]))

theorem Cleared.refusal_eq {r : NodeId} (hc : Cleared p [r] q) (h : p.WellFormed)
    (hr : r ∉ p.lineage x) : q.refusal id x = p.refusal id x := by
  have hlineage : q.lineage x = p.lineage x := hc.lineage_eq h (by simpa using hr)
  funext s
  simp only [refusal, hlineage]

theorem Cleared.eq_iff (hc : Cleared p rs q) (h : p.WellFormed) :
    q = p ↔ ∀ r ∈ rs, (p.node r).parent = none := by
  constructor
  · rintro rfl r hr
    rw [hc.parent, if_pos hr]
  · intro hfree
    refine ext_node hc.size (fun y _ => ?_) hc.backendIndex hc.root
    refine Node.ext_unlinked (hc.unlinked y) ?_ ?_
    · rw [hc.parent]
      split
      · rename_i hy
        exact (hfree y hy).symm
      · rfl
    · rw [hc.children, List.filter_eq_self]
      intro c hcy
      have hparent := (h.mem_children_iff y c).1 hcy
      simp only [decide_eq_true_eq]
      intro hmem
      rw [hfree c hmem] at hparent
      cases hparent

/-- Clearing the way goes as far as the first node that does not fit. -/
theorem WellFormed.clearWay_of_find? (h : p.WellFormed) (hx : x < p.size) {r : NodeId}
    (hr : rs.find? (fun r => !decide (p.Fits id x [r])) = some r) :
    (p.clearWay id x rs).2 = .error (p.refusal id x r) ∧
      Cleared p (rs.takeWhile (fun r => decide (p.Fits id x [r]))) (p.clearWay id x rs).1 := by
  induction rs generalizing p with
  | nil => simp at hr
  | cons s rs ih =>
      by_cases hs : p.Fits id x [s]
      · obtain ⟨q, hc, hway⟩ := h.clearWay_cons_of_fits hx hs rs
        have habove := (fits_singleton.1 hs).2.2
        -- taking out `s` changes nothing for the nodes that are still to be looked at
        have hsame : ∀ t, decide (q.Fits id x [t]) = decide (p.Fits id x [t]) := fun t => by
          simp only [hc.fits_iff h habove]
        have hrest : rs.find? (fun r => !decide (q.Fits id x [r])) = some r := by
          simpa only [List.find?_cons, hs, decide_true, Bool.not_true, hsame] using hr
        obtain ⟨herror, hcleared⟩ := ih (hc.wellFormed h) (hc.size ▸ hx) hrest
        rw [hc.refusal_eq h habove] at herror
        simp only [hsame] at hcleared
        rw [hway, List.takeWhile_cons_of_pos (by simpa using hs)]
        exact ⟨herror, hc.cons hcleared⟩
      · rw [List.find?_cons_of_pos (by simpa using hs)] at hr
        cases hr
        rw [h.clearWay_cons_of_not_fits hx hs, List.takeWhile_cons_of_neg (by simpa using hs)]
        exact ⟨rfl, .nil p⟩

theorem fits_iff_find? : p.Fits id x rs ↔ rs.find? (fun r => !decide (p.Fits id x [r])) = none := by
  simp [Fits]

theorem WellFormed.replace_of_refusal? (h : p.WellFormed) {e : Fault}
    (he : p.refusal? id rs = some e) :
    (p.replace id rs).2 = .error e ∧ Cleared p (p.withdrawn id rs) (p.replace id rs).1 := by
  unfold refusal? at he
  split at he
  · rename_i hid
    cases he
    have hreplace : p.replace id rs = (p, .error (.nodeNotFound id)) := by
      simp only [Page.replace, get_of_le hid]
    rw [hreplace, withdrawn, parent_of_le hid]
    exact ⟨rfl, .nil p⟩
  · rename_i hid
    have hget := get_of_lt (Nat.not_le.1 hid)
    cases hp : (p.node id).parent with
    | none =>
        rw [hp] at he
        cases he
        have hreplace : p.replace id rs = (p, .error (.detached id)) := by
          simp only [Page.replace, hget, hp]
        rw [hreplace, withdrawn, hp]
        exact ⟨rfl, .nil p⟩
    | some x =>
        rw [hp] at he
        obtain ⟨r, hr, rfl⟩ := Option.map_eq_some_iff.1 he
        obtain ⟨herror, hcleared⟩ := h.clearWay_of_find? (h.parent_lt hp) hr
        have hway : p.clearWay id x rs =
            ((p.clearWay id x rs).1, .error (p.refusal id x r)) := Prod.ext rfl herror
        have hreplace : p.replace id rs =
            ((p.clearWay id x rs).1, .error (p.refusal id x r)) := by
          simp only [Page.replace, hget, hp]
          rw [hway]
        rw [hreplace, withdrawn, hp]
        exact ⟨rfl, hcleared⟩

theorem WellFormed.replace_of_not_refusal? (h : p.WellFormed) (he : p.refusal? id rs = none) :
    (p.replace id rs).2 = .ok () := by
  unfold refusal? at he
  split at he
  · cases he
  · cases hp : (p.node id).parent with
    | none =>
        rw [hp] at he
        cases he
    | some x =>
        rw [hp] at he
        have hf := fits_iff_find?.2 (Option.map_eq_none_iff.1 he)
        obtain ⟨q, hq, -⟩ := h.exists_replace hp hf
        rw [hq]

/-- A replacement is refused for the reason `refusal?` gives. It has then taken out the nodes
before the refused one and done nothing else, so the page is as it was exactly when these nodes
had no place before. -/
theorem replace_refused (h : p.WellFormed) (id : NodeId) (rs : List NodeId) (e : Fault) :
    ((p.replace id rs).2 = .error e ↔ p.refusal? id rs = some e) ∧
      ((p.replace id rs).2 = .error e →
        Cleared p (p.withdrawn id rs) (p.replace id rs).1 ∧
          ((p.replace id rs).1 = p ↔ ∀ r ∈ p.withdrawn id rs, (p.node r).parent = none)) := by
  cases hrefusal : p.refusal? id rs with
  | none =>
      have hok := h.replace_of_not_refusal? hrefusal
      simp [hok]
  | some f =>
      obtain ⟨herror, hcleared⟩ := h.replace_of_refusal? hrefusal
      rw [herror]
      exact ⟨by simp, fun _ => ⟨hcleared, hcleared.eq_iff h⟩⟩

/-- A division with a text and a paragraph, which holds a text as well. -/
def forkedPage : Page :=
  [.addElement "div", .addText "a", .addElement "p", .addText "b", .append 0 1, .append 0 2,
    .append 2 3].foldl perform empty

theorem wellFormed_forkedPage : forkedPage.WellFormed :=
  wellFormed_edits _

/-- The division cannot stand inside itself, but the text before it has left the paragraph. -/
theorem replace_refused_forkedPage :
    forkedPage.WellFormed ∧ (forkedPage.replace 1 [3, 0]).2 = .error (.hierarchyRequest 0) ∧
      Cleared forkedPage [3] (forkedPage.replace 1 [3, 0]).1 ∧
        (forkedPage.replace 1 [3, 0]).1 ≠ forkedPage := by
  have hwithdrawn : forkedPage.withdrawn 1 [3, 0] = [3] := by decide
  have hparent : (forkedPage.node 3).parent = some 2 := by decide
  obtain ⟨hiff, hleft⟩ := replace_refused wellFormed_forkedPage 1 [3, 0] (.hierarchyRequest 0)
  have herror := hiff.2 (by decide)
  obtain ⟨hcleared, hkept⟩ := hleft herror
  rw [hwithdrawn] at hcleared hkept
  exact ⟨wellFormed_forkedPage, herror, hcleared, fun heq => by
    have hfree := hkept.1 heq 3 (List.mem_singleton_self 3)
    rw [hparent] at hfree
    cases hfree⟩

/-- A refused replacement can leave another page than it found. -/
theorem forkedPage_torn :
    forkedPage.WellFormed ∧ ∃ id rs e, (forkedPage.replace id rs).2 = .error e ∧
      (forkedPage.replace id rs).1 ≠ forkedPage :=
  ⟨wellFormed_forkedPage, 1, [3, 0], .hierarchyRequest 0, by decide, by decide +kernel⟩

end PhraseMark.Page
