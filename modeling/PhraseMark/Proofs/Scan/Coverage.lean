import PhraseMark.Proofs.Scan.HiddenText
import PhraseMark.Proofs.Scan.Nesting
import PhraseMark.Proofs.Scan.Occurrences
import PhraseMark.Proofs.Scan.Runaway

/-!
# What is read is reached

The visible text of a page and a pass that marks hits leave out parts of the page by different
tests. On a page without markers the pass leaves out less: it comes to every text node whose value
has a part in the visible text. Other nodes with characters it passes by, although they are read.
-/

namespace PhraseMark

open Marking

namespace Page

variable {p q : Page} {root body x y c : NodeId} {style : MarkStyle}

/-! ## Nodes that are read -/

/-- Whether the visible text of `root` goes on below a node. -/
def readsBelow (root : NodeId) (n : Node) : Bool :=
  match n.kind with
  | .element => n.id == root || !(n.isUnrendered || n.isHidden)
  | .document | .documentFragment => true
  | _ => false

theorem readsBelow_of_enter {n : Node} {d d' : Draft} {leave : Draft → Draft}
    (h : visibleTurn root n.id n d = .enter d' leave) : readsBelow root n = true := by
  unfold visibleTurn at h
  unfold readsBelow
  cases hkind : n.kind <;> simp only [hkind] at h ⊢ <;> try cases h
  -- an element is entered if it is the root or shown
  by_cases hroot : n.id = root
  · simp [hroot]
  · cases hleft : n.isUnrendered || n.isHidden with
    | true => simp [hroot, hleft] at h
    | false => simp

/-- The visible text of `root` comes to `y`: it goes on below every node above `y`, up to
`root`. -/
def IsRead (p : Page) (root y : NodeId) : Prop :=
  root ∈ p.lineage y ∧
    ∀ z, root ∈ p.lineage z → z ∈ p.lineage y → z ≠ y → readsBelow root (p.node z) = true

theorem WellFormed.isRead_self (h : p.WellFormed) (root : NodeId) : p.IsRead root root :=
  ⟨h.mem_lineage_self root, fun _ hz hzroot hne => absurd (h.lineage_antisymm hzroot hz) hne⟩

theorem IsRead.child (hx : p.IsRead root x) (h : p.WellFormed)
    (hparent : (p.node c).parent = some x) (hbelow : readsBelow root (p.node x) = true) :
    p.IsRead root c := by
  obtain ⟨hroot, hall⟩ := hx
  refine ⟨h.mem_lineage_trans hroot (h.mem_lineage_of_parent hparent), ?_⟩
  intro z hz hzc hne
  rw [h.lineage_of_parent hparent] at hzc
  rcases List.mem_cons.1 hzc with rfl | hzx
  · exact absurd rfl hne
  · by_cases heq : z = x
    · rwa [heq]
    · exact hall z hz hzx heq

/-- The value of the node has a part in the visible text: with some other value the text is
another. -/
def Contributes (p : Page) (root y : NodeId) : Prop :=
  ∃ value, (p.setValues [(y, value)]).visibleText root ≠ p.visibleText root

/-- The values of nodes that are not read do not matter to the visible text. -/
theorem WellFormed.visibleText_of_not_isRead (h : p.WellFormed) (hroot : root < p.size)
    {edits : List (NodeId × String)} (hedits : ∀ edit ∈ edits, ¬ p.IsRead root edit.1) :
    (p.setValues edits).visibleText root = p.visibleText root := by
  refine h.visibleText_setValues hedits ?_ hroot (h.isRead_self root)
  intro x c d d' leave hparent hx hturn
  have hid : (p.node x).unlinked.id = x := h.id_node x (h.parent_lt hparent)
  have hturn' : visibleTurn root (p.node x).unlinked.id (p.node x).unlinked d =
      .enter d' leave := by
    rw [hid, hturn]
  have hbelow := readsBelow_of_enter hturn'
  exact hx.child h hparent hbelow

theorem Contributes.isRead (hy : p.Contributes root y) (h : p.WellFormed)
    (hroot : root < p.size) : p.IsRead root y := by
  obtain ⟨value, hne⟩ := hy
  by_contra hnot
  apply hne
  apply h.visibleText_of_not_isRead hroot
  simpa using hnot

/-! ## Nodes that are reached -/

/-- Where the visible text goes on, below the root, a pass does so too if there is no marker. -/
theorem goesOn_of_readsBelow {n : Node} (hbelow : readsBelow root n = true) (hne : n.id ≠ root)
    (hclass : n.hasClass style.markerClass = false) (matcher : Matcher) :
    goesOn style matcher n = true := by
  have htext : n.isText = false := by
    unfold readsBelow at hbelow
    rw [Node.isText]
    cases hkind : n.kind <;> simp_all
  have hunrendered : n.isUnrendered = false := by
    by_contra hnot
    have havoids : avoids style n = true := by simp [avoids, Bool.eq_true_of_not_eq_false hnot]
    have helement := isElement_of_avoids havoids
    simp only [Node.isElement, beq_iff_eq] at helement
    simp [readsBelow, helement, hne, hnot] at hbelow
  rw [goesOn_of_not_isText htext, avoids, hunrendered, hclass]
  rfl

theorem IsRead.mem_stops (hy : p.IsRead root y) (h : p.WellFormed) (hroot : root < p.size)
    (htoken : IsClassToken style.markerClass)
    (hclass : ∀ z, (p.node z).hasClass style.markerClass = false)
    (htext : (p.node y).isText = true) (hne : y ≠ root) (matcher : Matcher) :
    y ∈ p.stops root style matcher := by
  refine (h.mem_stops_iff hroot htoken).2 ⟨htext, hy.1, hne, ?_⟩
  intro z hz hzroot hzy hzne
  have hid := h.id_node z (h.lineage_lt (lt_of_isText htext) hzy)
  have hgoes := goesOn_of_readsBelow (hy.2 z hz hzy hzne) (hid.symm ▸ hzroot) (hclass z) matcher
  exact hgoes

/-! ## Loaded pages -/

/-- Let a snapshot be loaded, and its visibility be resolved or not, and let no element of the page
carry the class of markers. Then every text node whose value has a part in the visible text of the
body is one that a pass under the body comes to, whatever hits it marks. -/
theorem contributing_text_reached {maxDepth : Nat} {snapshot : Json} {top : NodeId}
    {loaded : Page} (hload : p.load maxDepth snapshot = (loaded, .ok top))
    (hq : q = loaded ∨ loaded.resolveVisibility = .ok q)
    (htoken : IsClassToken style.markerClass)
    (hclass : ∀ x, (q.node x).hasClass style.markerClass = false) (hbody : q.body? = some body)
    (htext : (q.node y).isText = true) (hy : q.Contributes body y) (matcher : Matcher) :
    y ∈ q.stops body style matcher := by
  have h : q.WellFormed := by
    obtain ⟨hloaded, -, resolved, hresolved, hpainted⟩ := resolved_of_load hload
    rcases hq with rfl | hq
    · exact hloaded
    · cases hresolved.symm.trans hq
      exact hpainted.redrawn.wellFormed hloaded
  obtain ⟨hlt, htag, -⟩ := h.body?_some hbody
  have hne : y ≠ body := by
    rintro rfl
    have helement := Node.isElement_of_hasTag htag
    rw [Node.isElement_eq_false_of_isText htext] at helement
    cases helement
  exact (hy.isRead h hlt).mem_stops h hlt htoken hclass htext hne matcher

theorem hasClass_of_forall_lt (size : Nat) (hsize : p.size ≤ size) {token : String}
    (hall : ∀ x < size, (p.node x).hasClass token = false) (x : NodeId) :
    (p.node x).hasClass token = false := by
  by_cases hx : x < size
  · exact hall x hx
  · rw [node_of_le (Nat.le_trans hsize (Nat.not_lt.1 hx))]
    rfl

theorem contributing_text_reached_shroudedPage :
    shroudedPage.Contributes 1 2 ∧
      2 ∈ shroudedPage.stops 1 ({} : ScanConfig).markStyle samplePattern.spans := by
  have hclass : ∀ x,
      (shroudedPage.node x).hasClass ({} : ScanConfig).markStyle.markerClass = false :=
    hasClass_of_forall_lt 5 (by decide +kernel) (by decide +kernel)
  have hcontributes : shroudedPage.Contributes 1 2 := ⟨"act now", by decide +kernel⟩
  exact ⟨hcontributes, contributing_text_reached load_shroudedSnapshot
    (.inr resolveVisibility_shroudedSnapshot) (by decide) hclass body?_shroudedPage
    (by decide +kernel) hcontributes samplePattern.spans⟩

end Page

/-! ## What is not reached -/

namespace Marking

variable {style : MarkStyle} {matcher : Matcher} {p : Page} {w : Walker} {y : NodeId}
  {text : String}

/-- A pass that marks one text over and over comes to no other node of the page. -/
theorem Chases.eq_or_le_of_mem_stops (h : Chases style text w p y)
    (hclass : ¬ IsClassToken style.markerClass)
    (hwhole : chosen style matcher text = [⟨0, text.toList.length⟩]) {steps : Nat} {t : NodeId}
    (ht : t ∈ stops style matcher steps w p) : t = y ∨ p.size ≤ t := by
  induction steps generalizing w p y with
  | zero => exact absurd ht List.not_mem_nil
  | succ steps ih =>
      have hnext := h.step hclass
      obtain ⟨hwf, -, hroot, hnexty, rfl, cs, hbelow⟩ := h
      obtain ⟨x, hparent⟩ := hbelow.exists_parent hwf
      obtain ⟨hpieces, hreplace, -⟩ := replace_wrapPage hwf hparent style (p.node y).value
      have hget := Page.get_of_lt (hbelow.ahead.lt_size hwf hroot)
      have hchosen : chosen style matcher (p.node y).value ≠ [] := hwhole ▸ List.cons_ne_nil _ _
      rw [← hwhole] at hpieces
      rw [stops_of_hit hnexty hget hchosen hpieces hreplace rfl] at ht
      rcases List.mem_cons.1 ht with rfl | ht
      · exact .inl rfl
      · -- whatever comes next has been added by the pass
        rcases ih hnext ht with rfl | hle
        · exact .inr (Nat.le_succ p.size)
        · rw [size_wrapPage] at hle
          exact .inr (Nat.le_of_add_right_le hle)

end Marking

namespace Page

/-- A body with some nodes in it that carry characters. -/
def bodySnapshot (inner : List (NodeKind × String)) : Json :=
  .object [("root", .object [("backendNodeId", .natural 1), ("nodeType", .natural 1),
    ("nodeName", .string "BODY"), ("children", .array (inner.map (fun (kind, value) =>
      .object [("backendNodeId", .natural 2), ("nodeType", .natural kind.code),
        ("nodeValue", .string value)])))])]

/-- A body with a CDATA section in it. -/
def sectionPage : Page := (empty.load 3 (bodySnapshot [(.cdataSection, "act now")])).1

/-- A body with two text nodes of one letter in it. -/
def twinPage : Page := (empty.load 3 (bodySnapshot [(.text, "a"), (.text, "a")])).1

theorem load_sectionPage :
    empty.load 3 (bodySnapshot [(.cdataSection, "act now")]) = (sectionPage, .ok 0) :=
  Prod.ext rfl (by decide)

theorem load_twinPage :
    empty.load 3 (bodySnapshot [(.text, "a"), (.text, "a")]) = (twinPage, .ok 0) :=
  Prod.ext rfl (by decide)

theorem twinPage_unreached :
    ∃ pattern, (compileKeyword { markerClass := "x y" } "a").2 = .ok pattern ∧
      2 ∉ twinPage.stops 0 ⟨"x y", false⟩ pattern.spans := by
  obtain ⟨source, hcompiled⟩ :=
    @compileKeyword_of_takes { markerClass := "x y" } "a" rfl (Nat.le_refl 500) (by decide)
  refine ⟨_, hcompiled, fun hmem => ?_⟩
  obtain ⟨hwf, -⟩ := resolved_of_load load_twinPage
  have hchases := @chases_start ⟨"x y", false⟩ twinPage "a" hwf 0 1 [2] (by decide)
    (by decide) (by decide)
  have hfinds := finds_of_compileKeyword rfl hcompiled
  have hsize : twinPage.size = 3 := by decide
  rcases hchases.eq_or_le_of_mem_stops (by decide) (hfinds.chosen_self _ rfl) hmem with
    heq | hle
  · cases heq
  · omega

/-- On the first page a CDATA section makes up the visible text, and no pass comes to it. On the
second page each of two text nodes has a part in the visible text, and with a class of two tokens a
pass marks the first one over and over and does not come to the other. -/
theorem sectionPage_unreached :
    (empty.load 3 (bodySnapshot [(.cdataSection, "act now")]) = (sectionPage, .ok 0) ∧
      (∀ x, (sectionPage.node x).hasClass ({} : ScanConfig).markerClass = false) ∧
      sectionPage.body? = some 0 ∧ (sectionPage.node 1).kind.isCharacterData = true ∧
      sectionPage.visibleText 0 = .ok "act now" ∧ sectionPage.Contributes 0 1 ∧
      ∀ matcher, 1 ∉ sectionPage.stops 0 ({} : ScanConfig).markStyle matcher) ∧
    empty.load 3 (bodySnapshot [(.text, "a"), (.text, "a")]) = (twinPage, .ok 0) ∧
      (∀ x, (twinPage.node x).hasClass "x y" = false) ∧ twinPage.body? = some 0 ∧
      (twinPage.node 2).isText = true ∧ twinPage.Contributes 0 2 ∧
      ∃ pattern, (compileKeyword { markerClass := "x y" } "a").2 = .ok pattern ∧
        2 ∉ twinPage.stops 0 ⟨"x y", false⟩ pattern.spans := by
  refine ⟨⟨load_sectionPage, hasClass_of_forall_lt 2 (by decide)
      (by decide), by decide +kernel, by decide, by decide +kernel,
      ⟨"", by decide +kernel⟩, fun matcher hmem => ?_⟩,
    load_twinPage, hasClass_of_forall_lt 3 (by decide) (by decide),
    by decide +kernel, by decide, ⟨"", by decide +kernel⟩, twinPage_unreached⟩
  obtain ⟨hwf, -⟩ := resolved_of_load load_sectionPage
  obtain ⟨htext, -⟩ := (hwf.mem_stops_iff (by decide) (by decide)).1 hmem
  have hnot : (sectionPage.node 1).isText = false := by decide
  rw [hnot] at htext
  cases htext

end Page

end PhraseMark
