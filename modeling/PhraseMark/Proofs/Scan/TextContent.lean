import PhraseMark.Proofs.Scan.Highlights
import PhraseMark.Proofs.Scan.Seams

/-!
# Text content across passes

However many passes run over a page, wherever they begin and whatever they mark, every node that
was in the page keeps its text content.
-/

namespace PhraseMark

open Marking

/-- A pass that is asked for. -/
structure MarkRequest where
  root : NodeId
  style : MarkStyle
  matcher : Matcher
  single : IsClassToken style.markerClass
  lawful : Lawful matcher

def MarkRequest.ofPattern (root : NodeId) (style : MarkStyle)
    (single : IsClassToken style.markerClass) (pattern : Pattern.Regex) : MarkRequest where
  root
  style
  matcher := pattern.spans
  single
  lawful := lawful_spans pattern

namespace Page

variable {p : Page} {root x : NodeId} {style : MarkStyle} {matcher : Matcher}

def markAll (p : Page) (requests : List MarkRequest) : Page :=
  requests.foldl (fun q r => (q.mark r.root r.style r.matcher).page) p

/-! ## One pass -/

theorem read_contentTurn_text {n : Node} (htext : n.isText = true) (s : String) :
    (Tree.node n []).read contentTurn s = s ++ n.value := by
  rw [Tree.read_node, contentTurn, Node.kind_of_isText htext]
  rfl

theorem seamless_contentTurn (markerClass : String) (next : NodeId) :
    Seamless contentTurn (fun _ => True) (fun s cs => s ++ .ofList cs) markerClass next where
  write_nil := fun s => String.append_empty
  write_append := by
    intro s cs ds
    rw [String.ofList_append, String.append_assoc]
  plain_write := fun _ _ => trivial
  piece := by
    intro i s a _ _
    apply read_piece (fun cs => s ++ .ofList cs)
    · intro n htext
      rw [String.ofList_toList]
      exact read_contentTurn_text htext s
    · intro ts
      have hturn : contentTurn (marker markerClass i) s = .enter s (fun s => s) := rfl
      exact Tree.read_of_enter hturn ts

/-! ## All passes -/

/-- A page that has grown, and in which every old node reads as it did. -/
structure SameContent (p q : Page) : Prop where
  wellFormed : q.WellFormed
  childless : q.TextsChildless
  size_le : p.size ≤ q.size
  read : ∀ x < p.size, ∀ s,
    (q.tree x).read contentTurn s = (p.tree x).read contentTurn s

namespace SameContent

variable {q r : Page}

theorem refl (h : p.WellFormed) (hchildless : p.TextsChildless) : SameContent p p :=
  ⟨h, hchildless, Nat.le_refl _, fun _ _ _ => rfl⟩

theorem trans (hpq : SameContent p q) (hqr : SameContent q r) : SameContent p r where
  wellFormed := hqr.wellFormed
  childless := hqr.childless
  size_le := Nat.le_trans hpq.size_le hqr.size_le
  read := fun x hx s =>
    (hqr.read x (Nat.lt_of_lt_of_le hx hpq.size_le) s).trans (hpq.read x hx s)

theorem mark (h : p.WellFormed) (hchildless : p.TextsChildless) (root : NodeId)
    (htoken : IsClassToken style.markerClass) (hlawful : Lawful matcher) :
    SameContent p (p.mark root style matcher).page := by
  by_cases hroot : root < p.size
  · have hdone := h.mark_completes hroot htoken matcher
    refine ⟨hdone.wellFormed, ?_, h.size_le_mark hroot htoken matcher, ?_⟩
    · rw [hdone.page]
      exact hchildless.batch (p.numbered_plan _ _ _)
    · intro x hx s
      apply h.read_mark hroot htoken hlawful (Tree.carried_true _) (seamless_contentTurn _ _) ?_ hx
      intro y t hreached s _
      refine ⟨trivial, ?_⟩
      rw [h.tree_eq, hchildless t hreached.isText, String.ofList_toList]
      exact read_contentTurn_text hreached.isText s
  · rw [mark_of_le (Nat.not_lt.1 hroot)]
    exact refl h hchildless

theorem markAll (h : p.WellFormed) (hchildless : p.TextsChildless) (requests : List MarkRequest) :
    SameContent p (p.markAll requests) := by
  induction requests generalizing p with
  | nil => exact refl h hchildless
  | cons r rs ih =>
      have hfirst := mark h hchildless r.root r.single r.lawful
      exact hfirst.trans (ih hfirst.wellFormed hfirst.childless)

end SameContent

/-- Passes lose no text, double none and change no order: after any number of them every node of
the page has the text content it had. -/
theorem textContent_markAll (h : p.WellFormed) (hchildless : p.TextsChildless)
    (requests : List MarkRequest) (hx : x < p.size) :
    ∃ text, p.textContent x = .ok text ∧ (p.markAll requests).textContent x = .ok text := by
  have hsame := SameContent.markAll h hchildless requests
  refine ⟨_, h.textContent_eq hx, ?_⟩
  rw [hsame.wellFormed.textContent_eq (Nat.lt_of_lt_of_le hx hsame.size_le), hsame.read x hx]

theorem isClassToken_hit : IsClassToken "hit" := by decide

theorem textContent_markAll_samplePage :
    (samplePage.mark 0 ⟨"hit", false⟩ samplePattern.spans).highlights = [⟨2, "1"⟩] ∧
      (samplePage.markAll
        [.ofPattern 0 ⟨"hit", false⟩ isClassToken_hit samplePattern,
          .ofPattern 3 ⟨"hit", true⟩ isClassToken_hit samplePattern]).textContent 0 = .ok "1!" := by
  have hbefore : samplePage.textContent 0 = .ok "1!" := by decide +kernel
  obtain ⟨text, htext, hafter⟩ := @textContent_markAll samplePage 0
    consistent_samplePage.toWellFormed textsChildless_samplePage
    [.ofPattern 0 ⟨"hit", false⟩ isClassToken_hit samplePattern,
      .ofPattern 3 ⟨"hit", true⟩ isClassToken_hit samplePattern] (by decide)
  rw [hbefore] at htext
  cases htext
  exact ⟨highlights_mark_samplePage isClassToken_hit rfl, hafter⟩

end Page

end PhraseMark
