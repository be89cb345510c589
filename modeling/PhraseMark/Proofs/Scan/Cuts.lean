import Mathlib.Logic.Relation
import PhraseMark.Proofs.Scan.Seams

/-!
# Passes cut by cut

Whatever the class of markers is, and wherever a pass ends, all it does to a well-formed page is to
cut up text nodes, one after the other. So everything that has been added stands where a text node
of the old page stood.
-/

namespace PhraseMark

open Marking

namespace Page

variable {p q : Page}

/-- The page in which the text node `t` has been cut up at hits. -/
def cut (p : Page) (markerClass : String) (t : NodeId) (hits : List Pattern.Span) : Page :=
  p.batch markerClass [⟨t, number p.size (piecesFrom (p.node t).value.toList 0 hits)⟩]

/-- A text node that has a parent has been cut up. -/
inductive CutsOnce : Page → Page → Prop
  | cut {p : Page} (markerClass : String) (hits : List Pattern.Span) {t x : NodeId} :
      p.WellFormed → (p.node t).isText = true → (p.node t).parent = some x →
        CutsOnce p (p.cut markerClass t hits)

/-- Text nodes have been cut up, one after the other. -/
abbrev CutsUp : Page → Page → Prop := Relation.ReflTransGen CutsOnce

theorem CutsOnce.wellFormed (h : CutsOnce p q) : q.WellFormed := by
  cases h with
  | cut markerClass hits hwf _ hparent =>
      exact (hwf.replace_addPieces ⟨markerClass, true⟩ _ hits hparent).2

theorem CutsOnce.size_le (h : CutsOnce p q) : p.size ≤ q.size := by
  cases h with
  | cut markerClass hits =>
      rw [Page.cut, size_batch]
      exact Nat.le_add_right _ _

theorem CutsUp.wellFormed (h : CutsUp p q) (hp : p.WellFormed) : q.WellFormed := by
  induction h with
  | refl => exact hp
  | tail _ hlast _ => exact hlast.wellFormed

end Page

namespace Marking

variable {p : Page} {style : MarkStyle} {matcher : Matcher} {w : Walker}

theorem run_cutsUp (h : p.WellFormed) (hw : w.rejects = avoids style) (hroot : w.root < p.size)
    {rest : List NodeId} (ha : p.Ahead w.root w.current rest) (steps : Nat) :
    p.CutsUp (run style matcher steps w p).page := by
  induction steps generalizing p w rest with
  | zero => exact .refl
  | succ steps ih =>
      have henters : w.Enters p (goesOn style matcher) := enters_goesOn p hw
      rcases w.next_cases h hroot henters ha with ⟨-, hend⟩ | ⟨y, cs, hnext, htext, hb, -⟩
      · rw [run_of_end hend]
      have hget := Page.get_of_lt (hb.ahead.lt_size h hroot)
      by_cases hchosen : chosen style matcher (p.node y).value = []
      · rw [run_of_skip hnext hget hchosen]
        exact ih (w := w.moveTo y) h hw hroot hb.ahead
      · -- the walk goes on after the last piece, with the same ahead of it
        obtain ⟨x, hparent⟩ := hb.exists_parent h
        obtain ⟨hreplace, hq⟩ := h.replace_addPieces style (p.node y).value.toList
          (chosen style matcher (p.node y).value) hparent
        obtain ⟨last, hlast⟩ := exists_last_addPieces style (p.node y).value.toList p 0 hchosen
        have hcut : p.CutsOnce
            (p.cut style.markerClass y (chosen style matcher (p.node y).value)) :=
          .cut style.markerClass _ h htext hparent
        rw [run_of_hit hnext hget hchosen rfl hreplace hlast]
        rw [addPieces_eq] at hlast
        have hbelow :=
          @Page.AheadBelow.batch p w.root y style.markerClass _ cs hb h last hlast hroot
        have hroot' := Nat.lt_of_lt_of_le hroot hcut.size_le
        exact (ih (w := (w.moveTo y).moveTo last) hq hw hroot' hbelow.ahead).head hcut

end Marking

namespace Page

variable {p q : Page} {origin : NodeId → NodeId} {markerClass : String} {t x y : NodeId}
  {hits : List Pattern.Span}

theorem WellFormed.mark_cutsUp (h : p.WellFormed) (root : NodeId) (style : MarkStyle)
    (matcher : Matcher) : p.CutsUp (p.mark root style matcher).page := by
  by_cases hroot : root < p.size
  · exact run_cutsUp (w := .start root (avoids style)) h rfl hroot .root _
  · rw [mark_of_le (Nat.not_lt.1 hroot)]

/-- Passes have gone over the page, each under some node, and looked for something. -/
abbrev PassedOver : Page → Page → Prop :=
  Relation.ReflTransGen (fun p q => ∃ root style matcher, q = (p.mark root style matcher).page)

theorem PassedOver.cutsUp (hq : p.PassedOver q) (h : p.WellFormed) : p.CutsUp q := by
  induction hq with
  | refl => exact .refl
  | tail _ hlast ih =>
      obtain ⟨root, style, matcher, rfl⟩ := hlast
      exact ih.trans ((ih.wellFormed h).mark_cutsUp root style matcher)

/-! ## Where nodes come from -/

/-- `q` has come from `p` by cutting up text nodes. Every node of `q` has an origin in `p`: an old
node itself, a new one the text node in whose place it was put. -/
structure Descends (p : Page) (origin : NodeId → NodeId) (q : Page) : Prop where
  size_le : p.size ≤ q.size
  origin_old : ∀ y < p.size, origin y = y
  unlinked : ∀ y < p.size, (q.node y).unlinked = (p.node y).unlinked
  isText : ∀ y, p.size ≤ y → y < q.size → (p.node (origin y)).isText = true
  part : ∀ y, p.size ≤ y → y < q.size → (q.node y).isText = true →
    (q.node y).value.toList <:+: (p.node (origin y)).value.toList
  untagged : ∀ y, p.size ≤ y → y < q.size → (q.node y).hasTag "BODY" = false
  /-- A node stands under the parent of its origin, or under a marker of the same origin. -/
  parent : ∀ x y, (q.node y).parent = some x →
    (x < p.size ∧ (p.node (origin y)).parent = some x) ∨ (p.size ≤ x ∧ origin x = origin y)

/-- What a cut adds: text nodes and markers. -/
theorem new_node_of_cut (hle : p.size ≤ y) (hlt : y < (p.cut markerClass t hits).size) :
    ((p.cut markerClass t hits).node y).hasTag "BODY" = false ∧
      (((p.cut markerClass t hits).node y).isText = true →
        ((p.cut markerClass t hits).node y).value.toList <:+: (p.node t).value.toList) ∧
      (((p.cut markerClass t hits).node y).parent = (p.node t).parent ∨
        ∃ x, p.size ≤ x ∧ ((p.cut markerClass t hits).node y).parent = some x) := by
  obtain ⟨cut, hcut, ⟨i, a⟩, hb, n, hn, rfl, hnode⟩ :=
    exists_piece_of_le (p.numbered_single markerClass t _) hle hlt
  rw [List.mem_singleton] at hcut
  subst hcut
  have hpart := infix_of_mem_piecesFrom (snd_mem_of_mem_number hb)
  rw [Page.cut, hnode]
  cases a with
  | plain text =>
      rw [Piece.nodes, List.mem_singleton] at hn
      subst hn
      exact ⟨rfl, fun _ => hpart, .inl rfl⟩
  | hit text =>
      simp only [Piece.nodes, List.mem_cons, List.not_mem_nil, or_false] at hn
      rcases hn with rfl | rfl
      · refine ⟨(hasTag_marker markerClass i "BODY").trans (by decide +kernel), ?_, .inl rfl⟩
        intro htext
        cases htext
      · exact ⟨rfl, fun _ => hpart, .inr ⟨i, (le_of_mem_number hb).1, rfl⟩⟩

namespace Descends

theorem refl (h : p.WellFormed) : Descends p (fun y => y) p where
  size_le := Nat.le_refl _
  origin_old := fun _ _ => rfl
  unlinked := fun _ _ => rfl
  isText := fun _ hle hlt => absurd hlt (Nat.not_lt.2 hle)
  part := fun _ hle hlt => absurd hlt (Nat.not_lt.2 hle)
  untagged := fun _ hle hlt => absurd hlt (Nat.not_lt.2 hle)
  parent := fun _ _ hparent => .inl ⟨h.parent_lt hparent, hparent⟩

variable (hq : Descends p origin q)

include hq

/-- The origin of a text node is a text node with all of its text. -/
theorem origin_of_isText (htext : (q.node t).isText = true) :
    (p.node (origin t)).isText = true ∧
      (q.node t).value.toList <:+: (p.node (origin t)).value.toList := by
  by_cases ht : t < p.size
  · have hsame := hq.unlinked t ht
    rw [hq.origin_old t ht]
    exact ⟨(congrArg Node.isText hsame).symm.trans htext,
      (congrArg (fun n => n.value.toList) hsame) ▸ List.infix_refl _⟩
  · have hlt := lt_of_isText htext
    exact ⟨hq.isText t (Nat.not_lt.1 ht) hlt, hq.part t (Nat.not_lt.1 ht) hlt htext⟩

/-- What stands where after a cut has its origin where the node that was cut has. -/
theorem parent_cut (h : q.WellFormed)
    (hparent : ((q.cut markerClass t hits).node y).parent = some x) :
    let origin' := fun y => if y < q.size then origin y else origin t
    (x < p.size ∧ (p.node (origin' y)).parent = some x) ∨
      (p.size ≤ x ∧ origin' x = origin' y) := by
  by_cases hy : y < q.size
  · rw [Page.cut, parent_batch h _ _ hy] at hparent
    split at hparent
    · cases hparent
    · dsimp only
      rw [if_pos hy, if_pos (h.parent_lt hparent)]
      exact hq.parent x y hparent
  · dsimp only
    rw [if_neg hy]
    rcases (new_node_of_cut (Nat.not_lt.1 hy) (lt_of_parent hparent)).2.2 with hsame | ⟨z, hle, hz⟩
    · -- a piece has the parent of the text node
      rw [hsame] at hparent
      rw [if_pos (h.parent_lt hparent)]
      exact hq.parent x t hparent
    · -- the text of a hit stands in its marker
      cases hz.symm.trans hparent
      rw [if_neg (Nat.not_lt.2 hle)]
      exact .inr ⟨Nat.le_trans hq.size_le hle, rfl⟩

theorem cut (h : q.WellFormed) (htext : (q.node t).isText = true) :
    Descends p (fun y => if y < q.size then origin y else origin t) (q.cut markerClass t hits) where
  size_le := by
    rw [Page.cut, size_batch]
    exact Nat.le_trans hq.size_le (Nat.le_add_right _ _)
  origin_old := by
    intro y hy
    rw [if_pos (Nat.lt_of_lt_of_le hy hq.size_le), hq.origin_old y hy]
  unlinked := by
    intro y hy
    rw [Page.cut, unlinked_batch _ _ (Nat.lt_of_lt_of_le hy hq.size_le), hq.unlinked y hy]
  isText := by
    intro y hle hlt
    split
    · rename_i hy
      exact hq.isText y hle hy
    · exact (hq.origin_of_isText htext).1
  part := by
    intro y hle hlt htext'
    split
    · rename_i hy
      rw [Page.cut, label_batch (g := Node.isText) (fun _ => rfl) _ _ hy] at htext'
      rw [Page.cut, label_batch (g := Node.value) (fun _ => rfl) _ _ hy]
      exact hq.part y hle hy htext'
    · rename_i hy
      have hpiece := (new_node_of_cut (Nat.not_lt.1 hy) hlt).2.1 htext'
      exact hpiece.trans (hq.origin_of_isText htext).2
  untagged := by
    intro y hle hlt
    by_cases hy : y < q.size
    · rw [Page.cut, label_batch (g := fun n => n.hasTag "BODY") (fun _ => rfl) _ _ hy]
      exact hq.untagged y hle hy
    · exact (new_node_of_cut (Nat.not_lt.1 hy) hlt).1
  parent := fun _ _ hparent => hq.parent_cut h hparent

end Descends

theorem CutsUp.exists_origin (hq : p.CutsUp q) (h : p.WellFormed) :
    ∃ origin, Descends p origin q := by
  induction hq with
  | refl => exact ⟨_, .refl h⟩
  | tail hbefore hlast ih =>
      obtain ⟨origin, hdescends⟩ := ih
      cases hlast with
      | cut markerClass hits hwf htext _ => exact ⟨_, hdescends.cut hwf htext⟩

end Page

end PhraseMark
