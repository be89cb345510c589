import PhraseMark.Proofs.Scan.Passes

/-!
# Where a pass comes to

The text nodes that a pass comes to, in the order in which it does. They are read off the pass step
by step, and in a well-formed page they are the text nodes that can be reached in the page before
the pass.
-/

namespace PhraseMark

namespace Marking

variable {style : MarkStyle} {matcher : Matcher} {p q : Page} {w w' : Walker} {y last : NodeId}
  {n : Node} {steps : Nat}

/-- The text nodes that the rest of a pass comes to. -/
def stops (style : MarkStyle) (matcher : Matcher) : Nat → Walker → Page → List NodeId
  | 0, _, _ => []
  | steps + 1, w, p =>
    match w.next p with
    | (_, .error _) => []
    | (_, .ok none) => []
    | (w, .ok (some id)) =>
      match p.get id with
      | .error _ => [id]
      | .ok n =>
        match chosen style matcher n.value with
        | [] => id :: stops style matcher steps w p
        | hits =>
          let pieces := addPieces style n.value.toList p 0 hits
          match pieces.page.replace id pieces.ids with
          | (_, .error _) => [id]
          | (q, .ok ()) =>
            let w := match pieces.ids.getLast? with
              | some last => w.moveTo last
              | none => w
            id :: stops style matcher steps w q

/-- A pass counts the text nodes it comes to. -/
theorem length_stops (style : MarkStyle) (matcher : Matcher) (steps : Nat) (w : Walker)
    (p : Page) :
    (stops style matcher steps w p).length = (run style matcher steps w p).visited := by
  induction steps generalizing w p with
  | zero => rfl
  | succ steps ih =>
      rw [stops, run]
      rcases w.next p with ⟨w', _ | _ | id⟩
      · rfl
      · rfl
      · dsimp only
        rcases p.get id with _ | n
        · rfl
        · dsimp only
          rcases chosen style matcher n.value with _ | ⟨s, hits⟩
          · exact congrArg (· + 1) (ih _ _)
          · dsimp only
            rcases (addPieces style n.value.toList p 0 (s :: hits)).page.replace id
              (addPieces style n.value.toList p 0 (s :: hits)).ids with ⟨q, _ | _⟩
            · rfl
            · exact congrArg (· + 1) (ih _ _)

theorem stops_of_end (h : (w.next p).2 = .ok none) :
    stops style matcher (steps + 1) w p = [] := by
  have hnext : w.next p = ((w.next p).1, .ok none) := Prod.ext rfl h
  rw [stops, hnext]

theorem stops_of_skip (hnext : w.next p = (w', .ok (some y))) (hn : p.get y = .ok n)
    (hchosen : chosen style matcher n.value = []) :
    stops style matcher (steps + 1) w p = y :: stops style matcher steps w' p := by
  simp only [stops, hnext, hn, hchosen]

theorem stops_of_hit (hnext : w.next p = (w', .ok (some y))) (hn : p.get y = .ok n)
    (hchosen : chosen style matcher n.value ≠ []) {pieces : Pieces}
    (hpieces : addPieces style n.value.toList p 0 (chosen style matcher n.value) = pieces)
    (hreplace : pieces.page.replace y pieces.ids = (q, .ok ()))
    (hlast : pieces.ids.getLast? = some last) :
    stops style matcher (steps + 1) w p =
      y :: stops style matcher steps (w'.moveTo last) q := by
  simp only [stops, hnext, hn]
  split
  · rename_i heq
    rw [hpieces, hreplace] at heq
    cases heq
  · rename_i heq
    rw [hpieces, hreplace] at heq
    cases heq
    simp only [hpieces, hlast]

/-- A pass that has the text nodes `ns` ahead of it comes to each of them. -/
theorem stops_eq (htoken : IsClassToken style.markerClass) (h : p.WellFormed)
    (hw : w.rejects = avoids style) (hroot : w.root < p.size) {rest : List NodeId}
    (ha : p.Ahead w.root w.current rest) {ns : List Node}
    (hns : p.textsOf (goesOn style matcher) (w.entered p w.current ++ rest) = ns)
    (hsteps : ns.length < steps) : stops style matcher steps w p = ns.map (·.id) := by
  induction steps generalizing p w rest ns with
  | zero => exact absurd hsteps (Nat.not_lt_zero _)
  | succ steps ih =>
      rcases ahead_cases matcher h hw hroot ha hns with
        ⟨rfl, hend⟩ | ⟨y, cs, ms, rfl, hnext, hget, hb, hy⟩
      · exact stops_of_end hend
      · have hid : (p.node y).unlinked.id = y := h.id_node y (hb.ahead.lt_size h hroot)
        have hsteps' := Nat.lt_of_succ_lt_succ hsteps
        rcases hy with ⟨hchosen, hrest⟩ | ⟨hchosen, hrest⟩
        · rw [stops_of_skip hnext hget hchosen, List.map_cons, hid]
          exact congrArg _ (ih (w := w.moveTo y) h hw hroot hb.ahead hrest hsteps')
        · obtain ⟨hreplace, hq, hqroot, last, hlast, haq, hqrest⟩ :=
            exists_last_of_hit h hw hroot hb hchosen (fun _ _ => htoken) rfl
          rw [stops_of_hit hnext hget hchosen rfl hreplace hlast, List.map_cons, hid]
          exact congrArg _ (ih (w := (w.moveTo y).moveTo last) hq hw hqroot haq
            (hqrest.trans hrest) hsteps')

end Marking

namespace Page

open Marking

variable {p : Page} {root : NodeId} {style : MarkStyle}

/-- The text nodes that a pass over a page comes to. -/
def stops (p : Page) (root : NodeId) (style : MarkStyle) (matcher : Matcher) : List NodeId :=
  Marking.stops style matcher (stepLimit p) (.start root (avoids style)) p

theorem length_stops_mark (p : Page) (root : NodeId) (style : MarkStyle) (matcher : Matcher) :
    (p.stops root style matcher).length = (p.mark root style matcher).visited :=
  length_stops _ _ _ _ _

theorem stops_of_le (hroot : p.size ≤ root) (style : MarkStyle) (matcher : Matcher) :
    p.stops root style matcher = [] := by
  have hlen := p.length_stops_mark root style matcher
  rw [mark_of_le hroot] at hlen
  exact List.length_eq_zero_iff.1 hlen

theorem WellFormed.stops_mark (h : p.WellFormed) (hroot : root < p.size)
    (htoken : IsClassToken style.markerClass) (matcher : Matcher) :
    p.stops root style matcher = ((p.tree root).textsBelow (goesOn style matcher)).map (·.id) := by
  have hlen := h.length_textsBelow_le hroot (goesOn style matcher)
  exact stops_eq (w := .start root (avoids style)) htoken h rfl hroot .root
    (h.textsOf_start root _ _) (Nat.lt_of_le_of_lt hlen p.size_lt_stepLimit)

end Page

end PhraseMark
