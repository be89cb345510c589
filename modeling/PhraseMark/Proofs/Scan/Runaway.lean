import PhraseMark.Proofs.Scan.Rescan
import PhraseMark.Proofs.Text.Splitting

/-!
# Passes that do not end

An element knows a class among the tokens of its class attribute. So a marker whose class is not
one token is not known as a marker, and a pass goes below it to the text it has just marked. Where
this text is a hit as a whole, the pass marks it once more, and so on without end.
-/

namespace PhraseMark

open Pattern Marking

/-! ## Classes that a marker does not know -/

/-- A class that is among its own tokens is one token. -/
theorem isClassToken_of_mem {s : String} (h : s ∈ Text.tokens s) : IsClassToken s := by
  obtain ⟨part, hpart, rfl⟩ := List.mem_map.1 h
  rw [String.toList_ofList] at hpart
  obtain ⟨hpart, hne⟩ := List.mem_filter.1 hpart
  have hblanks := fun c hc => (forall_mem_part hpart c hc).1
  have hsingle : part.splitOnP Text.isTokenBlank = [part] :=
    List.splitOnP_eq_singleton hblanks
  rw [IsClassToken, Text.tokens, String.toList_ofList, hsingle, List.filter_singleton, hne,
    cond_true]
  rfl

namespace Marking

theorem hasClass_marker_eq_false {markerClass : String} (hclass : ¬ IsClassToken markerClass)
    (i : NodeId) : (marker markerClass i).hasClass markerClass = false := by
  have hclasses : (marker markerClass i).classes = Text.tokens markerClass := by
    have hattr : (marker markerClass i).attr? "class" = some markerClass :=
      Node.attr?_setAttr_self _ _ _
    rw [Node.classes, hattr, Option.getD_some]
  rw [Node.hasClass, hclasses, Bool.and_eq_false_iff]
  refine .inr (Bool.eq_false_iff.2 (fun hmem => hclass (isClassToken_of_mem ?_)))
  exact List.contains_iff_mem.1 hmem

theorem avoids_marker_eq_false {style : MarkStyle} (hclass : ¬ IsClassToken style.markerClass)
    (i : NodeId) : avoids style (marker style.markerClass i) = false := by
  rw [avoids, isUnrendered_marker, hasClass_marker_eq_false hclass, Bool.false_or]

end Marking

/-! ## Steps -/

theorem Walker.next_of_first (w : Walker) {p : Page} {c : NodeId} {cs : List NodeId}
    (h : p.WellFormed) (hroot : w.root < p.size) {rest : List NodeId}
    (hahead : p.Ahead w.root w.current rest) (hfirst : w.entered p w.current ++ rest = c :: cs)
    (htext : (p.node c).isText = true) :
    w.next p = (w.moveTo c, .ok (some c)) ∧ p.AheadBelow w.root c cs := by
  refine ⟨?_, w.aheadBelow_step hahead hfirst⟩
  have hseek := w.seek_of_cons h hroot hahead hfirst p.size
  rw [if_pos htext] at hseek
  rw [Walker.next, hseek]

namespace Marking

variable {style : MarkStyle} {matcher : Matcher} {p : Page} {w : Walker} {y : NodeId}
  {text : String}

/-- A walk that comes next to a text node with a given text. -/
structure Chases (style : MarkStyle) (text : String) (w : Walker) (p : Page) (y : NodeId) :
    Prop where
  wellFormed : p.WellFormed
  rejects : w.rejects = avoids style
  root_lt : w.root < p.size
  next : w.next p = (w.moveTo y, .ok (some y))
  value : (p.node y).value = text
  below : ∃ cs, p.AheadBelow w.root y cs

/-- The page in which a text node with a given text has been put in a marker as a whole. -/
def wrapPage (p : Page) (markerClass text : String) (y : NodeId) : Page :=
  p.batch markerClass [⟨y, number p.size [.hit text]⟩]

theorem size_wrapPage (p : Page) (markerClass text : String) (y : NodeId) :
    (wrapPage p markerClass text y).size = p.size + 2 :=
  p.size_batch_single markerClass y [.hit text]

theorem piecesFrom_whole (text : String) :
    piecesFrom text.toList 0 [⟨0, text.toList.length⟩] = [.hit text] := by
  simp [piecesFrom, Span.slice]

/-- A text node that is a hit as a whole is replaced by its marker. -/
theorem replace_wrapPage (h : p.WellFormed) {x : NodeId} (hparent : (p.node y).parent = some x)
    (style : MarkStyle) (text : String) :
    addPieces style text.toList p 0 [⟨0, text.toList.length⟩] =
        { page := p.extend (nodesOf style.markerClass none [(p.size, .hit text)])
          ids := [p.size]
          highlights := [⟨p.size, text⟩] } ∧
      (p.extend (nodesOf style.markerClass none [(p.size, .hit text)])).replace y [p.size] =
        (wrapPage p style.markerClass text y, .ok ()) ∧
      (wrapPage p style.markerClass text y).WellFormed := by
  have hpieces := addPieces_eq style text.toList p 0 [⟨0, text.toList.length⟩]
  obtain ⟨hreplace, hq⟩ := h.replace_addPieces style text.toList [⟨0, text.toList.length⟩] hparent
  rw [hpieces] at hreplace
  rw [piecesFrom_whole] at hpieces hreplace hq
  exact ⟨hpieces, hreplace, hq⟩

/-- Where the last piece of a text node is a marker whose class is not one token, the walk goes
below it, to the text in it. -/
theorem entered_of_last (hclass : ¬ IsClassToken style.markerClass) (h : p.WellFormed)
    (hrejects : w.rejects = avoids style) (hroot : w.root < p.size) {cs : List NodeId}
    (hbelow : p.AheadBelow w.root y cs) {as : List Piece} {i : NodeId}
    (hlast : (number p.size as).getLast? = some (i, .hit text)) :
    (p.batch style.markerClass [⟨y, number p.size as⟩]).AheadBelow w.root i cs ∧
      w.entered (p.batch style.markerClass [⟨y, number p.size as⟩]) i = [i + 1] ∧
      (p.batch style.markerClass [⟨y, number p.size as⟩]).node (i + 1) =
        { Node.ofText text with id := i + 1, parent := some i } := by
  set q := p.batch style.markerClass [⟨y, number p.size as⟩] with hqdef
  have hpieces : p.piecesOf style.markerClass [⟨y, number p.size as⟩] =
      nodesOf style.markerClass (p.node y).parent (number p.size as) := by
    simp [Page.piecesOf]
  have hmem : ∀ n ∈ (Piece.hit text).nodes style.markerClass (p.node y).parent i,
      q.node n.id = n := by
    intro n hn
    apply Page.node_batch_of_mem (p.numbered_single style.markerClass y as)
    rw [hpieces]
    exact mem_nodesOf.2 ⟨_, List.mem_of_getLast? hlast, hn⟩
  have hmarker : q.node i =
      { marker style.markerClass i with parent := (p.node y).parent, children := [i + 1] } :=
    hmem _ List.mem_cons_self
  refine ⟨?_, ?_, hmem _ (List.mem_cons_of_mem _ List.mem_cons_self)⟩
  · apply hbelow.batch h _ hroot
    rw [List.getLast?_map, hlast, Option.map_some]
  · have havoids : avoids style { marker style.markerClass i with
        parent := (p.node y).parent, children := [i + 1] } = false :=
      avoids_marker_eq_false hclass i
    rw [Walker.entered, hmarker, Walker.goesBelow]
    simp only [hrejects, havoids, Bool.and_false, Bool.not_false, Bool.or_true, if_true]

/-- Where the last piece of a text node is a marker whose class is not one token, the text in the
marker comes next. -/
theorem chases_of_last (hclass : ¬ IsClassToken style.markerClass) (h : p.WellFormed)
    (hrejects : w.rejects = avoids style) (hroot : w.root < p.size) {cs : List NodeId}
    (hbelow : p.AheadBelow w.root y cs) {as : List Piece}
    (hq : (p.batch style.markerClass [⟨y, number p.size as⟩]).WellFormed) {i : NodeId}
    (hlast : (number p.size as).getLast? = some (i, .hit text)) :
    Chases style text ((w.moveTo y).moveTo i) (p.batch style.markerClass [⟨y, number p.size as⟩])
      (i + 1) := by
  obtain ⟨hahead, hentered, htext⟩ := entered_of_last hclass h hrejects hroot hbelow hlast
  set q := p.batch style.markerClass [⟨y, number p.size as⟩] with hqdef
  have hroot' : w.root < q.size := by
    rw [hqdef, Page.size_batch_single]
    exact Nat.lt_add_right _ hroot
  have hfirst : ((w.moveTo y).moveTo i).entered q ((w.moveTo y).moveTo i).current ++ cs =
      (i + 1) :: cs := congrArg (· ++ cs) hentered
  obtain ⟨hnext, hbelow'⟩ :=
    Walker.next_of_first ((w.moveTo y).moveTo i) hq hroot' hahead.ahead hfirst
      (by rw [htext]; rfl)
  exact ⟨hq, hrejects, hroot', hnext, by rw [htext]; rfl, cs, hbelow'⟩

/-- The text in the marker of a text that was marked as a whole comes next. -/
theorem Chases.step (h : Chases style text w p y) (hclass : ¬ IsClassToken style.markerClass) :
    Chases style text ((w.moveTo y).moveTo p.size) (wrapPage p style.markerClass text y)
      (p.size + 1) := by
  obtain ⟨hwf, hrejects, hroot, -, -, cs, hbelow⟩ := h
  obtain ⟨x, hparent⟩ := hbelow.exists_parent hwf
  obtain ⟨-, -, hq⟩ := replace_wrapPage hwf hparent style text
  exact chases_of_last hclass hwf hrejects hroot hbelow hq rfl

theorem Chases.run_succ (h : Chases style text w p y)
    (hwhole : chosen style matcher text = [⟨0, text.toList.length⟩]) (steps : Nat) :
    let rest := run style matcher steps ((w.moveTo y).moveTo p.size)
      (wrapPage p style.markerClass text y)
    run style matcher (steps + 1) w p =
      { rest with
        highlights := ⟨p.size, text⟩ :: rest.highlights
        visited := rest.visited + 1
        events := event 1 text :: rest.events } := by
  obtain ⟨hwf, -, hroot, hnext, rfl, cs, hbelow⟩ := h
  obtain ⟨x, hparent⟩ := hbelow.exists_parent hwf
  obtain ⟨hpieces, hreplace, -⟩ := replace_wrapPage hwf hparent style (p.node y).value
  have hget := Page.get_of_lt (hbelow.ahead.lt_size hwf hroot)
  have hchosen : chosen style matcher (p.node y).value ≠ [] := hwhole ▸ List.cons_ne_nil _ _
  rw [← hwhole] at hpieces
  rw [run_of_hit hnext hget hchosen hpieces hreplace rfl, hwhole]
  rfl

/-- With a class that is not one token, a pass that comes to a text which is a hit as a whole marks
this text over and over. -/
theorem Chases.run_unfinished (h : Chases style text w p y)
    (hclass : ¬ IsClassToken style.markerClass)
    (hwhole : chosen style matcher text = [⟨0, text.toList.length⟩]) (steps : Nat) :
    (run style matcher steps w p).ending = .unfinished ∧
      (run style matcher steps w p).highlights.map (·.text) = List.replicate steps text ∧
      (run style matcher steps w p).visited = steps := by
  induction steps generalizing w p y with
  | zero => exact ⟨rfl, rfl, rfl⟩
  | succ steps ih =>
      obtain ⟨hending, hhighlights, hvisited⟩ := ih (h.step hclass)
      rw [h.run_succ hwhole]
      refine ⟨hending, ?_, congrArg (· + 1) hvisited⟩
      rw [List.map_cons, hhighlights, List.replicate_succ]

/-- A walk begins at the root, so it comes first to a text node that is the first child. -/
theorem chases_start (h : p.WellFormed) {root c : NodeId} {cs : List NodeId}
    (hchildren : (p.node root).children = c :: cs) (htext : (p.node c).isText = true)
    (hvalue : (p.node c).value = text) :
    Chases style text (.start root (avoids style)) p c := by
  have hroot : root < p.size := Page.lt_of_mem_children (hchildren ▸ List.mem_cons_self)
  have hfirst : (Walker.start root (avoids style)).entered p root ++ [] = c :: cs := by
    rw [Walker.entered, Walker.goesBelow, if_pos, hchildren, List.append_nil]
    simp [Walker.start]
  obtain ⟨hnext, hbelow⟩ :=
    Walker.next_of_first (.start root (avoids style)) h hroot .root hfirst htext
  exact ⟨h, rfl, hroot, hnext, hvalue, cs, hbelow⟩

/-- With a class that is not one token, a pass does not come to its end, however many steps it is
granted, if the first child of its root is a text node that is a hit as a whole. -/
theorem run_start_unfinished (h : p.WellFormed) {root c : NodeId} {cs : List NodeId}
    (hclass : ¬ IsClassToken style.markerClass) (hchildren : (p.node root).children = c :: cs)
    (htext : (p.node c).isText = true) (hvalue : (p.node c).value = text)
    (hwhole : chosen style matcher text = [⟨0, text.toList.length⟩]) (steps : Nat) :
    (run style matcher steps (.start root (avoids style)) p).ending = .unfinished ∧
      (run style matcher steps (.start root (avoids style)) p).highlights.map (·.text) =
        List.replicate steps text ∧
      (run style matcher steps (.start root (avoids style)) p).visited = steps := by
  exact (chases_start h hchildren htext hvalue).run_unfinished hclass hwhole steps

end Marking

end PhraseMark
