import PhraseMark.Proofs.Scan.Rescan

/-!
# Tags that a scan adds

Escaping works on single characters, raw text is never parted and a marker is never left out of
the markup. So the markup of the page after a scan is the markup before it with the tags of markers
put in.
-/

namespace PhraseMark

namespace Markup

/-- A visit without what is written for the node itself; what is written under it stays. -/
def mute (m : Manuscript) : Turn Manuscript → Turn Manuscript
  | .stop s => .stop { s with written := m.written }
  | .pass s => .pass { s with written := m.written }
  | .enter s leave =>
    .enter { s with written := m.written }
      (fun inner => { leave inner with written := inner.written })

/-- The visits of a writer that writes bare elements as their content only. -/
def bareTurn (options : MarkupOptions) (bare : NodeId → Bool) (n : Node) (m : Manuscript) :
    Turn Manuscript :=
  if n.isElement && bare n.id then mute m (turn options n m) else turn options n m

end Markup

/-- The markup of a node in which bare elements have no tags. -/
def Page.bareMarkup (p : Page) (options : MarkupOptions) (bare : NodeId → Bool) (id : NodeId) :
    Except Fault String :=
  (p.tour (fun _ n m => .ok (Markup.bareTurn options bare n m)) id {}).map (·.written)

namespace Markup

variable {options : MarkupOptions} {bare : NodeId → Bool} {n : Node} {m : Manuscript}

/-! ## Raw text -/

/-- A visit that leaves out the children keeps to the rawness of the place. One that goes on to
them makes the place as raw as the node asks, and undoes this in the end. -/
inductive Keeps (n : Node) (m : Manuscript) : Turn Manuscript → Prop
  | pass {m' : Manuscript} : m'.raw = m.raw → Keeps n m (.pass m')
  | enter {m' : Manuscript} {leave : Manuscript → Manuscript} :
      m'.raw = n.isRawText → (∀ inner, (leave inner).raw = m.raw) → Keeps n m (.enter m' leave)

theorem Keeps.mute {t : Turn Manuscript} (h : Keeps n m t) : Keeps n m (Markup.mute m t) := by
  cases h with
  | pass hraw => exact .pass hraw
  | enter hraw hleave => exact .enter hraw hleave

theorem isRawText_of_not_isElement (h : n.isElement = false) : n.isRawText = false := by
  simp [Node.isRawText, Node.hasTagIn, Node.hasTag, h]

theorem keeps_turn (options : MarkupOptions) (n : Node) (m : Manuscript) :
    Keeps n m (turn options n m) := by
  have hraw : n.kind ≠ .element → false = n.isRawText := by
    intro hne
    have helement : n.isElement = false := beq_eq_false_iff_ne.2 hne
    exact (isRawText_of_not_isElement helement).symm
  unfold turn
  dsimp only
  cases hkind : n.kind with
  | element =>
      dsimp only
      split
      · exact .pass rfl
      · split
        · exact .pass rfl
        · exact .enter rfl (fun _ => rfl)
  | document =>
      apply Keeps.enter
      · exact hraw (by simp [hkind])
      · exact fun _ => rfl
  | documentFragment =>
      apply Keeps.enter
      · exact hraw (by simp [hkind])
      · exact fun _ => rfl
  | comment =>
      apply Keeps.pass
      split <;> rfl
  | text => exact .pass rfl
  | cdataSection => exact .pass rfl
  | documentType => exact .pass rfl
  | attr => exact .pass rfl
  | entityReference => exact .pass rfl
  | entity => exact .pass rfl
  | processingInstruction => exact .pass rfl
  | notationDeclaration => exact .pass rfl

theorem keeps_bareTurn (options : MarkupOptions) (bare : NodeId → Bool) (n : Node)
    (m : Manuscript) : Keeps n m (bareTurn options bare n m) := by
  unfold bareTurn
  split
  · exact (keeps_turn options n m).mute
  · exact keeps_turn options n m

theorem bareTurn_ne_stop (n : Node) (m m' : Manuscript) :
    bareTurn options bare n m ≠ .stop m' := by
  intro heq
  have hkeeps := keeps_bareTurn options bare n m
  rw [heq] at hkeeps
  cases hkeeps

theorem raw_read (t : Tree) (m : Manuscript) :
    (t.read (bareTurn options bare) m).raw = m.raw := by
  cases t with
  | node n ts =>
      have hkeeps := keeps_bareTurn options bare n m
      rw [Tree.read_node]
      generalize bareTurn options bare n m = t at hkeeps
      cases hkeeps with
      | pass hraw => exact hraw
      | enter _ hleave => exact hleave _

theorem raw_readAll (ts : List Tree) (m : Manuscript) :
    (Tree.readAll (bareTurn options bare) ts m).raw = m.raw := by
  induction ts generalizing m with
  | nil => rfl
  | cons t ts ih => rw [Tree.readAll_cons, ih, raw_read]

theorem carried_bareTurn (options : MarkupOptions) (bare : NodeId → Bool) :
    Tree.Carried (bareTurn options bare) (fun n m => m.raw = n.isRawText) where
  enter := by
    intro n m m' leave heq
    have hkeeps := keeps_bareTurn options bare n m
    rw [heq] at hkeeps
    cases hkeeps with
    | enter hraw _ => exact hraw
  read := by
    intro n m t hraw
    rw [raw_read, hraw]

/-! ## Texts and markers -/

def write (m : Manuscript) (cs : List Char) : Manuscript :=
  { m with written := m.written ++ escape false (.ofList cs) }

/-- Characters are escaped one by one, so it does not matter where a text is parted. -/
theorem escape_append (inAttribute : Bool) (cs ds : List Char) :
    escape inAttribute (.ofList (cs ++ ds)) =
      escape inAttribute (.ofList cs) ++ escape inAttribute (.ofList ds) := by
  rw [escape, escape, escape, String.toList_ofList, String.toList_ofList, String.toList_ofList,
    List.flatMap_append, String.ofList_append]

theorem write_append (m : Manuscript) (cs ds : List Char) :
    write m (cs ++ ds) = write (write m cs) ds := by
  rw [write, write, write, escape_append, String.append_assoc]

theorem read_bareTurn_text (htext : n.isText = true) (hraw : m.raw = false) (ts : List Tree) :
    (Tree.node n ts).read (bareTurn options bare) m = write m n.value.toList := by
  apply Tree.read_of_pass
  rw [bareTurn, Node.isElement_eq_false_of_isText htext, Bool.false_and, turn,
    Node.kind_of_isText htext]
  simp [write, characters, hraw]

theorem turn_element (hkind : n.kind = .element) (hvisible : n.visible = none)
    (hvoid : n.isVoid = false) (m : Manuscript) :
    turn options n m =
      .enter { written := m.written ++ openTag n, raw := n.isRawText }
        (fun inner => { written := inner.written ++ closeTag n, raw := m.raw }) := by
  have hshown : (options.skipInvisible && n.visible == some false) = false := by
    rw [hvisible]
    exact Bool.and_false _
  rw [turn, hkind]
  simp only [hshown, hvoid]
  rfl

/-- A marker is never left out, and bare it writes nothing of its own. -/
theorem read_bareTurn_marker {markerClass : String} {i : NodeId} (hbare : bare i = true)
    (hraw : m.raw = false) (ts : List Tree) :
    (Tree.node (Marking.marker markerClass i) ts).read (bareTurn options bare) m =
      Tree.readAll (bareTurn options bare) ts m := by
  have hvoid : (Marking.marker markerClass i).isVoid = false := by
    rw [Node.isVoid, Marking.hasTagIn_marker]
    decide +kernel
  have hrawText : (Marking.marker markerClass i).isRawText = false := by
    rw [Node.isRawText, Marking.hasTagIn_marker]
    decide +kernel
  have hmuted : ((Marking.marker markerClass i).isElement &&
      bare (Marking.marker markerClass i).id) = true := by
    rw [Bool.and_eq_true]
    exact ⟨rfl, hbare⟩
  have hturn : bareTurn options bare (Marking.marker markerClass i) m =
      .enter m (fun inner => { written := inner.written, raw := m.raw }) := by
    rw [bareTurn, if_pos hmuted, turn_element rfl rfl hvoid, mute, hrawText, ← hraw]
  rw [Tree.read_of_enter hturn, ← raw_readAll ts m]

theorem seamless_bareTurn {next : NodeId} (hbare : ∀ i, next ≤ i → bare i = true)
    (options : MarkupOptions) (markerClass : String) :
    Marking.Seamless (bareTurn options bare) (fun m => m.raw = false) write markerClass next where
  write_nil := by
    intro m
    have hempty : escape false (.ofList []) = "" := rfl
    rw [write, hempty, String.append_empty]
  write_append := write_append
  plain_write := fun _ hraw => hraw
  piece := by
    intro i m a hi hraw
    apply Marking.read_piece (write m)
    · intro n htext
      exact read_bareTurn_text htext hraw []
    · exact read_bareTurn_marker (hbare i hi) hraw

/-! ## Where texts are marked -/

theorem isRawText_of_body (htag : n.hasTag "BODY" = true) : n.isRawText = false := by
  rw [Node.hasTag, Bool.and_eq_true, Text.eqIgnoringCase_iff] at htag
  have hbody : rawTextTags.any (fun tag => Text.asciiLower "BODY" == Text.asciiLower tag) =
      false := by decide +kernel
  rw [Node.isRawText, Node.hasTagIn, ← hbody]
  refine congrArg rawTextTags.any (funext fun tag => ?_)
  rw [Node.hasTag, htag.1, Text.eqIgnoringCase, htag.2, Bool.true_and]

/-- Raw text is not rendered. -/
theorem isRawText_of_isUnrendered (h : n.isUnrendered = false) : n.isRawText = false := by
  have htags : ∀ tag ∈ rawTextTags, tag ∈ unrenderedTags := by decide
  apply Bool.eq_false_iff.2
  intro hraw
  obtain ⟨tag, hmem, htag⟩ := List.any_eq_true.1 hraw
  have hunrendered : n.isUnrendered = true := List.any_eq_true.2 ⟨tag, htags tag hmem, htag⟩
  rw [h] at hunrendered
  cases hunrendered

/-- A pass does not go on below raw text. -/
theorem isRawText_of_goesOn {style : MarkStyle} {matcher : Matcher}
    (hgoes : Marking.goesOn style matcher n = true) : n.isRawText = false := by
  cases htext : n.isText with
  | true => exact isRawText_of_not_isElement (Node.isElement_eq_false_of_isText htext)
  | false =>
      rw [Marking.goesOn_of_not_isText htext, Bool.not_eq_true', Marking.avoids,
        Bool.or_eq_false_iff] at hgoes
      exact isRawText_of_isUnrendered hgoes.1

end Markup

namespace Page

open Markup

variable {p : Page} {root body : NodeId} {options : MarkupOptions}

/-! ## Scans -/

theorem WellFormed.bareMarkup_eq (h : p.WellFormed) (hroot : root < p.size)
    (options : MarkupOptions) (bare : NodeId → Bool) :
    p.bareMarkup options bare root =
      .ok ((p.tree root).read (bareTurn options bare) {}).written := by
  have hreads : p.Reads (fun _ n m => .ok (bareTurn options bare n m)) (bareTurn options bare) :=
    ⟨fun _ _ _ => rfl, bareTurn_ne_stop⟩
  rw [bareMarkup, h.tour_eq hreads hroot]
  rfl

theorem WellFormed.bareMarkup_self (h : p.WellFormed) (options : MarkupOptions)
    (root : NodeId) :
    p.bareMarkup options (fun y => p.size ≤ y) root = p.outerMarkup options root := by
  by_cases hroot : root < p.size
  · have hreads : p.Reads (fun _ n m => .ok (turn options n m))
        (bareTurn options (fun y => p.size ≤ y)) := by
      refine ⟨fun y hy m => ?_, bareTurn_ne_stop⟩
      have hid : (p.node y).unlinked.id = y := h.id_node y hy
      have hbare : ((p.node y).unlinked.isElement &&
          decide (p.size ≤ (p.node y).unlinked.id)) = false := by
        rw [hid, decide_eq_false (Nat.not_le.2 hy), Bool.and_false]
      rw [bareTurn, hbare]
      rfl
    rw [h.bareMarkup_eq hroot, outerMarkup, h.tour_eq hreads hroot]
    rfl
  · rw [bareMarkup, outerMarkup, tour_of_le (Nat.not_lt.1 hroot), tour_of_le (Nat.not_lt.1 hroot)]

theorem WellFormed.bareMarkup_pageAfter (h : p.WellFormed) {style : MarkStyle}
    (hbody : p.body? = some body) (htoken : IsClassToken style.markerClass)
    (found : List KeywordMatch) (options : MarkupOptions) (hroot : root < p.size) :
    (pageAfter body style p found).bareMarkup options (fun y => p.size ≤ y) root =
      p.outerMarkup options root := by
  obtain ⟨hlt, htag, -⟩ := h.body?_some hbody
  obtain ⟨hq, hle, -⟩ := h.after_passes hlt htoken found
  have hseam := @seamless_bareTurn (fun y => decide (p.size ≤ y)) p.size
    (fun i hi => decide_eq_true hi) options style.markerClass
  have hread := h.read_pageAfter hlt htoken (carried_bareTurn options _) hseam
    (fun n ts m htext hraw => read_bareTurn_text htext hraw ts) ?_ found hroot {}
  · rw [hq.bareMarkup_eq (Nat.lt_of_lt_of_le hroot hle), hread, ← h.bareMarkup_eq hroot,
      h.bareMarkup_self]
  · -- a text that is marked stands neither in a script nor in a style sheet
    rintro n m (rfl | ⟨matcher, hgoes⟩) hraw
    · rw [hraw]
      exact isRawText_of_body htag
    · rw [hraw]
      exact isRawText_of_goesOn hgoes

/-- A scan adds tags of markers to the page and nothing else: the markup of the root after it,
with the elements that the scan put in written as their content only, is the markup before it. -/
theorem markup_scan (h : p.WellFormed) (scanId : String) (source : Source) (config : ScanConfig)
    (htoken : IsClassToken config.markerClass) (options : MarkupOptions) :
    (p.scan scanId source config).page.root = p.root ∧
      ∀ root, p.root = some root →
        (p.scan scanId source config).page.bareMarkup options (fun y => p.size ≤ y) root =
            p.outerMarkup options root ∧
          (root < p.size → ∃ html, p.outerMarkup options root = .ok html) := by
  have hwritten : ∀ root, root < p.size → ∃ html, p.outerMarkup options root = .ok html :=
    fun root hlt => ⟨_, h.outerMarkup_eq hlt options⟩
  rcases h.page_scan scanId source htoken with heq | ⟨body, found, hbody, heq⟩
  · rw [heq]
    exact ⟨rfl, fun root _ => ⟨h.bareMarkup_self options root, hwritten root⟩⟩
  · obtain ⟨hlt, -, root, hroot, hunder⟩ := h.body?_some hbody
    rw [heq]
    refine ⟨(h.after_passes hlt htoken.markStyle found).2.2, ?_⟩
    intro root' hroot'
    cases hroot.symm.trans hroot'
    exact ⟨h.bareMarkup_pageAfter hbody htoken.markStyle found options (h.lineage_lt hlt hunder),
      hwritten root⟩

theorem markup_scan_samplePage :
    (samplePage.scan "" (Source.ofList ["1"]) {}).page.bareMarkup {}
      (fun y => samplePage.size ≤ y) 0 = .ok "<body>1!</body>" := by
  have hscan := markup_scan consistent_samplePage.toWellFormed "" (Source.ofList ["1"]) {}
    (by decide +kernel) {}
  have hbefore : samplePage.outerMarkup {} 0 = .ok "<body>1!</body>" := by decide +kernel
  have hroot : samplePage.root = some 0 := by decide +kernel
  rw [← hbefore]
  exact (hscan.2 0 hroot).1

end Page

end PhraseMark
