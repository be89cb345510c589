import PhraseMark.Proofs.Scan.Coverage
import PhraseMark.Proofs.Scan.Faults

/-!
# Where markers come from

The passes of a scan put pieces in the places of text nodes, and later passes cut up the plain
ones among these pieces again. Every marker stands in the end in the place of a text node of the
page as it was before the scan, which a pass could reach there, and has a part of its text in it.
-/

namespace PhraseMark

open Marking

namespace Marking

variable {style : MarkStyle} {matcher : Matcher} {text text' part : String}

/-- `part` is a hit in a part of the text, and not empty. -/
def IsHit (matcher : Matcher) (text part : String) : Prop :=
  ∃ (piece : String) (span : Pattern.Span), piece.toList <:+: text.toList ∧
    span ∈ matcher piece ∧ span.isEmpty = false ∧ part.toList = span.slice piece.toList

theorem isHit_of_mem_chosen {span : Pattern.Span} (h : span ∈ chosen style matcher text) :
    IsHit matcher text (.ofList (span.slice text.toList)) := by
  have hfound : span ∈ (matcher text).filter (! ·.isEmpty) := by
    simp only [chosen] at h
    split at h
    · exact h
    · exact List.mem_of_mem_take h
  rw [List.mem_filter, Bool.not_eq_true'] at hfound
  exact ⟨text, span, List.infix_refl _, hfound.1, hfound.2, String.toList_ofList⟩

/-- `part` is a hit of one of the keywords. -/
def HasHit (found : List KeywordMatch) (text part : String) : Prop :=
  ∃ k ∈ found, IsHit k.pattern.spans text part

theorem HasHit.mono {found : List KeywordMatch} (h : HasHit found text part)
    (htext : text.toList <:+: text'.toList) : HasHit found text' part := by
  obtain ⟨k, hk, piece, span, hpiece, hhit⟩ := h
  exact ⟨k, hk, piece, span, hpiece.trans htext, hhit⟩

end Marking

namespace Page

variable {p q r : Page} {body x y t s c : NodeId} {style : MarkStyle} {matcher : Matcher}
  {markerClass text : String} {cuts : List Cut} {place : NodeId → List NodeId}
  {hs : List Highlight} {found : List KeywordMatch}

/-! ## Text nodes that passes reach -/

/-- A text node below `body` with no element between them that a pass avoids. -/
def InReach (p : Page) (body : NodeId) (style : MarkStyle) (t : NodeId) : Prop :=
  (p.node t).isText = true ∧ body ∈ p.lineage t ∧ t ≠ body ∧
    ∀ z, body ∈ p.lineage z → z ≠ body → z ∈ p.lineage t → z ≠ t →
      avoids style (p.node z) = false

theorem avoids_of_goesOn {n : Node} (h : goesOn style matcher n = true) :
    avoids style n = false := by
  cases htext : n.isText with
  | true =>
      apply Bool.eq_false_iff.2
      intro havoids
      have helement := isElement_of_avoids havoids
      rw [Node.isElement_eq_false_of_isText htext] at helement
      cases helement
  | false =>
      rw [goesOn_of_not_isText htext, Bool.not_eq_true'] at h
      exact h

theorem WellFormed.inReach_of_mem_stops (h : p.WellFormed) (hbody : body < p.size)
    (htoken : IsClassToken style.markerClass) (ht : t ∈ p.stops body style matcher) :
    p.InReach body style t := by
  obtain ⟨htext, hunder, hne, hgoes⟩ := (h.mem_stops_iff hbody htoken).1 ht
  exact ⟨htext, hunder, hne, fun z hz hzb hzt hne' => avoids_of_goesOn (hgoes z hz hzb hzt hne')⟩

/-- The parent of a text node in reach is no element that a pass avoids, unless it is `body`. -/
theorem InReach.parent (ht : p.InReach body style t) (h : p.WellFormed) :
    ∃ x, (p.node t).parent = some x ∧ body ∈ p.lineage x ∧
      (x = body ∨ avoids style (p.node x) = false) := by
  obtain ⟨-, hunder, hne, hfree⟩ := ht
  obtain ⟨x, hparent, hx⟩ := h.exists_parent_of_mem_lineage hunder hne
  refine ⟨x, hparent, hx, ?_⟩
  by_cases hxb : x = body
  · exact .inl hxb
  · exact .inr (hfree x hx hxb (h.mem_lineage_of_parent hparent) (h.ne_of_parent hparent).symm)

/-! ## Markers and pieces -/

/-- An element with the class of markers whose one child is a text node with the given text. -/
def Bears (p : Page) (markerClass : String) (s : NodeId) (text : String) : Prop :=
  (p.node s).hasClass markerClass = true ∧
    ∃ c, (p.node s).children = [c] ∧ (p.node c).isText = true ∧ (p.node c).value = text

/-- A text node with a part of a text, or a marker that bears a hit in it. -/
def Shows (p : Page) (markerClass : String) (found : List KeywordMatch) (s : NodeId)
    (text : String) : Prop :=
  (p.node s).isText = true ∧ (p.node s).value.toList <:+: text.toList ∨
    ∃ part : String, p.Bears markerClass s part ∧ HasHit found text part

theorem Bears.lt_size (h : p.Bears markerClass s text) : s < p.size := by
  obtain ⟨-, c, hc, -⟩ := h
  exact lt_of_mem_children (by rw [hc]; exact List.mem_cons_self)

theorem Shows.lt_size (h : p.Shows markerClass found s text) : s < p.size := by
  rcases h with ⟨htext, -⟩ | ⟨part, hbears, -⟩
  · exact lt_of_isText htext
  · exact hbears.lt_size

/-- No pass reaches the text in a marker. -/
theorem Bears.batch (hm : p.Bears style.markerClass s text) (h : p.WellFormed) (hs : s ≠ body)
    (hat : ∀ t ∈ cuts.map (·.target), p.InReach body style t) :
    (p.batch style.markerClass cuts).Bears style.markerClass s text := by
  obtain ⟨hclass, c, hc, htext, hvalue⟩ := hm
  have hmem : c ∈ (p.node s).children := by simp [hc]
  have hparent := (h.mem_children_iff s c).1 hmem
  have hslt := Page.lt_of_mem_children hmem
  have hclt := h.lt_of_mem_children hmem
  have hnot : c ∉ cuts.map (·.target) := by
    intro hcut
    obtain ⟨x, hx, -, hfree⟩ := (hat c hcut).parent h
    cases hparent.symm.trans hx
    have havoids := hfree.resolve_left hs
    rw [avoids, hclass, Bool.or_true] at havoids
    cases havoids
  refine ⟨(hasClass_batch hslt _).trans hclass, c, ?_, ?_, ?_⟩
  · rw [children_batch _ _ hslt, hc, List.flatMap_singleton, place_of_notMem hnot]
  · rw [label_batch (g := Node.isText) (fun _ => rfl) _ _ hclt, htext]
  · rw [label_batch (g := Node.value) (fun _ => rfl) _ _ hclt, hvalue]

theorem Shows.batch (hshows : p.Shows style.markerClass found s text) (h : p.WellFormed)
    (hs : s ≠ body) (hat : ∀ t ∈ cuts.map (·.target), p.InReach body style t) :
    (p.batch style.markerClass cuts).Shows style.markerClass found s text := by
  have hlt := hshows.lt_size
  rcases hshows with ⟨htext, hpart⟩ | ⟨part, hbears, hhit⟩
  · rw [Shows, label_batch (g := Node.isText) (fun _ => rfl) _ _ hlt,
      label_batch (g := Node.value) (fun _ => rfl) _ _ hlt]
    exact .inl ⟨htext, hpart⟩
  · exact .inr ⟨part, hbears.batch h hs hat, hhit⟩

/-! ## New pieces -/

theorem node_batch_of_piece (hids : p.Numbered markerClass cuts) {cut : Cut} (hcut : cut ∈ cuts)
    {b : NodeId × Piece} (hb : b ∈ cut.pieces) {n : Node}
    (hn : n ∈ b.2.nodes markerClass (p.node cut.target).parent b.1) :
    p.size ≤ n.id ∧ (p.batch markerClass cuts).node n.id = n := by
  have hmem : n ∈ p.piecesOf markerClass cuts :=
    List.mem_flatMap.2 ⟨cut, hcut, mem_nodesOf.2 ⟨b, hb, hn⟩⟩
  refine ⟨?_, node_batch_of_mem hids hmem⟩
  have hid := List.mem_map_of_mem (f := (·.id)) hmem
  rw [hids, List.mem_range'_1] at hid
  exact hid.1

theorem bears_of_hit (hids : p.Numbered markerClass cuts) (htoken : IsClassToken markerClass)
    {cut : Cut} (hcut : cut ∈ cuts) (hb : (s, .hit text) ∈ cut.pieces) :
    p.size ≤ s ∧ (p.batch markerClass cuts).Bears markerClass s text := by
  obtain ⟨hle, hspan⟩ := node_batch_of_piece hids hcut hb List.mem_cons_self
  obtain ⟨-, hinner⟩ := node_batch_of_piece hids hcut hb
    (List.mem_cons_of_mem _ List.mem_cons_self)
  simp only at hle hspan hinner
  refine ⟨hle, ?_, s + 1, ?_, ?_, ?_⟩
  · rw [hspan]
    exact hasClass_marker htoken
  · rw [hspan]
  · rw [hinner]
    rfl
  · rw [hinner]
    rfl

theorem shows_of_piece (hids : p.Numbered markerClass cuts) (htoken : IsClassToken markerClass)
    {cut : Cut} (hcut : cut ∈ cuts) {b : NodeId × Piece} (hb : b ∈ cut.pieces)
    (hpart : b.2.text.toList <:+: text.toList)
    (hhit : ∀ part, b.2 = .hit part → HasHit found text part) :
    p.size ≤ b.1 ∧ (p.batch markerClass cuts).Shows markerClass found b.1 text := by
  obtain ⟨s, a⟩ := b
  cases a with
  | plain part =>
      obtain ⟨hle, hnode⟩ := node_batch_of_piece hids hcut hb List.mem_cons_self
      simp only at hle hnode
      refine ⟨hle, .inl ⟨?_, ?_⟩⟩
      · rw [hnode]
        rfl
      · rw [hnode]
        exact hpart
  | hit part =>
      obtain ⟨hle, hbears⟩ := bears_of_hit hids htoken hcut hb
      exact ⟨hle, .inr ⟨part, hbears, hhit part rfl⟩⟩

/-- A new node has no children, or it is a marker in the place of a text node. -/
theorem new_node_cases (hids : p.Numbered markerClass cuts) (htoken : IsClassToken markerClass)
    (hle : p.size ≤ s) (hlt : s < (p.batch markerClass cuts).size) :
    (((p.batch markerClass cuts).node s).children = [] ∧
        ((p.batch markerClass cuts).node s).isElement = false) ∨
      ((p.batch markerClass cuts).node s).hasClass markerClass = true ∧
        ∃ cut ∈ cuts, ((p.batch markerClass cuts).node s).parent = (p.node cut.target).parent := by
  obtain ⟨cut, hcut, ⟨i, a⟩, hb, n, hn, rfl, hnode⟩ := exists_piece_of_le hids hle hlt
  rw [hnode]
  cases a with
  | plain text =>
      rw [Piece.nodes, List.mem_singleton] at hn
      subst hn
      exact .inl ⟨rfl, rfl⟩
  | hit text =>
      simp only [Piece.nodes, List.mem_cons, List.not_mem_nil, or_false] at hn
      rcases hn with rfl | rfl
      · exact .inr ⟨hasClass_marker htoken, cut, hcut, rfl⟩
      · exact .inl ⟨rfl, rfl⟩

/-- Above a node that is still under `body` nothing was cut up. -/
theorem WellFormed.lineage_batch_of_mem (h : p.WellFormed)
    (hq : (p.batch markerClass cuts).WellFormed)
    (hat : ∀ t ∈ cuts.map (·.target), body ∈ p.lineage t ∧ t ≠ body) (hx : x < p.size)
    (hunder : body ∈ (p.batch markerClass cuts).lineage x) :
    (p.batch markerClass cuts).lineage x = p.lineage x := by
  -- what was cut up stands below `body`
  have hself : body < p.size → (p.batch markerClass cuts).lineage body = p.lineage body := by
    intro hbody
    apply h.lineage_batch hq hbody
    intro y hy hmem
    exact (hat y hmem).2 (h.lineage_antisymm hy (hat y hmem).1)
  induction x using h.up_induction with
  | top x hp =>
      have htop := parent_batch h markerClass cuts hx
      rw [hp, ite_self] at htop
      rw [hq.lineage_of_top htop, h.lineage_of_top hp]
  | step x y hp ih =>
      by_cases hxb : x = body
      · rw [hxb]
        exact hself (hxb ▸ hx)
      · have hparent := parent_batch h markerClass cuts hx
        rw [hp] at hparent
        split at hparent
        · rw [hq.lineage_of_top hparent, List.mem_singleton] at hunder
          exact absurd hunder.symm hxb
        · rw [hq.lineage_of_parent hparent] at hunder ⊢
          rw [h.lineage_of_parent hp,
            ih (h.parent_lt hp) ((List.mem_cons.1 hunder).resolve_left (Ne.symm hxb))]

/-- Cuts of text nodes in reach into parts of their texts, at hits of keywords. -/
structure CutsInReach (p : Page) (body : NodeId) (style : MarkStyle) (found : List KeywordMatch)
    (cuts : List Cut) : Prop where
  numbered : p.Numbered style.markerClass cuts
  wellFormed : (p.batch style.markerClass cuts).WellFormed
  inReach : ∀ t ∈ cuts.map (·.target), p.InReach body style t
  parts : ∀ cut ∈ cuts, ∀ b ∈ cut.pieces, b.2.text.toList <:+: (p.node cut.target).value.toList
  hits : ∀ cut ∈ cuts, ∀ b ∈ cut.pieces, ∀ part, b.2 = .hit part →
    HasHit found (p.node cut.target).value part

theorem WellFormed.cutsInReach_plan (h : p.WellFormed) (hbody : body < p.size)
    (htoken : IsClassToken style.markerClass) {k : KeywordMatch} (hk : k ∈ found) :
    p.CutsInReach body style found (plan (cutUp style k.pattern.spans) p.size
      ((p.tree body).textsBelow (goesOn style k.pattern.spans))) := by
  have hcuts := h.cutsAt_plan hbody htoken k.pattern.spans
  -- a piece is one of those that the hits of a text node make
  have hpieces : ∀ cut ∈ plan (cutUp style k.pattern.spans) p.size
      ((p.tree body).textsBelow (goesOn style k.pattern.spans)), ∀ b ∈ cut.pieces,
        b.2 ∈ piecesFrom (p.node cut.target).value.toList 0
          (chosen style k.pattern.spans (p.node cut.target).value) := by
    intro cut hcut b hb
    obtain ⟨n, hn, as, i, has, -, rfl⟩ := exists_of_mem_plan hcut
    obtain ⟨y, rfl, htext, -⟩ := h.mem_textsBelow_tree.1 hn
    have hid : (p.node y).unlinked.id = y := h.id_node y (lt_of_isText htext)
    have hchosen : chosen style k.pattern.spans (p.node y).unlinked.value ≠ [] := by
      intro hnil
      rw [cutUp_of_nil hnil] at has
      cases has
    rw [cutUp_of_ne_nil hchosen, Option.some.injEq] at has
    subst has
    rw [hid]
    exact snd_mem_of_mem_number hb
  refine ⟨hcuts.numbered, hcuts.wellFormed,
    fun t ht => h.inReach_of_mem_stops hbody htoken (hcuts.mem_stops t ht),
    fun cut hcut b hb => infix_of_mem_piecesFrom (hpieces cut hcut b hb), ?_⟩
  intro cut hcut b hb part hpart
  have hhit := hpieces cut hcut b hb
  rw [hpart] at hhit
  rcases mem_piecesFrom hhit with ⟨span, hplain⟩ | ⟨span, hspan, heq⟩
  · cases hplain
  · cases heq
    exact ⟨k, hk, isHit_of_mem_chosen hspan⟩

theorem CutsInReach.le_of_mem_ids (hcuts : p.CutsInReach body style found cuts)
    (htoken : IsClassToken style.markerClass) {cut : Cut} (hcut : cut ∈ cuts)
    (hs : s ∈ cut.ids) : p.size ≤ s := by
  obtain ⟨b, hb, rfl⟩ := List.mem_map.1 hs
  exact (shows_of_piece hcuts.numbered htoken hcut hb (hcuts.parts cut hcut b hb)
    (hcuts.hits cut hcut b hb)).1

theorem CutsInReach.notMem_of_isElement (hcuts : p.CutsInReach body style found cuts)
    (helement : (p.node x).isElement = true) : x ∉ cuts.map (·.target) := by
  intro hmem
  rw [Node.isElement_eq_false_of_isText (hcuts.inReach x hmem).1] at helement
  cases helement

/-! ## Passes in a row -/

/-- What passes under `body` have made of a page: `place` tells what stands in the place of each old
node, and `hs` are the highlights told so far. Only text nodes in reach have other nodes in their
places, which show parts of their texts. -/
structure Parted (p : Page) (body : NodeId) (style : MarkStyle) (found : List KeywordMatch)
    (q : Page) (place : NodeId → List NodeId) (hs : List Highlight) : Prop where
  wellFormed : q.WellFormed
  size_le : p.size ≤ q.size
  unlinked : ∀ x < p.size, (q.node x).unlinked = (p.node x).unlinked
  lineage : ∀ x < p.size, body ∈ q.lineage x → q.lineage x = p.lineage x
  children : ∀ x < p.size, (q.node x).children = (p.node x).children.flatMap place
  place_cases : ∀ c < p.size, place c = [c] ∨ p.InReach body style c ∧ ∀ s ∈ place c, p.size ≤ s
  shows : ∀ c < p.size, ∀ s ∈ place c, p.size ≤ s →
    q.Shows style.markerClass found s (p.node c).value
  closed : ∀ x, p.size ≤ x → (q.node x).children ≠ [] →
    (q.node x).hasClass style.markerClass = true
  parent : ∀ x, p.size ≤ x → x < q.size → (q.node x).isElement = true →
    ∃ y < p.size, (q.node x).parent = some y
  told : ∀ hl ∈ hs, p.size ≤ hl.span ∧ q.Bears style.markerClass hl.span hl.text

theorem Parted.init (h : p.WellFormed) (body : NodeId) (style : MarkStyle)
    (found : List KeywordMatch) : Parted p body style found p (fun c => [c]) [] where
  wellFormed := h
  size_le := Nat.le_refl _
  unlinked := fun _ _ => rfl
  lineage := fun _ _ _ => rfl
  children := fun x _ => (List.flatMap_singleton' _).symm
  place_cases := fun _ _ => .inl rfl
  shows := by
    intro c hc s hs hle
    rw [List.mem_singleton.1 hs] at hle
    exact absurd hc (Nat.not_lt.2 hle)
  closed := fun x hle hne => absurd (children_of_le hle) hne
  parent := fun _ hle hlt => absurd hlt (Nat.not_lt.2 hle)
  told := fun _ hmem => absurd hmem List.not_mem_nil

namespace Parted

variable (hparted : Parted p body style found q place hs)

include hparted

/-- What an old node carries besides its links is what it carried before. -/
theorem label {α : Type} {g : Node → α} (hg : ∀ n, g n.unlinked = g n) (hx : x < p.size) :
    g (q.node x) = g (p.node x) := by
  rw [← hg (q.node x), hparted.unlinked x hx, hg]

/-- A text that stands in the place of an old node has a part of its value. -/
theorem infix_of_mem_place (hc : c < p.size) (ht : t ∈ place c)
    (htext : (q.node t).isText = true) : (q.node t).value.toList <:+: (p.node c).value.toList := by
  rcases hparted.place_cases c hc with hsame | ⟨-, hnew⟩
  · rw [hsame, List.mem_singleton] at ht
    rw [ht, hparted.label (g := Node.value) (fun _ => rfl) hc]
  · rcases hparted.shows c hc t ht (hnew t ht) with ⟨-, hpart⟩ | ⟨part, ⟨hclass, -⟩, -⟩
    · exact hpart
    · have helement := Node.isElement_of_hasClass hclass
      rw [Node.isElement_eq_false_of_isText htext] at helement
      cases helement

/-- The parent of a text node in reach is an old node, since it is no marker. -/
theorem exists_parent_lt (hbody : body < p.size) (ht : q.InReach body style t) :
    ∃ y < p.size, (q.node t).parent = some y := by
  obtain ⟨y, hparent, -, hfree⟩ := ht.parent hparted.wellFormed
  refine ⟨y, ?_, hparent⟩
  by_contra hle
  have hmem := (hparted.wellFormed.mem_children_iff y t).2 hparent
  have hclass := hparted.closed y (Nat.not_lt.1 hle) (List.ne_nil_of_mem hmem)
  rcases hfree with rfl | havoids
  · exact hle hbody
  · rw [avoids, hclass, Bool.or_true] at havoids
    cases havoids

variable (h : p.WellFormed)

include h

/-- A text node that is old and in reach was in reach before. -/
theorem inReach_of_lt (hbody : body < p.size) (ht : q.InReach body style t) (hlt : t < p.size) :
    p.InReach body style t := by
  obtain ⟨htext, hunder, hne, hfree⟩ := ht
  have hlineage := hparted.lineage t hlt hunder
  refine ⟨(hparted.label (fun _ => rfl) hlt).symm.trans htext, hlineage ▸ hunder, hne, ?_⟩
  intro z hz hzb hzt hzne
  have hzq : z ∈ q.lineage t := hlineage.symm ▸ hzt
  rw [← hparted.label (g := avoids style) (fun _ => rfl) (h.lineage_lt hlt hzt)]
  refine hfree z ?_ hzb hzq hzne
  rcases hparted.wellFormed.lineage_total hunder hzq with hbz | hzbody
  · exact hbz
  · -- what was above `body` is still above it
    rw [hparted.lineage body hbody (hparted.wellFormed.mem_lineage_self body)] at hzbody
    exact absurd (h.lineage_antisymm hzbody hz) hzb

/-- A new element stands in the place of a text node that was in reach, and bears a hit in its
text. -/
theorem exists_origin (hle : p.size ≤ s) (hlt : s < q.size)
    (helement : (q.node s).isElement = true) :
    ∃ t, p.InReach body style t ∧ s ∈ place t ∧
      ∃ part : String, q.Bears style.markerClass s part ∧
        HasHit found (p.node t).value part := by
  obtain ⟨y, hy, hparent⟩ := hparted.parent s hle hlt helement
  have hmem := (hparted.wellFormed.mem_children_iff y s).2 hparent
  rw [hparted.children y hy] at hmem
  obtain ⟨t, ht, hst⟩ := List.mem_flatMap.1 hmem
  have htlt := h.lt_of_mem_children ht
  rcases hparted.place_cases t htlt with hsame | ⟨hreach, -⟩
  · rw [hsame, List.mem_singleton] at hst
    exact absurd (hst ▸ htlt) (Nat.not_lt.2 hle)
  · rcases hparted.shows t htlt s hst hle with ⟨htext, -⟩ | hbears
    · rw [Node.isElement_eq_false_of_isText htext] at helement
      cases helement
    · exact ⟨t, hreach, hst, hbears⟩

variable (hbody : body < p.size) (htoken : IsClassToken style.markerClass)
  (hcuts : q.CutsInReach body style found cuts)

include hbody htoken hcuts

theorem place_cases_batch (hc : c < p.size) :
    (place c).flatMap (Marking.place cuts) = [c] ∨
      p.InReach body style c ∧ ∀ s ∈ (place c).flatMap (Marking.place cuts), p.size ≤ s := by
  rcases hparted.place_cases c hc with hsame | ⟨hreach, hnew⟩
  · rw [hsame, List.flatMap_singleton]
    by_cases hcut : c ∈ cuts.map (·.target)
    · refine .inr ⟨hparted.inReach_of_lt h hbody (hcuts.inReach c hcut) hc, fun s hs => ?_⟩
      rcases mem_place hs with ⟨hnot, -⟩ | ⟨cut, hmem, -, hs⟩
      · exact absurd hcut hnot
      · exact Nat.le_trans hparted.size_le (hcuts.le_of_mem_ids htoken hmem hs)
    · exact .inl (place_of_notMem hcut)
  · refine .inr ⟨hreach, fun s' hs' => ?_⟩
    obtain ⟨s, hs, hs'⟩ := List.mem_flatMap.1 hs'
    rcases mem_place hs' with ⟨-, rfl⟩ | ⟨cut, hmem, -, hs'⟩
    · exact hnew s' hs
    · exact Nat.le_trans hparted.size_le (hcuts.le_of_mem_ids htoken hmem hs')

omit h in
theorem shows_batch (hc : c < p.size) (hs : s ∈ (place c).flatMap (Marking.place cuts))
    (hle : p.size ≤ s) :
    (q.batch style.markerClass cuts).Shows style.markerClass found s (p.node c).value := by
  obtain ⟨t, ht, hst⟩ := List.mem_flatMap.1 hs
  rcases mem_place hst with ⟨-, rfl⟩ | ⟨cut, hcut, rfl, hids⟩
  · have hne : s ≠ body := fun heq => Nat.not_lt.2 hle (heq ▸ hbody)
    exact (hparted.shows c hc s ht hle).batch hparted.wellFormed hne hcuts.inReach
  · -- a piece of a piece is a part of a part
    obtain ⟨b, hb, rfl⟩ := List.mem_map.1 hids
    have htext := (hcuts.inReach cut.target (List.mem_map_of_mem hcut)).1
    have hpart := hparted.infix_of_mem_place hc ht htext
    exact (shows_of_piece hcuts.numbered htoken hcut hb ((hcuts.parts cut hcut b hb).trans hpart)
      (fun part hhit => (hcuts.hits cut hcut b hb part hhit).mono hpart)).2

omit h hbody in
theorem closed_batch (hle : p.size ≤ x)
    (hchildren : ((q.batch style.markerClass cuts).node x).children ≠ []) :
    ((q.batch style.markerClass cuts).node x).hasClass style.markerClass = true := by
  by_cases hx : x < q.size
  · rw [hasClass_batch hx]
    apply hparted.closed x hle
    intro hnil
    rw [children_batch _ _ hx, hnil] at hchildren
    exact hchildren rfl
  · obtain ⟨c, hc⟩ := List.exists_mem_of_ne_nil _ hchildren
    rcases new_node_cases hcuts.numbered htoken (Nat.not_lt.1 hx) (lt_of_mem_children hc) with
      ⟨hnil, -⟩ | ⟨hclass, -⟩
    · exact absurd hnil hchildren
    · exact hclass

omit h in
theorem exists_parent_batch (hle : p.size ≤ x) (hlt : x < (q.batch style.markerClass cuts).size)
    (helement : ((q.batch style.markerClass cuts).node x).isElement = true) :
    ∃ y < p.size, ((q.batch style.markerClass cuts).node x).parent = some y := by
  by_cases hx : x < q.size
  · rw [label_batch (g := Node.isElement) (fun _ => rfl) _ _ hx] at helement
    rw [Page.parent_batch hparted.wellFormed _ _ hx,
      if_neg (hcuts.notMem_of_isElement helement)]
    exact hparted.parent x hle hx helement
  · rcases new_node_cases hcuts.numbered htoken (Nat.not_lt.1 hx) hlt with
      ⟨-, hfalse⟩ | ⟨-, cut, hcut, hparent⟩
    · rw [hfalse] at helement
      cases helement
    · rw [hparent]
      exact hparted.exists_parent_lt hbody
        (hcuts.inReach cut.target (List.mem_map_of_mem hcut))

omit h in
theorem told_batch {hl : Highlight} (hmem : hl ∈ hs ++ highlightsOfCuts cuts) :
    p.size ≤ hl.span ∧
      (q.batch style.markerClass cuts).Bears style.markerClass hl.span hl.text := by
  rcases List.mem_append.1 hmem with hmem | hmem
  · obtain ⟨hle, hbears⟩ := hparted.told hl hmem
    have hne : hl.span ≠ body := fun heq => Nat.not_lt.2 hle (heq ▸ hbody)
    exact ⟨hle, hbears.batch hparted.wellFormed hne hcuts.inReach⟩
  · obtain ⟨cut, hcut, hb⟩ := mem_highlightsOfCuts.1 hmem
    obtain ⟨hle, hbears⟩ := bears_of_hit hcuts.numbered htoken hcut hb
    exact ⟨Nat.le_trans hparted.size_le hle, hbears⟩

/-- One more pass puts pieces in the places of text nodes that were old or pieces themselves. -/
theorem batch :
    Parted p body style found (q.batch style.markerClass cuts)
      (fun c => (place c).flatMap (Marking.place cuts)) (hs ++ highlightsOfCuts cuts) where
  wellFormed := hcuts.wellFormed
  size_le := by
    rw [size_batch]
    exact Nat.le_trans hparted.size_le (Nat.le_add_right _ _)
  unlinked := by
    intro x hx
    rw [unlinked_batch _ _ (Nat.lt_of_lt_of_le hx hparted.size_le), hparted.unlinked x hx]
  lineage := by
    intro x hx hunder
    have hkept := hparted.wellFormed.lineage_batch_of_mem hcuts.wellFormed
      (fun t ht => ⟨(hcuts.inReach t ht).2.1, (hcuts.inReach t ht).2.2.1⟩)
      (Nat.lt_of_lt_of_le hx hparted.size_le) hunder
    rw [hkept] at hunder ⊢
    exact hparted.lineage x hx hunder
  children := by
    intro x hx
    rw [children_batch _ _ (Nat.lt_of_lt_of_le hx hparted.size_le), hparted.children x hx,
      List.flatMap_assoc]
  place_cases := fun _ hc => hparted.place_cases_batch h hbody htoken hcuts hc
  shows := fun _ hc _ hs hle => hparted.shows_batch hbody htoken hcuts hc hs hle
  closed := fun _ hle hchildren => hparted.closed_batch htoken hcuts hle hchildren
  parent := fun _ hle hlt helement =>
    hparted.exists_parent_batch hbody htoken hcuts hle hlt helement
  told := fun _ hmem => hparted.told_batch hbody htoken hcuts hmem

omit hcuts in
theorem mark {k : KeywordMatch} (hk : k ∈ found) :
    ∃ place', Parted p body style found (q.mark body style k.pattern.spans).page place'
      (hs ++ (q.mark body style k.pattern.spans).told) := by
  have hq := hparted.wellFormed
  have hbq : body < q.size := Nat.lt_of_lt_of_le hbody hparted.size_le
  have hdone := hq.mark_completes hbq htoken k.pattern.spans
  have htold : (q.mark body style k.pattern.spans).told =
      (q.mark body style k.pattern.spans).highlights := by
    apply Pass.told_of_not_failed
    intro e he
    rw [hdone.ending] at he
    cases he
  rw [htold, hdone.page, hdone.highlights]
  exact ⟨_, hparted.batch h hbody htoken (hq.cutsInReach_plan hbq htoken hk)⟩

omit hcuts in
theorem passes {ks : List KeywordMatch} (hks : ks ⊆ found) :
    ∃ place', Parted p body style found (pageAfter body style q ks) place'
      (hs ++ (passes body style q ks).flatMap (·.told)) := by
  induction ks generalizing q place hs with
  | nil =>
      rw [Page.passes, List.flatMap_nil, List.append_nil]
      exact ⟨place, hparted⟩
  | cons k ks ih =>
      obtain ⟨hk, hrest⟩ := List.cons_subset.1 hks
      obtain ⟨place', hmarked⟩ := hparted.mark h hbody htoken hk
      have hlast := ih hmarked hrest
      rw [List.append_assoc] at hlast
      exact hlast

end Parted

/-! ## Hidden elements -/

/-- A hidden element stands between the node and `body`. -/
def Enclosed (p : Page) (body x : NodeId) : Prop :=
  ∃ z, body ∈ p.lineage z ∧ z ≠ body ∧ z ∈ p.lineage x ∧ z ≠ x ∧
    (p.node z).isElement = true ∧ (p.node z).isHidden = true

theorem Enclosed.not_isRead (hx : p.Enclosed body x) (h : p.WellFormed) : ¬ p.IsRead body x := by
  obtain ⟨z, hz, hne, hzx, hzne, helement, hhidden⟩ := hx
  rintro ⟨-, hall⟩
  have hbelow := hall z hz hzx hzne
  obtain ⟨y, hparent, -⟩ := h.exists_parent_of_mem_lineage hzx hzne.symm
  have hid : (p.node z).id = z := h.id_node z (h.lineage_lt (lt_of_parent hparent) hzx)
  rw [Node.isElement, beq_iff_eq] at helement
  simp [readsBelow, helement, hid, hne, hhidden] at hbelow

theorem isMatch_of_mem_found {config : ScanConfig} {ks : List String} {k : KeywordMatch}
    (h : k ∈ (scanText config text ks).found) : k.pattern.isMatch text = true := by
  have hmem : k.keyword ∈ foundKeywords config text ks :=
    keywords_scanText config text ks ▸ List.mem_map_of_mem h
  rw [foundKeywords, List.mem_filter, decide_eq_true_iff, verdict,
    compileKeyword_of_mem_found h] at hmem
  by_contra hnot
  simp [hnot] at hmem

/-- A snapshot that loads becomes a page whose visibility can be resolved: a node is visible if it
and all nodes above it, up to the root, pass the style check. What stands in a hidden element below
the body has no part in the visible text. Let a scan of the page succeed. It has found the keywords
whose patterns have a hit in the visible text, and `place` tells what stands in the place of each
node in the end: the node itself, or new nodes if it is a text node in reach. A new element is a
marker in the place of such a text node and bears a hit, of a keyword that was found, in a part of
its text. -/
theorem markers_from_text {maxDepth : Nat} {snapshot : Json} {top : NodeId} {loaded : Page}
    (hload : p.load maxDepth snapshot = (loaded, .ok top)) :
    ∃ q, loaded.resolveVisibility = .ok q ∧
      (∀ x < q.size, 0 ∈ q.lineage x → (q.node x).visible = some (loaded.shownUpTo 0 x)) ∧
      (∀ body, q.body? = some body → ∀ edits : List (NodeId × String),
        (∀ edit ∈ edits, q.Enclosed body edit.1) →
          (q.setValues edits).visibleText body = q.visibleText body) ∧
      ∀ (scanId : String) (source : Source) (config : ScanConfig),
        IsClassToken config.markerClass → ∀ report,
        (q.scan scanId source config).outcome = .ok report →
        ∃ (body : NodeId) (text : String) (found : List KeywordMatch)
          (place : NodeId → List NodeId), q.body? = some body ∧ q.visibleText body = .ok text ∧
          report.matched = found.map KeywordMatch.keyword ∧
          (∀ k ∈ found, (compileKeyword config k.keyword).2 = .ok k.pattern ∧
            k.pattern.isMatch (Text.lowercase text) = true) ∧
          (∀ x < q.size, ((q.scan scanId source config).page.node x).children =
            (q.node x).children.flatMap place) ∧
          (∀ t < q.size, place t = [t] ∨
            q.InReach body config.markStyle t ∧ ∀ s ∈ place t, q.size ≤ s) ∧
          (∀ s, q.size ≤ s → s < (q.scan scanId source config).page.size →
            ((q.scan scanId source config).page.node s).isElement = true →
            ∃ t part, q.InReach body config.markStyle t ∧ s ∈ place t ∧
              (q.scan scanId source config).page.Bears config.markerClass s part ∧
              ∃ k ∈ found, IsHit k.pattern.spans (q.node t).value part) ∧
          ∀ hl ∈ report.highlights, q.size ≤ hl.span ∧
            (q.scan scanId source config).page.Bears config.markerClass hl.span hl.text := by
  obtain ⟨h, hroot, q, hq, hpainted⟩ := resolved_of_load hload
  have hredrawn := hpainted.redrawn
  have hwf := hredrawn.wellFormed h
  refine ⟨q, hq, ?_, ?_, ?_⟩
  · intro x hx hunder
    rw [hredrawn.lineage h] at hunder
    rw [hpainted.inside x (hpainted.size ▸ hx) hunder]
  · intro body hbody edits hedits
    exact hwf.visibleText_of_not_isRead (hwf.body?_some hbody).1
      (fun edit hedit => (hedits edit hedit).not_isRead hwf)
  · intro scanId source config htoken report hreport
    obtain ⟨ks, body, text, found, -, hbody, htext, hfound, hpage, hmatched, hhighlights⟩ :=
      scan_told hreport
    have hlt := (hwf.body?_some hbody).1
    obtain ⟨place, hparted⟩ := (Parted.init hwf body config.markStyle found).passes hwf hlt htoken
      (List.Subset.refl found)
    rw [List.nil_append] at hparted
    rw [hpage]
    refine ⟨body, text, found, place, hbody, htext, hmatched, ?_, hparted.children,
      hparted.place_cases, ?_, ?_⟩
    · intro k hk
      rw [hfound] at hk
      exact ⟨compileKeyword_of_mem_found hk, isMatch_of_mem_found hk⟩
    · intro s hle hs helement
      obtain ⟨t, ht, hst, part, hbears, hhit⟩ := hparted.exists_origin hwf hle hs helement
      exact ⟨t, part, ht, hst, hbears, hhit⟩
    · intro hl hmem
      rw [hhighlights] at hmem
      obtain ⟨hl, htold, rfl⟩ := List.mem_map.1 hmem
      exact hparted.told hl htold

/-! ## Hidden text that is marked -/

/-- An element, hidden by its own attribute or not. -/
def elementJson (name : String) (hidden : Bool) (children : List Json) : Json :=
  .object [("backendNodeId", .natural 2), ("nodeType", .natural 1), ("nodeName", .string name),
    ("attributes", .array (if hidden then [.string "hidden", .string ""] else [])),
    ("children", .array children)]

/-- A text node that tells to act now. -/
def noticeJson : Json :=
  .object [("backendNodeId", .natural 3), ("nodeType", .natural 3),
    ("nodeValue", .string "act now")]

def documentJson (child : Json) : Json :=
  .object [("root", .object [("backendNodeId", .natural 1), ("nodeType", .natural 9),
    ("children", .array [child])])]

/-- A hidden body with a notice in it. -/
def hushedSnapshot : Json := documentJson (elementJson "BODY" true [noticeJson])

/-- A body with a notice in it, and with a hidden division that has one too. -/
def echoSnapshot : Json :=
  documentJson (elementJson "BODY" false [noticeJson, elementJson "DIV" true [noticeJson]])

/-- The page of a snapshot with its visibility resolved. -/
def resolvedPage (snapshot : Json) : Page :=
  match (empty.load 4 snapshot).1.resolveVisibility with
  | .ok q => q
  | .error _ => empty

theorem resolvedPage_of_load {snapshot : Json} {top : NodeId}
    (hload : (empty.load 4 snapshot).2 = .ok top) :
    (empty.load 4 snapshot).1.resolveVisibility = .ok (resolvedPage snapshot) ∧
      (resolvedPage snapshot).WellFormed := by
  obtain ⟨h, -, q, hq, hpainted⟩ := resolved_of_load (Prod.ext rfl hload)
  have hpage : resolvedPage snapshot = q := by rw [resolvedPage, hq]
  rw [hpage]
  exact ⟨hq, hpainted.redrawn.wellFormed h⟩

theorem load_hushedSnapshot : (empty.load 4 hushedSnapshot).2 = .ok 0 := by decide

theorem load_echoSnapshot : (empty.load 4 echoSnapshot).2 = .ok 0 := by decide

/-- The cuts of a pass over a page on which all text in reach tells to act now. -/
def noticeCuts (p : Page) (body : NodeId) : List Cut :=
  plan (fun _ => some [.hit "act now"]) p.size (p.markable body ({} : ScanConfig).markStyle)

theorem mark_notices (h : p.WellFormed) (hchildless : p.TextsChildless) (hbody : body < p.size)
    (hall : ∀ n ∈ p.markable body ({} : ScanConfig).markStyle, n.value = "act now")
    (hfinds : Finds "act now".toList matcher) :
    (p.mark body ({} : ScanConfig).markStyle matcher).page =
        p.batch defaultMarkerClass (noticeCuts p body) ∧
      (p.mark body ({} : ScanConfig).markStyle matcher).ending = .finished ∧
      (p.mark body ({} : ScanConfig).markStyle matcher).told =
        highlightsOfCuts (noticeCuts p body) := by
  have hdone := h.mark_completes_markable hchildless hbody
    isClassToken_default.markStyle matcher
  have hcuts : plan (cutUp ({} : ScanConfig).markStyle matcher) p.size
      (p.markable body ({} : ScanConfig).markStyle) = noticeCuts p body := by
    apply plan_congr
    intro n hn
    have hchosen := hfinds.chosen_self ({} : ScanConfig).markStyle (String.toList_inj.2 rfl)
    rw [cutUp, hall n hn, hchosen]
    decide
  rw [hcuts] at hdone
  refine ⟨hdone.page, hdone.ending, ?_⟩
  rw [Pass.told_of_not_failed, hdone.highlights]
  intro e he
  rw [hdone.ending] at he
  cases he

theorem scan_notices {text : String} (h : p.WellFormed) (hchildless : p.TextsChildless)
    (hbody : p.body? = some body) (htext : p.visibleText body = .ok text)
    (hoccurs : Text.Occurs "act now" (Text.lowercase text))
    (hall : ∀ n ∈ p.markable body ({} : ScanConfig).markStyle, n.value = "act now") :
    ∃ report, (p.scan "" (Source.ofList ["act now"]) {}).outcome = .ok report ∧
      report.matched = ["act now"] ∧
      (p.scan "" (Source.ofList ["act now"]) {}).page =
        p.batch defaultMarkerClass (noticeCuts p body) ∧
      report.highlights.map (·.span) = (highlightsOfCuts (noticeCuts p body)).map (·.span) := by
  have hlt := (h.body?_some hbody).1
  have hends : ∀ matcher, Finds "act now".toList matcher →
      (p.mark body ({} : ScanConfig).markStyle matcher).ending ≠ .unfinished := by
    intro matcher hfinds
    rw [(mark_notices h hchildless hlt hall hfinds).2.1]
    exact Ending.noConfusion
  obtain ⟨report, matcher, hfinds, houtcome, hmatched, hpage, hspans⟩ :=
    @scan_single p body {} text "act now" rfl (Nat.le_refl 500) hbody htext (by decide)
      hoccurs hends ""
  obtain ⟨hmarked, -, htold⟩ := mark_notices h hchildless hlt hall hfinds
  rw [hmarked] at hpage
  rw [htold] at hspans
  exact ⟨report, houtcome, hmatched, hpage, hspans⟩

theorem scan_hushedPage :
    ∃ report, ((resolvedPage hushedSnapshot).scan "" (Source.ofList ["act now"]) {}).outcome =
        .ok report ∧
      report.matched = ["act now"] ∧
      ((resolvedPage hushedSnapshot).scan "" (Source.ofList ["act now"]) {}).page =
        (resolvedPage hushedSnapshot).batch defaultMarkerClass [⟨2, [(3, .hit "act now")]⟩] ∧
      report.highlights.map (·.span) = [3] := by
  obtain ⟨-, hwf⟩ := resolvedPage_of_load load_hushedSnapshot
  have hcuts : noticeCuts (resolvedPage hushedSnapshot) 1 = [⟨2, [(3, .hit "act now")]⟩] := by
    decide +kernel
  have hscan := @scan_notices _ 1 "act now" hwf (textsChildless_iff.2 (by decide +kernel))
    (by decide +kernel) (by decide +kernel)
    ((Text.occurs_lowercase_iff_undotted (List.infix_refl _)).2 (by decide)) (by decide +kernel)
  rw [hcuts] at hscan
  exact hscan

theorem scan_echoPage :
    ∃ report, ((resolvedPage echoSnapshot).scan "" (Source.ofList ["act now"]) {}).outcome =
        .ok report ∧
      report.matched = ["act now"] ∧
      ((resolvedPage echoSnapshot).scan "" (Source.ofList ["act now"]) {}).page =
        (resolvedPage echoSnapshot).batch defaultMarkerClass
          [⟨2, [(5, .hit "act now")]⟩, ⟨4, [(7, .hit "act now")]⟩] ∧
      report.highlights.map (·.span) = [5, 7] := by
  obtain ⟨-, hwf⟩ := resolvedPage_of_load load_echoSnapshot
  have hcuts : noticeCuts (resolvedPage echoSnapshot) 1 =
      [⟨2, [(5, .hit "act now")]⟩, ⟨4, [(7, .hit "act now")]⟩] := by
    decide +kernel
  have hscan := @scan_notices _ 1 "act now" hwf (textsChildless_iff.2 (by decide +kernel))
    (by decide +kernel) (by decide +kernel)
    ((Text.occurs_lowercase_iff_undotted (List.infix_refl _)).2 (by decide)) (by decide +kernel)
  rw [hcuts] at hscan
  exact hscan

theorem markers_from_text_echoPage :
    ∃ t part, (resolvedPage echoSnapshot).InReach 1 ({} : ScanConfig).markStyle t ∧
      ((resolvedPage echoSnapshot).scan "" (Source.ofList ["act now"]) {}).page.Bears
        defaultMarkerClass 5 part ∧
      ∃ matcher, IsHit matcher ((resolvedPage echoSnapshot).node t).value part := by
  obtain ⟨hresolved, -⟩ := resolvedPage_of_load load_echoSnapshot
  obtain ⟨report, houtcome, -, hpage, -⟩ := scan_echoPage
  obtain ⟨q, hq, -, -, hscans⟩ := markers_from_text (Prod.ext rfl load_echoSnapshot)
  cases hresolved.symm.trans hq
  obtain ⟨body, text, found, place, hbody, -, -, -, -, -, horigin, -⟩ :=
    hscans "" (Source.ofList ["act now"]) {} isClassToken_default report houtcome
  cases hbody.symm.trans (by decide +kernel : (resolvedPage echoSnapshot).body? = some 1)
  obtain ⟨t, part, ht, -, hbears, k, -, hhit⟩ := horigin 5 (by decide +kernel)
    (by rw [hpage]; decide +kernel) (by rw [hpage]; decide +kernel)
  exact ⟨t, part, ht, hbears, k.pattern.spans, hhit⟩

/-- On the first page the body is hidden, and on the second one a division in the body is. The
texts in them are not visible, and a scan puts markers in their places. -/
theorem hidden_text_marked :
    IsClassToken ({} : ScanConfig).markerClass ∧
    ((empty.load 4 hushedSnapshot).2 = .ok 0 ∧
      (empty.load 4 hushedSnapshot).1.resolveVisibility = .ok (resolvedPage hushedSnapshot) ∧
      ((resolvedPage hushedSnapshot).node 1).isHidden = true ∧
      ((resolvedPage hushedSnapshot).node 1).children = [2] ∧
      ((resolvedPage hushedSnapshot).node 2).isText = true ∧
      ((resolvedPage hushedSnapshot).node 2).visible = some false ∧
      ∃ report, ((resolvedPage hushedSnapshot).scan "" (Source.ofList ["act now"]) {}).outcome =
          .ok report ∧
        report.matched = ["act now"] ∧ report.highlights.map (·.span) = [3] ∧
        (((resolvedPage hushedSnapshot).scan "" (Source.ofList ["act now"])
          {}).page.node 1).children = [3]) ∧
    (empty.load 4 echoSnapshot).2 = .ok 0 ∧
      (empty.load 4 echoSnapshot).1.resolveVisibility = .ok (resolvedPage echoSnapshot) ∧
      ((resolvedPage echoSnapshot).node 3).isHidden = true ∧
      ((resolvedPage echoSnapshot).node 3).children = [4] ∧
      ((resolvedPage echoSnapshot).node 4).isText = true ∧
      ((resolvedPage echoSnapshot).node 4).visible = some false ∧
      ∃ report, ((resolvedPage echoSnapshot).scan "" (Source.ofList ["act now"]) {}).outcome =
          .ok report ∧
        report.matched = ["act now"] ∧ report.highlights.map (·.span) = [5, 7] ∧
        (((resolvedPage echoSnapshot).scan "" (Source.ofList ["act now"])
          {}).page.node 3).children = [7] := by
  refine ⟨isClassToken_default, ⟨load_hushedSnapshot, (resolvedPage_of_load load_hushedSnapshot).1,
    by decide +kernel, by decide +kernel, by decide +kernel, by decide +kernel, ?_⟩,
    load_echoSnapshot, (resolvedPage_of_load load_echoSnapshot).1, by decide +kernel,
    by decide +kernel, by decide +kernel, by decide +kernel, ?_⟩
  · obtain ⟨report, houtcome, hmatched, hpage, hspans⟩ := scan_hushedPage
    refine ⟨report, houtcome, hmatched, hspans, ?_⟩
    rw [hpage]
    decide +kernel
  · obtain ⟨report, houtcome, hmatched, hpage, hspans⟩ := scan_echoPage
    refine ⟨report, houtcome, hmatched, hspans, ?_⟩
    rw [hpage]
    decide +kernel

end Page

end PhraseMark
