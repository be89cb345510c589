import PhraseMark.Proofs.Page.Reading
import PhraseMark.Proofs.Pattern.Hits
import PhraseMark.Proofs.Scan.Outcome
import PhraseMark.Proofs.Scan.Rewriting

/-!
# Readings across passes

A reading that takes texts in piece by piece, and that takes nothing from a marker itself, does not
see the seams at which a pass cuts up text nodes.
-/

namespace PhraseMark

namespace Tree

variable {σ α : Type} {turn : Node → σ → Turn σ} {inside : Node → σ → Prop}

/-- A condition on the state that holds while the children of a node are read. -/
structure Carried (turn : Node → σ → Turn σ) (inside : Node → σ → Prop) : Prop where
  enter : ∀ {n s s' leave}, turn n s = .enter s' leave → inside n s'
  read : ∀ {n s} (t : Tree), inside n s → inside n (t.read turn s)

theorem carried_true (turn : Node → σ → Turn σ) : Carried turn (fun _ _ => True) where
  enter := fun _ => trivial
  read := fun _ _ => trivial

/-- Trees that read like one tree can take its place under a node. -/
theorem Carried.readAll_flatMap (hinside : Carried turn inside) {n : Node} {f : α → List Tree}
    {g : α → Tree} {cs : List α}
    (h : ∀ c ∈ cs, ∀ s, inside n s → readAll turn (f c) s = (g c).read turn s) {s : σ}
    (hs : inside n s) : readAll turn (cs.flatMap f) s = readAll turn (cs.map g) s := by
  induction cs generalizing s with
  | nil => rfl
  | cons c cs ih =>
      rw [List.flatMap_cons, readAll_append, h c List.mem_cons_self s hs, List.map_cons,
        readAll_cons]
      apply ih
      · intro d hd
        exact h d (List.mem_cons_of_mem c hd)
      · exact hinside.read (g c) hs

end Tree

namespace Page

open Marking

variable {p : Page} {markerClass : String} {cuts : List Cut} {root x : NodeId} {σ : Type}
  {turn : Node → σ → Turn σ} {inside : Node → σ → Prop}

/-- In the state in which it is read, each text node that is cut reads like its pieces. -/
def CutsRead (p : Page) (markerClass : String) (cuts : List Cut) (turn : Node → σ → Turn σ)
    (inside : Node → σ → Prop) : Prop :=
  ∀ cut ∈ cuts, ∀ x, (p.node cut.target).parent = some x → ∀ s, inside (p.node x).unlinked s →
    Tree.readAll turn (cut.pieces.map (fun b => b.2.tree markerClass b.1)) s =
      (p.tree cut.target).read turn s

theorem WellFormed.read_place (hq : (p.batch markerClass cuts).WellFormed)
    (hids : p.Numbered markerClass cuts) (hcuts : p.CutsRead markerClass cuts turn inside)
    {c : NodeId} (hparent : (p.node c).parent = some x) {s : σ}
    (hsame : ((p.batch markerClass cuts).tree c).read turn s = (p.tree c).read turn s)
    (hs : inside (p.node x).unlinked s) :
    Tree.readAll turn ((place cuts c).map (p.batch markerClass cuts).tree) s =
      (p.tree c).read turn s := by
  rw [place]
  cases hfind : cuts.find? (fun cut => cut.target == c) with
  | none => exact hsame
  | some cut =>
      have hcut := List.mem_of_find?_eq_some hfind
      have htarget : cut.target = c := by simpa using List.find?_some hfind
      have htrees : cut.ids.map (p.batch markerClass cuts).tree =
          cut.pieces.map (fun b => b.2.tree markerClass b.1) := by
        rw [Cut.ids, List.map_map]
        exact List.map_congr_left (fun b hb => hq.tree_piece hids hcut hb)
      rw [← htarget] at hparent ⊢
      exact (congrArg (Tree.readAll turn · s) htrees).trans (hcuts cut hcut x hparent s hs)

theorem WellFormed.read_batch (h : p.WellFormed) (hq : (p.batch markerClass cuts).WellFormed)
    (hids : p.Numbered markerClass cuts) (hinside : Tree.Carried turn inside)
    (hcuts : p.CutsRead markerClass cuts turn inside) (hx : x < p.size) (s : σ) :
    ((p.batch markerClass cuts).tree x).read turn s = (p.tree x).read turn s := by
  induction x using h.down_induction generalizing s with
  | step x ih =>
      rw [hq.tree_eq, h.tree_eq, unlinked_batch _ _ hx, children_batch _ _ hx, List.map_flatMap,
        Tree.read_node, Tree.read_node]
      cases hturn : turn (p.node x).unlinked s with
      | stop s' => rfl
      | pass s' => rfl
      | enter s' leave =>
          apply congrArg leave
          apply hinside.readAll_flatMap ?_ (hinside.enter hturn)
          intro c hc s hs
          have hparent := (h.mem_children_iff x c).1 hc
          exact hq.read_place hids hcuts hparent (ih c hc (h.lt_of_mem_children hc) s) hs

end Page

namespace Marking

variable {σ : Type} {turn : Node → σ → Turn σ} {plain : σ → Prop} {write : σ → List Char → σ}
  {markerClass : String} {next : NodeId}

/-- In a plain state a reading takes from a piece the characters of its text, and it does not
matter how characters are parted. -/
structure Seamless (turn : Node → σ → Turn σ) (plain : σ → Prop) (write : σ → List Char → σ)
    (markerClass : String) (next : NodeId) : Prop where
  write_nil : ∀ s, write s [] = s
  write_append : ∀ s cs ds, write s (cs ++ ds) = write (write s cs) ds
  plain_write : ∀ {s} cs, plain s → plain (write s cs)
  piece : ∀ {i s} (a : Piece), next ≤ i → plain s →
    (a.tree markerClass i).read turn s = write s a.text.toList

theorem Seamless.mono (hseam : Seamless turn plain write markerClass next) {next' : NodeId}
    (hle : next ≤ next') : Seamless turn plain write markerClass next' where
  write_nil := hseam.write_nil
  write_append := hseam.write_append
  plain_write := hseam.plain_write
  piece := fun a hi hs => hseam.piece a (Nat.le_trans hle hi) hs

theorem Seamless.readAll_number (hseam : Seamless turn plain write markerClass next)
    {i : NodeId} (hi : next ≤ i) (as : List Piece) {s : σ} (hs : plain s) :
    Tree.readAll turn ((number i as).map (fun b => b.2.tree markerClass b.1)) s =
      write s (as.flatMap (·.text.toList)) := by
  induction as generalizing i s with
  | nil => exact (hseam.write_nil s).symm
  | cons a as ih =>
      rw [number, List.map_cons, Tree.readAll_cons, hseam.piece a hi hs, List.flatMap_cons,
        hseam.write_append]
      exact ih (Nat.le_add_right_of_le hi) (hseam.plain_write _ hs)

/-! ## Markers -/

/-- The element of a marker, without its links. -/
def marker (markerClass : String) (i : NodeId) : Node :=
  { (Node.ofTag "span").setAttr "class" markerClass with id := i }

theorem tree_hit (markerClass text : String) (i : NodeId) :
    (Piece.hit text).tree markerClass i =
      .node (marker markerClass i) [.node { Node.ofText text with id := i + 1 } []] := rfl

/-- Where texts are written and a marker is read like what is in it, a piece is read like its
text. -/
theorem read_piece (out : List Char → σ) {s : σ} {i : NodeId}
    (htext : ∀ n : Node, n.isText = true → (Tree.node n []).read turn s = out n.value.toList)
    (hmarker : ∀ ts, (Tree.node (marker markerClass i) ts).read turn s = Tree.readAll turn ts s)
    (a : Piece) : (a.tree markerClass i).read turn s = out a.text.toList := by
  cases a with
  | plain text => exact htext { Node.ofText text with id := i } rfl
  | hit text =>
      rw [tree_hit, hmarker]
      exact htext { Node.ofText text with id := i + 1 } rfl

theorem hasTag_marker (markerClass : String) (i : NodeId) (tag : String) :
    (marker markerClass i).hasTag tag = Text.eqIgnoringCase "SPAN" tag := by
  have hname : (marker markerClass i).name = "SPAN" := name_marker markerClass
  rw [Node.hasTag, hname]
  rfl

theorem hasTagIn_marker (markerClass : String) (i : NodeId) (tags : List String) :
    (marker markerClass i).hasTagIn tags = tags.any (Text.eqIgnoringCase "SPAN") := by
  rw [Node.hasTagIn]
  exact congrArg tags.any (funext (hasTag_marker markerClass i))

theorem lawful_spans (r : Pattern.Regex) : Lawful r.spans where
  bounds := fun _ _ hs => Pattern.Regex.spans_bounds hs
  apart := r.pairwise_spans

end Marking

namespace Page

open Marking

variable {p : Page} {root : NodeId} {style : MarkStyle} {matcher : Matcher} {cut : Cut}
  {σ : Type} {turn : Node → σ → Turn σ} {inside : Node → σ → Prop} {plain : σ → Prop}
  {write : σ → List Char → σ}

/-! ## Passes -/

/-- The cuts of a pass at the text nodes that it reaches. -/
def reachedCuts (p : Page) (root : NodeId) (style : MarkStyle) (matcher : Matcher) : List Cut :=
  plan (fragment style matcher) p.size ((p.tree root).textsBelow (goesOn style matcher))

theorem WellFormed.mark_reached (h : p.WellFormed) (hroot : root < p.size)
    (htoken : IsClassToken style.markerClass) (hlawful : Lawful matcher) :
    (p.mark root style matcher).page =
        p.batch style.markerClass (p.reachedCuts root style matcher) ∧
      (p.batch style.markerClass (p.reachedCuts root style matcher)).WellFormed ∧
      p.Numbered style.markerClass (p.reachedCuts root style matcher) := by
  have hdone := h.mark_completes hroot htoken matcher
  have hids := p.numbered_plan style.markerClass (fragment style matcher)
    ((p.tree root).textsBelow (goesOn style matcher))
  rw [cutUp_eq_fragment hlawful] at hdone
  exact ⟨hdone.page, hdone.page ▸ hdone.wellFormed, hids⟩

/-- A text node `y` under `x` that a pass reaches: `x` is the root of the pass, or a node under it
below which the pass goes on. -/
structure Reached (p : Page) (root : NodeId) (style : MarkStyle) (matcher : Matcher)
    (x y : NodeId) : Prop where
  isText : (p.node y).isText = true
  parent : (p.node y).parent = some x
  below : root ∈ p.lineage x
  goesOn : x = root ∨ Marking.goesOn style matcher (p.node x).unlinked = true

theorem WellFormed.exists_of_mem_reachedCuts (h : p.WellFormed)
    (hcut : cut ∈ p.reachedCuts root style matcher) :
    ∃ x as i, p.Reached root style matcher x cut.target ∧
      fragment style matcher (p.node cut.target).unlinked = some as ∧ p.size ≤ i ∧
        cut.pieces = number i as := by
  obtain ⟨n, hn, as, i, has, hi, rfl⟩ := exists_of_mem_plan hcut
  obtain ⟨y, rfl, htext, hy, hne, hgoes⟩ := h.mem_textsBelow_tree.1 hn
  have hid : (p.node y).unlinked.id = y := h.id_node y (lt_of_isText htext)
  rw [hid]
  obtain ⟨x, hparent, hx⟩ := h.exists_parent_of_mem_lineage hy hne
  refine ⟨x, as, i, ⟨htext, hparent, hx, ?_⟩, has, hi, rfl⟩
  by_cases hxroot : x = root
  · exact .inl hxroot
  · exact .inr (hgoes x hx hxroot (h.mem_lineage_of_parent hparent) (h.ne_of_parent hparent).symm)

/-- A pass does not change what is read where the texts it reaches are read in plain states. -/
theorem WellFormed.read_mark (h : p.WellFormed) (hroot : root < p.size)
    (htoken : IsClassToken style.markerClass) (hlawful : Lawful matcher)
    (hinside : Tree.Carried turn inside)
    (hseam : Seamless turn plain write style.markerClass p.size)
    (htexts : ∀ x y, p.Reached root style matcher x y → ∀ s, inside (p.node x).unlinked s →
      plain s ∧ (p.tree y).read turn s = write s (p.node y).value.toList)
    {x : NodeId} (hx : x < p.size) (s : σ) :
    ((p.mark root style matcher).page.tree x).read turn s = (p.tree x).read turn s := by
  obtain ⟨hpage, hq, hids⟩ := h.mark_reached hroot htoken hlawful
  rw [hpage]
  apply h.read_batch hq hids hinside ?_ hx
  intro cut hcut y hparent s hs
  obtain ⟨y', as, i, hreached, has, hi, hpieces⟩ := h.exists_of_mem_reachedCuts hcut
  cases hparent.symm.trans hreached.parent
  obtain ⟨hplain, hread⟩ := htexts y cut.target hreached s hs
  have hvalue : as.flatMap (·.text.toList) = (p.node cut.target).value.toList :=
    (fragment_eq_some hlawful has).2
  rw [hread, hpieces, hseam.readAll_number hi as hplain, hvalue]

/-! ## All passes of a scan -/

/-- The page after all passes is well formed, and has kept its nodes and its root. -/
theorem WellFormed.after_passes (h : p.WellFormed) {body : NodeId} (hbody : body < p.size)
    (htoken : IsClassToken style.markerClass) (found : List KeywordMatch) :
    (pageAfter body style p found).WellFormed ∧ p.size ≤ (pageAfter body style p found).size ∧
      (pageAfter body style p found).root = p.root := by
  induction found generalizing p with
  | nil => exact ⟨h, Nat.le_refl _, rfl⟩
  | cons k ks ih =>
      have hdone := h.mark_completes hbody htoken k.pattern.spans
      have hsize := h.size_le_mark hbody htoken k.pattern.spans
      have hroot : (p.mark body style k.pattern.spans).page.root = p.root := by
        rw [hdone.page]
        rfl
      obtain ⟨hwf, hle, hkept⟩ := ih hdone.wellFormed (Nat.lt_of_lt_of_le hbody hsize)
      exact ⟨hwf, Nat.le_trans hsize hle, hkept.trans hroot⟩

/-- The passes of a scan do not change what is read, if states are plain under the body itself and
under the nodes below which a pass goes on. -/
theorem WellFormed.read_pageAfter (h : p.WellFormed) {body : NodeId} (hbody : body < p.size)
    (htoken : IsClassToken style.markerClass) (hinside : Tree.Carried turn inside)
    (hseam : Seamless turn plain write style.markerClass p.size)
    (htext : ∀ n ts s, n.isText = true → plain s →
      (Tree.node n ts).read turn s = write s n.value.toList)
    (hplain : ∀ n s, n = (p.node body).unlinked ∨ (∃ matcher, goesOn style matcher n = true) →
      inside n s → plain s)
    (found : List KeywordMatch) {x : NodeId} (hx : x < p.size) (s : σ) :
    ((pageAfter body style p found).tree x).read turn s = (p.tree x).read turn s := by
  induction found generalizing p with
  | nil => rfl
  | cons k ks ih =>
      have hdone := h.mark_completes hbody htoken k.pattern.spans
      have hsize := h.size_le_mark hbody htoken k.pattern.spans
      have hlabel : ((p.mark body style k.pattern.spans).page.node body).unlinked =
          (p.node body).unlinked := by
        rw [hdone.page]
        exact unlinked_batch _ _ hbody
      have hrest := ih hdone.wellFormed (Nat.lt_of_lt_of_le hbody hsize) (hseam.mono hsize)
        (by rwa [hlabel]) (Nat.lt_of_lt_of_le hx hsize)
      refine hrest.trans (h.read_mark hbody htoken (lawful_spans _) hinside hseam ?_ hx s)
      intro y t hreached s hs
      have hs' : plain s := by
        apply hplain _ s ?_ hs
        rcases hreached.goesOn with rfl | hgoes
        · exact .inl rfl
        · exact .inr ⟨_, hgoes⟩
      refine ⟨hs', ?_⟩
      rw [h.tree_eq]
      exact htext _ _ s hreached.isText hs'

end Page

end PhraseMark
