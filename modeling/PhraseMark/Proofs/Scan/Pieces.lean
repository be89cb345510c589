import PhraseMark.Proofs.Page.Relinking
import PhraseMark.Scan.Marking

/-!
# Pieces of a text node

A text node with hits is put in pieces: plain texts, and hits that become markers. Pieces are
numbered in the order in which their nodes are added to the page, a plain piece taking one place
and a hit two. The page with the pieces is the old page with these nodes behind its last one.
-/

namespace PhraseMark

open Pattern

namespace Page

variable {p : Page} {ns ms : List Node}

def extend (p : Page) (ns : List Node) : Page := { p with nodes := p.nodes ++ ns.toArray }

@[simp] theorem extend_nil (p : Page) : p.extend [] = p := by
  simp [extend]

@[simp] theorem extend_extend (p : Page) (ns ms : List Node) :
    (p.extend ns).extend ms = p.extend (ns ++ ms) := by
  simp [extend, Array.append_assoc]

@[simp] theorem size_extend (p : Page) (ns : List Node) :
    (p.extend ns).size = p.size + ns.length := by
  simp [extend, size]

theorem node_extend_of_lt {x : NodeId} (h : x < p.size) : (p.extend ns).node x = p.node x := by
  simp only [node, extend]
  rw [Array.getElem?_append_left h]

theorem node_extend_of_le (p : Page) (ns : List Node) (k : Nat) :
    (p.extend ns).node (p.size + k) = ns[k]?.getD default := by
  simp only [node, extend, size]
  rw [Array.getElem?_append_right (Nat.le_add_right _ _)]
  simp

theorem add_eq_extend (p : Page) {n : Node} (h : n.backendId = none) :
    (p.add n).2 = p.extend [{ n with id := p.size }] := by
  simp [add, extend, h]

end Page

/-- A class attribute of exactly one token. -/
def IsClassToken (s : String) : Prop := Text.tokens s = [s]

instance : DecidablePred IsClassToken := fun s => decEq (Text.tokens s) [s]

namespace Marking

/-- A part of a text node that has been put in pieces. -/
inductive Piece where
  | plain (text : String)
  | hit (text : String)
  deriving DecidableEq, Repr

namespace Piece

def text : Piece → String
  | plain text => text
  | hit text => text

def width : Piece → Nat
  | plain _ => 1
  | hit _ => 2

/-- The text of a piece under the given parent, or its marker with the text in it, from place `i`
on. -/
def nodes (markerClass : String) (parent : Option NodeId) (i : NodeId) : Piece → List Node
  | plain text => [{ Node.ofText text with id := i, parent }]
  | hit text =>
    [{ (Node.ofTag "span").setAttr "class" markerClass with id := i, parent, children := [i + 1] },
      { Node.ofText text with id := i + 1, parent := some i }]

@[simp] theorem length_nodes (markerClass : String) (parent : Option NodeId) (i : NodeId)
    (a : Piece) : (a.nodes markerClass parent i).length = a.width := by
  cases a <;> rfl

theorem map_id_nodes (markerClass : String) (parent : Option NodeId) (i : NodeId) (a : Piece) :
    (a.nodes markerClass parent i).map (·.id) = List.range' i a.width := by
  cases a <;> rfl

/-- The nodes of a piece are text nodes without children, apart from the marker of a hit. -/
theorem cases_of_mem_nodes {markerClass : String} {parent : Option NodeId} {i : NodeId}
    {a : Piece} {n : Node} (h : n ∈ a.nodes markerClass parent i) :
    (n.isText = true ∧ n.children = []) ∨
      (n.isText = false ∧ n.id = i ∧ ∃ text, a = .hit text) := by
  cases a with
  | plain text =>
      rw [nodes, List.mem_singleton] at h
      subst h
      exact .inl ⟨rfl, rfl⟩
  | hit text =>
      simp only [nodes, List.mem_cons, List.not_mem_nil, or_false] at h
      rcases h with rfl | rfl
      · exact .inr ⟨rfl, rfl, text, rfl⟩
      · exact .inl ⟨rfl, rfl⟩

end Piece

theorem hasClass_marker {markerClass : String} (h : IsClassToken markerClass) :
    ((Node.ofTag "span").setAttr "class" markerClass).hasClass markerClass = true := by
  have hclasses : ((Node.ofTag "span").setAttr "class" markerClass).classes = [markerClass] := by
    rw [Node.classes, Node.attr?_setAttr_self, Option.getD_some, h]
  rw [Node.hasClass, hclasses]
  simp [Node.isElement, Node.setAttr, Node.ofTag]

theorem name_marker (markerClass : String) :
    ((Node.ofTag "span").setAttr "class" markerClass).name = "SPAN" := by
  have hupper : Text.asciiUpper "span" = "SPAN" := by decide +kernel
  exact hupper

/-- The pieces of a text from `cursor` on. -/
def piecesFrom (text : List Char) : Nat → List Span → List Piece
  | cursor, [] =>
    if cursor < text.length then [.plain (.ofList (text.drop cursor))] else []
  | cursor, s :: rest =>
    (if cursor < s.start then [.plain (.ofList (Span.slice ⟨cursor, s.start⟩ text))] else []) ++
      .hit (.ofList (s.slice text)) :: piecesFrom text s.stop rest

/-- A piece is a slice of the text between hits, or the slice of a hit. -/
theorem mem_piecesFrom {text : List Char} {cursor : Nat} {hits : List Span} {a : Piece}
    (ha : a ∈ piecesFrom text cursor hits) :
    (∃ span : Span, a = .plain (.ofList (span.slice text))) ∨
      ∃ span ∈ hits, a = .hit (.ofList (span.slice text)) := by
  induction hits generalizing cursor with
  | nil =>
      rw [piecesFrom] at ha
      split at ha
      · have hrest : Span.slice ⟨cursor, text.length⟩ text = text.drop cursor := by
          rw [Span.slice, ← List.length_drop, List.take_length]
        rw [List.mem_singleton] at ha
        exact .inl ⟨⟨cursor, text.length⟩, by rw [hrest, ha]⟩
      · cases ha
  | cons span rest ih =>
      rw [piecesFrom, List.mem_append, List.mem_cons] at ha
      rcases ha with ha | rfl | ha
      · split at ha
        · exact .inl ⟨_, List.mem_singleton.1 ha⟩
        · cases ha
      · exact .inr ⟨span, List.mem_cons_self, rfl⟩
      · rcases ih ha with hplain | ⟨span', hmem, rfl⟩
        · exact .inl hplain
        · exact .inr ⟨span', List.mem_cons_of_mem span hmem, rfl⟩

theorem infix_of_mem_piecesFrom {text : List Char} {cursor : Nat} {hits : List Span}
    {a : Piece} (ha : a ∈ piecesFrom text cursor hits) : a.text.toList <:+: text := by
  have hslice : ∀ span : Span, span.slice text <:+: text := fun span =>
    (List.take_prefix _ (text.drop span.start)).isInfix.trans (text.drop_suffix span.start).isInfix
  rcases mem_piecesFrom ha with ⟨span, rfl⟩ | ⟨span, -, rfl⟩
  · rw [Piece.text, String.toList_ofList]
    exact hslice span
  · rw [Piece.text, String.toList_ofList]
    exact hslice span

/-- The last piece is the text after the last hit, or the last hit if that text is empty. -/
theorem getLast?_piecesFrom {text : List Char} {cursor : Nat} {hits : List Span} {s : Span}
    (h : hits.getLast? = some s) :
    (piecesFrom text cursor hits).getLast? =
      if s.stop < text.length then some (.plain (.ofList (text.drop s.stop)))
      else some (.hit (.ofList (s.slice text))) := by
  induction hits generalizing cursor with
  | nil => cases h
  | cons t rest ih =>
      rw [piecesFrom, List.getLast?_append, List.getLast?_cons, Option.some_or]
      cases rest with
      | nil =>
          rw [List.getLast?_singleton, Option.some.injEq] at h
          rw [h, piecesFrom]
          by_cases hrest : s.stop < text.length
          · rw [if_pos hrest, if_pos hrest]
            rfl
          · rw [if_neg hrest, if_neg hrest]
            rfl
      | cons u rest =>
          rw [List.getLast?_cons_cons] at h
          rw [ih h]
          split <;> rfl

/-- Pieces with the first places they take, from place `i` on. -/
def number : NodeId → List Piece → List (NodeId × Piece)
  | _, [] => []
  | i, a :: as => (i, a) :: number (i + a.width) as

theorem Piece.width_pos (a : Piece) : 0 < a.width := by
  cases a <;> simp [width]

theorem le_of_mem_number {i : NodeId} {as : List Piece} {b : NodeId × Piece}
    (h : b ∈ number i as) : i ≤ b.1 ∧ b.1 + b.2.width ≤ i + (as.map Piece.width).sum := by
  induction as generalizing i with
  | nil => cases h
  | cons a as ih =>
      rw [List.map_cons, List.sum_cons]
      rcases List.mem_cons.1 h with rfl | h
      · constructor <;> grind
      · have hrest := ih h
        constructor <;> grind

theorem snd_mem_of_mem_number {i : NodeId} {as : List Piece} {b : NodeId × Piece}
    (hb : b ∈ number i as) : b.2 ∈ as := by
  induction as generalizing i with
  | nil => cases hb
  | cons a as ih =>
      rcases List.mem_cons.1 hb with rfl | hb
      · exact List.mem_cons_self
      · exact List.mem_cons_of_mem a (ih hb)

theorem map_snd_number (i : NodeId) (as : List Piece) : (number i as).map (·.2) = as := by
  induction as generalizing i with
  | nil => rfl
  | cons a as ih => rw [number, List.map_cons, ih]

theorem pairwise_number (i : NodeId) (as : List Piece) :
    (number i as).Pairwise (fun a b => a.1 + a.2.width ≤ b.1) := by
  induction as generalizing i with
  | nil => exact .nil
  | cons a as ih => exact .cons (fun b hb => (le_of_mem_number hb).1) (ih (i + a.width))

theorem nodup_map_number (i : NodeId) (as : List Piece) : ((number i as).map (·.1)).Nodup := by
  refine List.pairwise_map.2 ((pairwise_number i as).imp ?_)
  intro a b hab heq
  have hpos := a.2.width_pos
  grind

/-- The text in a marker has no number of its own. -/
theorem succ_notMem_number {i : NodeId} {as : List Piece} {b : NodeId × Piece}
    (hb : b ∈ number i as) (hwidth : 1 < b.2.width) : b.1 + 1 ∉ (number i as).map (·.1) := by
  induction as generalizing i with
  | nil => cases hb
  | cons a as ih =>
      simp only [number, List.map_cons, List.mem_cons, not_or]
      rcases List.mem_cons.1 hb with rfl | hb
      · refine ⟨Nat.succ_ne_self i, ?_⟩
        intro hmem
        obtain ⟨b, hb, heq⟩ := List.mem_map.1 hmem
        have hle := (le_of_mem_number hb).1
        grind
      · have hle := (le_of_mem_number hb).1
        have hpos := a.width_pos
        exact ⟨by grind, ih hb⟩

def nodesOf (markerClass : String) (parent : Option NodeId) (as : List (NodeId × Piece)) :
    List Node :=
  as.flatMap (fun a => a.2.nodes markerClass parent a.1)

def highlightsOf (as : List (NodeId × Piece)) : List Highlight :=
  as.filterMap (fun
    | (i, .hit text) => some { span := i, text }
    | (_, .plain _) => none)

theorem map_id_nodesOf_number (markerClass : String) (parent : Option NodeId) (i : NodeId)
    (as : List Piece) :
    (nodesOf markerClass parent (number i as)).map (·.id) =
      List.range' i (as.map Piece.width).sum := by
  induction as generalizing i with
  | nil => rfl
  | cons a as ih =>
      have hrest := ih (i + a.width)
      simp only [nodesOf] at hrest
      simp only [number, nodesOf, List.flatMap_cons, List.map_append, Piece.map_id_nodes, hrest,
        List.map_cons, List.sum_cons]
      rw [List.range'_append_1]

theorem mem_nodesOf {markerClass : String} {parent : Option NodeId} {bs : List (NodeId × Piece)}
    {n : Node} : n ∈ nodesOf markerClass parent bs ↔
      ∃ b ∈ bs, n ∈ b.2.nodes markerClass parent b.1 :=
  List.mem_flatMap

/-- The pieces get a parent through their numbers; the texts in markers keep theirs. -/
theorem nodesOf_eq_map (markerClass : String) (parent : Option NodeId) (ids : List NodeId)
    {bs : List (NodeId × Piece)} (hids : ∀ b ∈ bs, b.1 ∈ ids)
    (hsucc : ∀ b ∈ bs, 1 < b.2.width → b.1 + 1 ∉ ids) :
    nodesOf markerClass parent bs = (nodesOf markerClass none bs).map (fun n =>
      { n with parent := if n.id ∈ ids then parent else n.parent }) := by
  induction bs with
  | nil => rfl
  | cons b bs ih =>
      have hrest := ih (fun c hc => hids c (List.mem_cons_of_mem b hc))
        (fun c hc => hsucc c (List.mem_cons_of_mem b hc))
      have hid := hids b List.mem_cons_self
      simp only [nodesOf] at hrest
      simp only [nodesOf, List.flatMap_cons, List.map_append, hrest]
      congr 1
      obtain ⟨i, a⟩ := b
      cases a with
      | plain text => simp [Piece.nodes, hid]
      | hit text =>
          have hnot := hsucc (i, .hit text) List.mem_cons_self Nat.one_lt_two
          simp [Piece.nodes, hid, hnot]

theorem notMem_of_mem_children {markerClass : String} {parent : Option NodeId} {i : NodeId}
    {as : List Piece} {n : Node} (hn : n ∈ nodesOf markerClass parent (number i as)) {c : NodeId}
    (hc : c ∈ n.children) : i ≤ c ∧ c ∉ (number i as).map (·.1) := by
  obtain ⟨⟨j, a⟩, hb, hn⟩ := mem_nodesOf.1 hn
  have hle := (le_of_mem_number hb).1
  cases a with
  | plain text =>
      rw [Piece.nodes, List.mem_singleton] at hn
      subst hn
      cases hc
  | hit text =>
      simp only [Piece.nodes, List.mem_cons, List.not_mem_nil, or_false] at hn
      rcases hn with rfl | rfl
      · rw [List.mem_singleton] at hc
        subst hc
        exact ⟨Nat.le_succ_of_le hle, succ_notMem_number hb Nat.one_lt_two⟩
      · cases hc

theorem length_nodesOf_number (markerClass : String) (parent : Option NodeId) (i : NodeId)
    (as : List Piece) :
    (nodesOf markerClass parent (number i as)).length = (as.map Piece.width).sum := by
  have hids := congrArg List.length (map_id_nodesOf_number markerClass parent i as)
  simpa using hids

end Marking

namespace Page

variable {p : Page}

theorem addText_eq_extend (p : Page) (text : String) :
    p.addText text =
      (p.size, p.extend [{ Node.ofText text with id := p.size, parent := none }]) :=
  Prod.ext rfl (add_eq_extend p rfl)

theorem addMarker_eq_extend (p : Page) (markerClass text : String) :
    p.addMarker markerClass text =
      (p.size, p.extend ((Marking.Piece.hit text).nodes markerClass none p.size)) := by
  refine Prod.ext rfl ?_
  simp only [addMarker]
  rw [add_eq_extend _ rfl, add_eq_extend _ rfl, extend_extend, size_extend]
  rfl

theorem WellFormed.appended_addMarker (h : p.WellFormed) (markerClass text : String) :
    Appended (((p.add ((Node.ofTag "span").setAttr "class" markerClass)).2.add
      (Node.ofText text)).2) p.size (p.size + 1) (p.addMarker markerClass text).2 := by
  set span := (Node.ofTag "span").setAttr "class" markerClass with hspan
  have hmarker : (p.addMarker markerClass text).2 =
      ((p.add { span with children := [p.size + 1] }).2.add
        { Node.ofText text with parent := some p.size }).2 := rfl
  have hnode : ∀ y, (p.addMarker markerClass text).2.node y =
      if y = p.size + 1 then { Node.ofText text with id := p.size + 1, parent := some p.size }
      else if y = p.size then { span with id := p.size, children := [p.size + 1] }
      else p.node y := by
    intro y
    rw [hmarker, node_add, node_add, size_add]
  have hold : ∀ y, ((p.add span).2.add (Node.ofText text)).2.node y =
      if y = p.size + 1 then { Node.ofText text with id := p.size + 1 }
      else if y = p.size then { span with id := p.size }
      else p.node y := by
    intro y
    rw [node_add, node_add, size_add]
  refine ⟨⟨?_, rfl, rfl, ?_⟩, ?_, ?_⟩
  · rw [hmarker, size_add, size_add, size_add, size_add]
  · intro y
    rw [hnode, hold]
    split
    · rfl
    · split <;> rfl
  · intro y
    rw [hnode, hold]
    split
    · rfl
    · split <;> rfl
  · intro y
    have hkept : (p.node y).children.filter (· ≠ p.size + 1) = (p.node y).children := by
      apply List.filter_eq_self.2
      intro c hc
      have hlt := h.lt_of_mem_children hc
      have hne : c ≠ p.size + 1 := by grind
      simpa using hne
    rw [hnode, children_add rfl, children_add rfl, hkept]
    split
    · rename_i hy
      have hne : y ≠ p.size := by simp [hy]
      rw [children_of_le (hy ▸ Nat.le_succ p.size), if_neg hne]
      rfl
    · split
      · rename_i hy
        rw [children_of_le (Nat.le_of_eq hy.symm)]
        rfl
      · exact (List.append_nil _).symm

theorem WellFormed.addMarker (h : p.WellFormed) (markerClass text : String) :
    (p.addMarker markerClass text).2.WellFormed := by
  have hspan := h.add (n := (Node.ofTag "span").setAttr "class" markerClass) rfl rfl
  have hboth := hspan.add (n := Node.ofText text) rfl rfl
  refine (h.appended_addMarker markerClass text).wellFormed hboth ?_
  have hparent : (((p.add ((Node.ofTag "span").setAttr "class" markerClass)).2.add
      (Node.ofText text)).2.node p.size).parent = none := by
    rw [parent_add rfl, parent_add rfl, parent_of_le (Nat.le_refl _)]
  rw [hboth.lineage_of_top hparent]
  simp

end Page

namespace Marking

variable {style : MarkStyle} {text : List Char}

/-- Adding the pieces of a text puts their nodes behind the last node. -/
theorem addPieces_eq (style : MarkStyle) (text : List Char) (p : Page) (cursor : Nat)
    (hits : List Span) :
    addPieces style text p cursor hits =
      { page := p.extend (nodesOf style.markerClass none
          (number p.size (piecesFrom text cursor hits)))
        ids := (number p.size (piecesFrom text cursor hits)).map (·.1)
        highlights := highlightsOf (number p.size (piecesFrom text cursor hits)) } := by
  induction hits generalizing p cursor with
  | nil =>
      unfold addPieces piecesFrom
      split
      · simp [Page.addText_eq_extend, number, nodesOf, highlightsOf, Piece.nodes]
      · simp [number, nodesOf, highlightsOf]
  | cons s rest ih =>
      by_cases hcursor : cursor < s.start
      · simp [addPieces, piecesFrom, hcursor, Page.addText_eq_extend, Page.addMarker_eq_extend, ih,
          number, nodesOf, highlightsOf, Piece.width, Piece.nodes, Nat.add_assoc]
      · simp [addPieces, piecesFrom, hcursor, Page.addMarker_eq_extend, ih, number, nodesOf,
          highlightsOf, Piece.width]

/-- What adding a text and adding a marker preserve, adding pieces preserves. -/
theorem addPieces_preserves {P : Page → Prop}
    (htext : ∀ {p : Page} (text : String), P p → P (p.addText text).2)
    (hmarker : ∀ {p : Page} (text : String), P p → P (p.addMarker style.markerClass text).2)
    {p : Page} (h : P p) (text : List Char) (cursor : Nat) (hits : List Span) :
    P (addPieces style text p cursor hits).page := by
  induction hits generalizing p cursor with
  | nil =>
      unfold addPieces
      split
      · exact htext _ h
      · exact h
  | cons s rest ih =>
      by_cases hcursor : cursor < s.start
      · simp only [addPieces, hcursor, if_true]
        exact ih (hmarker _ (htext _ h)) s.stop
      · simp only [addPieces, hcursor, if_false]
        exact ih (hmarker _ h) s.stop

end Marking

namespace Page

theorem WellFormed.addPieces {p : Page} (h : p.WellFormed) (style : MarkStyle) (text : List Char)
    (cursor : Nat) (hits : List Span) :
    (Marking.addPieces style text p cursor hits).page.WellFormed :=
  Marking.addPieces_preserves (fun _ h => h.add rfl rfl)
    (fun text h => h.addMarker style.markerClass text) h text cursor hits

end Page

end PhraseMark
