import PhraseMark.Proofs.Page.Prose
import PhraseMark.Proofs.Scan.Coverage

/-!
# Blanks in visible text

Visible text has all characters but blanks of the nodes that are read, in their order. Where no
`PRE` element stands, its blanks are single spaces and line ends between other characters.
-/

namespace PhraseMark

namespace Prose

variable {out cs : List Char} {c : Char}

/-! ## Characters that are not blanks -/

/-- What is to be seen of a text: its characters without the blanks. -/
def ink (cs : List Char) : List Char := cs.filter (! Text.isBlank ·)

theorem ink_append (cs ds : List Char) : ink (cs ++ ds) = ink cs ++ ink ds :=
  List.filter_append cs ds

theorem ink_of_blank (h : ∀ c ∈ cs, Text.isBlank c = true) : ink cs = [] := by
  apply List.filter_eq_nil_iff.2
  intro c hc
  simp [h c hc]

theorem ink_singleton_of_blank (h : Text.isBlank c = true) : ink [c] = [] :=
  ink_of_blank (by simpa using h)

theorem ink_addChar (out : List Char) (c : Char) : ink (addChar out c) = ink out ++ ink [c] := by
  unfold addChar
  cases hc : Text.isBlank c with
  | false => exact ink_append out [c]
  | true =>
      have hnone := ink_singleton_of_blank hc
      have hspace : ink [' '] = [] := ink_singleton_of_blank (by decide)
      rw [hnone, List.append_nil, Bool.not_true, if_neg Bool.false_ne_true]
      split
      · rfl
      · rw [ink_append, hspace, List.append_nil]

theorem ink_foldl_addChar (cs out : List Char) :
    ink (cs.foldl addChar out) = ink out ++ ink cs := by
  induction cs generalizing out with
  | nil => exact (List.append_nil _).symm
  | cons c cs ih =>
      rw [List.foldl_cons, ih, ink_addChar, List.append_assoc, ← ink_append, List.singleton_append]

theorem ink_addText (verbatim : Bool) (out : List Char) (text : String) :
    ink (addText verbatim out text) = ink out ++ ink text.toList := by
  unfold addText
  split
  · exact ink_append _ _
  · exact ink_foldl_addChar _ _

theorem ink_rdropWhile {test : Char → Bool} (h : ∀ c, test c = true → Text.isBlank c = true)
    (cs : List Char) : ink (cs.rdropWhile test) = ink cs := by
  have hdropped : ink (cs.rtakeWhile test) = [] :=
    ink_of_blank (fun c hc => h c (List.mem_rtakeWhile_imp hc))
  conv_rhs => rw [← List.rdropWhile_append_rtakeWhile (p := test) (l := cs)]
  rw [ink_append, hdropped, List.append_nil]

theorem ink_endLine (out : List Char) : ink (endLine out) = ink out := by
  have hline : ink (out.rdropWhile (· == ' ')) = ink out := by
    apply ink_rdropWhile
    intro c hc
    rw [beq_iff_eq.1 hc]
    decide
  have hend : ink ['\n'] = [] := ink_singleton_of_blank (by decide)
  unfold endLine
  dsimp only
  split
  · exact hline
  · rw [ink_append, hline, hend, List.append_nil]

theorem ink_atBlock (n : Node) (out : List Char) : ink (atBlock n out) = ink out := by
  unfold atBlock
  split
  · exact ink_endLine out
  · rfl

theorem trimList_eq (cs : List Char) :
    Text.trimList Text.isBlank cs = (cs.dropWhile Text.isBlank).rdropWhile Text.isBlank := rfl

theorem ink_trimList (cs : List Char) : ink (Text.trimList Text.isBlank cs) = ink cs := by
  have hstart : ink (cs.takeWhile Text.isBlank) = [] :=
    ink_of_blank (fun c hc => List.mem_takeWhile_imp hc)
  rw [trimList_eq, ink_rdropWhile (fun _ hc => hc)]
  conv_rhs => rw [← List.takeWhile_append_dropWhile (p := Text.isBlank) (l := cs)]
  rw [ink_append, hstart, List.nil_append]

/-! ## Single blanks -/

/-- Blanks are spaces and line ends, each between two other characters or at the end. -/
structure Tidy (out : List Char) : Prop where
  blank : ∀ c ∈ out, Text.isBlank c = true → c = ' ' ∨ c = '\n'
  apart : out.IsChain (fun c d => Text.isBlank c = true → Text.isBlank d = false)
  start : ∀ c ∈ out.head?, Text.isBlank c = false

namespace Tidy

theorem nil : Tidy [] := ⟨by simp, .nil, by simp⟩

theorem of_prefix (h : Tidy out) (hcs : cs <+: out) : Tidy cs where
  blank := fun c hc => h.blank c (hcs.subset hc)
  apart := h.apart.prefix hcs
  start := by
    intro c hc
    cases cs with
    | nil => cases hc
    | cons d ds =>
        obtain ⟨rest, rfl⟩ := hcs
        exact h.start c hc

theorem concat (h : Tidy out)
    (hc : Text.isBlank c = true → (c = ' ' ∨ c = '\n') ∧
      ∃ d ∈ out.getLast?, Text.isBlank d = false) : Tidy (out ++ [c]) where
  blank := by
    intro d hd hblank
    rcases List.mem_append.1 hd with hd | hd
    · exact h.blank d hd hblank
    · rw [List.mem_singleton.1 hd] at hblank ⊢
      exact (hc hblank).1
  apart := by
    apply h.apart.append (.singleton c)
    intro d hd e he hblank
    cases he
    by_contra hnot
    obtain ⟨-, d', hd', hsolid⟩ := hc (Bool.eq_true_of_not_eq_false hnot)
    rw [Option.mem_unique hd hd', hsolid] at hblank
    cases hblank
  start := by
    intro d hd
    cases out with
    | cons e es => exact h.start d hd
    | nil =>
        cases hd
        by_contra hnot
        obtain ⟨-, d', hd', -⟩ := hc (Bool.eq_true_of_not_eq_false hnot)
        cases hd'

/-- After anything but a space or a line end, the last character is no blank. -/
theorem exists_last (h : Tidy out) (hne : out ≠ []) (hspace : out.getLast? ≠ some ' ')
    (hend : out.getLast? ≠ some '\n') : ∃ d ∈ out.getLast?, Text.isBlank d = false := by
  have hlast := List.getLast?_eq_some_getLast hne
  refine ⟨out.getLast hne, hlast, ?_⟩
  by_contra hnot
  rcases h.blank _ (List.getLast_mem hne) (Bool.eq_true_of_not_eq_false hnot) with heq | heq
  · exact hspace (hlast.trans (congrArg some heq))
  · exact hend (hlast.trans (congrArg some heq))

theorem addChar (h : Tidy out) (c : Char) : Tidy (addChar out c) := by
  unfold Prose.addChar
  split
  · rename_i hc
    apply h.concat
    intro hblank
    rw [hblank] at hc
    cases hc
  · split
    · exact h
    · rename_i hnot
      push Not at hnot
      exact h.concat (fun _ => ⟨.inl rfl, h.exists_last hnot.1 hnot.2.1 hnot.2.2⟩)

theorem addText (h : Tidy out) (text : String) : Tidy (addText false out text) := by
  rw [Prose.addText, if_neg Bool.false_ne_true]
  induction text.toList generalizing out with
  | nil => exact h
  | cons c cs ih => exact ih (h.addChar c)

theorem endLine (h : Tidy out) : Tidy (endLine out) := by
  have hline := h.of_prefix (@List.rdropWhile_prefix _ (· == ' ') out)
  unfold Prose.endLine
  dsimp only
  split
  · exact hline
  · rename_i hnot
    push Not at hnot
    refine hline.concat (fun _ => ⟨.inr rfl, hline.exists_last hnot.1 ?_ hnot.2⟩)
    intro hspace
    have hlast := List.rdropWhile_last_not (· == ' ') out hnot.1
    rw [List.getLast?_eq_some_getLast hnot.1, Option.some.injEq] at hspace
    rw [hspace] at hlast
    exact hlast rfl

theorem atBlock (h : Tidy out) (n : Node) : Tidy (atBlock n out) := by
  unfold Prose.atBlock
  split
  · exact h.endLine
  · exact h

/-- A tidy text loses at most a blank at its end when it is trimmed. -/
theorem trimList (h : Tidy out) :
    Tidy (Text.trimList Text.isBlank out) ∧
      ∀ c ∈ (Text.trimList Text.isBlank out).getLast?, Text.isBlank c = false := by
  have hstart : out.dropWhile Text.isBlank = out := by
    cases out with
    | nil => rfl
    | cons c cs =>
        have hc := h.start c rfl
        rw [List.dropWhile_cons_of_neg (by rw [hc]; exact Bool.false_ne_true)]
  rw [trimList_eq, hstart]
  refine ⟨h.of_prefix (@List.rdropWhile_prefix _ Text.isBlank out), ?_⟩
  intro c hc
  by_cases hne : out.rdropWhile Text.isBlank = []
  · rw [hne] at hc
    cases hc
  · rw [List.getLast?_eq_some_getLast hne] at hc
    cases hc
    exact Bool.eq_false_iff.2 (List.rdropWhile_last_not _ _ hne)

end Tidy

end Prose

namespace Tree

theorem tidy_proseAll {ts : List Tree}
    (heach : ∀ t ∈ ts, ∀ out, Prose.Tidy out → Prose.Tidy (t.prose false false out))
    {out : List Char} (hout : Prose.Tidy out) : Prose.Tidy (proseAll false out ts) := by
  induction ts generalizing out with
  | nil => exact hout
  | cons t ts ih =>
      apply ih (fun u hu => heach u (List.mem_cons_of_mem t hu))
      exact heach t List.mem_cons_self out hout

theorem tidy_prose (t : Tree) (hpre : ∀ n ∈ t.labels, n.hasTag "PRE" = false) (top : Bool)
    {out : List Char} (hout : Prose.Tidy out) : Prose.Tidy (t.prose top false out) := by
  induction t using induct generalizing top out with
  | step n ts ih =>
      rw [labels_node] at hpre
      have hall : ∀ {out}, Prose.Tidy out → Prose.Tidy (proseAll false out ts) := by
        apply tidy_proseAll
        intro t ht out hout
        refine ih t ht (fun m hm => hpre m (List.mem_cons_of_mem n ?_)) false hout
        exact List.mem_flatMap.2 ⟨t, ht, hm⟩
      rw [prose]
      cases n.kind with
      | text => exact hout.addText n.value
      | cdataSection => exact hout.addText n.value
      | element =>
          dsimp only
          split
          · exact hout
          · rw [hpre n List.mem_cons_self]
            apply Prose.Tidy.atBlock
            exact hall (hout.atBlock n)
      | document => exact hall hout
      | documentFragment => exact hall hout
      | _ => exact hout

end Tree

/-! ## Nodes that are read -/

namespace Page

variable {p : Page} {root x : NodeId}

instance : DecidablePred (p.IsRead root) := fun y =>
  decidable_of_iff
    (root ∈ p.lineage y ∧
      ∀ z ∈ p.lineage y, root ∈ p.lineage z → z ≠ y → readsBelow root (p.node z) = true)
    (and_congr_right (fun _ => forall_congr' (fun _ => imp.swap)))

/-- What is to be seen of those among some nodes that are read. -/
def inkOf (p : Page) (root : NodeId) (ids : List NodeId) : List Char :=
  (ids.filter (fun y => (p.node y).kind.isCharacterData ∧ p.IsRead root y)).flatMap
    (fun y => Prose.ink (p.node y).value.toList)

theorem inkOf_append (p : Page) (root : NodeId) (ids ids' : List NodeId) :
    p.inkOf root (ids ++ ids') = p.inkOf root ids ++ p.inkOf root ids' := by
  rw [inkOf, List.filter_append, List.flatMap_append]
  rfl

theorem inkOf_of_forall {ids : List NodeId} (h : ∀ y ∈ ids, ¬ p.IsRead root y) :
    p.inkOf root ids = [] := by
  have hnone : ids.filter (fun y => (p.node y).kind.isCharacterData ∧ p.IsRead root y) = [] := by
    apply List.filter_eq_nil_iff.2
    intro y hy
    simp [h y hy]
  rw [inkOf, hnone, List.flatMap_nil]

theorem inkOf_cons_of_isRead (hx : p.IsRead root x) (ids : List NodeId) :
    p.inkOf root (x :: ids) =
      (if (p.node x).kind.isCharacterData then Prose.ink (p.node x).value.toList else []) ++
        p.inkOf root ids := by
  rw [inkOf, List.filter_cons]
  by_cases hdata : (p.node x).kind.isCharacterData = true
  · simp only [hdata, hx, and_self, decide_true, if_true, List.flatMap_cons]
    rfl
  · simp only [hdata, Bool.false_eq_true, false_and, decide_false, if_false, List.nil_append]
    rfl

theorem inkOf_below (h : p.WellFormed) (hx : root ∈ p.lineage x)
    (hbelow : readsBelow root (p.node x) = false) :
    p.inkOf root ((p.node x).children.flatMap (fun c => (p.tree c).ids)) = [] := by
  apply inkOf_of_forall
  intro y hy hread
  obtain ⟨c, hc, hy⟩ := List.mem_flatMap.1 hy
  rw [h.mem_ids_tree (h.lt_of_mem_children hc)] at hy
  have hparent := (h.mem_children_iff x c).1 hc
  have hxy := h.mem_lineage_trans (h.mem_lineage_of_parent hparent) hy
  have hne : x ≠ y := by
    rintro rfl
    exact h.not_mem_lineage_of_parent hparent hy
  have hgoes := hread.2 x hx hxy hne
  rw [hbelow] at hgoes
  cases hgoes

theorem isCharacterData_of_readsBelow {n : Node} (hbelow : readsBelow root n = true) :
    n.kind.isCharacterData = false := by
  unfold readsBelow at hbelow
  cases hkind : n.kind <;> simp only [hkind] at hbelow <;> first | rfl | cases hbelow

/-- Where the visible text goes on below a node, it writes the trees there one after the other. -/
theorem ink_prose_of_readsBelow {n : Node} (hbelow : readsBelow root n = true) (ts : List Tree)
    (verbatim : Bool) (out : List Char) :
    ∃ verbatim' out', Prose.ink out' = Prose.ink out ∧
      Prose.ink ((Tree.node n ts).prose (n.id == root) verbatim out) =
        Prose.ink (Tree.proseAll verbatim' out' ts) := by
  unfold readsBelow at hbelow
  rw [Tree.prose]
  cases hkind : n.kind <;> simp only [hkind] at hbelow ⊢ <;> try cases hbelow
  case element =>
    have hkept : (!(n.id == root) && (n.isUnrendered || n.isHidden)) = false := by
      cases htop : n.id == root with
      | true => rfl
      | false =>
          rw [htop, Bool.false_or] at hbelow
          simpa using hbelow
    rw [hkept, if_neg Bool.false_ne_true]
    exact ⟨_, _, Prose.ink_atBlock n out, Prose.ink_atBlock n _⟩
  case document => exact ⟨_, _, rfl, rfl⟩
  case documentFragment => exact ⟨_, _, rfl, rfl⟩

theorem prose_of_not_readsBelow {n : Node} (hbelow : readsBelow root n = false) (ts : List Tree)
    (verbatim : Bool) (out : List Char) :
    (Tree.node n ts).prose (n.id == root) verbatim out =
      if n.kind.isCharacterData then Prose.addText verbatim out n.value else out := by
  unfold readsBelow at hbelow
  rw [Tree.prose]
  cases hkind : n.kind <;> simp only [hkind] at hbelow ⊢ <;> try rfl
  case element =>
    rw [Bool.or_eq_false_iff, Bool.not_eq_false'] at hbelow
    rw [hbelow.1, hbelow.2]
    rfl
  case document => cases hbelow
  case documentFragment => cases hbelow

theorem ink_proseAll {cs : List NodeId}
    (heach : ∀ c ∈ cs, ∀ (verbatim : Bool) (out : List Char),
      Prose.ink ((p.tree c).prose false verbatim out) =
        Prose.ink out ++ p.inkOf root (p.tree c).ids) (verbatim : Bool) (out : List Char) :
    Prose.ink (Tree.proseAll verbatim out (cs.map p.tree)) =
      Prose.ink out ++ p.inkOf root (cs.flatMap (fun c => (p.tree c).ids)) := by
  induction cs generalizing out with
  | nil => exact (List.append_nil _).symm
  | cons c cs ih =>
      rw [List.map_cons, Tree.proseAll, ih (fun d hd => heach d (List.mem_cons_of_mem c hd)),
        heach c List.mem_cons_self, List.flatMap_cons, inkOf_append, List.append_assoc]

/-- The prose of the tree of a node that is read shows what the nodes in it that are read have to
show. -/
theorem WellFormed.ink_prose (h : p.WellFormed) (hx : p.IsRead root x) (hlt : x < p.size)
    (verbatim : Bool) (out : List Char) :
    Prose.ink ((p.tree x).prose (x == root) verbatim out) =
      Prose.ink out ++ p.inkOf root (p.tree x).ids := by
  induction x using h.down_induction generalizing verbatim out with
  | step x ih =>
      have hid : (p.node x).unlinked.id = x := h.id_node x hlt
      have htop : (x == root) = ((p.node x).unlinked.id == root) := by rw [hid]
      rw [h.ids_tree hlt, inkOf_cons_of_isRead hx, h.tree_eq, htop]
      cases hbelow : readsBelow root (p.node x) with
      | true =>
          -- the children are read too, and none of them is the root
          have hchildren : ∀ c ∈ (p.node x).children, ∀ (verbatim : Bool) (out : List Char),
              Prose.ink ((p.tree c).prose false verbatim out) =
                Prose.ink out ++ p.inkOf root (p.tree c).ids := by
            intro c hc
            have hparent := (h.mem_children_iff x c).1 hc
            have hne : (c == root) = false := by
              apply beq_eq_false_iff_ne.2
              rintro rfl
              exact h.not_mem_lineage_of_parent hparent hx.1
            have hread := ih c hc (hx.child h hparent hbelow) (h.lt_of_mem_children hc)
            rwa [hne] at hread
          obtain ⟨verbatim', out', hout, hink⟩ := ink_prose_of_readsBelow
            (n := (p.node x).unlinked) hbelow ((p.node x).children.map p.tree) verbatim out
          rw [hink, ink_proseAll hchildren, hout, isCharacterData_of_readsBelow hbelow,
            if_neg Bool.false_ne_true, List.nil_append]
      | false =>
          rw [prose_of_not_readsBelow (n := (p.node x).unlinked) hbelow, inkOf_below h hx.1 hbelow,
            List.append_nil]
          have hkind : (p.node x).unlinked.kind = (p.node x).kind := rfl
          rw [hkind]
          split
          · exact Prose.ink_addText verbatim out (p.node x).value
          · exact (List.append_nil _).symm

theorem WellFormed.exists_of_mem_labels (h : p.WellFormed) {n : Node}
    (hn : n ∈ (p.tree x).labels) : ∃ y, n = (p.node y).unlinked ∧ x ∈ p.lineage y := by
  induction x using h.down_induction with
  | step x ih =>
      rw [h.tree_eq, Tree.labels_node, List.flatMap_map] at hn
      rcases List.mem_cons.1 hn with rfl | hn
      · exact ⟨x, rfl, h.mem_lineage_self x⟩
      · obtain ⟨c, hc, hn⟩ := List.mem_flatMap.1 hn
        obtain ⟨y, rfl, hy⟩ := ih c hc hn
        have hparent := (h.mem_children_iff x c).1 hc
        exact ⟨y, rfl, h.mem_lineage_trans (h.mem_lineage_of_parent hparent) hy⟩

/-- Without its blanks, the visible text of a node is what the text nodes and CDATA sections that
are read have without theirs, in the order of a traversal. If no `PRE` element stands at or under
the node, the blanks of the text are spaces and line ends, no two of them are neighbours, and there
is none at the ends. -/
theorem visibleText_blanks (h : p.WellFormed) (hroot : root < p.size) :
    ∃ visited text, p.traverse root (fun n ids => .ok (ids ++ [n.id])) [] = .ok visited ∧
      p.visibleText root = .ok text ∧
      Prose.ink text.toList =
        (visited.filter (fun y => (p.node y).kind.isCharacterData ∧ p.IsRead root y)).flatMap
          (fun y => Prose.ink (p.node y).value.toList) ∧
      ((∀ y, root ∈ p.lineage y → (p.node y).hasTag "PRE" = false) →
        Prose.Tidy text.toList ∧ ∀ c ∈ text.toList.getLast?, Text.isBlank c = false) := by
  refine ⟨_, _, h.traverse_ids hroot, h.visibleText_prose hroot, ?_, ?_⟩
  · have hink := h.ink_prose (h.isRead_self root) hroot false []
    rw [beq_self_eq_true] at hink
    rw [String.toList_ofList, Prose.ink_trimList, hink]
    rfl
  · intro hpre
    rw [String.toList_ofList]
    apply Prose.Tidy.trimList
    apply Tree.tidy_prose _ _ _ .nil
    intro n hn
    obtain ⟨y, rfl, hy⟩ := h.exists_of_mem_labels hn
    exact hpre y hy

/-- A page with empty and blank elements between its texts. -/
def airyPage : Page :=
  [.addElement "div", .addText " \t one", .append 0 1, .addElement "p", .append 0 2,
    .addElement "p", .append 0 3, .addText " \n ", .append 3 4, .addElement "b", .append 0 5,
    .addText "two\u00a0 ", .append 5 6, .addText " three ", .append 0 7].foldl perform empty

theorem visibleText_blanks_airyPage :
    ∃ text, airyPage.visibleText 0 = .ok text ∧ Prose.ink text.toList = "onetwothree".toList ∧
      Prose.Tidy text.toList := by
  obtain ⟨visited, text, hvisited, htext, hink, htidy⟩ :=
    @visibleText_blanks airyPage 0 (wellFormed_edits _) (by decide)
  have hids : airyPage.traverse 0 (fun n ids => .ok (ids ++ [n.id])) [] =
      .ok [0, 1, 2, 3, 4, 5, 6, 7] := by decide +kernel
  rw [hids, Except.ok.injEq] at hvisited
  subst hvisited
  have hparts : ([0, 1, 2, 3, 4, 5, 6, 7].filter (fun y =>
      (airyPage.node y).kind.isCharacterData ∧ airyPage.IsRead 0 y)).flatMap
        (fun y => Prose.ink (airyPage.node y).value.toList) = "onetwothree".toList := by
    decide +kernel
  refine ⟨text, htext, hink.trans hparts, (htidy ?_).1⟩
  intro y _
  by_cases hy : y < 8
  · have hall : ∀ y < 8, (airyPage.node y).hasTag "PRE" = false := by decide +kernel
    exact hall y hy
  · have hsize : airyPage.size = 8 := by decide
    rw [node_of_le (hsize ▸ Nat.not_lt.1 hy)]
    decide +kernel

end Page

end PhraseMark
