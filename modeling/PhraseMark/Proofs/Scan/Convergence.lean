import Mathlib.Algebra.Ring.Nat
import PhraseMark.Proofs.Scan.Highlights
import PhraseMark.Proofs.Scan.Nesting
import PhraseMark.Proofs.Scan.Occurrences
import PhraseMark.Proofs.Scan.Shapes

/-!
# First hits again and again

A pass that has a hit takes something away from the text that can still be marked, and a pass
without a hit leaves the page as it is. So passes for first hits come to an end. A pass for all
hits marks after them what it would have marked before, and after the last of them it has nothing
left to mark: the end of the passes for first hits is the page with all hits marked.
-/

namespace PhraseMark

open Pattern

namespace Marking

variable {style : MarkStyle} {matcher marks : Matcher} {markerClass : String} {old : NodeId}
  {cs : List Char} {hits : List Span}

/-! ## Text that can be marked -/

/-- The number of characters in some texts. -/
def lengthOf (ns : List Node) : Nat := (ns.map (·.value.toList.length)).sum

@[simp] theorem lengthOf_nil : lengthOf [] = 0 := rfl

@[simp] theorem lengthOf_cons (n : Node) (ns : List Node) :
    lengthOf (n :: ns) = n.value.toList.length + lengthOf ns := by
  rw [lengthOf, List.map_cons, List.sum_cons, lengthOf]

@[simp] theorem lengthOf_append (ns ms : List Node) :
    lengthOf (ns ++ ms) = lengthOf ns + lengthOf ms := by
  rw [lengthOf, List.map_append, List.sum_append, lengthOf, lengthOf]

theorem texts_shape_plain (text : String) :
    ((Piece.plain text).shape markerClass old).texts (isOpen markerClass) =
      [{ Node.ofText text with id := old }] := by
  rw [Piece.shape_plain, Tree.texts_node, List.flatMap_nil, ite_self, List.append_nil]
  rfl

theorem texts_shape_hit (htoken : IsClassToken markerClass) (text : String) :
    ((Piece.hit text).shape markerClass old).texts (isOpen markerClass) = [] := by
  rw [Piece.shape_hit, Tree.texts_node, isOpen_marker htoken]
  rfl

theorem lengthOf_plainPiece (ds : List Char) :
    lengthOf ((plainPiece ds).flatMap
      (fun a => (a.shape markerClass old).texts (isOpen markerClass))) = ds.length := by
  rw [plainPiece]
  split
  · rename_i hnil
    rw [hnil]
    rfl
  · rw [List.flatMap_singleton, texts_shape_plain, lengthOf_cons, Node.ofText,
      String.toList_ofList]
    rfl

/-- Every mark takes some of a text away. -/
theorem lengthOf_fragmentFrom (htoken : IsClassToken markerClass) (old : NodeId) {cursor : Nat}
    (h : Between cursor cs.length hits) :
    lengthOf ((fragmentFrom cs cursor hits).flatMap
      (fun a => (a.shape markerClass old).texts (isOpen markerClass))) + hits.length ≤
        cs.length - cursor := by
  induction hits generalizing cursor with
  | nil =>
      rw [fragmentFrom, lengthOf_plainPiece, List.length_drop, List.length_nil, Nat.add_zero]
  | cons s rest ih =>
      obtain ⟨hstart, hlt, hrest⟩ := h
      have hle := hrest.le
      have hlater := ih hrest
      rw [fragmentFrom, List.flatMap_append, List.flatMap_cons, texts_shape_hit htoken,
        List.nil_append, lengthOf_append, lengthOf_plainPiece, length_slice (by omega),
        List.length_cons]
      omega

/-- The nodes that are entered and stay where texts are marked. -/
def isKept (markerClass : String) (marks : Matcher) (n : Node) : Bool :=
  isOpen markerClass n && (!n.isText || (marks n.value).isEmpty)

theorem lengthOf_flatMap {ts : List Tree} {f g k : Tree → List Node} {hit : Node → Bool}
    (h : ∀ t ∈ ts, lengthOf (f t) + (g t).countP hit ≤ lengthOf (k t)) :
    lengthOf (ts.flatMap f) + (ts.flatMap g).countP hit ≤ lengthOf (ts.flatMap k) := by
  induction ts with
  | nil => exact Nat.le_refl _
  | cons t ts ih =>
      have hfirst := h t List.mem_cons_self
      have hrest := ih (fun u hu => h u (List.mem_cons_of_mem t hu))
      rw [List.flatMap_cons, List.flatMap_cons, List.flatMap_cons, lengthOf_append,
        lengthOf_append, List.countP_append]
      omega

/-- Every text that gets marks takes some of the text that can be marked away. -/
theorem lengthOf_revise (htoken : IsClassToken markerClass)
    (hmarks : ∀ text, Between 0 text.toList.length (marks text)) (t : Tree) :
    lengthOf ((t.revise (marked markerClass old marks) (isOpen markerClass)).flatMap
        (Tree.texts (isOpen markerClass))) +
      (t.texts (isKept markerClass marks)).countP (fun n => !(marks n.value).isEmpty) ≤
        lengthOf (t.texts (isOpen markerClass)) := by
  induction t using Tree.induct with
  | step n ts ih =>
      have hinner := lengthOf_flatMap ih
      rw [Tree.revise_node, Tree.texts_node, Tree.texts_node]
      cases htext : n.isText with
      | false =>
          have hkept : isKept markerClass marks n = isOpen markerClass n := by
            rw [isKept, htext, Bool.not_false, Bool.true_or, Bool.and_true]
          rw [marked_of_not_isText _ htext, Option.getD_none, List.flatMap_singleton,
            Tree.texts_node, htext, hkept]
          cases isOpen markerClass n with
          | false => exact Nat.le_refl _
          | true => simpa [List.flatMap_assoc] using hinner
      | true =>
          have hopen : isOpen markerClass n = true := isOpen_of_isText htext
          rw [marked_of_isText htext, isKept, htext, hopen]
          cases hnil : marks n.value with
          | nil =>
              rw [cutAt, Option.map_none, Option.getD_none, List.flatMap_singleton,
                Tree.texts_node, htext, hopen]
              simp only [if_true, List.singleton_append, lengthOf_cons, List.isEmpty_nil,
                Bool.or_true, Bool.and_true, List.flatMap_assoc]
              rw [List.countP_cons_of_neg (by simp [hnil])]
              omega
          | cons s rest =>
              have hfragment := lengthOf_fragmentFrom htoken old (hmarks n.value)
              rw [hnil, List.length_cons] at hfragment
              rw [cutAt_of_ne_nil _ (List.cons_ne_nil s rest), Option.map_some, Option.getD_some,
                List.flatMap_map]
              simp only [if_true, List.singleton_append, lengthOf_cons, List.isEmpty_cons,
                Bool.not_true, Bool.or_false, Bool.and_false, Bool.false_eq_true, if_false]
              rw [List.countP_cons_of_pos (by simp [hnil]), List.countP_nil]
              omega

/-- A pass goes on below the nodes that are open and stay. -/
theorem goesOn_eq_isKept (hlawful : Lawful matcher) :
    goesOn style matcher = isKept style.markerClass (selected style matcher) := by
  funext n
  cases htext : n.isText with
  | false =>
      rw [goesOn_of_not_isText htext, isKept, htext, Bool.not_false, Bool.true_or, Bool.and_true]
      rfl
  | true =>
      rw [goesOn_of_isText htext, cutUp_eq_fragment hlawful, isKept, isOpen_of_isText htext, htext,
        fragment]
      cases selected style matcher n.value <;> rfl

theorem exists_hit_of_fragment {n : Node} {as : List Piece}
    (h : fragment style matcher n = some as) : ∃ text, Piece.hit text ∈ as := by
  unfold fragment at h
  split at h
  · cases h
  · rename_i hne
    cases h
    obtain ⟨s, rest, heq⟩ := List.exists_cons_of_ne_nil hne
    rw [heq, fragmentFrom]
    exact ⟨_, List.mem_append_right _ List.mem_cons_self⟩

theorem exists_hit_mem_number (i : NodeId) {as : List Piece} {text : String}
    (h : Piece.hit text ∈ as) : ∃ j, (j, Piece.hit text) ∈ number i as := by
  induction as generalizing i with
  | nil => cases h
  | cons a as ih =>
      rcases List.mem_cons.1 h with rfl | h
      · exact ⟨i, List.mem_cons_self⟩
      · obtain ⟨j, hj⟩ := ih (i + a.width) h
        exact ⟨j, List.mem_cons_of_mem _ hj⟩

theorem selected_first_eq_nil (markerClass : String) (matcher : Matcher) (text : String) :
    selected ⟨markerClass, false⟩ matcher text = [] ↔
      selected ⟨markerClass, true⟩ matcher text = [] := by
  simp [selected]

end Marking

namespace Page

open Marking

variable {p : Page} {root : NodeId} {style : MarkStyle} {matcher : Matcher} {markerClass : String}
  {ks : List Char} {old : NodeId}

/-! ## One pass -/

/-- The number of characters under a node that can still be marked. -/
def openLength (p : Page) (root : NodeId) (markerClass : String) : Nat :=
  lengthOf ((p.tree root).textsBelow (isOpen markerClass))

theorem openLength_eq (p : Page) (root : NodeId) (markerClass : String) (old : NodeId) :
    p.openLength root markerClass =
      lengthOf (((p.tree root).unnumber old).textsBelow (isOpen markerClass)) := by
  rw [openLength, Tree.textsBelow_unnumber (fun _ => rfl), lengthOf, lengthOf, List.map_map]
  rfl

/-- Every hit takes some of the text that can be marked away. -/
theorem WellFormed.openLength_mark (h : p.WellFormed) (hroot : root < p.size)
    (htoken : IsClassToken style.markerClass) (hlawful : Lawful matcher) :
    (p.mark root style matcher).page.openLength root style.markerClass +
      ((p.tree root).textsBelow (goesOn style matcher)).countP
        (fun n => !(selected style matcher n.value).isEmpty) ≤
          p.openLength root style.markerClass := by
  have hcount : ((p.tree root).textsBelow (goesOn style matcher)).countP
      (fun n => !(selected style matcher n.value).isEmpty) =
        (((p.tree root).unnumber p.size).textsBelow
          (isKept style.markerClass (selected style matcher))).countP
            (fun n => !(selected style matcher n.value).isEmpty) := by
    rw [Tree.textsBelow_unnumber (fun _ => rfl), List.countP_map, goesOn_eq_isKept hlawful]
    rfl
  rw [openLength_eq p root style.markerClass p.size, openLength_eq _ root style.markerClass p.size,
    h.unnumber_mark hroot htoken hlawful (Nat.le_refl _), hcount, withMarks]
  cases (p.tree root).unnumber p.size with
  | node n ts =>
      rw [Tree.reviseBelow, Tree.textsBelow, Tree.textsBelow, Tree.textsBelow, List.flatMap_assoc]
      apply lengthOf_flatMap
      intro t _
      exact lengthOf_revise htoken (between_selected hlawful style) t

/-- No text node that a pass comes to has a hit to mark. -/
def Exhausted (p : Page) (root : NodeId) (style : MarkStyle) (matcher : Matcher) : Prop :=
  ∀ n ∈ (p.tree root).textsBelow (goesOn style matcher), selected style matcher n.value = []

theorem WellFormed.mark_of_exhausted (h : p.WellFormed) (hroot : root < p.size)
    (htoken : IsClassToken style.markerClass) (hlawful : Lawful matcher)
    (hnone : p.Exhausted root style matcher) :
    (p.mark root style matcher).highlights = [] ∧ (p.mark root style matcher).page = p := by
  have hdone := h.mark_completes hroot htoken matcher
  have hplan : plan (cutUp style matcher) p.size
      ((p.tree root).textsBelow (goesOn style matcher)) = [] := by
    apply List.eq_nil_iff_forall_not_mem.2
    intro cut hcut
    obtain ⟨n, hn, as, i, has, -⟩ := exists_of_mem_plan hcut
    rw [cutUp_eq_fragment hlawful, fragment, hnone n hn] at has
    cases has
  rw [hplan] at hdone
  exact ⟨hdone.highlights, hdone.page.trans (p.batch_nil _)⟩

theorem WellFormed.highlights_ne_nil (h : p.WellFormed) (hroot : root < p.size)
    (htoken : IsClassToken style.markerClass) (hlawful : Lawful matcher)
    (hsome : ¬ p.Exhausted root style matcher) : (p.mark root style matcher).highlights ≠ [] := by
  have hdone := h.mark_completes hroot htoken matcher
  simp only [Exhausted, not_forall] at hsome
  obtain ⟨n, hn, hhits⟩ := hsome
  obtain ⟨cut, hcut, -⟩ := exists_mem_plan hn (cutUp_of_ne_nil
    (chosen_eq_selected hlawful style n.value ▸ hhits)) p.size
  obtain ⟨m, -, as, i, has, -, hpieces⟩ := exists_of_mem_plan hcut
  rw [cutUp_eq_fragment hlawful] at has
  obtain ⟨text, htext⟩ := exists_hit_of_fragment has
  obtain ⟨j, hj⟩ := exists_hit_mem_number i htext
  rw [hdone.highlights]
  apply List.ne_nil_of_mem (a := ⟨j, text⟩)
  exact mem_highlightsOfCuts.2 ⟨cut, hcut, hpieces ▸ hj⟩

/-- A pass finds nothing and leaves the page as it is, or it shortens the text that can be
marked. -/
theorem WellFormed.mark_cases (h : p.WellFormed) (hroot : root < p.size)
    (htoken : IsClassToken style.markerClass) (hlawful : Lawful matcher) :
    (p.Exhausted root style matcher ∧ (p.mark root style matcher).highlights = [] ∧
        (p.mark root style matcher).page = p) ∨
      ((p.mark root style matcher).highlights ≠ [] ∧
        (p.mark root style matcher).page.openLength root style.markerClass <
          p.openLength root style.markerClass) := by
  by_cases hexhausted : p.Exhausted root style matcher
  · exact .inl ⟨hexhausted, h.mark_of_exhausted hroot htoken hlawful hexhausted⟩
  · refine .inr ⟨h.highlights_ne_nil hroot htoken hlawful hexhausted, ?_⟩
    simp only [Exhausted, not_forall] at hexhausted
    obtain ⟨n, hn, hhits⟩ := hexhausted
    have hle := h.openLength_mark hroot htoken hlawful
    have hpos : 0 < ((p.tree root).textsBelow (goesOn style matcher)).countP
        (fun n => !(selected style matcher n.value).isEmpty) := by
      apply List.countP_pos_iff.2
      exact ⟨n, hn, by simpa using hhits⟩
    omega

/-! ## Passes for first hits -/

/-- The page after `k` passes that mark first hits. -/
def firsts (p : Page) (root : NodeId) (markerClass : String) (matcher : Matcher) (k : Nat) : Page :=
  p.rounds root markerClass (List.replicate k { all := false, matcher })

theorem firsts_succ (p : Page) (root : NodeId) (markerClass : String) (matcher : Matcher)
    (k : Nat) : p.firsts root markerClass matcher (k + 1) =
      (p.mark root ⟨markerClass, false⟩ matcher).page.firsts root markerClass matcher k := rfl

theorem WellFormed.firsts (h : p.WellFormed) (root : NodeId) (htoken : IsClassToken markerClass)
    (matcher : Matcher) (k : Nat) : (p.firsts root markerClass matcher k).WellFormed :=
  (h.rounds_keep root htoken _).1

theorem WellFormed.size_le_firsts (h : p.WellFormed) (hroot : root < p.size)
    (htoken : IsClassToken markerClass) (matcher : Matcher) (k : Nat) :
    p.size ≤ (p.firsts root markerClass matcher k).size := by
  induction k generalizing p with
  | zero => exact Nat.le_refl _
  | succ k ih =>
      have hdone := h.mark_completes hroot (htoken.withAll false) matcher
      have hsize := h.size_le_mark hroot (htoken.withAll false) matcher
      rw [firsts_succ]
      exact Nat.le_trans hsize (ih hdone.wellFormed (Nat.lt_of_lt_of_le hroot hsize))

theorem WellFormed.exists_firsts_exhausted (h : p.WellFormed) (hroot : root < p.size)
    (htoken : IsClassToken markerClass) (hlawful : Lawful matcher) :
    ∃ n, (∀ i < n, ((p.firsts root markerClass matcher i).mark root ⟨markerClass, false⟩
        matcher).highlights ≠ []) ∧
      (p.firsts root markerClass matcher n).Exhausted root ⟨markerClass, false⟩ matcher := by
  -- a pass that finds a hit leaves less text that can be marked
  induction hlength : p.openLength root markerClass using Nat.strongRecOn generalizing p with
  | _ length ih =>
      rcases h.mark_cases hroot (htoken.withAll false) hlawful with
        ⟨hexhausted, -⟩ | ⟨hne, hlt⟩
      · exact ⟨0, fun i hi => absurd hi (Nat.not_lt_zero i), hexhausted⟩
      · have hdone := h.mark_completes hroot (htoken.withAll false) matcher
        have hsize := h.size_le_mark hroot (htoken.withAll false) matcher
        obtain ⟨n, hbefore, hexhausted⟩ := ih _ (hlength ▸ hlt) hdone.wellFormed
          (Nat.lt_of_lt_of_le hroot hsize) rfl
        refine ⟨n + 1, ?_, hexhausted⟩
        intro i hi
        cases i with
        | zero => exact hne
        | succ i => exact hbefore i (Nat.lt_of_succ_lt_succ hi)

/-! ## A pass for all hits -/

theorem exhausted_first_iff (hlawful : Lawful matcher) :
    p.Exhausted root ⟨markerClass, false⟩ matcher ↔
      p.Exhausted root ⟨markerClass, true⟩ matcher := by
  have hkept : goesOn ⟨markerClass, false⟩ matcher = goesOn ⟨markerClass, true⟩ matcher := by
    rw [goesOn_eq_isKept hlawful, goesOn_eq_isKept hlawful]
    funext n
    have hempty : (selected ⟨markerClass, false⟩ matcher n.value).isEmpty =
        (selected ⟨markerClass, true⟩ matcher n.value).isEmpty := by
      rw [Bool.eq_iff_iff, List.isEmpty_iff, List.isEmpty_iff]
      exact selected_first_eq_nil markerClass matcher n.value
    rw [isKept, isKept, hempty]
  simp only [Exhausted, hkept, selected_first_eq_nil]

/-- A pass for all hits leaves after another pass what it leaves alone. -/
theorem WellFormed.unnumber_mark_mark (h : p.WellFormed) (hroot : root < p.size)
    (htoken : IsClassToken style.markerClass) (hlawful : Lawful matcher) (hfinds : Finds ks matcher)
    (hold : old ≤ p.size) :
    ((((p.mark root style matcher).page.mark root ⟨style.markerClass, true⟩ matcher).page.tree
        root).unnumber old) =
      ((p.mark root ⟨style.markerClass, true⟩ matcher).page.tree root).unnumber old := by
  have hdone := h.mark_completes hroot htoken matcher
  have hsize := h.size_le_mark hroot htoken matcher
  rw [hdone.wellFormed.unnumber_mark
      (Nat.lt_of_lt_of_le hroot hsize) (htoken.withAll true) hlawful (Nat.le_trans hold hsize),
    h.unnumber_mark hroot htoken hlawful hold,
    h.unnumber_mark hroot (htoken.withAll true) hlawful hold,
    withMarks_withMarks (htoken.withAll true) hlawful (between_selected hlawful style)]
  apply withMarks_congr
  exact fun n _ => hfinds.addMarks_selected style style.markerClass n.value

theorem WellFormed.unnumber_firsts_mark (h : p.WellFormed) (hroot : root < p.size)
    (htoken : IsClassToken markerClass) (hlawful : Lawful matcher) (hfinds : Finds ks matcher)
    (hold : old ≤ p.size) (k : Nat) :
    ((((p.firsts root markerClass matcher k).mark root ⟨markerClass, true⟩ matcher).page.tree
        root).unnumber old) =
      ((p.mark root ⟨markerClass, true⟩ matcher).page.tree root).unnumber old := by
  induction k generalizing p with
  | zero => rfl
  | succ k ih =>
      have hdone := h.mark_completes hroot (htoken.withAll false) matcher
      have hsize := h.size_le_mark hroot (htoken.withAll false) matcher
      rw [firsts_succ, ih hdone.wellFormed (Nat.lt_of_lt_of_le hroot hsize)
        (Nat.le_trans hold hsize)]
      exact h.unnumber_mark_mark hroot (htoken.withAll false) hlawful hfinds hold

/-- After a pass for all hits there is nothing left to mark. -/
theorem WellFormed.exhausted_mark_all (h : p.WellFormed) (hroot : root < p.size)
    (htoken : IsClassToken markerClass) (hlawful : Lawful matcher) (hfinds : Finds ks matcher) :
    ((p.mark root ⟨markerClass, true⟩ matcher).page.mark root ⟨markerClass, true⟩
        matcher).highlights = [] ∧
      ((p.mark root ⟨markerClass, true⟩ matcher).page.mark root ⟨markerClass, true⟩
        matcher).page = (p.mark root ⟨markerClass, true⟩ matcher).page := by
  have hdone := h.mark_completes hroot (htoken.withAll true) matcher
  have hsize := h.size_le_mark hroot (htoken.withAll true) matcher
  have hsame := h.unnumber_mark_mark hroot (htoken.withAll true) hlawful hfinds
    (Nat.le_refl p.size)
  rcases hdone.wellFormed.mark_cases (Nat.lt_of_lt_of_le hroot hsize) (htoken.withAll true)
    hlawful with ⟨-, hquiet⟩ | ⟨-, hlt⟩
  · exact hquiet
  · -- a tree that stays the same has as much text that can be marked
    rw [openLength_eq _ root _ p.size, hsame, ← openLength_eq] at hlt
    exact absurd hlt (Nat.lt_irrefl _)

/-- Marking first hits until there are none marks all hits. Take a keyword that stands for itself,
a well-formed page, any node as root and a class of one token. Passes for first hits find hits for
a while, and then one finds none and leaves the page as it is. The tree of the root is then the one
that a single pass for all hits leaves, up to the numbers of the nodes that the passes have added.
A second pass for all hits finds nothing and leaves the page as it is. All these passes come to
their ends if the root exists. -/
theorem firsts_converge (h : p.WellFormed) (htoken : IsClassToken markerClass)
    {config : ScanConfig} {k : String} {pattern : Regex} (hmode : config.patternMode = .literal)
    (hk : (compileKeyword config k).2 = .ok pattern) (root : NodeId) :
    (∃ n,
      (∀ i < n, ((p.firsts root markerClass pattern.spans i).mark root ⟨markerClass, false⟩
        pattern.spans).highlights ≠ []) ∧
      ((p.firsts root markerClass pattern.spans n).mark root ⟨markerClass, false⟩
        pattern.spans).highlights = [] ∧
      ((p.firsts root markerClass pattern.spans n).mark root ⟨markerClass, false⟩
        pattern.spans).page = p.firsts root markerClass pattern.spans n ∧
      ((p.firsts root markerClass pattern.spans n).tree root).unnumber p.size =
        ((p.mark root ⟨markerClass, true⟩ pattern.spans).page.tree root).unnumber p.size ∧
      (root < p.size → ∀ i ≤ n, ((p.firsts root markerClass pattern.spans i).mark root
        ⟨markerClass, false⟩ pattern.spans).ending = .finished)) ∧
    ((p.mark root ⟨markerClass, true⟩ pattern.spans).page.mark root ⟨markerClass, true⟩
      pattern.spans).highlights = [] ∧
    ((p.mark root ⟨markerClass, true⟩ pattern.spans).page.mark root ⟨markerClass, true⟩
      pattern.spans).page = (p.mark root ⟨markerClass, true⟩ pattern.spans).page ∧
    (root < p.size →
      (p.mark root ⟨markerClass, true⟩ pattern.spans).ending = .finished ∧
      ((p.mark root ⟨markerClass, true⟩ pattern.spans).page.mark root ⟨markerClass, true⟩
        pattern.spans).ending = .finished) := by
  have hlawful := lawful_spans pattern
  have hfinds := finds_of_compileKeyword hmode hk
  by_cases hroot : root < p.size
  · have hall := h.mark_completes hroot (htoken.withAll true) pattern.spans
    have hsize := h.size_le_mark hroot (htoken.withAll true) pattern.spans
    obtain ⟨hquiet, hkept⟩ := h.exhausted_mark_all hroot htoken hlawful hfinds
    obtain ⟨n, hbefore, hexhausted⟩ := h.exists_firsts_exhausted hroot htoken hlawful
    have hlater : ∀ i, root < (p.firsts root markerClass pattern.spans i).size :=
      fun i => Nat.lt_of_lt_of_le hroot (h.size_le_firsts hroot htoken pattern.spans i)
    have hwf := h.firsts root htoken pattern.spans n
    obtain ⟨hnone, hpage⟩ := hwf.mark_of_exhausted (hlater n) (htoken.withAll false)
      hlawful hexhausted
    -- where no first hit is left, a pass for all hits changes nothing either
    obtain ⟨-, hsame⟩ := hwf.mark_of_exhausted (hlater n) (htoken.withAll true)
      hlawful ((exhausted_first_iff hlawful).1 hexhausted)
    have htree := h.unnumber_firsts_mark hroot htoken hlawful hfinds (Nat.le_refl p.size) n
    rw [hsame] at htree
    refine ⟨⟨n, hbefore, hnone, hpage, htree, ?_⟩, hquiet, hkept, ?_⟩
    · intro _ i _
      exact ((h.firsts root htoken pattern.spans i).mark_completes
        (hlater i) (htoken.withAll false) pattern.spans).ending
    · intro _
      exact ⟨hall.ending, (hall.wellFormed.mark_completes
        (Nat.lt_of_lt_of_le hroot hsize) (htoken.withAll true) pattern.spans).ending⟩
  · have hnone := fun style => mark_of_le (Nat.not_lt.1 hroot) style pattern.spans
    have hzero : p.firsts root markerClass pattern.spans 0 = p := rfl
    refine ⟨⟨0, fun i hi => absurd hi (Nat.not_lt_zero i), ?_⟩, ?_⟩
    · rw [hzero, hnone, hnone]
      exact ⟨rfl, rfl, rfl, fun hlt => absurd hlt hroot⟩
    · rw [hnone]
      exact ⟨by rw [hnone], by rw [hnone], fun hlt => absurd hlt hroot⟩

theorem firsts_converge_samplePage :
    (∃ n, ((samplePage.firsts 0 "hit" samplePattern.spans n).mark 0 ⟨"hit", false⟩
        samplePattern.spans).highlights = [] ∧
      ((samplePage.firsts 0 "hit" samplePattern.spans n).tree 0).unnumber 2 =
        ((samplePage.mark 0 ⟨"hit", true⟩ samplePattern.spans).page.tree 0).unnumber 2) ∧
    ((samplePage.mark 0 ⟨"hit", true⟩ samplePattern.spans).page.mark 0 ⟨"hit", true⟩
      samplePattern.spans).highlights = [] := by
  obtain ⟨⟨n, -, hnone, -, htree, -⟩, hquiet, -⟩ :=
    @firsts_converge samplePage "hit" consistent_samplePage.toWellFormed (by decide) {} "1"
      samplePattern rfl compileKeyword_samplePattern 0
  exact ⟨⟨n, hnone, htree⟩, hquiet⟩

end Page

end PhraseMark
