import PhraseMark.Proofs.Scan.FirstOccurrences

/-!
# How far a pass goes

A pass that does not come back to what it has marked comes to no more text nodes than the page had.
For a keyword that stands for itself, a pass that comes back once does so for ever: the marked text
is a hit as a whole. It comes back where the class of the markers is not one token and a mark ends
its text node, so that the walk goes on from the marker itself.
-/

namespace PhraseMark

open Pattern Marking
open Text (OccursAt)

namespace Marking

variable {style : MarkStyle} {matcher : Matcher} {ks : List Char} {n : Node} {p : Page}
  {w : Walker}

/-- The last hit that is marked in a text node ends the text. -/
def EndsMarked (style : MarkStyle) (matcher : Matcher) (n : Node) : Prop :=
  ∃ s, (chosen style matcher n.value).getLast? = some s ∧ s.stop = n.value.toList.length

theorem EndsMarked.chosen_ne_nil (h : EndsMarked style matcher n) :
    chosen style matcher n.value ≠ [] := by
  intro hnil
  obtain ⟨s, hs, -⟩ := h
  rw [hnil] at hs
  cases hs

theorem visited_run_le (style : MarkStyle) (matcher : Matcher) (steps : Nat) (w : Walker)
    (p : Page) : (run style matcher steps w p).visited ≤ steps := by
  induction steps generalizing w p with
  | zero => exact Nat.le_refl 0
  | succ steps ih =>
      unfold run
      split
      · exact Nat.zero_le _
      · exact Nat.zero_le _
      · split
        · exact Nat.le_add_left 1 steps
        · split
          · exact Nat.succ_le_succ (ih _ _)
          · dsimp only
            split
            · exact Nat.le_add_left 1 steps
            · exact Nat.succ_le_succ (ih _ _)

namespace Finds

variable (h : Finds ks matcher)

include h

theorem occurs_of_mem_chosen {text : String} {s : Span} (hs : s ∈ chosen style matcher text) :
    OccursAt ks text.toList s.start ∧ s.stop = s.start + ks.length := by
  have hfound : s ∈ (matcher text).filter (! ·.isEmpty) := by
    unfold chosen at hs
    split at hs
    · exact hs
    · exact List.mem_of_mem_take hs
  exact (h.leftmost text).occurs_of_mem (List.mem_filter.1 hfound).1

/-- A text node whose text goes on after its last mark is left behind. -/
theorem leftBehind (hends : ¬ EndsMarked style matcher n) {as : List Piece}
    (has : cutUp style matcher n = some as) : LeftBehind style as := by
  have hchosen : chosen style matcher n.value ≠ [] := by
    intro hnil
    rw [cutUp_of_nil hnil] at has
    cases has
  rw [cutUp_of_ne_nil hchosen, Option.some.injEq] at has
  have hs := List.getLast?_eq_some_getLast hchosen
  obtain ⟨hoccurs, hstop⟩ := h.occurs_of_mem_chosen (List.getLast_mem hchosen)
  have hle := hoccurs.le_length h.ne_nil
  rw [← hstop] at hle
  have hlt := Nat.lt_of_le_of_ne hle (fun heq => hends ⟨_, hs, heq⟩)
  intro text htext
  rw [← has, getLast?_piecesFrom hs, if_pos hlt] at htext
  cases htext

/-- Where a mark ends a text node, the last piece is a marker, and its text is a hit as a whole. -/
theorem exists_whole_of_endsMarked (hends : EndsMarked style matcher n) :
    ∃ text, (piecesFrom n.value.toList 0 (chosen style matcher n.value)).getLast? =
        some (.hit text) ∧ chosen style matcher text = [⟨0, text.toList.length⟩] := by
  obtain ⟨s, hs, hstop⟩ := hends
  obtain ⟨hoccurs, hlength⟩ := h.occurs_of_mem_chosen (List.mem_of_getLast? hs)
  refine ⟨.ofList (s.slice n.value.toList), ?_, ?_⟩
  · rw [getLast?_piecesFrom hs, if_neg (Nat.not_lt.2 hstop.ge)]
  · apply h.chosen_whole style
    · rw [String.toList_ofList, Span.slice, Text.occursAt_take h.ne_nil, Text.occursAt_drop]
      exact ⟨hoccurs, by omega⟩
    · rw [String.toList_ofList, Span.slice, List.length_take, List.length_drop]
      omega

end Finds

/-- With a class that is not one token, a pass that marks the end of a text node comes to the text
in its last marker, and to nothing else from then on. -/
theorem run_unfinished_of_hit (hclass : ¬ IsClassToken style.markerClass)
    (hfinds : Finds ks matcher) (h : p.WellFormed) (hw : w.rejects = avoids style)
    (hroot : w.root < p.size) {y : NodeId} {cs : List NodeId}
    (hnext : w.next p = (w.moveTo y, .ok (some y))) (hb : p.AheadBelow w.root y cs)
    (hends : EndsMarked style matcher (p.node y)) (steps : Nat) :
    (run style matcher (steps + 1) w p).ending = .unfinished ∧
      (run style matcher (steps + 1) w p).visited = steps + 1 := by
  obtain ⟨text, hpiece, hwhole⟩ := hfinds.exists_whole_of_endsMarked hends
  obtain ⟨hreplace, last, hlast, hchases, -⟩ :=
    exists_last_of_back hclass h hw hroot hb hpiece rfl
  obtain ⟨hending, -, hvisited⟩ := hchases.run_unfinished hclass hwhole steps
  have hget := Page.get_of_lt (hb.ahead.lt_size h hroot)
  rw [run_of_hit hnext hget hends.chosen_ne_nil rfl hreplace hlast]
  exact ⟨hending, congrArg (· + 1) hvisited⟩

/-- With a class that is not one token, a pass does not come to its end if a mark will end one of
the text nodes ahead of it. -/
theorem run_unfinished_of_endsMarked (hclass : ¬ IsClassToken style.markerClass)
    (hfinds : Finds ks matcher) (h : p.WellFormed) (hw : w.rejects = avoids style)
    (hroot : w.root < p.size) {rest : List NodeId} (ha : p.Ahead w.root w.current rest)
    {ns : List Node}
    (hns : p.textsOf (goesOn style matcher) (w.entered p w.current ++ rest) = ns)
    (hends : ∃ n ∈ ns, EndsMarked style matcher n) (steps : Nat) :
    (run style matcher steps w p).ending = .unfinished ∧
      (run style matcher steps w p).visited = steps := by
  induction steps generalizing p w rest ns with
  | zero => exact ⟨rfl, rfl⟩
  | succ steps ih =>
      rcases ahead_cases matcher h hw hroot ha hns with
        ⟨rfl, -⟩ | ⟨y, cs, ms, rfl, hnext, hget, hb, hy⟩
      · obtain ⟨n, hn, -⟩ := hends
        cases hn
      · by_cases hmark : EndsMarked style matcher (p.node y)
        · exact run_unfinished_of_hit hclass hfinds h hw hroot hnext hb hmark steps
        · -- this text node is left behind, so the one whose end is marked is still ahead
          have hends' := ((List.exists_mem_cons_iff _ _ _).1 hends).resolve_left hmark
          rcases hy with ⟨hchosen, hrest⟩ | ⟨hchosen, hrest⟩
          · obtain ⟨hending, hvisited⟩ :=
              ih (w := w.moveTo y) h hw hroot hb.ahead hrest hends'
            rw [run_of_skip hnext hget hchosen]
            exact ⟨hending, congrArg (· + 1) hvisited⟩
          · have hleft := hfinds.leftBehind hmark (cutUp_of_ne_nil hchosen)
            obtain ⟨hreplace, hq, hqroot, last, hlast, haq, hqrest⟩ :=
              exists_last_of_hit h hw hroot hb hchosen hleft rfl
            obtain ⟨hending, hvisited⟩ := ih (w := (w.moveTo y).moveTo last) hq hw hqroot haq
              (hqrest.trans hrest) hends'
            rw [run_of_hit hnext hget hchosen rfl hreplace hlast]
            exact ⟨hending, congrArg (· + 1) hvisited⟩

end Marking

namespace Page

variable {p : Page} {root : NodeId} {style : MarkStyle} {matcher : Matcher}

/-- The text nodes under `root`. -/
def textsUnder (p : Page) (root : NodeId) : List NodeId :=
  (p.tree root).ids.filter (fun y => (p.node y).isText ∧ y ≠ root)

/-- However many steps it is granted, a pass under `root` comes to no more text nodes than there
are before it. -/
def Bounded (p : Page) (root : NodeId) (style : MarkStyle) (matcher : Matcher) : Prop :=
  ∀ steps, (run style matcher steps (.start root (avoids style)) p).visited ≤
    (p.textsUnder root).length

/-- A pass does not come back to what it has marked: it knows its markers, or none of them ends a
text node. -/
def LeavesMarks (p : Page) (root : NodeId) (style : MarkStyle) (matcher : Matcher) : Prop :=
  IsClassToken style.markerClass ∨ ∀ n ∈ p.markable root style, ¬ EndsMarked style matcher n

theorem WellFormed.length_markable_le (h : p.WellFormed) (root : NodeId) (style : MarkStyle) :
    (p.markable root style).length ≤ (p.textsUnder root).length := by
  have hids : ((p.markable root style).map (·.id)).Sublist (p.tree root).ids :=
    ((p.tree root).textsBelow_sublist _).map (·.id)
  have hkept := hids.filter (fun y => (p.node y).isText ∧ y ≠ root)
  rw [List.filter_eq_self.2] at hkept
  · have hle := hkept.length_le
    rwa [List.length_map] at hle
  · intro y hy
    obtain ⟨n, hn, rfl⟩ := List.mem_map.1 hy
    obtain ⟨y, rfl, htext, -, hne, -⟩ := h.mem_markable.1 hn
    have hid : (p.node y).unlinked.id = y := h.id_node y (lt_of_isText htext)
    rw [hid, decide_eq_true_iff]
    exact ⟨htext, hne⟩

theorem WellFormed.textsOf_start_markable (h : p.WellFormed) (hchildless : p.TextsChildless)
    (root : NodeId) (style : MarkStyle) (matcher : Matcher) :
    p.textsOf (goesOn style matcher) ((Walker.start root (avoids style)).entered p root ++ []) =
      p.markable root style := by
  rw [h.textsOf_start, markable, h.textsBelow_tree, h.textsBelow_tree]
  exact List.flatMap_congr (fun c _ => h.texts_goesOn hchildless style matcher c)

theorem WellFormed.markable_of_le (h : p.WellFormed) (hroot : p.size ≤ root) (style : MarkStyle) :
    p.markable root style = [] := by
  rw [markable, h.textsBelow_tree, children_of_le hroot]
  rfl

/-- A pass that leaves its marks behind ends, and comes once to every text node that it can
mark. -/
theorem WellFormed.run_of_leavesMarks (h : p.WellFormed) (hchildless : p.TextsChildless)
    {ks : List Char} (hfinds : Finds ks matcher) (hleaves : p.LeavesMarks root style matcher)
    {steps : Nat} (hsteps : (p.markable root style).length < steps) :
    (run style matcher steps (.start root (avoids style)) p).ending ≠ .unfinished ∧
      (run style matcher steps (.start root (avoids style)) p).visited =
        (p.markable root style).length := by
  by_cases hroot : root < p.size
  · have hleft : ∀ n ∈ p.markable root style, ∀ as, cutUp style matcher n = some as →
        LeftBehind style as := by
      intro n hn as has
      rcases hleaves with htoken | hends
      · exact fun _ _ => htoken
      · exact hfinds.leftBehind (hends n hn) has
    have hdone := run_completes (w := .start root (avoids style)) h rfl hroot .root
      (h.textsOf_start_markable hchildless root style matcher) hleft hsteps
    refine ⟨?_, hdone.visited⟩
    rw [hdone.ending]
    exact Ending.noConfusion
  · have hle := Nat.le_of_not_lt hroot
    have hnext := Walker.next_of_le (.start root (avoids style)) hle
    obtain ⟨steps, rfl⟩ := Nat.exists_eq_succ_of_ne_zero (Nat.ne_zero_of_lt hsteps)
    rw [run, hnext, h.markable_of_le hle]
    exact ⟨Ending.noConfusion, rfl⟩

theorem WellFormed.run_of_not_leavesMarks (h : p.WellFormed) (hchildless : p.TextsChildless)
    {ks : List Char} (hfinds : Finds ks matcher) (hback : ¬ p.LeavesMarks root style matcher)
    (steps : Nat) :
    (run style matcher steps (.start root (avoids style)) p).ending = .unfinished ∧
      (run style matcher steps (.start root (avoids style)) p).visited = steps := by
  rw [LeavesMarks, not_or] at hback
  push Not at hback
  obtain ⟨hclass, n, hn, hends⟩ := hback
  have hroot : root < p.size := by
    by_contra hle
    rw [h.markable_of_le (Nat.le_of_not_lt hle)] at hn
    cases hn
  exact run_unfinished_of_endsMarked (w := .start root (avoids style)) hclass hfinds h rfl hroot
    .root (h.textsOf_start_markable hchildless root style matcher) ⟨n, hn, hends⟩ steps

/-- A pass that leaves its marks behind ends with the steps it is granted, and no other does. -/
theorem WellFormed.mark_unfinished_iff_leavesMarks (h : p.WellFormed)
    (hchildless : p.TextsChildless) {ks : List Char} (hfinds : Finds ks matcher)
    (hroot : root < p.size) : (p.mark root style matcher).ending = .unfinished ↔
      ¬ p.LeavesMarks root style matcher := by
  refine ⟨fun hending hleaves => ?_, fun hback => (h.run_of_not_leavesMarks hchildless hfinds
    hback _).1⟩
  have hlength : (p.markable root style).length < stepLimit p :=
    Nat.lt_of_le_of_lt (h.length_textsBelow_le hroot _) p.size_lt_stepLimit
  exact (h.run_of_leavesMarks hchildless hfinds hleaves hlength).1 hending

/-- A scan for one keyword that stands for itself, and occurs, goes on for ever just if its pass
comes back to what it has marked. -/
theorem WellFormed.scan_unfinished_iff_leavesMarks (h : p.WellFormed)
    (hchildless : p.TextsChildless) {config : ScanConfig} {text keyword : String}
    (hmode : config.patternMode = .literal) (hmax : config.maxPatternLength ≤ 500)
    (hbody : p.body? = some root) (htext : p.visibleText root = .ok text)
    (htakes : config.Takes keyword) (hoccurs : Text.Occurs keyword (Text.lowercase text))
    (scanId : String) :
    ∃ matcher, Finds keyword.toList matcher ∧
      ((p.scan scanId (Source.ofList [keyword]) config).outcome = .unfinished ↔
        ¬ p.LeavesMarks root config.markStyle matcher) := by
  obtain ⟨k, hfound, rfl, hfinds⟩ := exists_found_single hmode hmax htakes hoccurs
  have hks : (Source.ofList [k.keyword]).keywords = .ok [k.keyword] := rfl
  refine ⟨k.pattern.spans, hfinds, ?_⟩
  rw [h.scan_unfinished_iff hbody htext hks, ← h.not_passesEnd_iff, hfound,
    ← h.mark_unfinished_iff_leavesMarks hchildless hfinds (h.body?_some hbody).1, PassesEnd,
    passes, passes, List.forall_mem_singleton, not_ne_iff]

/-- For a keyword that stands for itself, a pass is bounded by the text nodes under its root exactly
if it leaves its marks behind. It then ends, after it has come once to every text node that it can
mark; otherwise it does not end at all. -/
theorem bounded_iff_leavesMarks (h : p.WellFormed) (hchildless : p.TextsChildless) (root : NodeId)
    {config : ScanConfig} (hmode : config.patternMode = .literal) {k : String} {pattern : Regex}
    (hcompiled : (compileKeyword config k).2 = .ok pattern) :
    (p.Bounded root config.markStyle pattern.spans ↔
      p.LeavesMarks root config.markStyle pattern.spans) ∧
    (p.LeavesMarks root config.markStyle pattern.spans →
      ∀ steps, (p.markable root config.markStyle).length < steps →
        (run config.markStyle pattern.spans steps (.start root (avoids config.markStyle))
          p).ending ≠ .unfinished ∧
        (run config.markStyle pattern.spans steps (.start root (avoids config.markStyle))
          p).visited = (p.markable root config.markStyle).length) ∧
    (¬ p.LeavesMarks root config.markStyle pattern.spans →
      ∀ steps, (run config.markStyle pattern.spans steps (.start root (avoids config.markStyle))
          p).ending = .unfinished ∧
        (run config.markStyle pattern.spans steps (.start root (avoids config.markStyle))
          p).visited = steps) := by
  have hfinds := finds_of_compileKeyword hmode hcompiled
  have hle := h.length_markable_le root config.markStyle
  refine ⟨⟨?_, ?_⟩, fun hleaves _ => h.run_of_leavesMarks hchildless hfinds hleaves,
    h.run_of_not_leavesMarks hchildless hfinds⟩
  · intro hbounded
    by_contra hback
    have hvisited := (h.run_of_not_leavesMarks hchildless hfinds hback
      ((p.textsUnder root).length + 1)).2
    have hbound := hbounded ((p.textsUnder root).length + 1)
    omega
  · intro hleaves steps
    by_cases hsteps : (p.markable root config.markStyle).length < steps
    · rw [(h.run_of_leavesMarks hchildless hfinds hleaves hsteps).2]
      exact hle
    · have hvisited := visited_run_le config.markStyle pattern.spans steps
        (.start root (avoids config.markStyle)) p
      omega

/-- A class of two tokens is no harm where the text goes on after its last mark. -/
theorem bounded_iff_leavesMarks_samplePage :
    ∃ pattern, (compileKeyword { markerClass := "a b" } "1").2 = .ok pattern ∧
      samplePage.Bounded 0 ⟨"a b", false⟩ pattern.spans := by
  refine ⟨samplePattern, compileKeyword_samplePattern, ?_⟩
  obtain ⟨hiff, -, -⟩ := @bounded_iff_leavesMarks samplePage consistent_samplePage.toWellFormed
    textsChildless_samplePage 0 { markerClass := "a b" } rfl "1" samplePattern
    compileKeyword_samplePattern
  apply hiff.2
  refine .inr (fun n hn => ?_)
  obtain ⟨y, rfl, htext, -, -, -⟩ := consistent_samplePage.toWellFormed.mem_markable.1 hn
  have hvalue : ∀ y < 2, (samplePage.node y).isText = true →
      (samplePage.node y).unlinked.value = "1!" := by decide
  rintro ⟨s, hs, hstop⟩
  rw [hvalue y (lt_of_isText htext) htext, chosen, spans_samplePattern] at hs
  cases hs
  rw [hvalue y (lt_of_isText htext) htext] at hstop
  exact absurd hstop (by decide)

/-- A page with one text. -/
def offerPage : Page :=
  [.addElement "body", .addText "act now", .append 0 1].foldl perform empty

/-- With a class of two tokens, which a configuration may name, a pass for the whole text of a page
comes to more text nodes than the page has, in fact to as many as it is granted steps. -/
theorem offerPage_unbounded :
    ScanConfig.ofText? "\x7b\"marker_class\": \"a b\"\x7d" = some { markerClass := "a b" } ∧
      offerPage.WellFormed ∧ offerPage.TextsChildless ∧
      ∃ pattern, (compileKeyword { markerClass := "a b" } "act now").2 = .ok pattern ∧
        ¬ offerPage.Bounded 0 ⟨"a b", false⟩ pattern.spans := by
  have hwf : offerPage.WellFormed := wellFormed_edits _
  have hchildless : offerPage.TextsChildless := textsChildless_iff.2 (by decide)
  obtain ⟨source, hcompiled⟩ := @compileKeyword_of_takes { markerClass := "a b" } "act now" rfl
    (Nat.le_refl 500) (by decide)
  refine ⟨by decide +kernel, hwf, hchildless, _, hcompiled, fun hbounded => ?_⟩
  obtain ⟨-, -, hvisited⟩ := run_start_unfinished hwf (by decide)
    (show (offerPage.node 0).children = [1] by decide) (by decide) (by decide)
    ((finds_of_compileKeyword rfl hcompiled).chosen_self ⟨"a b", false⟩ rfl) 2
  have htwice := hbounded 2
  rw [hvisited] at htwice
  have hone : (offerPage.textsUnder 0).length = 1 := by decide
  rw [hone] at htwice
  exact absurd htwice (by decide)

end Page

end PhraseMark
